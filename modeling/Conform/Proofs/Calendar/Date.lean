/-
**Days and dates.**

A date is kept as a number of days; its year, month and day are computed from it.  The year is guessed
from the mean length of years and corrected by one at most, and the month is found by taking off the
lengths of the months before it.  Put together again, the three parts are the date they came from.

Main results:

* `Date.yearStart_le`, `Date.lt_yearStart` — a date lies within its year;
* `yearStart_succ` — the length of a year;
* `Date.ofYmd?_parts` — **a date is that of its year, month and day**;
* `Date.natAbs_year_le` — the years of supported dates.
-/

import Conform.Calendar.Date
import Mathlib

set_option relaxedAutoImplicit false
set_option autoImplicit false

namespace Conform

/-! ### Years -/

/-- A year has 365 days, and a leap year one more. -/
theorem yearStart_succ (year : Int) :
    yearStart (year + 1) = yearStart year + (if isLeapYear year then 366 else 365 : Nat) := by
  unfold yearStart isLeapYear
  by_cases h4 : year % 4 = 0
  · by_cases h100 : year % 100 = 0
    · by_cases h400 : year % 400 = 0
      · simp [h4, h400]
        omega
      · simp [h4, h100, h400]
        omega
    · simp [h4, h100]
      omega
  · simp [h4]
    omega

/-- Later years start later. -/
theorem yearStart_mono {a b : Int} (h : a ≤ b) : yearStart a ≤ yearStart b := by
  unfold yearStart
  omega

namespace Date

variable (d : Date)

/-- The guess of a year is off by one at most. -/
theorem near_guess : yearStart (400 * (d.day + 719528) / 146097 - 1) ≤ d.day ∧
    d.day < yearStart (400 * (d.day + 719528) / 146097 + 2) := by
  -- 400 years have 146097 days, and the year 0 starts 719528 days before day 0
  unfold yearStart
  omega

/-- A date does not lie before its year. -/
theorem yearStart_le : yearStart d.year ≤ d.day := by
  obtain ⟨hbefore, -⟩ := d.near_guess
  simp only [year]
  split
  · exact hbefore
  · split
    · assumption
    · omega

/-- A date does not lie behind its year. -/
theorem lt_yearStart : d.day < yearStart (d.year + 1) := by
  obtain ⟨-, hbehind⟩ := d.near_guess
  simp only [year]
  split
  · rwa [Int.sub_add_cancel]
  · split
    · rwa [Int.add_assoc]
    · omega

/-! ### Months -/

/-- The month found is among those left, the day within it, and both lead back to the day sought. -/
theorem monthAndDay_spec {lengths : List Nat} : ∀ (month : Nat) {n : Nat}, n < lengths.sum →
    ∃ k length, monthAndDay month n lengths = (month + k, n - (lengths.take k).sum + 1) ∧
      lengths[k]? = some length ∧ (lengths.take k).sum ≤ n ∧ n < (lengths.take k).sum + length := by
  induction lengths with
  | nil => exact fun _ _ h => absurd h (Nat.not_lt_zero _)
  | cons length rest ih =>
      intro month n hn
      rw [monthAndDay]
      split
      · next hlt => exact ⟨0, length, rfl, rfl, Nat.zero_le _, by simpa using hlt⟩
      · next hge =>
          rw [List.sum_cons] at hn
          have hrest : n - length < rest.sum := by omega
          obtain ⟨k, found, heq, hk, hle, hlt⟩ := ih (month + 1) hrest
          refine ⟨k + 1, found, ?_, hk, ?_, ?_⟩
          · rw [heq, List.take_succ_cons, List.sum_cons]
            refine Prod.ext ?_ ?_
            · show month + 1 + k = month + (k + 1)
              omega
            · show n - length - (rest.take k).sum + 1 = n - (length + (rest.take k).sum) + 1
              omega
          · rw [List.take_succ_cons, List.sum_cons]
            omega
          · rw [List.take_succ_cons, List.sum_cons]
            omega

theorem sum_monthLengths (leap : Bool) :
    (monthLengths leap).sum = if leap then 366 else 365 := by
  cases leap <;> rfl

/-- The days of its year before a date are fewer than the year has. -/
theorem dayOfYear_lt : d.dayOfYear < (monthLengths (isLeapYear d.year)).sum := by
  have hle := d.yearStart_le
  have hlt := d.lt_yearStart
  rw [yearStart_succ] at hlt
  rw [sum_monthLengths, dayOfYear]
  split
  · next h =>
      rw [if_pos h] at hlt
      omega
  · next h =>
      rw [if_neg h] at hlt
      omega

/-- The month and the day of a date are those of its day within the year. -/
theorem month_dayOfMonth_spec : ∃ k length, d.month = k + 1 ∧
    d.dayOfMonth = d.dayOfYear - ((monthLengths (isLeapYear d.year)).take k).sum + 1 ∧
    (monthLengths (isLeapYear d.year))[k]? = some length ∧
    ((monthLengths (isLeapYear d.year)).take k).sum ≤ d.dayOfYear ∧
    d.dayOfYear < ((monthLengths (isLeapYear d.year)).take k).sum + length := by
  obtain ⟨k, length, heq, hk, hle, hlt⟩ := monthAndDay_spec 1 d.dayOfYear_lt
  refine ⟨k, length, ?_, ?_, hk, hle, hlt⟩
  · rw [month, monthDay, heq]
    omega
  · rw [dayOfMonth, monthDay, heq]

/-- **A date is that of its year, month and day.** -/
theorem ofYmd?_parts : ofYmd? d.year d.month d.dayOfMonth = some d := by
  obtain ⟨k, length, hmonth, hday, hk, hle, hlt⟩ := d.month_dayOfMonth_spec
  have hyear := d.yearStart_le
  have hcount : d.day = yearStart d.year + d.dayOfYear := by
    rw [dayOfYear]
    omega
  have hsum : (((monthLengths (isLeapYear d.year)).take k).foldl (· + ·) 0) =
      ((monthLengths (isLeapYear d.year)).take k).sum := List.sum_eq_foldl.symm
  -- it is one of the days that the month has
  have hexists : 1 ≤ d.month ∧ 1 ≤ d.dayOfMonth ∧
      d.dayOfMonth ≤ ((monthLengths (isLeapYear d.year))[d.month - 1]?).getD 0 := by
    rw [hmonth, hday, Nat.add_sub_cancel, hk, Option.getD_some]
    omega
  simp only [ofYmd?]
  rw [if_pos hexists, hmonth, Nat.add_sub_cancel, hsum, hday]
  refine congrArg some (congrArg Date.mk ?_)
  omega

/-- The month of a date is one of twelve. -/
theorem month_bounds : 1 ≤ d.month ∧ d.month ≤ 12 := by
  obtain ⟨k, length, hmonth, -, hk, -⟩ := d.month_dayOfMonth_spec
  obtain ⟨hlt, -⟩ := List.getElem?_eq_some_iff.1 hk
  have hlength : (monthLengths (isLeapYear d.year)).length = 12 := rfl
  omega

/-- No month has more than 31 days. -/
theorem dayOfMonth_bounds : 1 ≤ d.dayOfMonth ∧ d.dayOfMonth ≤ 31 := by
  obtain ⟨k, length, -, hday, hk, hle, hlt⟩ := d.month_dayOfMonth_spec
  have hmost : ∀ leap, ∀ n ∈ monthLengths leap, n ≤ 31 := by decide
  have hlength := hmost _ length (List.mem_of_getElem? hk)
  omega

/-- Supported dates have years of six digits at most. -/
theorem natAbs_year_le (h : d.Supported) : d.year.natAbs ≤ 262143 := by
  obtain ⟨hfirst, hlast⟩ := h
  have hle := d.yearStart_le
  have hlt := d.lt_yearStart
  have hnot : ¬ d.year < -262143 := by
    intro hbefore
    have hmono : yearStart (d.year + 1) ≤ yearStart (-262143) := yearStart_mono (by omega)
    have hday : yearStart (-262143) ≤ d.day := hfirst
    omega
  have hnot' : ¬ 262142 < d.year := by
    intro hbehind
    have hmono : yearStart 262143 ≤ yearStart d.year := yearStart_mono (by omega)
    have hday : d.day ≤ yearStart 262143 - 1 := hlast
    omega
  omega

end Date

end Conform
