/-
**The calendar, day by day.**

A date is a number of days, and its year, month and day are computed from it; the calendar itself says
only which day comes behind which.  The two agree: each triple of year, month and day that names a day
names one date and is read off that date again, and one more in the count is one step in the calendar,
over the ends of months, of years and of leap years.  So a count of days from 1970-01-01 means what it
says, in both directions.

Main definitions:

* `Date.parts` — the year, the month and the day of a date;
* `Calendar.dayBehind` — the step of the calendar from one day to the next;
* `Calendar.LiesDaysFromEpoch` — a day lies a number of days behind 1970-01-01, or before it.

Main results:

* `Date.ofYmd?_eq_some_iff` — **a date is named by its year, month and day, and by nothing else**;
* `Date.parts_succ` — **the count and the calendar go in step**;
* `Date.liesDaysFromEpoch` — a date lies as many days from 1970-01-01 as it counts;
* `Date.supported_iff_year` — the supported dates are those of the years from -262143 to 262142.
-/

import Conform.Proofs.Calendar.Date

set_option relaxedAutoImplicit false
set_option autoImplicit false

namespace Conform

namespace Date

/-! ### The date of a year, a month and a day -/

/-- A day within a month is found as such. -/
theorem monthAndDay_take {lengths : List Nat} : ∀ (month : Nat) {k length n : Nat},
    lengths[k]? = some length → n < length →
      monthAndDay month ((lengths.take k).sum + n) lengths = (month + k, n + 1) := by
  induction lengths with
  | nil => exact fun _ _ _ _ h => nomatch h
  | cons first rest ih =>
      intro month k length n hk hn
      cases k with
      | zero =>
          obtain rfl : first = length := Option.some.inj hk
          rw [List.take_zero, List.sum_nil, Nat.zero_add, monthAndDay, if_pos hn]
          rfl
      | succ k =>
          have hbehind : ¬ first + (rest.take k).sum + n < first := by omega
          have hleft : first + (rest.take k).sum + n - first = (rest.take k).sum + n := by omega
          rw [List.take_succ_cons, List.sum_cons, monthAndDay, if_neg hbehind, hleft,
            ih (month + 1) hk hn, Nat.add_right_comm, Nat.add_assoc]

/-- Only one year holds a day. -/
theorem year_eq {d : Date} {y : Int} (hle : yearStart y ≤ d.day) (hlt : d.day < yearStart (y + 1)) :
    d.year = y := by
  have hle' := d.yearStart_le
  have hlt' := d.lt_yearStart
  rcases lt_trichotomy d.year y with hbefore | heq | hbehind
  · have hmono : yearStart (d.year + 1) ≤ yearStart y := yearStart_mono (by omega)
    omega
  · exact heq
  · have hmono : yearStart (y + 1) ≤ yearStart d.year := yearStart_mono (by omega)
    omega

variable {y : Int} {k length n : Nat}

/-- The date of a day within a month. -/
theorem ofYmd?_succ (hk : (monthLengths (isLeapYear y))[k]? = some length) (hn : n < length) :
    ofYmd? y (k + 1) (n + 1) =
      some ⟨yearStart y + ((monthLengths (isLeapYear y)).take k).sum + n⟩ := by
  have hexists : 1 ≤ k + 1 ∧ 1 ≤ n + 1 ∧
      n + 1 ≤ ((monthLengths (isLeapYear y))[k + 1 - 1]?).getD 0 := by
    rw [Nat.add_sub_cancel, hk, Option.getD_some]
    omega
  simp only [ofYmd?]
  rw [if_pos hexists, Nat.add_sub_cancel, Nat.add_sub_cancel, ← List.sum_eq_foldl]

/-- The days of a year up to a day within a month are fewer than the year has. -/
theorem sum_take_add_lt {lengths : List Nat} (hk : lengths[k]? = some length) (hn : n < length) :
    (lengths.take k).sum + n < lengths.sum := by
  obtain ⟨hlt, rfl⟩ := List.getElem?_eq_some_iff.1 hk
  have hsplit : (lengths.take (k + 1)).sum + (lengths.drop (k + 1)).sum = lengths.sum :=
    List.sum_take_add_sum_drop lengths (k + 1)
  rw [List.sum_take_succ _ _ hlt] at hsplit
  omega

theorem parts_of_day (hk : (monthLengths (isLeapYear y))[k]? = some length) (hn : n < length)
    {d : Date} (hd : d.day = yearStart y + ((monthLengths (isLeapYear y)).take k).sum + n) :
    d.year = y ∧ d.month = k + 1 ∧ d.dayOfMonth = n + 1 := by
  have hwithin := sum_take_add_lt hk hn
  rw [sum_monthLengths] at hwithin
  have hyear : d.year = y := by
    refine year_eq (by omega) ?_
    rw [yearStart_succ]
    split
    · next hleap =>
        rw [if_pos hleap] at hwithin
        omega
    · next hplain =>
        rw [if_neg hplain] at hwithin
        omega
  have hcount : d.dayOfYear = ((monthLengths (isLeapYear y)).take k).sum + n := by
    rw [dayOfYear, hyear]
    omega
  have hfound : d.monthDay = (1 + k, n + 1) := by
    rw [monthDay, hyear, hcount, monthAndDay_take 1 hk hn]
  refine ⟨hyear, ?_, ?_⟩
  · rw [month, hfound]
    exact Nat.add_comm 1 k
  · rw [dayOfMonth, hfound]

/-- **A date is named by its year, month and day, and by nothing else.** -/
theorem ofYmd?_eq_some_iff {month day : Nat} {d : Date} :
    ofYmd? y month day = some d ↔ d.year = y ∧ d.month = month ∧ d.dayOfMonth = day := by
  constructor
  · intro h
    have hexists : 1 ≤ month ∧ 1 ≤ day ∧
        day ≤ ((monthLengths (isLeapYear y))[month - 1]?).getD 0 := by
      by_contra hnone
      simp only [ofYmd?, if_neg hnone] at h
      cases h
    obtain ⟨hmonth, hday, hle⟩ := hexists
    obtain ⟨k, rfl⟩ : ∃ k, month = k + 1 := ⟨month - 1, by omega⟩
    obtain ⟨n, rfl⟩ : ∃ n, day = n + 1 := ⟨day - 1, by omega⟩
    rw [Nat.add_sub_cancel] at hle
    -- a month that the year does not have would have no days
    cases hk : (monthLengths (isLeapYear y))[k]? with
    | none =>
        rw [hk, Option.getD_none] at hle
        omega
    | some length =>
        rw [hk, Option.getD_some] at hle
        rw [ofYmd?_succ hk hle] at h
        obtain rfl := Option.some.inj h
        exact parts_of_day hk hle rfl
  · rintro ⟨rfl, rfl, rfl⟩
    exact d.ofYmd?_parts

/-! ### Step by step -/

/-- The year, the month and the day of a date. -/
def parts (d : Date) : Int × Nat × Nat := (d.year, d.month, d.dayOfMonth)

end Date

namespace Calendar

/-- The day behind a day of the calendar: the next one of the month, the first of the next month, or
the first of the next year. -/
def dayBehind : Int × Nat × Nat → Int × Nat × Nat
  | (year, month, day) =>
    if day < ((monthLengths (isLeapYear year))[month - 1]?).getD 0 then (year, month, day + 1)
    else if month < 12 then (year, month + 1, 1)
    else (year + 1, 1, 1)

/-- A day of the calendar lies `n` steps behind 1970-01-01; if `n` is negative, 1970-01-01 lies so
many steps behind it. -/
def LiesDaysFromEpoch (n : Int) (ymd : Int × Nat × Nat) : Prop :=
  dayBehind^[n.toNat] (1970, 1, 1) = dayBehind^[(-n).toNat] ymd

instance (n : Int) (ymd : Int × Nat × Nat) : Decidable (LiesDaysFromEpoch n ymd) :=
  inferInstanceAs (Decidable (_ = _))

end Calendar

namespace Date

/-- The parts of the date that a year, a month and a day name. -/
theorem parts_of_ofYmd? {y : Int} {month day : Nat} {d : Date}
    (h : ofYmd? y month day = some d) : d.parts = (y, month, day) := by
  obtain ⟨rfl, rfl, rfl⟩ := ofYmd?_eq_some_iff.1 h
  rfl

/-- **The count of days and the calendar go in step.** -/
theorem parts_succ (d : Date) : (Date.mk (d.day + 1)).parts = Calendar.dayBehind d.parts := by
  obtain ⟨k, length, hmonth, hday, hk, hle, hlt⟩ := d.month_dayOfMonth_spec
  have hyear := d.yearStart_le
  have hcount : d.day = yearStart d.year + d.dayOfYear := by
    rw [dayOfYear]
    omega
  have hlength : ((monthLengths (isLeapYear d.year))[d.month - 1]?).getD 0 = length := by
    rw [hmonth, Nat.add_sub_cancel, hk, Option.getD_some]
  obtain ⟨hk', hsucc⟩ := List.getElem?_eq_some_iff.1 hk
  have htwelve : (monthLengths (isLeapYear d.year)).length = 12 := rfl
  -- the days up to the end of the month
  have hsum : ((monthLengths (isLeapYear d.year)).take (k + 1)).sum =
      ((monthLengths (isLeapYear d.year)).take k).sum + length := by
    rw [List.sum_take_succ _ _ hk', hsucc]
  have hbehind : Calendar.dayBehind d.parts =
      if d.dayOfMonth < length then (d.year, d.month, d.dayOfMonth + 1)
      else if d.month < 12 then (d.year, d.month + 1, 1) else (d.year + 1, 1, 1) := by
    rw [← hlength]
    rfl
  rw [hbehind]
  by_cases hwithin : d.dayOfMonth < length
  · rw [if_pos hwithin]
    refine parts_of_ofYmd? ?_
    rw [hmonth, ofYmd?_succ hk hwithin]
    refine congrArg some (congrArg Date.mk ?_)
    omega
  rw [if_neg hwithin]
  by_cases hmore : d.month < 12
  · -- no month is empty, so the next one has a first day
    have hnext : k + 1 < (monthLengths (isLeapYear d.year)).length := by omega
    have hnonempty : ∀ leap, ∀ n ∈ monthLengths leap, 0 < n := by decide
    rw [if_pos hmore]
    refine parts_of_ofYmd? ?_
    rw [hmonth, ofYmd?_succ (List.getElem?_eq_getElem hnext)
      (hnonempty _ _ (List.getElem_mem hnext)), hsum]
    refine congrArg some (congrArg Date.mk ?_)
    omega
  · -- the months up to this one are the whole year
    have hwhole : ((monthLengths (isLeapYear d.year)).take (k + 1)).sum =
        (monthLengths (isLeapYear d.year)).sum := by
      rw [List.take_of_length_le (by omega)]
    have hfirst : (monthLengths (isLeapYear (d.year + 1)))[0]? = some 31 := rfl
    rw [if_neg hmore]
    refine parts_of_ofYmd? ?_
    rw [ofYmd?_succ hfirst (by omega), yearStart_succ, ← sum_monthLengths, ← hwhole, hsum]
    refine congrArg some (congrArg Date.mk ?_)
    simp only [List.take_zero, List.sum_nil]
    omega

theorem parts_add (d : Date) (n : Nat) :
    (Date.mk (d.day + n)).parts = Calendar.dayBehind^[n] d.parts := by
  induction n with
  | zero => rw [Nat.cast_zero, Int.add_zero, Function.iterate_zero_apply]
  | succ n ih =>
      rw [Function.iterate_succ_apply', ← ih, ← parts_succ, Nat.cast_succ, Int.add_assoc]

/-- The count of days begins at 1970-01-01. -/
theorem parts_zero : (Date.mk 0).parts = (1970, 1, 1) := by decide

/-- **A date lies as many days from 1970-01-01 as it counts.** -/
theorem liesDaysFromEpoch (d : Date) : Calendar.LiesDaysFromEpoch d.day d.parts := by
  unfold Calendar.LiesDaysFromEpoch
  rw [← parts_zero, ← parts_add, ← parts_add]
  refine congrArg (fun day => (Date.mk day).parts) ?_
  show 0 + (d.day.toNat : Int) = d.day + ((-d.day).toNat : Int)
  omega

example : Calendar.LiesDaysFromEpoch (-1) (1969, 12, 31) := by decide

/-! ### Supported dates -/

/-- The supported dates are those of the years from -262143 to 262142. -/
theorem supported_iff_year {d : Date} : d.Supported ↔ -262143 ≤ d.year ∧ d.year ≤ 262142 := by
  have hle := d.yearStart_le
  have hlt := d.lt_yearStart
  constructor
  · rintro ⟨hfirst, hlast⟩
    refine ⟨?_, ?_⟩
    · by_contra hbefore
      have hmono : yearStart (d.year + 1) ≤ yearStart (-262143) := yearStart_mono (by omega)
      have hday : yearStart (-262143) ≤ d.day := hfirst
      omega
    · by_contra hbehind
      have hmono : yearStart 262143 ≤ yearStart d.year := yearStart_mono (by omega)
      have hday : d.day ≤ yearStart 262143 - 1 := hlast
      omega
  · rintro ⟨hfirst, hlast⟩
    have hstart : yearStart (-262143) ≤ yearStart d.year := yearStart_mono hfirst
    have hend : yearStart (d.year + 1) ≤ yearStart 262143 := yearStart_mono (by omega)
    refine ⟨?_, ?_⟩
    · show yearStart (-262143) ≤ d.day
      omega
    · show d.day ≤ yearStart 262143 - 1
      omega

end Date

end Conform
