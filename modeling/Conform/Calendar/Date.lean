/-
**Calendar dates.**

A date is a day of the proleptic Gregorian calendar, counted from 1970-01-01, so the order of dates
is the order of integers.  Year, month and day are a view: `Date.year`, `Date.month`, `Date.dayOfMonth`
read them off, and `Date.ofYmd?` finds the day they name.

The dates from -262143-01-01 to 262142-12-31 are *supported*: texts outside them are refused.

Main definitions:

* `yearStart` — the day on which a year begins;
* `Date.ofYmd?` — the date of a year, month and day, if there is one;
* `Date.year`, `Date.month`, `Date.dayOfMonth` — the view of a date;
* `Date.Supported` — the dates that texts may name.
-/

set_option relaxedAutoImplicit false
set_option autoImplicit false

namespace Conform

/-! ### Years and months -/

/-- Has the year a 29th of February? -/
def isLeapYear (year : Int) : Bool := year % 4 = 0 && (year % 100 ≠ 0 || year % 400 = 0)

/-- The first day of a year, counted from 1970-01-01. -/
def yearStart (year : Int) : Int :=
  365 * year + (year + 3) / 4 - (year + 99) / 100 + (year + 399) / 400 - 719528

/-- The lengths of the months of a year. -/
def monthLengths (leap : Bool) : List Nat :=
  [31, if leap then 29 else 28, 31, 30, 31, 30, 31, 31, 30, 31, 30, 31]

/-- The month that holds the `n`-th day behind the first of month `month`, and the day within it,
both counted from 1, where `lengths` are the lengths from that month on. -/
def monthAndDay (month : Nat) (n : Nat) : List Nat → Nat × Nat
  | [] => (month, n + 1)
  | length :: rest => if n < length then (month, n + 1) else monthAndDay (month + 1) (n - length) rest

/-! ### Dates -/

/-- A calendar date, by its distance in days from 1970-01-01. -/
structure Date where
  day : Int
deriving DecidableEq, Inhabited

namespace Date

/-- The date of a year, a month and a day of the month, all counted from 1. -/
def ofYmd? (year : Int) (month day : Nat) : Option Date :=
  let lengths := monthLengths (isLeapYear year)
  if 1 ≤ month ∧ 1 ≤ day ∧ day ≤ (lengths[month - 1]?).getD 0 then
    let before : Nat := (lengths.take (month - 1)).foldl (· + ·) 0
    some ⟨yearStart year + before + (day - 1 : Nat)⟩
  else none

/-- The year of a date.  The mean length of a year gives a guess that is off by one at most. -/
def year (d : Date) : Int :=
  let guess := 400 * (d.day + 719528) / 146097
  if d.day < yearStart guess then guess - 1
  else if yearStart (guess + 1) ≤ d.day then guess + 1
  else guess

/-- The days of the year before a date. -/
def dayOfYear (d : Date) : Nat := (d.day - yearStart d.year).toNat

/-- The month of a date and the day of the month, both counted from 1. -/
def monthDay (d : Date) : Nat × Nat := monthAndDay 1 d.dayOfYear (monthLengths (isLeapYear d.year))

/-- The month of a date, counted from 1. -/
def month (d : Date) : Nat := d.monthDay.1

/-- The day of the month of a date, counted from 1. -/
def dayOfMonth (d : Date) : Nat := d.monthDay.2

/-- The first supported date, -262143-01-01. -/
def first : Date := ⟨yearStart (-262143)⟩

/-- The last supported date, 262142-12-31. -/
def last : Date := ⟨yearStart 262143 - 1⟩

/-- The dates from `first` to `last`. -/
def Supported (d : Date) : Prop := first.day ≤ d.day ∧ d.day ≤ last.day

instance (d : Date) : Decidable d.Supported := inferInstanceAs (Decidable (_ ∧ _))

/-- Dates are ordered by their day. -/
def compare (a b : Date) : Ordering := Ord.compare a.day b.day

end Date

end Conform
