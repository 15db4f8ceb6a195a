/-
**The text of dates and times.**

A date is `YYYY-MM-DD`; a year outside 0 to 9999 has a sign and at least four digits.  A time adds
`THH:MM:SS.ffffff` in local time, cut to microseconds, and the offset: `Z` for none, otherwise
`±HH:MM`, rounded to the nearest minute.  A leap second is written as second 60.

Main definitions:

* `Date.text` — the text of a date;
* `DateTime.text` — the text of an instant with its offset.
-/

import Conform.Calendar.DateTime

set_option relaxedAutoImplicit false
set_option autoImplicit false

namespace Conform

/-- The decimal digits of a natural, padded on the left with zeros to a width. -/
def paddedDigits (width n : Nat) : List Char :=
  let cs := Nat.toDigits 10 n
  List.replicate (width - cs.length) '0' ++ cs

/-- The text of a year. -/
def yearChars (year : Int) : List Char :=
  if 0 ≤ year ∧ year ≤ 9999 then paddedDigits 4 year.natAbs
  else (if year < 0 then '-' else '+') :: paddedDigits 4 year.natAbs

namespace Date

/-- The characters of a date. -/
def chars (d : Date) : List Char :=
  yearChars d.year ++ '-' :: (paddedDigits 2 d.month ++ '-' :: paddedDigits 2 d.dayOfMonth)

/-- The text of a date. -/
def text (d : Date) : String := String.ofList d.chars

end Date

namespace DateTime

/-- The characters of an offset in seconds. -/
def offsetChars (offset : Int) : List Char :=
  if offset = 0 then ['Z']
  else
    let minutes := (offset.natAbs + 30) / 60
    (if offset < 0 then '-' else '+')
      :: (paddedDigits 2 (minutes / 60) ++ ':' :: paddedDigits 2 (minutes % 60))

/-- The characters of an instant. -/
def chars (t : DateTime) : List Char :=
  let leap := 1000000000 ≤ t.nanos
  let second := t.localSecond % 60 + if leap then 1 else 0
  let nanos := if leap then t.nanos - 1000000000 else t.nanos
  t.localDate.chars ++ 'T' :: (paddedDigits 2 (t.localSecond / 3600)
    ++ ':' :: (paddedDigits 2 (t.localSecond / 60 % 60)
    ++ ':' :: (paddedDigits 2 second
    ++ '.' :: (paddedDigits 6 (nanos / 1000) ++ offsetChars t.offset))))

/-- The text of an instant. -/
def text (t : DateTime) : String := String.ofList t.chars

end DateTime

end Conform
