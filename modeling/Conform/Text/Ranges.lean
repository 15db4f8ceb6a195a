/-
**Ranges of code points.**

A set of characters that a standard lists is kept as closed ranges of code points.  Long lists are
written in hexadecimal, one range or one code point to a word, so that a table reads like the
standard's own.

Main definitions:

* `Text.Ranges`, `Text.inRanges` — a list of ranges and its membership test;
* `Text.hexValue?` — the value of a hexadecimal digit;
* `Text.readRanges` — the ranges that lines of words denote.
-/

set_option relaxedAutoImplicit false
set_option autoImplicit false

namespace Conform

namespace Text

/-- Closed ranges of code points. -/
abbrev Ranges := List (Nat × Nat)

/-- Does a number lie in one of the ranges? -/
def inRanges (ranges : Ranges) (n : Nat) : Bool :=
  ranges.any fun r => r.1 ≤ n && n ≤ r.2

/-- The value of a hexadecimal digit. -/
def hexValue? (c : Char) : Option Nat :=
  if '0' ≤ c ∧ c ≤ '9' then some (c.toNat - 48)
  else if 'a' ≤ c ∧ c ≤ 'f' then some (c.toNat - 87)
  else if 'A' ≤ c ∧ c ≤ 'F' then some (c.toNat - 55)
  else none

/-- The number that hexadecimal digits denote. -/
def hexNumber (digits : List Char) : Nat :=
  digits.foldl (fun n c => 16 * n + (hexValue? c).getD 0) 0

/-- The words of a line: what stands between its spaces. -/
def words : List Char → List (List Char)
  | [] => [[]]
  | c :: rest =>
    if c = ' ' then [] :: words rest
    else match words rest with
      | [] => [[c]]
      | word :: more => (c :: word) :: more

/-- The range of a word: two code points joined by a hyphen, or one code point alone. -/
def readRange (word : List Char) : Nat × Nat :=
  match word.span (· ≠ '-') with
  | (lo, []) => (hexNumber lo, hexNumber lo)
  | (lo, _ :: hi) => (hexNumber lo, hexNumber hi)

/-- The ranges of a table. -/
def readRanges (lines : List String) : Ranges :=
  lines.flatMap fun line => (words line.toList).map readRange

end Text

end Conform
