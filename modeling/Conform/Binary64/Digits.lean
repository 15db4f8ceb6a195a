/-
**The fewest digits that identify a binary64 number, and how they are laid out.**

A finite number stands for an interval of reals: those that round to it.  Its decimal text is the
shortest decimal in that interval and, of the shortest ones, the one nearest to the number.  The
search walks the decimal grids from coarse to fine and tests, on each, the two neighbours of the
number; everything is exact arithmetic on naturals.

The digits are then laid out in one of two ways.  Data interchange writes small and large numbers
with an exponent and always shows a point; messages never show an exponent and write whole numbers
without a point.

Main definitions:

* `Binary64.readsBack` — does a decimal lie in the interval of a number?
* `Binary64.shortest` — the shortest nearest decimal;
* `Decimal.interchange`, `Decimal.plain` — the two layouts;
* `Binary64.interchangeText`, `Binary64.plainText` — the two texts of a number.
-/

import Conform.Binary64.Basic

set_option relaxedAutoImplicit false
set_option autoImplicit false

namespace Conform

/-- The decimal `digits * 10 ^ power`. -/
structure Decimal where
  digits : Nat
  power : Int
deriving DecidableEq

/-- Which of two equally near decimals is taken. -/
inductive Tie where
  | even
  | up
deriving DecidableEq

namespace Decimal

/-- Moves trailing zeros of the digits into the power; `fuel` bounds their number. -/
def strip : Nat → Decimal → Decimal
  | 0, d => d
  | fuel + 1, d =>
    if d.digits ≠ 0 ∧ d.digits % 10 = 0 then strip fuel ⟨d.digits / 10, d.power + 1⟩ else d

/-- Is `a * 10 ^ i` below `n * 2 ^ j`? -/
def belowBinary (a : Nat) (i : Int) (n : Nat) (j : Int) : Bool :=
  a * Nat.pow 10 i.toNat * Nat.pow 2 (-j).toNat < n * Nat.pow 2 j.toNat * Nat.pow 10 (-i).toNat

/-- Is `n * 2 ^ j` below `a * 10 ^ i`? -/
def aboveBinary (a : Nat) (i : Int) (n : Nat) (j : Int) : Bool :=
  n * Nat.pow 2 j.toNat * Nat.pow 10 (-i).toNat < a * Nat.pow 10 i.toNat * Nat.pow 2 (-j).toNat

end Decimal

namespace Binary64

/-- Does the decimal round to the magnitude of `x`?  The interval reaches halfway to each neighbour;
below a power of two the neighbour is half as far away.  The ends belong to it where the significand
is even. -/
def readsBack (x : Binary64) (d : Decimal) : Bool :=
  let m := x.significand
  let narrow := m = leadingBit ∧ -1074 < x.exponent
  let lo := if narrow then 4 * m - 1 else 4 * m - 2
  let hi := 4 * m + 2
  let q := x.exponent - 2
  if m % 2 = 0 then
    !Decimal.belowBinary d.digits d.power lo q && !Decimal.aboveBinary d.digits d.power hi q
  else
    Decimal.aboveBinary d.digits d.power lo q && Decimal.belowBinary d.digits d.power hi q

/-- The least power of ten above the magnitude of `x`. -/
def decimalScale (x : Binary64) : Int :=
  let guess := ((x.significand.log2 : Int) + x.exponent) * 30103 / 100000
  let above (k : Int) := Decimal.aboveBinary 1 k x.significand x.exponent
  if above guess then guess else if above (guess + 1) then guess + 1 else guess + 2

/-- The magnitude of `x` counted in units of `10 ^ power`, rounded down. -/
def unitsBelow (x : Binary64) (power : Int) : Nat :=
  x.significand * Nat.pow 2 x.exponent.toNat * Nat.pow 10 (-power).toNat
    / (Nat.pow 2 (-x.exponent).toNat * Nat.pow 10 power.toNat)

/-- The decimal nearest to `x` among those of the grid `10 ^ power` that round to `x`. -/
def onGrid? (tie : Tie) (x : Binary64) (power : Int) : Option Decimal :=
  let n := unitsBelow x power
  let low : Decimal := ⟨n, power⟩
  let high : Decimal := ⟨n + 1, power⟩
  let middle := 10 * n + 5
  match readsBack x low && n ≠ 0, readsBack x high with
  | true, true =>
    if Decimal.belowBinary middle (power - 1) x.significand x.exponent then some high
    else if Decimal.aboveBinary middle (power - 1) x.significand x.exponent then some low
    else match tie with
      | .up => some high
      | .even => if n % 2 = 0 then some low else some high
  | true, false => some low
  | false, true => some high
  | false, false => none

/-- The magnitude of a finite number as the shortest decimal that rounds to it, the nearest of those
of that length.  Seventeen digits are enough; the exact value stands behind the search. -/
def shortest (tie : Tie) (x : Binary64) : Decimal :=
  if x.significand = 0 then ⟨0, 0⟩
  else
    let scale := decimalScale x
    let found := ((List.range 17).findSome? fun i => onGrid? tie x (scale - (i + 1 : Nat)))
    let exact : Decimal :=
      ⟨x.significand * Nat.pow 2 x.exponent.toNat * Nat.pow 5 (-x.exponent).toNat,
        -((-x.exponent).toNat : Int)⟩
    Decimal.strip 400 (found.getD exact)

end Binary64

/-! ### Layout -/

namespace Decimal

/-- The decimal digits of a natural. -/
def digitChars (n : Nat) : List Char := Nat.toDigits 10 n

/-- The digits without an exponent: the point stands behind, inside or before them. -/
def positional (d : Decimal) (wholeMark : List Char) : List Char :=
  let cs := digitChars d.digits
  if 0 ≤ d.power then cs ++ List.replicate d.power.toNat '0' ++ wholeMark
  else
    let places := (-d.power).toNat
    if places < cs.length then
      cs.take (cs.length - places) ++ '.' :: cs.drop (cs.length - places)
    else '0' :: '.' :: (List.replicate (places - cs.length) '0' ++ cs)

/-- One digit before the point, and the exponent; `plus` stands before one that is not negative. -/
def scientific (d : Decimal) (plus : List Char) : List Char :=
  let cs := digitChars d.digits
  let lead : Int := d.power + cs.length - 1
  let mantissa := match cs with
    | [] => []
    | [c] => [c]
    | c :: rest => c :: '.' :: rest
  mantissa ++ 'e' :: ((if lead < 0 then ['-'] else plus) ++ digitChars lead.natAbs)

/-- The interchange layout: positional with at least one decimal from `10 ^ -5` up to below
`10 ^ 16`, otherwise scientific. -/
def interchange (d : Decimal) : List Char :=
  let lead : Int := d.power + (digitChars d.digits).length - 1
  if d.digits = 0 ∨ (-5 ≤ lead ∧ lead < 16) then positional d ['.', '0']
  else scientific d ['+']

/-- The layout of outlines: positional with at least one decimal from `10 ^ -4` up to below
`10 ^ 16`, otherwise scientific without a plus sign. -/
def outline (d : Decimal) : List Char :=
  let lead : Int := d.power + (digitChars d.digits).length - 1
  if d.digits = 0 ∨ (-4 ≤ lead ∧ lead < 16) then positional d ['.', '0'] else scientific d []

/-- The layout of messages: never an exponent, and no point behind a whole number. -/
def plain (d : Decimal) : List Char := positional d []

end Decimal

namespace Binary64

/-- The interchange text of a finite number.  Of two equally near decimals the even one is taken. -/
def interchangeText (x : Binary64) : List Char :=
  (if x.isNegative then ['-'] else []) ++ (x.shortest .even).interchange

/-- The text of a number in outlines. -/
def outlineText (x : Binary64) : List Char :=
  if x.IsNaN then ['N', 'a', 'N']
  else (if x.isNegative then ['-'] else [])
    ++ if x.IsFinite then (x.shortest .up).outline else ['i', 'n', 'f']

/-- The text of a number in messages.  Of two equally near decimals the larger one is taken. -/
def plainText (x : Binary64) : List Char :=
  if x.IsNaN then ['N', 'a', 'N']
  else (if x.isNegative then ['-'] else [])
    ++ if x.IsFinite then (x.shortest .up).plain else ['i', 'n', 'f']

end Binary64

end Conform
