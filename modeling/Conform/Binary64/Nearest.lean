/-
**The nearest binary64 number.**

Every operation that has to round computes its exact result as a quotient of naturals first and
rounds once: to the nearest number, a tie to the one with the even significand.  One function does
the rounding, and reading decimals, converting integers and scaling by a constant are all instances
of it.

Main definitions:

* `divHalfEven`, `divHalfUp` — a quotient rounded to the nearest natural;
* `Binary64.nearest` — the number nearest to a quotient;
* `Binary64.ofInt`, `Binary64.ofScientific` — the numbers nearest to an integer and to a decimal;
* `Binary64.millionfold?` — the integer nearest to the rounded product with a million.
-/

import Conform.Binary64.Basic

set_option relaxedAutoImplicit false
set_option autoImplicit false

namespace Conform

/-- `num / den` rounded to the nearest natural, a tie to the even one. -/
def divHalfEven (num den : Nat) : Nat :=
  let q := num / den
  let r := num % den
  if 2 * r < den then q
  else if den < 2 * r then q + 1
  else if q % 2 = 0 then q else q + 1

/-- `num / den` rounded to the nearest natural, a tie upwards. -/
def divHalfUp (num den : Nat) : Nat := (2 * num + den) / (2 * den)

namespace Binary64

/-- The scale at which `num / den` has 53 bits before the point, or the smallest scale there is. -/
def scaleOf (num den : Nat) : Int :=
  let guess : Int := (num.log2 : Int) - den.log2 - 52
  let short := num * Nat.pow 2 (-(guess + 52)).toNat < den * Nat.pow 2 (guess + 52).toNat
  max (if short then guess - 1 else guess) (-1074)

/-- The magnitude bits of the number nearest to `num / den`.  A quotient that is rounded up to the
next power of two carries into the exponent, and what is too large is infinite. -/
def nearestMagnitude (num den : Nat) : Nat :=
  if num = 0 then 0
  else
    let scale := scaleOf num den
    let quotient := divHalfEven (num * Nat.pow 2 (-scale).toNat) (den * Nat.pow 2 scale.toNat)
    min ((scale + 1074).toNat * leadingBit + quotient) infinityBits

/-- The number nearest to `num / den`, with a sign. -/
def nearest (negative : Bool) (num den : Nat) : Binary64 :=
  ofMagnitude negative (nearestMagnitude num den)

/-- The number nearest to an integer. -/
def ofInt (n : Int) : Binary64 := nearest (n < 0) n.natAbs 1

/-- The number nearest to `digits * 10 ^ power`.  Powers far outside the range of the format are
settled without computing them. -/
def ofScientific (negative : Bool) (digits : Nat) (power : Int) : Binary64 :=
  if digits = 0 then ofMagnitude negative 0
  else if 400 < power then infinity negative
  else if power < -400 - (digits.log2 : Int) then ofMagnitude negative 0
  else nearest negative (digits * Nat.pow 10 power.toNat) (Nat.pow 10 (-power).toNat)

/-- The integer nearest to a finite number, a tie away from zero. -/
def round (x : Binary64) : Int :=
  let n := divHalfUp (x.significand * Nat.pow 2 x.exponent.toNat) (Nat.pow 2 (-x.exponent).toNat)
  if x.isNegative then - (n : Int) else n

/-- The product of a finite number with a million, rounded to a number and then to an integer.
There is none where the product is not below `2 ^ 63` in magnitude. -/
def millionfold? (x : Binary64) : Option Int :=
  if x.IsFinite then
    let product := nearest x.isNegative (x.significand * 1000000 * Nat.pow 2 x.exponent.toNat)
      (Nat.pow 2 (-x.exponent).toNat)
    if product.IsFinite ∧ product.round.natAbs < 0x8000000000000000 then some product.round else none
  else none

end Binary64

end Conform
