/-
**Binary64 numbers as bit patterns.**

A number is given by its 64 bits: a sign bit, eleven exponent bits and 52 fraction bits.  All
arithmetic of this library on such numbers is exact integer arithmetic on the decoded bits, so every
result is a value that can be computed and reasoned about.

`Binary64` has two equalities.  Equality of values of the type is equality of bit patterns; `same` is
equality of numbers, under which the two zeros agree and a NaN agrees with nothing.

Main definitions:

* `Binary64.magnitude`, `Binary64.isNegative` — the bits without and of the sign;
* `Binary64.IsFinite` — neither NaN nor infinite;
* `Binary64.significand`, `Binary64.exponent` — a finite number is `± significand * 2 ^ exponent`;
* `Binary64.order` — the magnitude with its sign, in the order of the numbers;
* `Binary64.compare?` — the order of two numbers, undefined where one is a NaN.
-/

set_option relaxedAutoImplicit false
set_option autoImplicit false

namespace Conform

/-- A binary64 number, given by its bits. -/
structure Binary64 where
  /-- sign, exponent and fraction, the sign in the highest bit -/
  bits : UInt64
deriving DecidableEq, Inhabited

namespace Binary64

/-- The value of the sign's place, two to the 63rd. -/
def signBit : Nat := 0x8000000000000000

/-- The value of the lowest exponent's place, two to the 52nd; a normal significand has this bit. -/
def leadingBit : Nat := 0x10000000000000

/-- The magnitude bits of the infinities. -/
def infinityBits : Nat := 0x7FF0000000000000

/-- The bits below the sign bit. -/
def magnitude (x : Binary64) : Nat := x.bits.toNat % signBit

/-- Is the sign bit set? -/
def isNegative (x : Binary64) : Bool := signBit ≤ x.bits.toNat

/-- The number with a sign and magnitude bits. -/
def ofMagnitude (negative : Bool) (magnitude : Nat) : Binary64 :=
  ⟨UInt64.ofNat (if negative then signBit + magnitude else magnitude)⟩

/-- Positive zero. -/
def zero : Binary64 := ⟨0⟩

/-- Infinity with a sign. -/
def infinity (negative : Bool) : Binary64 := ofMagnitude negative infinityBits

/-- A NaN; all NaNs behave alike. -/
def nan : Binary64 := ofMagnitude false 0x7FF8000000000000

/-- Neither NaN nor infinite. -/
def IsFinite (x : Binary64) : Prop := x.magnitude < infinityBits

instance (x : Binary64) : Decidable x.IsFinite := inferInstanceAs (Decidable (_ < _))

/-- Not a number. -/
def IsNaN (x : Binary64) : Prop := infinityBits < x.magnitude

instance (x : Binary64) : Decidable x.IsNaN := inferInstanceAs (Decidable (_ < _))

/-- The integer factor of a finite number; below the normal range the leading bit is not implied. -/
def significand (x : Binary64) : Nat :=
  if x.magnitude < leadingBit then x.magnitude else leadingBit + x.magnitude % leadingBit

/-- The power of two that scales the significand of a finite number. -/
def exponent (x : Binary64) : Int :=
  if x.magnitude < leadingBit then -1074 else (x.magnitude / leadingBit : Nat) - 1075

/-- The magnitude with its sign: on numbers it ascends with the number, and both zeros give zero. -/
def order (x : Binary64) : Int :=
  if x.isNegative then - (x.magnitude : Int) else x.magnitude

/-- The order of two numbers; a NaN has none. -/
def compare? (x y : Binary64) : Option Ordering :=
  if x.IsNaN ∨ y.IsNaN then none else some (compare x.order y.order)

/-- Equality of numbers. -/
def same (x y : Binary64) : Bool := compare? x y = some .eq

end Binary64

end Conform
