/-
**Integers as floats.**

The float nearest to an integer is found by scaling the integer to 53 bits and rounding.  An integer
of 64 bits is far from the limit beyond which floats are infinite.

Main results:

* `Binary64.magnitude_ofMagnitude` — the magnitude of a number made of it;
* `Binary64.isFinite_ofInt` — **the float nearest to an integer of 64 bits is finite**.
-/

import Conform.Binary64.Nearest
import Mathlib

set_option relaxedAutoImplicit false
set_option autoImplicit false

namespace Conform

namespace Binary64

/-- The scale of an integer gives it 53 bits before the point, or 54 before it is rounded. -/
theorem scaleOf_one (n : Nat) :
    scaleOf n 1 = n.log2 - 52 ∨ scaleOf n 1 = (n.log2 : Int) - 53 := by
  have hlog : Nat.log2 1 = 0 := by decide
  unfold scaleOf
  simp only [hlog]
  split
  · right
    omega
  · left
    omega

/-- Rounding adds one at most. -/
theorem divHalfEven_le (num den : Nat) : divHalfEven num den ≤ num / den + 1 := by
  unfold divHalfEven
  simp only
  split
  · omega
  · split
    · omega
    · split
      · omega
      · omega

/-- An integer of 64 bits rounded to 53 bits has 54 bits at most. -/
theorem divHalfEven_scaleOf_lt (n : Nat) :
    divHalfEven (n * 2 ^ (-scaleOf n 1).toNat) (1 * 2 ^ (scaleOf n 1).toNat) < 2 ^ 54 + 1 := by
  have hself : n < 2 ^ (n.log2 + 1) := Nat.lt_log2_self
  have hscale := scaleOf_one n
  generalize scaleOf n 1 = scale at hscale ⊢
  have hquotient : n * 2 ^ (-scale).toNat / (1 * 2 ^ scale.toNat) < 2 ^ 54 := by
    rw [Nat.one_mul, Nat.div_lt_iff_lt_mul (Nat.pow_pos (by omega))]
    calc n * 2 ^ (-scale).toNat
        < 2 ^ (n.log2 + 1) * 2 ^ (-scale).toNat :=
          Nat.mul_lt_mul_of_pos_right hself (Nat.pow_pos (by omega))
      _ = 2 ^ (n.log2 + 1 + (-scale).toNat) := (Nat.pow_add ..).symm
      _ ≤ 2 ^ (54 + scale.toNat) := Nat.pow_le_pow_right (by omega) (by omega)
      _ = 2 ^ 54 * 2 ^ scale.toNat := Nat.pow_add ..
  exact Nat.lt_of_le_of_lt (divHalfEven_le _ _) (Nat.succ_lt_succ hquotient)

theorem nearestMagnitude_one_lt {n : Nat} (h : n < 2 ^ 64) :
    nearestMagnitude n 1 < infinityBits := by
  unfold nearestMagnitude
  split
  · decide
  · next hne =>
      have hlog : n.log2 < 64 := (Nat.log2_lt hne).2 h
      have hscale := scaleOf_one n
      have hround := divHalfEven_scaleOf_lt n
      refine Nat.lt_of_le_of_lt (Nat.min_le_left _ _) ?_
      simp only [Nat.pow_eq]
      generalize divHalfEven _ _ = quotient at hround ⊢
      generalize scaleOf n 1 = scale at hscale ⊢
      unfold leadingBit infinityBits
      omega

theorem magnitude_ofMagnitude (negative : Bool) {magnitude : Nat} (h : magnitude < infinityBits) :
    (ofMagnitude negative magnitude).magnitude = magnitude := by
  unfold infinityBits at h
  unfold ofMagnitude Binary64.magnitude signBit
  simp only [UInt64.toNat_ofNat']
  cases negative with
  | false =>
      rw [if_neg Bool.false_ne_true]
      omega
  | true =>
      rw [if_pos rfl]
      omega

/-- **The float nearest to an integer of 64 bits is finite.** -/
theorem isFinite_ofInt {n : Int} (h : n.natAbs < 2 ^ 64) : (ofInt n).IsFinite := by
  have hlt := nearestMagnitude_one_lt h
  unfold ofInt nearest IsFinite
  rw [magnitude_ofMagnitude _ hlt]
  exact hlt

end Binary64

end Conform
