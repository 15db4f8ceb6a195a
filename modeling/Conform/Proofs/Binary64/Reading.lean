/-
**The decimal of a number is read as this number.**

A finite number that is not zero stands for an interval of rationals, those that round to it.  Two
searches meet in that interval.  The writer looks for a short decimal in it, and stops at the exact
value, which lies in it too.  The reader scales a decimal to 53 bits and rounds once; whatever lies in
the interval is scaled and rounded to the same significand, also just below a power of two, where it is
scaled by half as much and rounded up to the next power.

All of this is said of the *value* of a decimal, as a rational.  So it does not matter how the digits of
a decimal are laid out.

Main definitions:

* `Decimal.value` — the rational that a decimal is;
* `NearestEven` — a natural nearest to a rational, the even one midway;
* `Binary64.Rounds` — the rationals that round to a number;
* `Binary64.Reads` — those, and zero where the number is zero.

Main results:

* `Binary64.scaleOf_eq_log` — the scale of a quotient is its binary logarithm, less 52;
* `Binary64.nearestMagnitude_of_rounds` — **what rounds to a number is nearest to it**;
* `Binary64.reads_shortest` — the shortest decimal of a number has a value that reads as the number;
* `Binary64.ofScientific_of_reads` — **any decimal of such a value is read as the number**.
-/

import Conform.Binary64.Digits
import Conform.Proofs.Binary64.Nearest

set_option relaxedAutoImplicit false
set_option autoImplicit false

namespace Conform

/-! ### Powers of two and ten -/

/-- A power as a quotient of powers with natural exponents, one of which is zero. -/
theorem zpow_eq_div {b : ℚ} (hb : b ≠ 0) (i : ℤ) : b ^ i = b ^ i.toNat / b ^ (-i).toNat := by
  rw [← zpow_natCast, ← zpow_natCast, ← zpow_sub₀ hb]
  congr 1
  omega

namespace Decimal

/-- The rational that a decimal is. -/
def value (d : Decimal) : ℚ := d.digits * 10 ^ d.power

theorem belowBinary_iff {a : ℕ} {i : ℤ} {n : ℕ} {j : ℤ} :
    belowBinary a i n j = true ↔ (a : ℚ) * 10 ^ i < n * 2 ^ j := by
  rw [belowBinary, decide_eq_true_iff, zpow_eq_div (by norm_num : (10 : ℚ) ≠ 0),
    zpow_eq_div (by norm_num : (2 : ℚ) ≠ 0), ← mul_div_assoc, ← mul_div_assoc,
    div_lt_div_iff₀ (by positivity) (by positivity)]
  simp only [Nat.pow_eq]
  rw [← Nat.cast_lt (α := ℚ)]
  push_cast
  rfl

theorem aboveBinary_iff {a : ℕ} {i : ℤ} {n : ℕ} {j : ℤ} :
    aboveBinary a i n j = true ↔ (n : ℚ) * 2 ^ j < a * 10 ^ i := by
  rw [aboveBinary, decide_eq_true_iff, zpow_eq_div (by norm_num : (10 : ℚ) ≠ 0),
    zpow_eq_div (by norm_num : (2 : ℚ) ≠ 0), ← mul_div_assoc, ← mul_div_assoc,
    div_lt_div_iff₀ (by positivity) (by positivity)]
  simp only [Nat.pow_eq]
  rw [← Nat.cast_lt (α := ℚ)]
  push_cast
  rfl

/-- To move zeros into the power keeps the value. -/
theorem value_strip (fuel : ℕ) : ∀ d : Decimal, (strip fuel d).value = d.value := by
  induction fuel with
  | zero => exact fun d => rfl
  | succ fuel ih =>
      intro d
      rw [strip]
      split
      · next h =>
          obtain ⟨-, hten⟩ := h
          have hdigits : (d.digits : ℚ) = (d.digits / 10 : ℕ) * 10 := by
            have hmul : d.digits = d.digits / 10 * 10 := by omega
            exact_mod_cast hmul
          rw [ih, value, value, hdigits, zpow_add₀ (by norm_num), zpow_one]
          ring
      · rfl

end Decimal

/-! ### Rounding a quotient -/

/-- The natural is nearest to the rational; if the rational is midway between two, it is even. -/
def NearestEven (w : ℚ) (q : ℕ) : Prop :=
  (q : ℚ) - 1 / 2 ≤ w ∧ w ≤ q + 1 / 2 ∧ (q % 2 = 1 → (q : ℚ) - 1 / 2 < w ∧ w < q + 1 / 2)

theorem divHalfEven_of_nearestEven {num den q : ℕ} (hden : 0 < den)
    (h : NearestEven ((num : ℚ) / den) q) : divHalfEven num den = q := by
  obtain ⟨hlow, hhigh, hodd⟩ := h
  have hpos : (0 : ℚ) < den := by exact_mod_cast hden
  -- the bounds, multiplied out
  have hlow' : 2 * q * den ≤ 2 * num + den := by
    rw [le_div_iff₀ hpos] at hlow
    have hcast : (2 * q * den : ℚ) ≤ 2 * num + den := by linarith
    exact_mod_cast hcast
  have hhigh' : 2 * num ≤ 2 * q * den + den := by
    rw [div_le_iff₀ hpos] at hhigh
    have hcast : (2 * num : ℚ) ≤ 2 * q * den + den := by linarith
    exact_mod_cast hcast
  have hodd' : q % 2 = 1 → 2 * q * den < 2 * num + den ∧ 2 * num < 2 * q * den + den := by
    intro hq
    obtain ⟨h₁, h₂⟩ := hodd hq
    rw [lt_div_iff₀ hpos] at h₁
    rw [div_lt_iff₀ hpos] at h₂
    have hcast₁ : (2 * q * den : ℚ) < 2 * num + den := by linarith
    have hcast₂ : (2 * num : ℚ) < 2 * q * den + den := by linarith
    exact ⟨by exact_mod_cast hcast₁, by exact_mod_cast hcast₂⟩
  have hsplit := Nat.div_add_mod num den
  have hrest := Nat.mod_lt num hden
  unfold divHalfEven
  simp only
  generalize num / den = k at *
  generalize num % den = r at *
  -- the quotient is rounded down or up
  obtain rfl | rfl : q = k ∨ q = k + 1 := by
    have hup : q < k + 2 := by
      by_contra hge
      have hmul : (k + 2) * den ≤ q * den := Nat.mul_le_mul_right _ (by omega)
      nlinarith
    have hdown : k < q + 1 := by
      by_contra hge
      have hmul : (q + 1) * den ≤ k * den := Nat.mul_le_mul_right _ (by omega)
      nlinarith
    omega
  · have hle : 2 * r ≤ den := by nlinarith
    rw [if_neg (by omega : ¬ den < 2 * r)]
    split
    · rfl
    · split
      · rfl
      · have hstrict := (hodd' (by omega)).2
        have hlt : 2 * r < den := by nlinarith
        omega
  · have hle : den ≤ 2 * r := by nlinarith
    rw [if_neg (by omega : ¬ 2 * r < den)]
    split
    · rfl
    · split
      · have hstrict := (hodd' (by omega)).1
        have hlt : den < 2 * r := by nlinarith
        omega
      · rfl

namespace Binary64

/-! ### Scaling a quotient -/

/-- The binary logarithm of a natural. -/
theorem log2_bounds {n : ℕ} (hn : n ≠ 0) :
    ((2 : ℕ) : ℚ) ^ (n.log2 : ℤ) ≤ n ∧ (n : ℚ) < ((2 : ℕ) : ℚ) ^ ((n.log2 : ℤ) + 1) := by
  have hle : 2 ^ n.log2 ≤ n := Nat.log2_self_le hn
  have hlt : n < 2 ^ (n.log2 + 1) := Nat.lt_log2_self
  constructor
  · rw [zpow_natCast]
    exact_mod_cast hle
  · exact_mod_cast hlt

/-- The scale is the binary logarithm, less 52, but not below the smallest scale. -/
theorem scaleOf_eq_log {num den : ℕ} (hnum : num ≠ 0) (hden : den ≠ 0) :
    scaleOf num den = max (Int.log 2 ((num : ℚ) / den) - 52) (-1074) := by
  have hnum' : (0 : ℚ) < num := by exact_mod_cast Nat.pos_of_ne_zero hnum
  have hden' : (0 : ℚ) < den := by exact_mod_cast Nat.pos_of_ne_zero hden
  have hv : (0 : ℚ) < num / den := div_pos hnum' hden'
  obtain ⟨hn₁, hn₂⟩ := log2_bounds hnum
  obtain ⟨hd₁, hd₂⟩ := log2_bounds hden
  -- the difference of the logarithms is the logarithm of the quotient, or one more
  have hlow : (num.log2 : ℤ) - den.log2 - 1 ≤ Int.log 2 ((num : ℚ) / den) := by
    rw [← Int.zpow_le_iff_le_log (by norm_num) hv, le_div_iff₀ hden']
    calc ((2 : ℕ) : ℚ) ^ ((num.log2 : ℤ) - den.log2 - 1) * den
        ≤ ((2 : ℕ) : ℚ) ^ ((num.log2 : ℤ) - den.log2 - 1) *
            ((2 : ℕ) : ℚ) ^ ((den.log2 : ℤ) + 1) := by gcongr
      _ = ((2 : ℕ) : ℚ) ^ (num.log2 : ℤ) := by
          rw [← zpow_add₀ (by norm_num)]
          congr 1
          ring
      _ ≤ num := hn₁
  have hhigh : Int.log 2 ((num : ℚ) / den) < (num.log2 : ℤ) - den.log2 + 1 := by
    rw [← Int.lt_zpow_iff_log_lt (by norm_num) hv, div_lt_iff₀ hden']
    calc (num : ℚ) < ((2 : ℕ) : ℚ) ^ ((num.log2 : ℤ) + 1) := hn₂
      _ = ((2 : ℕ) : ℚ) ^ ((num.log2 : ℤ) - den.log2 + 1) * ((2 : ℕ) : ℚ) ^ (den.log2 : ℤ) := by
          rw [← zpow_add₀ (by norm_num)]
          congr 1
          ring
      _ ≤ ((2 : ℕ) : ℚ) ^ ((num.log2 : ℤ) - den.log2 + 1) * den := by gcongr
  -- which of the two it is, is what the comparison tells
  have hshort : num * Nat.pow 2 (-((num.log2 : ℤ) - den.log2 - 52 + 52)).toNat <
      den * Nat.pow 2 ((num.log2 : ℤ) - den.log2 - 52 + 52).toNat ↔
        Int.log 2 ((num : ℚ) / den) < (num.log2 : ℤ) - den.log2 := by
    rw [← Int.lt_zpow_iff_log_lt (by norm_num) hv, sub_add_cancel, Nat.cast_ofNat,
      zpow_eq_div (by norm_num : (2 : ℚ) ≠ 0), div_lt_div_iff₀ hden' (by positivity)]
    simp only [Nat.pow_eq]
    rw [← Nat.cast_lt (α := ℚ)]
    push_cast
    rw [mul_comm (den : ℚ)]
  unfold scaleOf
  simp only [hshort]
  split <;> omega

/-- The nearest number from the scale of a quotient and the rounded quotient. -/
theorem nearestMagnitude_eq {num den q : ℕ} {scale : ℤ} (hnum : num ≠ 0) (hden : den ≠ 0)
    (hscale : scaleOf num den = scale) (hq : NearestEven ((num : ℚ) / den / 2 ^ scale) q) :
    nearestMagnitude num den = min ((scale + 1074).toNat * leadingBit + q) infinityBits := by
  have hquotient : ((num * Nat.pow 2 (-scale).toNat : ℕ) : ℚ) / (den * Nat.pow 2 scale.toNat : ℕ) =
      num / den / 2 ^ scale := by
    rw [zpow_eq_div (by norm_num : (2 : ℚ) ≠ 0) scale]
    simp only [Nat.pow_eq]
    push_cast
    field_simp
  have hpos : 0 < den * Nat.pow 2 scale.toNat :=
    Nat.mul_pos (Nat.pos_of_ne_zero hden) (Nat.pow_pos (by norm_num))
  rw [nearestMagnitude, if_neg hnum, hscale]
  simp only
  rw [divHalfEven_of_nearestEven hpos (by rw [hquotient]; exact hq)]

/-! ### The parts of a number -/

theorem significand_eq_zero_iff {x : Binary64} : x.significand = 0 ↔ x.magnitude = 0 := by
  unfold significand leadingBit
  split <;> omega

/-- What the parts of a finite number can be, and how they make up its magnitude. -/
theorem parts_of_isFinite {x : Binary64} (hx : x.IsFinite) :
    x.significand < 2 ^ 53 ∧ -1074 ≤ x.exponent ∧ x.exponent ≤ 971 ∧
      (2 ^ 52 ≤ x.significand ∨ x.exponent = -1074) ∧
      (x.exponent + 1074).toNat * leadingBit + x.significand = x.magnitude := by
  unfold IsFinite infinityBits at hx
  unfold significand exponent leadingBit
  split <;> omega

theorem ofMagnitude_magnitude (x : Binary64) : ofMagnitude x.isNegative x.magnitude = x := by
  have hlt : x.bits.toNat < 2 ^ 64 := x.bits.toNat_lt
  have hbits : (if x.isNegative = true then signBit + x.magnitude else x.magnitude) =
      x.bits.toNat := by
    unfold isNegative magnitude signBit
    simp only [decide_eq_true_eq]
    split <;> omega
  rw [ofMagnitude, hbits, UInt64.ofNat_toNat]

/-! ### What rounds to a number -/

/-- Does a rational round to the magnitude of a number?  Here it is counted in quarters of the unit of
the significand. -/
def Rounds (x : Binary64) (v : ℚ) : Prop :=
  let m := x.significand
  let lo := if m = leadingBit ∧ -1074 < x.exponent then 4 * m - 1 else 4 * m - 2
  let hi := 4 * m + 2
  let unit : ℚ := 2 ^ (x.exponent - 2)
  if m % 2 = 0 then (lo : ℕ) * unit ≤ v ∧ v ≤ (hi : ℕ) * unit
  else (lo : ℕ) * unit < v ∧ v < (hi : ℕ) * unit

theorem readsBack_iff {x : Binary64} {d : Decimal} : x.readsBack d = true ↔ x.Rounds d.value := by
  unfold readsBack Rounds
  simp only
  split <;>
    simp [Decimal.belowBinary_iff, Decimal.aboveBinary_iff, ← Bool.not_eq_true, Decimal.value]

/-- What rounds to a number, in units of the significand: it is nearest to the significand, and not as
far below a power of two as it may be above. -/
theorem Rounds.nearestEven {x : Binary64} {v : ℚ} (h : x.Rounds v) (hm : x.significand ≠ 0) :
    NearestEven (v / 2 ^ x.exponent) x.significand ∧
      (x.significand = leadingBit → -1074 < x.exponent →
        (x.significand : ℚ) - 1 / 4 ≤ v / 2 ^ x.exponent) := by
  have hunit : (0 : ℚ) < 2 ^ x.exponent := by positivity
  have hquarter : (2 : ℚ) ^ (x.exponent - 2) = 2 ^ x.exponent / 4 := by
    rw [zpow_sub₀ (by norm_num)]
    norm_num
  have hlo : ((4 * x.significand - 2 : ℕ) : ℚ) = 4 * x.significand - 2 := by
    rw [Nat.cast_sub (by omega)]
    push_cast
    ring
  have hlo' : ((4 * x.significand - 1 : ℕ) : ℚ) = 4 * x.significand - 1 := by
    rw [Nat.cast_sub (by omega)]
    push_cast
    ring
  have hhi : ((4 * x.significand + 2 : ℕ) : ℚ) = 4 * x.significand + 2 := by
    push_cast
    ring
  unfold Rounds at h
  simp only [hquarter, hhi] at h
  rw [NearestEven, le_div_iff₀ hunit, div_le_iff₀ hunit, lt_div_iff₀ hunit, div_lt_iff₀ hunit,
    le_div_iff₀ hunit]
  generalize (2 : ℚ) ^ x.exponent = unit at *
  by_cases hnarrow : x.significand = leadingBit ∧ -1074 < x.exponent
  · have heven : x.significand % 2 = 0 := by
      rw [hnarrow.1]
      decide
    rw [if_pos hnarrow, if_pos heven, hlo'] at h
    exact ⟨⟨by linarith, by linarith, by omega⟩, fun _ _ => by linarith⟩
  · rw [if_neg hnarrow, hlo] at h
    split at h
    · next heven =>
        exact ⟨⟨by linarith, by linarith, by omega⟩, fun h₁ h₂ => absurd ⟨h₁, h₂⟩ hnarrow⟩
    · refine ⟨⟨by linarith, by linarith, fun _ => ⟨by linarith, by linarith⟩⟩, ?_⟩
      exact fun h₁ h₂ => absurd ⟨h₁, h₂⟩ hnarrow

/-- **What rounds to a number is nearest to it.** -/
theorem nearestMagnitude_of_rounds {x : Binary64} (hx : x.IsFinite) (hm : x.significand ≠ 0)
    {num den : ℕ} (hnum : num ≠ 0) (hden : den ≠ 0) (h : x.Rounds ((num : ℚ) / den)) :
    nearestMagnitude num den = x.magnitude := by
  obtain ⟨hm53, hexp, -, hnormal, hmagnitude⟩ := parts_of_isFinite hx
  obtain ⟨hnear, hnarrow⟩ := h.nearestEven hm
  obtain ⟨hlow, hhigh, -⟩ := id hnear
  have hv : (0 : ℚ) < num / den := div_pos (by exact_mod_cast Nat.pos_of_ne_zero hnum)
    (by exact_mod_cast Nat.pos_of_ne_zero hden)
  have hlog := scaleOf_eq_log hnum hden
  have hbound : x.magnitude < infinityBits := hx
  by_cases hcase : 2 ^ (x.exponent + 52) ≤ (num : ℚ) / den ∨ x.exponent = -1074
  · -- the quotient has as many bits as the significand, so it is scaled by the exponent
    have hscale : scaleOf num den = x.exponent := by
      have hlt : Int.log 2 ((num : ℚ) / den) < x.exponent + 53 := by
        have hm53' : (x.significand : ℚ) + 1 ≤ 2 ^ 53 := by exact_mod_cast hm53
        rw [← Int.lt_zpow_iff_log_lt (by norm_num) hv, Nat.cast_ofNat, zpow_add₀ (by norm_num),
          ← div_lt_iff₀' (by positivity)]
        norm_num at hm53' ⊢
        linarith
      rcases hcase with hge | heq
      · have hle : x.exponent + 52 ≤ Int.log 2 ((num : ℚ) / den) := by
          rw [← Int.zpow_le_iff_le_log (by norm_num) hv]
          exact_mod_cast hge
        omega
      · omega
    rw [nearestMagnitude_eq hnum hden hscale hnear, hmagnitude, Nat.min_eq_left hbound.le]
  · -- the quotient lies just below a power of two, and is rounded up to it
    obtain ⟨hlt, hne⟩ := not_or.1 hcase
    rw [not_le, zpow_add₀ (by norm_num), ← div_lt_iff₀' (by positivity)] at hlt
    norm_num at hlt
    have hlead : x.significand = leadingBit := by
      have hm52 : 2 ^ 52 ≤ x.significand := hnormal.resolve_right hne
      have hcast : (x.significand : ℚ) < 4503599627370497 := by linarith
      have hnat : x.significand < 4503599627370497 := by exact_mod_cast hcast
      unfold leadingBit
      omega
    have hge := hnarrow hlead (by omega)
    have hsignificand : (x.significand : ℚ) = 4503599627370496 := by
      rw [hlead]
      norm_num [leadingBit]
    rw [hsignificand] at hge
    have hscale : scaleOf num den = x.exponent - 1 := by
      have hlt' : Int.log 2 ((num : ℚ) / den) < x.exponent + 52 := by
        rw [← Int.lt_zpow_iff_log_lt (by norm_num) hv, Nat.cast_ofNat, zpow_add₀ (by norm_num),
          ← div_lt_iff₀' (by positivity)]
        norm_num
        exact hlt
      have hle : x.exponent + 51 ≤ Int.log 2 ((num : ℚ) / den) := by
        rw [← Int.zpow_le_iff_le_log (by norm_num) hv, Nat.cast_ofNat, zpow_add₀ (by norm_num),
          ← le_div_iff₀' (by positivity)]
        norm_num
        linarith
      omega
    have hdouble : (num : ℚ) / den / 2 ^ (x.exponent - 1) =
        2 * ((num : ℚ) / den / 2 ^ x.exponent) := by
      rw [zpow_sub₀ (by norm_num)]
      field_simp
    have hnear' : NearestEven ((num : ℚ) / den / 2 ^ (x.exponent - 1)) (2 * leadingBit) := by
      rw [hdouble]
      unfold leadingBit
      refine ⟨?_, ?_, fun hodd => absurd hodd (by norm_num)⟩ <;> push_cast <;> linarith
    rw [nearestMagnitude_eq hnum hden hscale hnear']
    rw [hlead] at hmagnitude
    unfold leadingBit infinityBits at *
    omega

/-! ### Decimals that are read -/

/-- A rational reads as the magnitude of a number: it is zero if the number is, and otherwise it rounds
to the number. -/
def Reads (x : Binary64) (v : ℚ) : Prop := if x.significand = 0 then v = 0 else x.Rounds v

/-- What rounds to a number is not beyond all numbers, neither above nor below. -/
theorem Rounds.between {x : Binary64} {v : ℚ} (hx : x.IsFinite) (hm : x.significand ≠ 0)
    (h : x.Rounds v) : (2 : ℚ) ^ (-1075 : ℤ) ≤ v ∧ v ≤ 2 ^ (1024 : ℤ) := by
  obtain ⟨hm53, hexp, hexp', -⟩ := parts_of_isFinite hx
  obtain ⟨⟨hlow, hhigh, -⟩, -⟩ := h.nearestEven hm
  have hunit : (0 : ℚ) < 2 ^ x.exponent := by positivity
  rw [le_div_iff₀ hunit] at hlow
  rw [div_le_iff₀ hunit] at hhigh
  have hone : (1 : ℚ) ≤ x.significand := by exact_mod_cast Nat.pos_of_ne_zero hm
  have hm53' : (x.significand : ℚ) + 1 ≤ 2 ^ 53 := by exact_mod_cast hm53
  constructor
  · calc (2 : ℚ) ^ (-1075 : ℤ) ≤ 2 ^ (x.exponent - 1) :=
          zpow_le_zpow_right₀ (by norm_num) (by omega)
      _ = 1 / 2 * 2 ^ x.exponent := by
          rw [zpow_sub₀ (by norm_num)]
          ring
      _ ≤ (x.significand - 1 / 2) * 2 ^ x.exponent :=
          mul_le_mul_of_nonneg_right (by linarith) hunit.le
      _ ≤ v := hlow
  · calc v ≤ (x.significand + 1 / 2) * 2 ^ x.exponent := hhigh
      _ ≤ 2 ^ (53 : ℤ) * 2 ^ x.exponent :=
          mul_le_mul_of_nonneg_right (by norm_num at hm53' ⊢; linarith) hunit.le
      _ = 2 ^ (53 + x.exponent) := (zpow_add₀ (by norm_num) _ _).symm
      _ ≤ 2 ^ (1024 : ℤ) := zpow_le_zpow_right₀ (by norm_num) (by omega)

/-- A power of ten is above every power of two with less than three times its exponent. -/
theorem two_pow_lt_ten_pow {a b : ℕ} (h : a < 3 * b) : (2 : ℚ) ^ a < 10 ^ b := by
  calc (2 : ℚ) ^ a < 2 ^ (3 * b) := pow_lt_pow_right₀ (by norm_num) h
    _ = 8 ^ b := by
        rw [pow_mul]
        norm_num
    _ ≤ 10 ^ b := pow_le_pow_left₀ (by norm_num) (by norm_num) b

/-- A decimal between the least and the greatest numbers has a power within the limits of the reader. -/
theorem power_bounds {digits : ℕ} {power : ℤ} (hdigits : digits ≠ 0)
    (hlow : (2 : ℚ) ^ (-1075 : ℤ) ≤ digits * 10 ^ power)
    (hhigh : (digits : ℚ) * 10 ^ power ≤ 2 ^ (1024 : ℤ)) :
    ¬ 400 < power ∧ ¬ power < -400 - (digits.log2 : ℤ) := by
  have hone : (1 : ℚ) ≤ digits := by exact_mod_cast Nat.pos_of_ne_zero hdigits
  constructor
  · intro hpower
    have hpow : (10 : ℚ) ^ (401 : ℤ) ≤ 10 ^ power := zpow_le_zpow_right₀ (by norm_num) (by omega)
    have hle : (10 : ℚ) ^ (401 : ℤ) ≤ 2 ^ (1024 : ℤ) := by
      calc (10 : ℚ) ^ (401 : ℤ) ≤ 1 * 10 ^ power := by linarith
        _ ≤ digits * 10 ^ power := mul_le_mul_of_nonneg_right hone (by positivity)
        _ ≤ 2 ^ (1024 : ℤ) := hhigh
    have hlt : (2 : ℚ) ^ (1024 : ℤ) < 10 ^ (401 : ℤ) := by
      exact_mod_cast two_pow_lt_ten_pow (show 1024 < 3 * 401 by norm_num)
    exact absurd hle (not_le.2 hlt)
  · intro hpower
    -- a number has no more decimal digits than binary ones
    have hdecimal : (digits : ℚ) ≤ 10 ^ ((digits.log2 : ℤ) + 1) := by
      refine (log2_bounds hdigits).2.le.trans ?_
      have hbase : ((2 : ℕ) : ℚ) ^ (digits.log2 + 1) ≤ 10 ^ (digits.log2 + 1) :=
        pow_le_pow_left₀ (by norm_num) (by norm_num) _
      exact_mod_cast hbase
    have hle : (2 : ℚ) ^ (-1075 : ℤ) ≤ 10 ^ (-400 : ℤ) := by
      calc (2 : ℚ) ^ (-1075 : ℤ) ≤ digits * 10 ^ power := hlow
        _ ≤ 10 ^ ((digits.log2 : ℤ) + 1) * 10 ^ power :=
            mul_le_mul_of_nonneg_right hdecimal (by positivity)
        _ = 10 ^ ((digits.log2 : ℤ) + 1 + power) := (zpow_add₀ (by norm_num) _ _).symm
        _ ≤ 10 ^ (-400 : ℤ) := zpow_le_zpow_right₀ (by norm_num) (by omega)
    have hlt : (10 : ℚ) ^ (-400 : ℤ) < 2 ^ (-1075 : ℤ) := by
      rw [zpow_neg, zpow_neg, inv_lt_inv₀ (by positivity) (by positivity)]
      exact_mod_cast two_pow_lt_ten_pow (show 1075 < 3 * 400 by norm_num)
    exact absurd hle (not_le.2 hlt)

/-- **A decimal is read as the number that its value reads as.** -/
theorem ofScientific_of_reads {x : Binary64} (hx : x.IsFinite) {digits : ℕ} {power : ℤ}
    (h : x.Reads ((digits : ℚ) * 10 ^ power)) :
    ofScientific x.isNegative digits power = x := by
  have hten : (10 : ℚ) ^ power ≠ 0 := by positivity
  unfold Reads at h
  split at h
  · next hzero =>
      have hdigits : digits = 0 := by exact_mod_cast (mul_eq_zero.1 h).resolve_right hten
      rw [ofScientific, if_pos hdigits, ← significand_eq_zero_iff.1 hzero, ofMagnitude_magnitude]
  · next hm =>
      obtain ⟨hlow, hhigh⟩ := h.between hx hm
      have hdigits : digits ≠ 0 := by
        rintro rfl
        have hpos : (0 : ℚ) < 2 ^ (-1075 : ℤ) := by positivity
        rw [Nat.cast_zero, zero_mul] at hlow
        linarith
      obtain ⟨hbig, hsmall⟩ := power_bounds hdigits hlow hhigh
      have hquotient : ((digits * Nat.pow 10 power.toNat : ℕ) : ℚ) / (Nat.pow 10 (-power).toNat : ℕ) =
          digits * 10 ^ power := by
        rw [zpow_eq_div (by norm_num : (10 : ℚ) ≠ 0) power]
        simp only [Nat.pow_eq]
        push_cast
        rw [mul_div_assoc]
      have hpow (n : ℕ) : Nat.pow 10 n ≠ 0 := (Nat.pow_pos (by norm_num)).ne'
      rw [ofScientific, if_neg hdigits, if_neg hbig, if_neg hsmall, nearest,
        nearestMagnitude_of_rounds hx hm (Nat.mul_ne_zero hdigits (hpow _)) (hpow _)
          (by rw [hquotient]; exact h), ofMagnitude_magnitude]

/-! ### Decimals that are written -/

/-- The exact value of a number rounds to it. -/
theorem rounds_self {x : Binary64} (hm : x.significand ≠ 0) :
    x.Rounds (x.significand * 2 ^ x.exponent) := by
  have hunit : (0 : ℚ) < 2 ^ (x.exponent - 2) := by positivity
  have hfour : (2 : ℚ) ^ x.exponent = 4 * 2 ^ (x.exponent - 2) := by
    rw [zpow_sub₀ (by norm_num)]
    ring
  unfold Rounds
  simp only
  rw [hfour]
  generalize (2 : ℚ) ^ (x.exponent - 2) = unit at *
  generalize hlo : (if x.significand = leadingBit ∧ -1074 < x.exponent then 4 * x.significand - 1
    else 4 * x.significand - 2 : ℕ) = lo
  have hlt : lo < 4 * x.significand := by
    rw [← hlo]
    split <;> omega
  have hlt' : (lo : ℚ) < 4 * x.significand := by exact_mod_cast hlt
  have hbelow : lo * unit < x.significand * (4 * unit) := by nlinarith
  have habove : x.significand * (4 * unit) < (4 * x.significand + 2 : ℕ) * unit := by
    push_cast
    nlinarith
  split
  · exact ⟨hbelow.le, habove.le⟩
  · exact ⟨hbelow, habove⟩

/-- What is found on a grid rounds to the number. -/
theorem readsBack_of_onGrid? {tie : Tie} {x : Binary64} {power : ℤ} {d : Decimal}
    (h : onGrid? tie x power = some d) : x.readsBack d = true := by
  unfold onGrid? at h
  simp only at h
  split at h
  · next hlow hhigh =>
      obtain ⟨hlow, -⟩ := (Bool.and_eq_true ..).mp hlow
      -- the nearer one, or that which the tie chooses
      split at h
      · cases h
        exact hhigh
      · split at h
        · cases h
          exact hlow
        · cases tie with
          | up =>
              cases h
              exact hhigh
          | even =>
              simp only at h
              split at h
              · cases h
                exact hlow
              · cases h
                exact hhigh
  · next hlow _ =>
      cases h
      exact ((Bool.and_eq_true ..).mp hlow).1
  · next hhigh =>
      cases h
      exact hhigh
  · cases h

/-- The shortest decimal of a number reads as the number. -/
theorem reads_shortest (tie : Tie) (x : Binary64) : x.Reads (x.shortest tie).value := by
  unfold Reads shortest
  split
  · simp [Decimal.value]
  · next hm =>
      simp only
      rw [Decimal.value_strip]
      cases hfound : (List.range 17).findSome? fun i => onGrid? tie x (decimalScale x - (i + 1 : ℕ)) with
      | some d =>
          obtain ⟨i, -, hi⟩ := List.exists_of_findSome?_eq_some hfound
          exact readsBack_iff.1 (readsBack_of_onGrid? hi)
      | none =>
          have hvalue : Decimal.value ⟨x.significand * Nat.pow 2 x.exponent.toNat *
              Nat.pow 5 (-x.exponent).toNat, -((-x.exponent).toNat : ℤ)⟩ =
                x.significand * 2 ^ x.exponent := by
            rw [Decimal.value, zpow_eq_div (by norm_num : (2 : ℚ) ≠ 0), zpow_neg, zpow_natCast,
              show (10 : ℚ) = 2 * 5 by norm_num, mul_pow]
            simp only [Nat.pow_eq]
            push_cast
            field_simp
          rw [Option.getD_none, hvalue]
          exact rounds_self hm

/-- The shortest decimal of a number is zero without a power, or not zero. -/
theorem power_shortest {x : Binary64} (hx : x.IsFinite) (tie : Tie)
    (h : (x.shortest tie).digits = 0) : (x.shortest tie).power = 0 := by
  have hreads := reads_shortest tie x
  unfold Reads at hreads
  split at hreads
  · next hzero => rw [shortest, if_pos hzero]
  · next hm =>
      have hlow := (hreads.between hx hm).1
      have hpos : (0 : ℚ) < 2 ^ (-1075 : ℤ) := by positivity
      rw [Decimal.value, h, Nat.cast_zero, zero_mul] at hlow
      exact absurd hlow (not_le.2 hpos)

end Binary64

end Conform
