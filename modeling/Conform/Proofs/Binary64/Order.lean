/-
**Numbers in the order of their values.**

A finite number is a rational, and of two finite numbers the greater one has the greater bits, once
the sign is taken into account.  This follows from a property of rounding: a greater quotient is not
rounded to a lesser number.  Within one scale the rounded quotients ascend with the quotients; at a
greater scale even the least significand makes a number that is not below any at the scale before,
since a significand that is rounded up to the next power of two carries into the exponent.

A float that an integer does not exceed is not exceeded by the float nearest to the integer either, and
the other way round.  So an integer changes sides with a float only by becoming equal to it.

Main definitions:

* `Binary64.size`, `Binary64.value` — the rational that a finite number is, without and with its sign.

Main results:

* `nearestEven_divHalfEven` — a quotient is rounded to the nearest natural, a tie to the even one;
* `Binary64.nearestMagnitude_mono` — **a greater quotient is not rounded to a lesser number**;
* `Binary64.order_le_order` — **finite numbers are in the order of their values**;
* `Binary64.order_ofInt_le_iff`, `Binary64.le_order_ofInt_iff` — an integer is rounded to its side of
  a float, or to the float;
* `Binary64.value_ofInt` — an integer of 53 bits is exact.
-/

import Conform.Proofs.Binary64.Reading

set_option relaxedAutoImplicit false
set_option autoImplicit false

namespace Conform

/-! ### Rounding a quotient -/

/-- A quotient is rounded to the nearest natural, a tie to the even one. -/
theorem nearestEven_divHalfEven (num : ℕ) {den : ℕ} (hden : 0 < den) :
    NearestEven ((num : ℚ) / den) (divHalfEven num den) := by
  have hpos : (0 : ℚ) < den := by exact_mod_cast hden
  have hsplit : ((num / den : ℕ) : ℚ) + (num % den : ℕ) / den = (num : ℚ) / den := by
    have hnat : den * (num / den) + num % den = num := Nat.div_add_mod num den
    rw [eq_div_iff hpos.ne', add_mul, div_mul_cancel₀ _ hpos.ne', mul_comm]
    exact_mod_cast hnat
  have hrest : ((num % den : ℕ) : ℚ) < den := by exact_mod_cast Nat.mod_lt num hden
  have hzero : (0 : ℚ) ≤ (num % den : ℕ) := Nat.cast_nonneg _
  unfold divHalfEven NearestEven
  simp only
  rw [← hsplit]
  generalize num / den = q
  generalize num % den = r at hrest hzero
  split
  · next hdown =>
      have hlt : (2 * r : ℚ) < den := by exact_mod_cast hdown
      have hhalf : (r : ℚ) / den < 1 / 2 := by
        rw [div_lt_div_iff₀ hpos (by norm_num)]
        linarith
      have hge : (0 : ℚ) ≤ r / den := div_nonneg hzero hpos.le
      exact ⟨by linarith, by linarith, fun _ => ⟨by linarith, by linarith⟩⟩
  · split
    · next hup =>
        have hlt : (den : ℚ) < 2 * r := by exact_mod_cast hup
        have hhalf : 1 / 2 < (r : ℚ) / den := by
          rw [div_lt_div_iff₀ (by norm_num) hpos]
          linarith
        have hone : (r : ℚ) / den < 1 := (div_lt_one hpos).2 hrest
        push_cast
        exact ⟨by linarith, by linarith, fun _ => ⟨by linarith, by linarith⟩⟩
    · next hdown hup =>
        have htie : (2 * r : ℚ) = den := by exact_mod_cast (by omega : 2 * r = den)
        have hhalf : (r : ℚ) / den = 1 / 2 := by
          rw [div_eq_div_iff hpos.ne' (by norm_num)]
          linarith
        rw [hhalf]
        split
        · exact ⟨by linarith, le_refl _, by omega⟩
        · push_cast
          exact ⟨by linarith, by linarith, by omega⟩

/-- The nearest naturals of ascending rationals ascend. -/
theorem NearestEven.mono {v w : ℚ} {p q : ℕ} (hp : NearestEven v p) (hq : NearestEven w q)
    (hvw : v ≤ w) : p ≤ q := by
  by_contra hlt
  have hnat : q + 1 ≤ p := by omega
  have hcast : (q : ℚ) + 1 ≤ p := by exact_mod_cast hnat
  have hpq : (p : ℚ) ≤ q + 1 := by linarith [hp.1, hq.2.1]
  -- both lie midway between two naturals, of which one is odd
  obtain rfl : p = q + 1 := by
    have hle : p ≤ q + 1 := by exact_mod_cast hpq
    omega
  rcases Nat.mod_two_eq_zero_or_one q with heven | hodd
  · linarith [(hp.2.2 (by omega)).1, hq.2.1]
  · linarith [(hq.2.2 hodd).2, hp.1]

/-- A natural is nearest to itself. -/
theorem nearestEven_natCast (n : ℕ) : NearestEven (n : ℚ) n :=
  ⟨by linarith, by linarith, fun _ => ⟨by linarith, by linarith⟩⟩

/-- No other natural is nearest to a natural. -/
theorem NearestEven.eq_of_natCast {n q : ℕ} (h : NearestEven (n : ℚ) q) : q = n :=
  Nat.le_antisymm (h.mono (nearestEven_natCast n) le_rfl) ((nearestEven_natCast n).mono h le_rfl)

namespace Binary64

/-! ### Rounding to a number -/

/-- A quotient at its scale has at most 53 bits before the point, and fewer only at the smallest
scale. -/
theorem scaled_bounds {num den : ℕ} (hnum : num ≠ 0) (hden : den ≠ 0) :
    (num : ℚ) / den / 2 ^ scaleOf num den < 2 ^ 53 ∧
      (scaleOf num den = -1074 ∨ 2 ^ 52 ≤ (num : ℚ) / den / 2 ^ scaleOf num den) := by
  have hv : (0 : ℚ) < num / den := div_pos (by exact_mod_cast Nat.pos_of_ne_zero hnum)
    (by exact_mod_cast Nat.pos_of_ne_zero hden)
  have hlog := scaleOf_eq_log hnum hden
  generalize scaleOf num den = scale at hlog
  have hunit : (0 : ℚ) < 2 ^ scale := by positivity
  constructor
  · rw [div_lt_iff₀ hunit, ← zpow_natCast, ← zpow_add₀ (by norm_num)]
    have hlt := (Int.lt_zpow_iff_log_lt (b := 2) (by norm_num) hv (x := ((53 : ℕ) : ℤ) + scale)).2
      (by omega)
    exact_mod_cast hlt
  · by_cases hleast : scale = -1074
    · exact .inl hleast
    · right
      rw [le_div_iff₀ hunit, ← zpow_natCast, ← zpow_add₀ (by norm_num)]
      have hle := (Int.zpow_le_iff_le_log (b := 2) (by norm_num) hv (x := ((52 : ℕ) : ℤ) + scale)).2
        (by omega)
      exact_mod_cast hle

/-- What a quotient is rounded to: a significand at the scale of the quotient. -/
theorem exists_nearestMagnitude {num den : ℕ} (hnum : num ≠ 0) (hden : den ≠ 0) :
    ∃ q, NearestEven ((num : ℚ) / den / 2 ^ scaleOf num den) q ∧ q ≤ 2 ^ 53 ∧
      (scaleOf num den = -1074 ∨ 2 ^ 52 ≤ q) ∧ nearestMagnitude num den =
        min ((scaleOf num den + 1074).toNat * leadingBit + q) infinityBits := by
  obtain ⟨hlt, hge⟩ := scaled_bounds hnum hden
  have hq : NearestEven ((num : ℚ) / den / 2 ^ scaleOf num den)
      (divHalfEven (num * 2 ^ (-scaleOf num den).toNat) (den * 2 ^ (scaleOf num den).toNat)) := by
    have hpos : 0 < den * 2 ^ (scaleOf num den).toNat :=
      Nat.mul_pos (Nat.pos_of_ne_zero hden) (Nat.pow_pos (by norm_num))
    have hnear := nearestEven_divHalfEven (num * 2 ^ (-scaleOf num den).toNat) hpos
    have hquotient : ((num * 2 ^ (-scaleOf num den).toNat : ℕ) : ℚ) /
        (den * 2 ^ (scaleOf num den).toNat : ℕ) = num / den / 2 ^ scaleOf num den := by
      rw [zpow_eq_div (by norm_num : (2 : ℚ) ≠ 0) (scaleOf num den)]
      push_cast
      field_simp
    rwa [hquotient] at hnear
  -- the bounds are naturals, and rounded to themselves
  refine ⟨_, hq, hq.mono (nearestEven_natCast (2 ^ 53)) (by push_cast; exact hlt.le), ?_,
    nearestMagnitude_eq hnum hden rfl hq⟩
  exact hge.imp_right fun hge => (nearestEven_natCast (2 ^ 52)).mono hq (by push_cast; exact hge)

/-- **A greater quotient is not rounded to a lesser number.** -/
theorem nearestMagnitude_mono {num den num' den' : ℕ} (hden : den ≠ 0) (hden' : den' ≠ 0)
    (h : (num : ℚ) / den ≤ num' / den') :
    nearestMagnitude num den ≤ nearestMagnitude num' den' := by
  by_cases hnum : num = 0
  · rw [nearestMagnitude, if_pos hnum]
    exact Nat.zero_le _
  have hv : (0 : ℚ) < num / den := div_pos (by exact_mod_cast Nat.pos_of_ne_zero hnum)
    (by exact_mod_cast Nat.pos_of_ne_zero hden)
  have hnum' : num' ≠ 0 := by
    rintro rfl
    rw [Nat.cast_zero, zero_div] at h
    exact absurd h (not_le.2 hv)
  obtain ⟨q, hq, hmost, -, hmagnitude⟩ := exists_nearestMagnitude hnum hden
  obtain ⟨q', hq', -, hleast, hmagnitude'⟩ := exists_nearestMagnitude hnum' hden'
  have hscale : scaleOf num den ≤ scaleOf num' den' := by
    have hlog := Int.log_mono_right (b := 2) hv h
    rw [scaleOf_eq_log hnum hden, scaleOf_eq_log hnum' hden']
    omega
  have hsmallest : -1074 ≤ scaleOf num den := by
    rw [scaleOf_eq_log hnum hden]
    exact le_max_right _ _
  rw [hmagnitude, hmagnitude']
  refine min_le_min_right _ ?_
  rcases hscale.eq_or_lt with hsame | hlt
  · rw [← hsame] at hq' ⊢
    have hle : q ≤ q' := hq.mono hq' (by gcongr)
    omega
  · -- a significand of 54 bits is as much as the least one at the next scale
    have hge : 2 ^ 52 ≤ q' := hleast.resolve_left (by omega)
    unfold leadingBit
    omega

/-! ### The values of numbers -/

/-- The rational that a finite number is without its sign. -/
def size (x : Binary64) : ℚ := x.significand * 2 ^ x.exponent

/-- The rational that a finite number is. -/
def value (x : Binary64) : ℚ := if x.isNegative then -x.size else x.size

variable {x y : Binary64} {n : ℤ}

theorem size_nonneg (x : Binary64) : 0 ≤ x.size := by
  unfold size
  positivity

theorem size_eq_zero_iff : x.size = 0 ↔ x.magnitude = 0 := by
  have hunit : (2 : ℚ) ^ x.exponent ≠ 0 := by positivity
  rw [size, mul_eq_zero_iff_right hunit, Nat.cast_eq_zero, significand_eq_zero_iff]

/-- The size as a quotient of naturals. -/
theorem size_eq_div (x : Binary64) : x.size =
    ((x.significand * 2 ^ x.exponent.toNat : ℕ) : ℚ) / (2 ^ (-x.exponent).toNat : ℕ) := by
  rw [size, zpow_eq_div (by norm_num : (2 : ℚ) ≠ 0) x.exponent]
  push_cast
  rw [mul_div_assoc]

/-- A finite number is nearest to its size. -/
theorem nearestMagnitude_size (hx : x.IsFinite) :
    nearestMagnitude (x.significand * 2 ^ x.exponent.toNat) (2 ^ (-x.exponent).toNat) =
      x.magnitude := by
  by_cases hm : x.significand = 0
  · rw [nearestMagnitude, hm, Nat.zero_mul, if_pos rfl, significand_eq_zero_iff.1 hm]
  · have hpow (n : ℕ) : 2 ^ n ≠ 0 := (Nat.pow_pos (by norm_num)).ne'
    refine nearestMagnitude_of_rounds hx hm (Nat.mul_ne_zero hm (hpow _)) (hpow _) ?_
    rw [← size_eq_div]
    exact rounds_self hm

/-- A quotient up to the size of a number is not rounded beyond the number. -/
theorem nearestMagnitude_le {num den : ℕ} (hden : den ≠ 0) (hx : x.IsFinite)
    (h : (num : ℚ) / den ≤ x.size) : nearestMagnitude num den ≤ x.magnitude := by
  rw [← nearestMagnitude_size hx]
  rw [size_eq_div] at h
  exact nearestMagnitude_mono hden (Nat.pow_pos (by norm_num)).ne' h

/-- A quotient from the size of a number on is not rounded below the number. -/
theorem le_nearestMagnitude {num den : ℕ} (hden : den ≠ 0) (hx : x.IsFinite)
    (h : x.size ≤ (num : ℚ) / den) : x.magnitude ≤ nearestMagnitude num den := by
  rw [← nearestMagnitude_size hx]
  rw [size_eq_div] at h
  exact nearestMagnitude_mono (Nat.pow_pos (by norm_num)).ne' hden h

theorem size_eq_of_magnitude (h : x.magnitude = y.magnitude) : x.size = y.size := by
  unfold size significand exponent
  rw [h]

/-- Finite numbers of greater size have greater magnitude bits. -/
theorem magnitude_le_magnitude (hx : x.IsFinite) (hy : y.IsFinite) :
    x.magnitude ≤ y.magnitude ↔ x.size ≤ y.size := by
  have hmono {a b : Binary64} (ha : a.IsFinite) (hb : b.IsFinite) (hab : a.size ≤ b.size) :
      a.magnitude ≤ b.magnitude := by
    rw [← nearestMagnitude_size ha]
    refine nearestMagnitude_le (Nat.pow_pos (by norm_num)).ne' hb ?_
    rwa [← size_eq_div]
  refine ⟨fun hle => ?_, hmono hx hy⟩
  by_contra hlt
  have hge := hmono hy hx (not_le.1 hlt).le
  exact hlt (size_eq_of_magnitude (Nat.le_antisymm hle hge)).le

/-- **Finite numbers are in the order of their values.** -/
theorem order_le_order (hx : x.IsFinite) (hy : y.IsFinite) : x.order ≤ y.order ↔ x.value ≤ y.value := by
  have hmagnitude := magnitude_le_magnitude hx hy
  have hmagnitude' := magnitude_le_magnitude hy hx
  have hzero := size_eq_zero_iff (x := x)
  have hzero' := size_eq_zero_iff (x := y)
  have hsize := x.size_nonneg
  have hsize' := y.size_nonneg
  unfold order value
  cases x.isNegative <;> cases y.isNegative <;>
    simp only [Bool.false_eq_true, if_false, if_true, neg_le_neg_iff, Nat.cast_le]
  · exact hmagnitude
  · -- a number that is not negative is below one that may be only if both are zero
    constructor
    · intro hle
      rw [hzero.2 (by omega), hzero'.2 (by omega), neg_zero]
    · intro hle
      rw [hzero.1 (by linarith), hzero'.1 (by linarith)]
      rfl
  · exact iff_of_true (by omega) (by linarith)
  · exact hmagnitude'

/-! ### Integers as numbers -/

theorem isNegative_ofMagnitude (negative : Bool) {magnitude : ℕ} (h : magnitude < infinityBits) :
    (ofMagnitude negative magnitude).isNegative = negative := by
  unfold infinityBits at h
  unfold ofMagnitude isNegative signBit
  simp only [UInt64.toNat_ofNat']
  cases negative with
  | false =>
      rw [if_neg Bool.false_ne_true, decide_eq_false_iff_not]
      omega
  | true =>
      rw [if_pos rfl, decide_eq_true_iff]
      omega

theorem order_ofInt (hn : n.natAbs < 2 ^ 64) : (ofInt n).order =
    if n < 0 then -(nearestMagnitude n.natAbs 1 : ℤ) else nearestMagnitude n.natAbs 1 := by
  have hlt := nearestMagnitude_one_lt hn
  rw [order, ofInt, nearest, magnitude_ofMagnitude _ hlt, isNegative_ofMagnitude _ hlt]
  simp only [decide_eq_true_eq]

/-- An integer is rounded to its side of a finite number, or to the number itself. -/
theorem order_ofInt_sides (hn : n.natAbs < 2 ^ 64) (hx : x.IsFinite) :
    (n ≤ x.value → (ofInt n).order ≤ x.order) ∧ (x.value ≤ n → x.order ≤ (ofInt n).order) := by
  have hmost : (n.natAbs : ℚ) ≤ x.size → nearestMagnitude n.natAbs 1 ≤ x.magnitude :=
    fun h => nearestMagnitude_le one_ne_zero hx (by simpa using h)
  have hleast : x.size ≤ (n.natAbs : ℚ) → x.magnitude ≤ nearestMagnitude n.natAbs 1 :=
    fun h => le_nearestMagnitude one_ne_zero hx (by simpa using h)
  have hsize := x.size_nonneg
  have hzero := size_eq_zero_iff (x := x)
  rw [order_ofInt hn]
  generalize nearestMagnitude n.natAbs 1 = k at hmost hleast
  unfold value order
  by_cases hneg : n < 0
  · have hcast : (n : ℚ) = -(n.natAbs : ℚ) := by
      rw [← Int.cast_natCast, ← Int.cast_neg]
      exact congrArg _ (by omega)
    have hpos : (0 : ℚ) < n.natAbs := by exact_mod_cast (by omega : 0 < n.natAbs)
    rw [if_pos hneg, hcast]
    cases x.isNegative with
    | true =>
        simp only [if_true, neg_le_neg_iff]
        exact ⟨fun h => by exact_mod_cast hleast h, fun h => by exact_mod_cast hmost h⟩
    | false =>
        simp only [Bool.false_eq_true, if_false]
        exact ⟨fun _ => by omega, fun h => by linarith⟩
  · have hcast : (n : ℚ) = (n.natAbs : ℚ) := by
      rw [← Int.cast_natCast]
      exact congrArg _ (by omega)
    have hge : (0 : ℚ) ≤ n.natAbs := Nat.cast_nonneg _
    rw [if_neg hneg, hcast]
    cases x.isNegative with
    | true =>
        -- an integer that is not negative lies below such a number only if both are zero
        simp only [if_true]
        refine ⟨fun h => ?_, fun _ => by omega⟩
        have hle := hmost (by linarith)
        have hnone := hzero.1 (by linarith)
        omega
    | false =>
        simp only [Bool.false_eq_true, if_false]
        exact ⟨fun h => by exact_mod_cast hmost h, fun h => by exact_mod_cast hleast h⟩

/-- An integer is rounded to a float that is not below a given one, unless it lies below that and is
not rounded to it. -/
theorem le_order_ofInt_iff (hn : n.natAbs < 2 ^ 64) (hx : x.IsFinite) :
    x.order ≤ (ofInt n).order ↔ x.value ≤ n ∨ x.value = (ofInt n).value := by
  have hfinite := isFinite_ofInt hn
  obtain ⟨hbelow, habove⟩ := order_ofInt_sides hn hx
  constructor
  · intro hle
    refine or_iff_not_imp_left.2 fun hlt => le_antisymm ((order_le_order hx hfinite).1 hle) ?_
    exact (order_le_order hfinite hx).1 (hbelow (not_le.1 hlt).le)
  · rintro (hle | heq)
    · exact habove hle
    · exact (order_le_order hx hfinite).2 heq.le

/-- An integer is rounded to a float that is not above a given one, unless it lies above that and is
not rounded to it. -/
theorem order_ofInt_le_iff (hn : n.natAbs < 2 ^ 64) (hx : x.IsFinite) :
    (ofInt n).order ≤ x.order ↔ n ≤ x.value ∨ (ofInt n).value = x.value := by
  have hfinite := isFinite_ofInt hn
  obtain ⟨hbelow, habove⟩ := order_ofInt_sides hn hx
  constructor
  · intro hle
    refine or_iff_not_imp_left.2 fun hlt => le_antisymm ((order_le_order hfinite hx).1 hle) ?_
    exact (order_le_order hx hfinite).1 (habove (not_le.1 hlt).le)
  · rintro (hle | heq)
    · exact hbelow hle
    · exact (order_le_order hfinite hx).2 heq.le

/-- The size of a number whose magnitude is made of a scale and a significand, which may have been
rounded up to the next power of two. -/
theorem size_of_parts {scale : ℤ} {q : ℕ} (hscale : -1074 ≤ scale) (hmost : q ≤ 2 ^ 53)
    (hleast : scale = -1074 ∨ 2 ^ 52 ≤ q)
    (hx : x.magnitude = (scale + 1074).toNat * leadingBit + q) : x.size = q * 2 ^ scale := by
  rcases hmost.eq_or_lt with rfl | hlt
  · -- the carry has gone into the exponent
    have hexponent : x.exponent = scale + 1 := by
      unfold exponent leadingBit at *
      split <;> omega
    have hsignificand : x.significand = 2 ^ 52 := by
      unfold significand leadingBit at *
      split <;> omega
    rw [size, hexponent, hsignificand, zpow_add₀ (by norm_num)]
    push_cast
    ring
  · have hexponent : x.exponent = scale := by
      unfold exponent leadingBit at *
      split <;> omega
    have hsignificand : x.significand = q := by
      unfold significand leadingBit at *
      split <;> omega
    rw [size, hexponent, hsignificand]

/-- The size of the float nearest to an integer: the integer rounded at its scale, a tie to the even
significand. -/
theorem exists_size_ofInt (hn : n.natAbs < 2 ^ 64) (hne : n ≠ 0) :
    ∃ q, NearestEven ((n.natAbs : ℚ) / 2 ^ scaleOf n.natAbs 1) q ∧
      (ofInt n).size = q * 2 ^ scaleOf n.natAbs 1 := by
  have hnum : n.natAbs ≠ 0 := by omega
  obtain ⟨q, hq, hmost, hleast, hmagnitude⟩ := exists_nearestMagnitude hnum one_ne_zero
  rw [Nat.cast_one, div_one] at hq
  have hlt := nearestMagnitude_one_lt hn
  have hscale : -1074 ≤ scaleOf n.natAbs 1 := by
    rw [scaleOf_eq_log hnum one_ne_zero]
    exact le_max_right _ _
  refine ⟨q, hq, size_of_parts hscale hmost hleast ?_⟩
  rw [ofInt, nearest, magnitude_ofMagnitude _ hlt, hmagnitude]
  omega

/-- **An integer of 53 bits is exact.** -/
theorem value_ofInt (hn : n.natAbs < 2 ^ 53) : (ofInt n).value = n := by
  have hfits : n.natAbs < 2 ^ 64 := by omega
  rcases eq_or_ne n 0 with rfl | hne
  · simp [value, show (ofInt 0).isNegative = false from rfl,
      size_eq_zero_iff.2 (show (ofInt 0).magnitude = 0 from rfl)]
  · obtain ⟨q, hq, hsize⟩ := exists_size_ofInt hfits hne
    -- the scale is that of a fraction, so nothing is rounded
    have hscale : scaleOf n.natAbs 1 ≤ 0 := by
      have hlog : n.natAbs.log2 < 53 := (Nat.log2_lt (by omega)).2 hn
      rcases scaleOf_one n.natAbs with h | h <;> omega
    have hnat : (n.natAbs : ℚ) / 2 ^ scaleOf n.natAbs 1 =
        (n.natAbs * 2 ^ (-scaleOf n.natAbs 1).toNat : ℕ) := by
      rw [zpow_eq_div (by norm_num : (2 : ℚ) ≠ 0) (scaleOf n.natAbs 1), Int.toNat_of_nonpos hscale]
      push_cast
      field_simp
    rw [hnat] at hq
    rw [hq.eq_of_natCast, ← hnat, div_mul_cancel₀ _ (by positivity)] at hsize
    have hlt := nearestMagnitude_one_lt hfits
    rw [value, hsize, ofInt, nearest, isNegative_ofMagnitude _ hlt]
    by_cases hneg : n < 0
    · rw [if_pos (by simpa using hneg), ← Int.cast_natCast, ← Int.cast_neg]
      exact congrArg _ (by omega)
    · rw [if_neg (by simpa using hneg), ← Int.cast_natCast]
      exact congrArg _ (by omega)

end Binary64

end Conform
