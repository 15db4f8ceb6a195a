/-
**Ranges of numbers.**

An integer and a float are compared as floats.  The float nearest to an integer lies on the same side
of any other float as the integer itself, or on it; so the only mistake that a comparison can make is
to take an integer and the float nearest to it for equal.  A range therefore admits whatever lies
between its bounds, and besides it the integers beyond a bound that is the float nearest to them, and
the floats beyond an integer that they are nearest to.

Integers of 53 bits are floats, and below them nothing of this happens.  From there on it does: the
range up to `2 ^ 53` admits `2 ^ 53 + 1`.

Main definitions:

* `Numeric.value` — the rational that a finite number is;
* `Numeric.Merges` — an integer and the float nearest to it;
* `Numeric.ComparesExactly` — two integers, two floats, or a float and an integer of 53 bits;
* `Numeric.edge`, `Numeric.beyond` — the float `2 ^ 53`, and the integer behind it.

Main results:

* `Numeric.compare?_of_finite` — how finite numbers are compared;
* `Range.admits_numeric` — **what a range of numbers admits**;
* `Range.admits_above` — a range may admit an integer above it.
-/

import Conform.Proofs.Binary64.Order
import Conform.Proofs.Definition.Simulation
import Conform.Proofs.Bounds

set_option relaxedAutoImplicit false
set_option autoImplicit false

namespace Conform

namespace Numeric

/-! ### Values -/

/-- Neither NaN nor infinite. -/
def IsFinite : Numeric → Prop
  | int _ => True
  | float x => x.IsFinite

/-- The rational that a finite number is. -/
def value : Numeric → ℚ
  | int n => n.toInt
  | float x => x.value

theorem isFinite_int (n : Int64) : (int n).IsFinite := trivial

theorem value_int {n : Int64} {z : ℤ} (h : n.toInt = z) : (int n).value = z := congrArg Int.cast h

/-- One is an integer and the other the float nearest to it. -/
def Merges : Numeric → Numeric → Prop
  | int n, float x => (Binary64.ofInt n.toInt).value = x.value
  | float x, int n => x.value = (Binary64.ofInt n.toInt).value
  | int _, int _ | float _, float _ => False

/-- Two integers, two floats, or a float and an integer of 53 bits. -/
def ComparesExactly : Numeric → Numeric → Prop
  | int n, float _ | float _, int n => n.toInt.natAbs < 2 ^ 53
  | int _, int _ | float _, float _ => True

variable {a b x : Numeric}

theorem natAbs_toInt_lt (n : Int64) : n.toInt.natAbs < 2 ^ 64 := by
  have hle := n.le_toInt
  have hlt := n.toInt_lt
  omega

/-- An integer of 53 bits is the float nearest to it. -/
theorem Merges.value_eq (h : a.Merges b) (hexact : a.ComparesExactly b) : a.value = b.value := by
  cases a with
  | int n =>
      cases b with
      | int m => exact h.elim
      | float y => exact (Binary64.value_ofInt hexact).symm.trans h
  | float x =>
      cases b with
      | int m => exact Eq.trans h (Binary64.value_ofInt hexact)
      | float y => exact h.elim

/-! ### Comparisons -/

/-- Finite floats are compared by their values. -/
theorem compare?_float_of_finite {x y : Binary64} (hx : x.IsFinite) (hy : y.IsFinite) :
    Binary64.compare? x y = some (Ord.compare x.order y.order) := by
  refine if_neg ?_
  rintro (hnan | hnan)
  · exact Nat.lt_asymm hx hnan
  · exact Nat.lt_asymm hy hnan

/-- **Finite numbers are compared by their values**, but for an integer and the float nearest to it,
which count as equal. -/
theorem compare?_of_finite (ha : a.IsFinite) (hb : b.IsFinite) : ∃ order : Ordering,
    compare? a b = some order ∧ (order.isLE = true ↔ a.value ≤ b.value ∨ a.Merges b) ∧
      (order.isGE = true ↔ b.value ≤ a.value ∨ b.Merges a) := by
  cases a with
  | int n =>
      cases b with
      | int m =>
          refine ⟨_, rfl, ?_, ?_⟩
          · rw [Int.isLE_compare]
            simp [value, Merges]
          · rw [Int.isGE_compare]
            simp [value, Merges]
      | float y =>
          have hn := natAbs_toInt_lt n
          refine ⟨_, compare?_float_of_finite (Binary64.isFinite_ofInt hn) hb, ?_, ?_⟩
          · rw [Int.isLE_compare]
            exact Binary64.order_ofInt_le_iff hn hb
          · rw [Int.isGE_compare]
            exact Binary64.le_order_ofInt_iff hn hb
  | float x =>
      cases b with
      | int m =>
          have hm := natAbs_toInt_lt m
          refine ⟨_, compare?_float_of_finite ha (Binary64.isFinite_ofInt hm), ?_, ?_⟩
          · rw [Int.isLE_compare]
            exact Binary64.le_order_ofInt_iff hm ha
          · rw [Int.isGE_compare]
            exact Binary64.order_ofInt_le_iff hm ha
      | float y =>
          refine ⟨_, compare?_float_of_finite ha hb, ?_, ?_⟩
          · rw [Int.isLE_compare]
            exact (Binary64.order_le_order ha hb).trans (or_iff_left_of_imp False.elim).symm
          · rw [Int.isGE_compare]
            exact (Binary64.order_le_order hb ha).trans (or_iff_left_of_imp False.elim).symm

theorem atMost_iff (hx : x.IsFinite) (hb : b.IsFinite) :
    Range.atMost x b = true ↔ x.value ≤ b.value ∨ x.Merges b := by
  obtain ⟨order, horder, hle, -⟩ := compare?_of_finite hx hb
  rw [Range.atMost_eq horder, hle]

theorem atLeast_iff (hx : x.IsFinite) (ha : a.IsFinite) :
    Range.atLeast x a = true ↔ a.value ≤ x.value ∨ a.Merges x := by
  obtain ⟨order, horder, -, hge⟩ := compare?_of_finite hx ha
  rw [Range.atLeast_eq horder, hge]

/-! ### The first integer that is no float -/

/-- The float `2 ^ 53`. -/
def edge : Binary64 := ⟨0x4340000000000000⟩

/-- The integer behind `edge`. -/
def beyond : Int64 := 9007199254740993

theorem isFinite_edge : edge.IsFinite := by decide

theorem value_edge : edge.value = 2 ^ 53 := by
  have hsignificand : edge.significand = 2 ^ 52 := by decide
  have hexponent : edge.exponent = 1 := by decide
  rw [Binary64.value, if_neg (by decide), Binary64.size, hsignificand, hexponent]
  norm_num

theorem value_beyond : (int beyond).value = 2 ^ 53 + 1 := by
  rw [value_int (show beyond.toInt = 2 ^ 53 + 1 by decide)]
  norm_num

/-- A tie: `edge` and the float behind it are equally near, and the significand of `edge` is even. -/
theorem ofInt_beyond : Binary64.ofInt beyond.toInt = edge := by decide +kernel

end Numeric

/-! ### Ranges -/

namespace Range

variable {min max : Option Numeric} {x : Numeric}

/-- **What a range of numbers admits**: what lies between its bounds, and besides it what merges with
a bound.  It is just what lies between the bounds where each of them compares exactly. -/
theorem admits_numeric (now : DateTime) (hmin : ∀ a, min = some a → a.IsFinite)
    (hmax : ∀ b, max = some b → b.IsFinite) (hx : x.IsFinite) :
    (((literals min max : Range Clocked Numeric).admits (some x)).run now = true ↔
      (∀ a, min = some a → a.value ≤ x.value ∨ a.Merges x) ∧
        ∀ b, max = some b → x.value ≤ b.value ∨ x.Merges b) ∧
    ((∀ a, min = some a → a.ComparesExactly x) → (∀ b, max = some b → x.ComparesExactly b) →
      (((literals min max : Range Clocked Numeric).admits (some x)).run now = true ↔
        (∀ a, min = some a → a.value ≤ x.value) ∧ ∀ b, max = some b → x.value ≤ b.value)) := by
  have hadmits : ((literals min max : Range Clocked Numeric).admits (some x)).run now = true ↔
      (∀ a, min = some a → a.value ≤ x.value ∨ a.Merges x) ∧
        ∀ b, max = some b → x.value ≤ b.value ∨ x.Merges b := by
    rw [admits_run, literals_boundsAt, Bounds.admits_some]
    refine and_congr ?_ ?_
    · exact forall₂_congr fun a ha => Numeric.atLeast_iff hx (hmin a ha)
    · exact forall₂_congr fun b hb => Numeric.atMost_iff hx (hmax b hb)
  refine ⟨hadmits, fun hexact hexact' => hadmits.trans (and_congr ?_ ?_)⟩
  · refine forall₂_congr fun a ha => or_iff_left_of_imp fun hmerges => ?_
    exact (hmerges.value_eq (hexact a ha)).le
  · refine forall₂_congr fun b hb => or_iff_left_of_imp fun hmerges => ?_
    exact (hmerges.value_eq (hexact' b hb)).le

theorem admits_numeric_edge :
    let range : Range Clocked Numeric := literals (some (.int 0)) (some (.float Numeric.edge))
    (range.admits (some (.int Numeric.beyond))).run .epoch = true ∧
      (range.admits (some (.int 9007199254740991))).run .epoch = true := by
  have hmin : ∀ a, some (Numeric.int 0) = some a → a.IsFinite := by
    rintro a ⟨⟩
    trivial
  have hmax : ∀ b, some (Numeric.float Numeric.edge) = some b → b.IsFinite := by
    rintro b ⟨⟩
    exact Numeric.isFinite_edge
  have hzero : (Numeric.int 0).value = 0 := Numeric.value_int (by decide)
  refine ⟨?_, ?_⟩
  · refine (admits_numeric .epoch hmin hmax (Numeric.isFinite_int _)).1.2 ⟨?_, ?_⟩
    · rintro a ⟨⟩
      left
      rw [hzero, Numeric.value_beyond]
      norm_num
    · rintro b ⟨⟩
      exact .inr (congrArg Binary64.value Numeric.ofInt_beyond)
  · have hvalue : (Numeric.int 9007199254740991).value = (2 ^ 53 - 1 : ℤ) :=
      Numeric.value_int (by decide)
    refine ((admits_numeric .epoch hmin hmax (Numeric.isFinite_int _)).2 ?_ ?_).2 ⟨?_, ?_⟩
    · rintro a ⟨⟩
      trivial
    · rintro b ⟨⟩
      show (9007199254740991 : Int64).toInt.natAbs < 2 ^ 53
      decide
    · rintro a ⟨⟩
      rw [hzero, hvalue]
      norm_num
    · rintro b ⟨⟩
      rw [hvalue]
      exact (by norm_num : ((2 ^ 53 - 1 : ℤ) : ℚ) ≤ 2 ^ 53).trans Numeric.value_edge.ge

/-- **A range may admit an integer above it**, and with it a float that is bounded. -/
theorem admits_above : Numeric.edge.IsFinite ∧ Numeric.edge.value < (Numeric.int Numeric.beyond).value ∧
    ((literals none (some (.float Numeric.edge)) : Range Clocked Numeric).admits
      (some (.int Numeric.beyond))).run .epoch = true ∧
    ∃ f, (Definition.leaf (.float none (some Numeric.edge)) .standard).build.asOf .epoch = .ok f ∧
      (f (.int Numeric.beyond)).asOf .epoch = .ok (.int Numeric.beyond) := by
  refine ⟨Numeric.isFinite_edge, ?_, rfl, _, rfl, rfl⟩
  rw [Numeric.value_edge, Numeric.value_beyond]
  norm_num

end Range

end Conform
