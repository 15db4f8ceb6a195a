/-
**Bounds and orders.**

Whether bounds admit a quantity is computed by comparisons that may fail.  Where any two quantities
can be compared, it says that the quantity lies between the bounds in their order: integers and
lengths in that of numbers, dates in that of their days, instants in that of time, whatever offset
they have.

Main definitions:

* `DateTime.NotAfter` — the order of instants;
* `LengthBounds.Admits`, `TimeBound.Admits` — a quantity lies between bounds that a definition gives.

Main results:

* `Bounds.admits_some` — both bounds have to be kept;
* `LengthBounds.admits_iff`, `TimeBound.admits_of_bounds` — what bounds admit lies between them.
-/

import Conform.Proofs.Definition.Answer

set_option relaxedAutoImplicit false
set_option autoImplicit false

namespace Conform

/-! ### Orders -/

/-- Both bounds have to be kept. -/
theorem Bounds.admits_some {μ : Type} [Comparable μ] {bounds : Bounds μ} {x : μ} :
    bounds.admits (some x) = true ↔
      (∀ a, bounds.min = some a → Range.atLeast x a = true) ∧
        ∀ b, bounds.max = some b → Range.atMost x b = true := by
  obtain ⟨min, max⟩ := bounds
  rw [admits, Bool.and_eq_true]
  refine and_congr ?_ ?_
  · cases min <;> simp
  · cases max <;> simp

namespace DateTime

/-- The one instant does not lie after the other. -/
def NotAfter (a b : DateTime) : Prop :=
  a.seconds < b.seconds ∨ (a.seconds = b.seconds ∧ a.nanos ≤ b.nanos)

instance (a b : DateTime) : Decidable (a.NotAfter b) := inferInstanceAs (Decidable (_ ∨ _))

theorem isLE_compare {a b : DateTime} : (a.compare b).isLE = true ↔ a.NotAfter b := by
  rw [compare, Ordering.isLE_then_iff_or, Int.compare_eq_lt, Int.compare_eq_eq, Nat.isLE_compare]
  rfl

theorem swap_compare (a b : DateTime) : (a.compare b).swap = b.compare a := by
  rw [compare, compare, Ordering.swap_then, Int.compare_swap, Nat.compare_swap]

end DateTime

namespace Range

variable {μ : Type} [Comparable μ] {x bound : μ} {order : Ordering}

theorem atLeast_eq (h : Comparable.compare? x bound = some order) :
    atLeast x bound = order.isGE := by
  rw [atLeast, h]
  cases order <;> rfl

theorem atMost_eq (h : Comparable.compare? x bound = some order) :
    atMost x bound = order.isLE := by
  rw [atMost, h]
  cases order <;> rfl

theorem atLeast_nat {x a : Nat} : atLeast x a = true ↔ a ≤ x := by
  rw [atLeast_eq rfl, Nat.isGE_compare]

theorem atMost_nat {x b : Nat} : atMost x b = true ↔ x ≤ b := by
  rw [atMost_eq rfl, Nat.isLE_compare]

theorem atLeast_int {n a : Int64} : atLeast (Numeric.int n) (.int a) = true ↔ a ≤ n := by
  rw [atLeast_eq rfl, Int.isGE_compare, Int64.le_iff_toInt_le]

theorem atMost_int {n b : Int64} : atMost (Numeric.int n) (.int b) = true ↔ n ≤ b := by
  rw [atMost_eq rfl, Int.isLE_compare, Int64.le_iff_toInt_le]

theorem atLeast_date {d a : Date} : atLeast d a = true ↔ a.day ≤ d.day := by
  rw [atLeast_eq rfl, Date.compare, Int.isGE_compare]

theorem atMost_date {d b : Date} : atMost d b = true ↔ d.day ≤ b.day := by
  rw [atMost_eq rfl, Date.compare, Int.isLE_compare]

theorem atLeast_datetime {t a : DateTime} : atLeast t a = true ↔ a.NotAfter t := by
  rw [atLeast_eq rfl, ← DateTime.swap_compare, Ordering.isGE_swap, DateTime.isLE_compare]

theorem atMost_datetime {t b : DateTime} : atMost t b = true ↔ t.NotAfter b := by
  rw [atMost_eq rfl, DateTime.isLE_compare]

end Range

/-! ### Bounds of definitions -/

/-- The length lies between the bounds. -/
def LengthBounds.Admits (length : LengthBounds) (n : Nat) : Prop :=
  (∀ a, length.min = some a → a.toNat ≤ n) ∧ ∀ b, length.max = some b → n ≤ b.toNat

theorem LengthBounds.admits_iff {length : LengthBounds} {n : Nat} :
    length.bounds.admits (some n) = true ↔ length.Admits n := by
  simp only [Bounds.admits_some, bounds, Option.map_eq_some_iff, forall_exists_index, and_imp,
    forall_apply_eq_imp_iff₂, Range.atLeast_nat, Range.atMost_nat]
  rfl

namespace TimeBound

variable {α : Type} {parse : String → Except Fault α} {shift? : DateTime → Int → Option α}
  {first last : α} {now : DateTime} {min max : Option TimeBound}

/-- The quantity lies between the bounds at a time, in the order `le`. -/
def Admits (le : α → α → Prop) (parse : String → Except Fault α)
    (shift? : DateTime → Int → Option α) (first last : α) (now : DateTime)
    (min max : Option TimeBound) (x : α) : Prop :=
  (∀ bound, min = some bound → ∃ a, bound.resolve parse shift? last now = .ok a ∧ le a x) ∧
    ∀ bound, max = some bound → ∃ b, bound.resolve parse shift? first now = .ok b ∧ le x b

/-- What bounds admit that can be resolved lies between them. -/
theorem admits_of_bounds [Comparable α] {le : α → α → Prop}
    (hleast : ∀ {x a : α}, Range.atLeast x a = true → le a x)
    (hmost : ∀ {x b : α}, Range.atMost x b = true → le x b) {bounds : Bounds α} {x : α}
    (h : TimeBound.bounds parse shift? first last now min max = .ok bounds)
    (hadmits : bounds.admits (some x) = true) :
    Admits le parse shift? first last now min max x := by
  obtain ⟨lower, hlower, h⟩ := bind_eq_ok.1 h
  obtain ⟨upper, hupper, h⟩ := bind_eq_ok.1 h
  cases h
  obtain ⟨hmin, hmax⟩ := Bounds.admits_some.1 hadmits
  have hside : ∀ {fallback : α} {side : Option TimeBound} {out : Option α},
      side.mapM (resolve parse shift? fallback now) = .ok out → ∀ bound, side = some bound →
        ∃ a, bound.resolve parse shift? fallback now = .ok a ∧ out = some a := by
    rintro fallback _ out hout bound rfl
    obtain ⟨a, ha, hsome⟩ := map_eq_ok.1 hout
    exact ⟨a, ha, hsome.symm⟩
  refine ⟨fun bound hbound => ?_, fun bound hbound => ?_⟩
  · obtain ⟨a, ha, hsome⟩ := hside hlower bound hbound
    exact ⟨a, ha, hleast (hmin a hsome)⟩
  · obtain ⟨b, hb, hsome⟩ := hside hupper bound hbound
    exact ⟨b, hb, hmost (hmax b hsome)⟩

end TimeBound

end Conform
