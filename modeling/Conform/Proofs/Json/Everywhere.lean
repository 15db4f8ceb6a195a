/-
**Properties of all trees within a tree.**

A property of trees may be demanded of a tree and of every tree within it.  Most demands on documents
are of this kind: that floats are finite, that integers are not too great, that no name is repeated.  So
each of them is given by what it demands of one tree, and what follows from a demand for items and
members is proved once.

Sorting the members of objects goes through all trees within a tree, too.  What it does to each of them
is what it does to the demands.

Main definitions:

* `Json.Everywhere` — a property of a tree and of every tree within it;
* `Json.Canonical` — the members of every object are sorted by name.

Main results:

* `Json.induct` — induction over trees;
* `Json.everywhere_arr`, `Json.everywhere_obj` — a demand on an array or an object;
* `Json.Everywhere.canonical` — **sorting fulfils everywhere what it fulfils for each tree**;
* `Json.canonical_eq_self` — sorting leaves a sorted tree as it is.
-/

import Conform.Json.Basic
import Conform.Proofs.Members

set_option relaxedAutoImplicit false
set_option autoImplicit false

namespace Conform

/-- Induction over a tree and the trees within it. -/
@[elab_as_elim, induction_eliminator]
theorem Json.induct {motive : Json → Prop} (null : motive .null) (bool : ∀ b, motive (.bool b))
    (int : ∀ n, motive (.int n)) (big : ∀ n, motive (.big n)) (float : ∀ x, motive (.float x))
    (str : ∀ s, motive (.str s)) (arr : ∀ items, (∀ j ∈ items, motive j) → motive (.arr items))
    (obj : ∀ members, (∀ member ∈ members, motive member.2) → motive (.obj members))
    (j : Json) : motive j := by
  refine Json.rec (motive_2 := fun items => ∀ j ∈ items, motive j)
    (motive_3 := fun members => ∀ member ∈ members, motive member.2)
    (motive_4 := fun member => motive member.2)
    null bool int big float str arr obj ?_ ?_ ?_ ?_ ?_ j
  · exact List.forall_mem_nil _
  · exact fun _ _ hhead htail => List.forall_mem_cons.2 ⟨hhead, htail⟩
  · exact List.forall_mem_nil _
  · exact fun _ _ hhead htail => List.forall_mem_cons.2 ⟨hhead, htail⟩
  · exact fun _ _ h => h

namespace Json

/-! ### Demands on all trees -/

mutual

/-- The property holds of the tree and of every tree within it. -/
def Everywhere (p : Json → Prop) : Json → Prop
  | .arr items => p (.arr items) ∧ EverywhereItems p items
  | .obj members => p (.obj members) ∧ EverywhereMembers p members
  | .null => p .null
  | .bool b => p (.bool b)
  | .int n => p (.int n)
  | .big n => p (.big n)
  | .float x => p (.float x)
  | .str s => p (.str s)

/-- `Everywhere` of each item. -/
def EverywhereItems (p : Json → Prop) : List Json → Prop
  | [] => True
  | j :: rest => Everywhere p j ∧ EverywhereItems p rest

/-- `Everywhere` of each member. -/
def EverywhereMembers (p : Json → Prop) : List (String × Json) → Prop
  | [] => True
  | (_, j) :: rest => Everywhere p j ∧ EverywhereMembers p rest

end

mutual

/-- Decides `Everywhere`. -/
def decideEverywhere (p : Json → Prop) [DecidablePred p] : (j : Json) → Decidable (Everywhere p j)
  | .arr items => @instDecidableAnd (p (.arr items)) _ _ (decideEverywhereItems p items)
  | .obj members => @instDecidableAnd (p (.obj members)) _ _ (decideEverywhereMembers p members)
  | .null => inferInstanceAs (Decidable (p .null))
  | .bool b => inferInstanceAs (Decidable (p (.bool b)))
  | .int n => inferInstanceAs (Decidable (p (.int n)))
  | .big n => inferInstanceAs (Decidable (p (.big n)))
  | .float x => inferInstanceAs (Decidable (p (.float x)))
  | .str s => inferInstanceAs (Decidable (p (.str s)))

/-- Decides `EverywhereItems`. -/
def decideEverywhereItems (p : Json → Prop) [DecidablePred p] :
    (items : List Json) → Decidable (EverywhereItems p items)
  | [] => isTrue trivial
  | j :: rest => @instDecidableAnd _ _ (decideEverywhere p j) (decideEverywhereItems p rest)

/-- Decides `EverywhereMembers`. -/
def decideEverywhereMembers (p : Json → Prop) [DecidablePred p] :
    (members : List (String × Json)) → Decidable (EverywhereMembers p members)
  | [] => isTrue trivial
  | (_, j) :: rest => @instDecidableAnd _ _ (decideEverywhere p j) (decideEverywhereMembers p rest)

end

instance (p : Json → Prop) [DecidablePred p] : DecidablePred (Everywhere p) := decideEverywhere p

variable {p q : Json → Prop} {j : Json} {items : List Json} {members : List (String × Json)}

/-- What is demanded everywhere in an array is demanded of it and everywhere in its items. -/
theorem everywhere_arr :
    (arr items).Everywhere p ↔ p (arr items) ∧ ∀ j ∈ items, j.Everywhere p := by
  have hitems : EverywhereItems p items ↔ ∀ j ∈ items, j.Everywhere p := by
    induction items with
    | nil => simp [EverywhereItems]
    | cons j rest ih => rw [EverywhereItems, ih, List.forall_mem_cons]
  exact and_congr_right fun _ => hitems

/-- What is demanded everywhere in an object is demanded of it and everywhere in its members. -/
theorem everywhere_obj :
    (obj members).Everywhere p ↔ p (obj members) ∧ ∀ member ∈ members, member.2.Everywhere p := by
  have hmembers : EverywhereMembers p members ↔ ∀ member ∈ members, member.2.Everywhere p := by
    induction members with
    | nil => simp [EverywhereMembers]
    | cons member rest ih => rw [EverywhereMembers, ih, List.forall_mem_cons]
  exact and_congr_right fun _ => hmembers

namespace Everywhere

theorem here (h : j.Everywhere p) : p j := by
  cases j with
  | arr | obj => exact h.1
  | _ => exact h

theorem item (h : (arr items).Everywhere p) (hj : j ∈ items) : j.Everywhere p :=
  (everywhere_arr.1 h).2 j hj

theorem member (h : (obj members).Everywhere p) {member : String × Json} (hmember : member ∈ members) :
    member.2.Everywhere p :=
  (everywhere_obj.1 h).2 member hmember

end Everywhere

/-! ### Sorted trees -/

/-- The members of an object are sorted by name, without repetitions. -/
def SortedHere : Json → Prop
  | .obj members => Members.Sorted members
  | .null | .bool _ | .int _ | .big _ | .float _ | .str _ | .arr _ => True

instance : DecidablePred SortedHere
  | .obj members => inferInstanceAs (Decidable (Members.Sorted members))
  | .null | .bool _ | .int _ | .big _ | .float _ | .str _ | .arr _ => isTrue trivial

/-- The members of every object are sorted by name, without repetitions. -/
abbrev Canonical (j : Json) : Prop := j.Everywhere SortedHere

theorem canonicalItems_eq_map (items : List Json) :
    canonicalItems items = items.map canonical := by
  induction items with
  | nil => rfl
  | cons j rest ih => rw [canonicalItems, ih, List.map_cons]

theorem canonicalMembers_eq_map (members : List (String × Json)) :
    canonicalMembers members = Members.mapEntries canonical members := by
  induction members with
  | nil => rfl
  | cons member rest ih =>
      rw [canonicalMembers, ih]
      rfl

theorem canonical_arr (items : List Json) : (arr items).canonical = .arr (items.map canonical) := by
  rw [canonical, canonicalItems_eq_map]

theorem canonical_obj (members : List (String × Json)) :
    (obj members).canonical = .obj (Members.ofList (Members.mapEntries canonical members)) := by
  rw [canonical, canonicalMembers_eq_map]

/-- **Sorting fulfils everywhere what it fulfils for each tree.** -/
theorem Everywhere.canonical (h : j.Everywhere p) (hcanonical : ∀ j, p j → q j.canonical) :
    j.canonical.Everywhere q := by
  induction j with
  | arr items ih =>
      have hhere := hcanonical _ h.here
      rw [canonical_arr] at hhere ⊢
      exact everywhere_arr.2 ⟨hhere, List.forall_mem_map.2 fun j hj => ih j hj (h.item hj)⟩
  | obj members ih =>
      have hhere := hcanonical _ h.here
      rw [canonical_obj] at hhere ⊢
      refine everywhere_obj.2 ⟨hhere, Members.forall_mem_ofList_mapEntries fun member hmember => ?_⟩
      exact ih member hmember (h.member hmember)
  | _ => exact hcanonical _ h

/-- Sorting leaves a sorted tree as it is. -/
theorem canonical_eq_self (h : j.Canonical) : j.canonical = j := by
  induction j with
  | arr items ih =>
      have hself : items.map canonical = items := by
        conv_rhs => rw [← List.map_id items]
        exact List.map_congr_left fun j hj => ih j hj (h.item hj)
      rw [canonical_arr, hself]
  | obj members ih =>
      have hself : Members.mapEntries canonical members = members := by
        conv_rhs => rw [← List.map_id members]
        exact List.map_congr_left fun member hmember =>
          Prod.ext rfl (ih member hmember (h.member hmember))
      have hsorted : Members.Sorted members := h.here
      rw [canonical_obj, hself, Members.ofList_eq_self hsorted]
  | _ => rfl

/-- A tree that was sorted fulfils everywhere what each such tree fulfils. -/
theorem everywhere_canonical (h : ∀ j, p (canonical j)) (j : Json) : j.canonical.Everywhere p := by
  have hanywhere : j.Everywhere fun _ => True := by
    induction j with
    | arr items ih => exact everywhere_arr.2 ⟨trivial, ih⟩
    | obj members ih => exact everywhere_obj.2 ⟨trivial, ih⟩
    | _ => trivial
  exact hanywhere.canonical fun j _ => h j

/-- A tree that was sorted is sorted. -/
theorem sorted_canonical (j : Json) : j.canonical.Canonical := by
  refine everywhere_canonical (fun j => ?_) j
  cases j with
  | obj members =>
      rw [canonical_obj]
      exact Members.sorted_ofList _
  | _ => trivial

/-- Sorting the members of a sorted document changes nothing. -/
theorem canonical_canonical (j : Json) : j.canonical.canonical = j.canonical :=
  canonical_eq_self (sorted_canonical j)

theorem canonical_ne_null (h : j ≠ .null) : j.canonical ≠ .null := by
  cases j with
  | null => exact absurd rfl h
  | _ => simp [Json.canonical]

end Json

end Conform
