/-
**Properties of all values within a value.**

A property of values may be demanded of a value and of every value within it, as that its objects are
sorted, that its names are clean, or that its floats are finite.

Main definitions:

* `Value.Everywhere` — a property of a value and of every value within it;
* `Value.WellFormed` — the members of every object are sorted by name.

Main results:

* `Value.induct` — induction over values;
* `Value.everywhere_array`, `Value.everywhere_object` — a demand on an array or an object.
-/

import Conform.Proofs.Members
import Conform.Value.Basic

set_option relaxedAutoImplicit false
set_option autoImplicit false

namespace Conform

/-- Induction over a value and the values within it. -/
@[elab_as_elim, induction_eliminator]
theorem Value.induct {motive : Value → Prop} (null : motive .null) (bool : ∀ b, motive (.bool b))
    (int : ∀ n, motive (.int n)) (float : ∀ x, motive (.float x))
    (string : ∀ s, motive (.string s)) (date : ∀ d, motive (.date d))
    (datetime : ∀ t, motive (.datetime t))
    (array : ∀ items, (∀ v ∈ items, motive v) → motive (.array items))
    (object : ∀ members, (∀ member ∈ members, motive member.2) → motive (.object members))
    (v : Value) : motive v := by
  refine Value.rec (motive_2 := fun items => ∀ v ∈ items, motive v)
    (motive_3 := fun members => ∀ member ∈ members, motive member.2)
    (motive_4 := fun member => motive member.2)
    null bool int float string date datetime array object ?_ ?_ ?_ ?_ ?_ v
  · exact List.forall_mem_nil _
  · exact fun _ _ hhead htail => List.forall_mem_cons.2 ⟨hhead, htail⟩
  · exact List.forall_mem_nil _
  · exact fun _ _ hhead htail => List.forall_mem_cons.2 ⟨hhead, htail⟩
  · exact fun _ _ h => h

namespace Value

/-! ### Demands on all values -/

mutual

/-- The property holds of the value and of every value within it. -/
def Everywhere (p : Value → Prop) : Value → Prop
  | array items => p (array items) ∧ EverywhereItems p items
  | object members => p (object members) ∧ EverywhereMembers p members
  | null => p null
  | bool b => p (bool b)
  | int n => p (int n)
  | float x => p (float x)
  | string s => p (string s)
  | date d => p (date d)
  | datetime t => p (datetime t)

/-- `Everywhere` of each item. -/
def EverywhereItems (p : Value → Prop) : List Value → Prop
  | [] => True
  | v :: rest => Everywhere p v ∧ EverywhereItems p rest

/-- `Everywhere` of each member. -/
def EverywhereMembers (p : Value → Prop) : List (String × Value) → Prop
  | [] => True
  | (_, v) :: rest => Everywhere p v ∧ EverywhereMembers p rest

end

mutual

/-- Decides `Everywhere`. -/
def decideEverywhere (p : Value → Prop) [DecidablePred p] :
    (v : Value) → Decidable (Everywhere p v)
  | array items => @instDecidableAnd (p (array items)) _ _ (decideEverywhereItems p items)
  | object members => @instDecidableAnd (p (object members)) _ _ (decideEverywhereMembers p members)
  | null => inferInstanceAs (Decidable (p null))
  | bool b => inferInstanceAs (Decidable (p (bool b)))
  | int n => inferInstanceAs (Decidable (p (int n)))
  | float x => inferInstanceAs (Decidable (p (float x)))
  | string s => inferInstanceAs (Decidable (p (string s)))
  | date d => inferInstanceAs (Decidable (p (date d)))
  | datetime t => inferInstanceAs (Decidable (p (datetime t)))

/-- Decides `EverywhereItems`. -/
def decideEverywhereItems (p : Value → Prop) [DecidablePred p] :
    (items : List Value) → Decidable (EverywhereItems p items)
  | [] => isTrue trivial
  | v :: rest => @instDecidableAnd _ _ (decideEverywhere p v) (decideEverywhereItems p rest)

/-- Decides `EverywhereMembers`. -/
def decideEverywhereMembers (p : Value → Prop) [DecidablePred p] :
    (members : List (String × Value)) → Decidable (EverywhereMembers p members)
  | [] => isTrue trivial
  | (_, v) :: rest => @instDecidableAnd _ _ (decideEverywhere p v) (decideEverywhereMembers p rest)

end

instance (p : Value → Prop) [DecidablePred p] : DecidablePred (Everywhere p) := decideEverywhere p

variable {p : Value → Prop} {v : Value} {items : List Value} {members : List (String × Value)}

/-- What is demanded everywhere in an array is demanded of it and everywhere in its items. -/
theorem everywhere_array :
    (array items).Everywhere p ↔ p (array items) ∧ ∀ v ∈ items, v.Everywhere p := by
  have hitems : EverywhereItems p items ↔ ∀ v ∈ items, v.Everywhere p := by
    induction items with
    | nil => simp [EverywhereItems]
    | cons v rest ih => rw [EverywhereItems, ih, List.forall_mem_cons]
  exact and_congr_right fun _ => hitems

/-- What is demanded everywhere in an object is demanded of it and everywhere in its members. -/
theorem everywhere_object : (object members).Everywhere p ↔
    p (object members) ∧ ∀ member ∈ members, member.2.Everywhere p := by
  have hmembers : EverywhereMembers p members ↔ ∀ member ∈ members, member.2.Everywhere p := by
    induction members with
    | nil => simp [EverywhereMembers]
    | cons member rest ih => rw [EverywhereMembers, ih, List.forall_mem_cons]
  exact and_congr_right fun _ => hmembers

namespace Everywhere

theorem here (h : v.Everywhere p) : p v := by
  cases v with
  | array | object => exact h.1
  | _ => exact h

theorem item (h : (array items).Everywhere p) (hv : v ∈ items) : v.Everywhere p :=
  (everywhere_array.1 h).2 v hv

theorem member (h : (object members).Everywhere p) {member : String × Value}
    (hmember : member ∈ members) : member.2.Everywhere p :=
  (everywhere_object.1 h).2 member hmember

/-- What is demanded everywhere is found under any name, if null fulfils it. -/
theorem find? (h : (object members).Everywhere p) (hnull : p null) (name : String) :
    ((Members.find? members name).getD null).Everywhere p := by
  cases hfind : Members.find? members name with
  | none => exact hnull
  | some v => exact h.member (Members.mem_of_find?_eq_some hfind)

end Everywhere

/-! ### Sorted values -/

/-- The members of an object are sorted by name, without repetitions. -/
def SortedHere : Value → Prop
  | object members => Members.Sorted members
  | null | bool _ | int _ | float _ | string _ | date _ | datetime _ | array _ => True

instance : DecidablePred SortedHere
  | object members => inferInstanceAs (Decidable (Members.Sorted members))
  | null | bool _ | int _ | float _ | string _ | date _ | datetime _ | array _ => isTrue trivial

/-- The members of every object are sorted by name, without repetitions. -/
abbrev WellFormed (v : Value) : Prop := v.Everywhere SortedHere

end Value

end Conform
