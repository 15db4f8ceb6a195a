/-
**Plain values.**

A value that comes from a document is *plain*: it holds no dates and no instants, its floats are
finite, and its objects are sorted.  Of a plain value nothing is lost on the way to a document and
back.

Main definitions:

* `Value.Plain` — the values that come from documents.

Main results:

* `Value.plain_ofJson` — the value of a finite document is plain;
* `Value.ofJson_toJson` — **a plain value is the value of its document**.
-/

import Conform.Proofs.Binary64.Nearest
import Conform.Proofs.Json.Finite
import Conform.Proofs.Value.Everywhere
import Conform.Value.Json

set_option relaxedAutoImplicit false
set_option autoImplicit false

namespace Conform

/-! ### Items and members -/

namespace Value

theorem ofJsonItems_eq_map (items : List Json) : ofJsonItems items = items.map ofJson := by
  induction items with
  | nil => rfl
  | cons j rest ih => rw [ofJsonItems, ih, List.map_cons]

theorem ofJsonMembers_eq_map (members : List (String × Json)) :
    ofJsonMembers members = Members.mapEntries ofJson members := by
  induction members with
  | nil => rfl
  | cons member rest ih =>
      rw [ofJsonMembers, ih]
      rfl

theorem toJsonItems_eq_map (items : List Value) : toJsonItems items = items.map toJson := by
  induction items with
  | nil => rfl
  | cons v rest ih => rw [toJsonItems, ih, List.map_cons]

theorem toJsonMembers_eq_map (members : List (String × Value)) :
    toJsonMembers members = Members.mapEntries toJson members := by
  induction members with
  | nil => rfl
  | cons member rest ih =>
      rw [toJsonMembers, ih]
      rfl

end Value

/-! ### Plain values -/

namespace Value

/-- The value is no date and no instant; if it is a float it is finite, if an object it is sorted. -/
def PlainHere : Value → Prop
  | date _ | datetime _ => False
  | float x => x.IsFinite
  | object members => Members.Sorted members
  | null | bool _ | int _ | string _ | array _ => True

instance : DecidablePred PlainHere
  | date _ | datetime _ => isFalse id
  | float x => inferInstanceAs (Decidable x.IsFinite)
  | object members => inferInstanceAs (Decidable (Members.Sorted members))
  | null | bool _ | int _ | string _ | array _ => isTrue trivial

/-- No dates, no instants, finite floats only, and every object sorted. -/
abbrev Plain (v : Value) : Prop := v.Everywhere PlainHere

/-- The value of a finite document is plain. -/
theorem plain_ofJson {j : Json} (h : j.Finite) : (ofJson j).Plain := by
  induction j with
  | null | bool b | int n | str s => trivial
  | big n =>
      -- an integer beyond those of 64 bits with a sign becomes a float
      exact Binary64.isFinite_ofInt (Int.natAbs_natCast _ ▸ n.toNat_lt)
  | float x => exact h
  | arr items ih =>
      rw [ofJson, ofJsonItems_eq_map]
      exact everywhere_array.2 ⟨trivial, List.forall_mem_map.2 fun j hj => ih j hj (h.item hj)⟩
  | obj members ih =>
      rw [ofJson, ofJsonMembers_eq_map]
      refine everywhere_object.2 ⟨Members.sorted_ofList _,
        Members.forall_mem_ofList_mapEntries fun member hmember => ?_⟩
      exact ih member hmember (h.member hmember)

/-- A sorted object comes back with each member as it comes back alone. -/
theorem ofJson_toJson_object {members : Members Value} (h : Members.Sorted members) :
    ofJson (object members).toJson =
      object (Members.mapEntries (fun v => ofJson v.toJson) members) := by
  have hmap : Members.mapEntries ofJson (Members.mapEntries toJson members) =
      Members.mapEntries (fun v => ofJson v.toJson) members := List.map_map
  have hsorted : Members.Sorted (Members.mapEntries (fun v => ofJson v.toJson) members) :=
    (Members.sorted_congr (Members.names_mapEntries _ members)).2 h
  rw [toJson, ofJson, toJsonMembers_eq_map, ofJsonMembers_eq_map, hmap,
    Members.ofList_eq_self hsorted]

/-- **A plain value is the value of its document.** -/
theorem ofJson_toJson {v : Value} (h : v.Plain) : ofJson v.toJson = v := by
  induction v with
  | null | bool b | int n | string s => rfl
  | float x =>
      have hfinite : x.IsFinite := h
      rw [toJson, if_pos hfinite, ofJson]
  | date d | datetime t => exact h.elim
  | array items ih =>
      rw [toJson, ofJson, toJsonItems_eq_map, ofJsonItems_eq_map, List.map_map]
      refine congrArg array ?_
      conv_rhs => rw [← List.map_id items]
      exact List.map_congr_left fun v hv => ih v hv (h.item hv)
  | object members ih =>
      rw [ofJson_toJson_object h.here]
      refine congrArg object ?_
      conv_rhs => rw [← List.map_id members]
      refine List.map_congr_left fun member hmember => ?_
      exact Prod.ext rfl (ih member hmember (h.member hmember))

end Value

end Conform
