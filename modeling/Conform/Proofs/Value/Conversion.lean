/-
**Values, documents and serializers agree.**

There are three recursions over values: a document becomes a value, a value becomes a document, and a
value is handed to a serializer part by part.  Where both sides can hold the same data nothing is lost
on the way there and back; where they cannot, the shape is kept all the same.  The serializer that
builds a document builds the one that the value becomes.

The members of an object of a document stand in any order.  As a table of names it has them sorted,
which is how it comes back.

Main definitions:

* `Json.Signed` — every integer of a document is one of 64 signed bits;
* `Json.at?`, `Value.at?` — what a location leads to.

Main results:

* `Value.toJson_ofJson` — a document comes back with its members in order;
* `Value.at?_ofJson` — **the same locations lead into a document and into its value**;
* `Value.serialize_tree` — **a value is serialized to its document**;
* `Value.conversions_agree` — all of it together.
-/

import Conform.Proofs.Limits
import Conform.Proofs.Location
import Conform.Value.Serializer

set_option relaxedAutoImplicit false
set_option autoImplicit false

namespace Conform

/-! ### Tables of converted entries -/

namespace Members

variable {α β : Type}

theorem mapEntries_insert (f : α → β) (ms : Members α) (name : String) (a : α) :
    mapEntries f (Members.insert ms name a) = Members.insert (mapEntries f ms) name (f a) := by
  induction ms with
  | nil => rfl
  | cons e rest ih =>
      obtain ⟨k, b⟩ := e
      have hcons : mapEntries f ((k, b) :: rest) = (k, f b) :: mapEntries f rest := rfl
      rw [hcons, Members.insert, Members.insert]
      split
      · rfl
      · split
        · rfl
        · exact congrArg _ ih

/-- The entry that is last in a list comes last into its table. -/
theorem ofList_append_singleton (entries : List (String × α)) (name : String) (a : α) :
    ofList (entries ++ [(name, a)]) = Members.insert (ofList entries) name a :=
  List.foldl_append

/-- The table of converted entries is the table of the entries, converted. -/
theorem mapEntries_ofList (f : α → β) (entries : List (String × α)) :
    mapEntries f (ofList entries) = ofList (mapEntries f entries) := by
  induction entries using List.reverseRecOn with
  | nil => rfl
  | append_singleton entries e ih =>
      have happend : mapEntries f (entries ++ [e]) = mapEntries f entries ++ [(e.1, f e.2)] :=
        List.map_append
      rw [happend, ofList_append_singleton, ofList_append_singleton, mapEntries_insert, ih]

/-- Of the entries of one name the table has the last. -/
theorem find?_ofList (entries : List (String × α)) (name : String) :
    find? (ofList entries) name = find? entries.reverse name := by
  induction entries using List.reverseRecOn with
  | nil => rfl
  | append_singleton entries e ih =>
      rw [ofList_append_singleton, find?_insert, ih, List.reverse_concat', find?_cons]

end Members

/-! ### Documents -/

namespace Json

/-- The integer, if the document is one, is one of 64 signed bits. -/
def SignedHere : Json → Prop
  | .big _ => False
  | .null | .bool _ | .int _ | .float _ | .str _ | .arr _ | .obj _ => True

instance : DecidablePred SignedHere
  | .big _ => isFalse id
  | .null | .bool _ | .int _ | .float _ | .str _ | .arr _ | .obj _ => isTrue trivial

/-- Every integer of the document is one of 64 signed bits. -/
abbrev Signed (j : Json) : Prop := j.Everywhere SignedHere

/-- What a step leads to: an item, or the last member of a name. -/
def part? (j : Json) : Segment → Option Json
  | .name name => j.member? name
  | .index i => match j with
    | .arr items => items[i]?
    | _ => none

/-- What a location leads to. -/
def at? (j : Json) : Location → Option Json
  | [] => some j
  | segment :: rest => (j.part? segment).bind fun part => part.at? rest

end Json

/-! ### Documents and their values -/

namespace Value

/-- What a step leads to: an item, or the member of a name. -/
def part? (v : Value) : Segment → Option Value
  | .name name => v.get? name
  | .index i => v.asArray?.bind fun items => items[i]?

/-- What a location leads to. -/
def at? (v : Value) : Location → Option Value
  | [] => some v
  | segment :: rest => (v.part? segment).bind fun part => part.at? rest

/-- A document without greater integers comes back with its members in order. -/
theorem toJson_ofJson {j : Json} (hfinite : j.Finite) (hsigned : j.Signed) :
    (ofJson j).toJson = j.canonical := by
  induction j with
  | big n => exact hsigned.elim
  | float x =>
      have hx : x.IsFinite := hfinite
      rw [ofJson, toJson, if_pos hx, Json.canonical]
  | arr items ih =>
      rw [ofJson, toJson, ofJsonItems_eq_map, toJsonItems_eq_map, Json.canonical_arr, List.map_map]
      exact congrArg Json.arr (List.map_congr_left fun j hj =>
        ih j hj (hfinite.item hj) (hsigned.item hj))
  | obj members ih =>
      have hmembers : Members.mapEntries toJson (Members.mapEntries ofJson members) =
          Members.mapEntries Json.canonical members := by
        refine List.map_map.trans (List.map_congr_left fun member hmember => Prod.ext rfl ?_)
        exact ih member hmember (hfinite.member hmember) (hsigned.member hmember)
      rw [ofJson, toJson, ofJsonMembers_eq_map, toJsonMembers_eq_map, Members.mapEntries_ofList,
        hmembers, Json.canonical_obj]
  | _ => rfl

/-- The part of a document's value is the value of its part. -/
theorem part?_ofJson (j : Json) (segment : Segment) :
    (ofJson j).part? segment = (j.part? segment).map ofJson := by
  cases segment with
  | name name =>
      cases j with
      | obj members =>
          have hreverse : (Members.mapEntries ofJson members).reverse =
              Members.mapEntries ofJson members.reverse := List.map_reverse.symm
          rw [part?, Json.part?, ofJson, ofJsonMembers_eq_map]
          show Members.find? (Members.ofList _) name = (Members.find? members.reverse name).map ofJson
          rw [Members.find?_ofList, hreverse, Members.find?_mapEntries]
      | _ => rfl
  | index i =>
      cases j with
      | arr items =>
          rw [part?, Json.part?, ofJson, ofJsonItems_eq_map]
          exact List.getElem?_map
      | _ => rfl

/-- **What a location leads to in the value of a document is the value of what it leads to in the
document.** -/
theorem at?_ofJson (j : Json) (l : Location) : (ofJson j).at? l = (j.at? l).map ofJson := by
  induction l generalizing j with
  | nil => rfl
  | cons segment rest ih =>
      rw [at?, Json.at?, part?_ofJson]
      cases j.part? segment with
      | none => rfl
      | some part => exact ih part

/-- The document of a value with sorted members has its members in order. -/
theorem canonical_toJson {v : Value} (h : v.WellFormed) : v.toJson.Canonical := by
  induction v with
  | float x =>
      rw [toJson]
      split <;> trivial
  | array items ih =>
      rw [toJson, toJsonItems_eq_map]
      exact Json.everywhere_arr.2 ⟨trivial, List.forall_mem_map.2 fun v hv => ih v hv (h.item hv)⟩
  | object members ih =>
      rw [toJson, toJsonMembers_eq_map]
      refine Json.everywhere_obj.2
        ⟨(Members.sorted_congr (Members.names_mapEntries _ members)).2 h.here, ?_⟩
      exact List.forall_mem_map.2 fun member hmember => ih member hmember (h.member hmember)
  | _ => trivial

/-! ### Serializers -/

variable {m : Type → Type} [Monad m] [LawfulMonad m]

theorem tree_item (items : List Json) (j : Json) :
    (Serializer.tree (m := m)).item items (pure j) = pure (items ++ [j]) := by
  simp [Serializer.tree]

theorem tree_member (members : Members Json) (name : String) (j : Json) :
    (Serializer.tree (m := m)).member members name (pure j) =
      pure (Members.insert members name j) := by
  simp [Serializer.tree]

/-- Items are added behind those that are there. -/
theorem serializeItems_tree {items : List Value}
    (h : ∀ v ∈ items, serialize (m := m) .tree v = pure v.toJson.canonical) :
    ∀ front : List Json, serializeItems (m := m) .tree front items =
      pure (front ++ items.map fun v => v.toJson.canonical) := by
  induction items with
  | nil => simp [serializeItems]
  | cons v rest ih =>
      obtain ⟨hv, hrest⟩ := List.forall_mem_cons.1 h
      intro front
      rw [serializeItems, hv, tree_item, pure_bind, ih hrest, List.append_assoc]
      rfl

/-- Members are put in order among those that are there. -/
theorem serializeMembers_tree {members : List (String × Value)}
    (h : ∀ member ∈ members, serialize (m := m) .tree member.2 = pure member.2.toJson.canonical) :
    ∀ front : Members Json, serializeMembers (m := m) .tree front members =
      pure ((Members.mapEntries (fun v => v.toJson.canonical) members).foldl
        (fun ms e => Members.insert ms e.1 e.2) front) := by
  induction members with
  | nil => exact fun _ => rfl
  | cons member rest ih =>
      obtain ⟨hmember, hrest⟩ := List.forall_mem_cons.1 h
      intro front
      rw [serializeMembers, hmember, tree_member, pure_bind, ih hrest]
      rfl

/-- **A value is serialized to its document**, with the members in order. -/
theorem serialize_tree (v : Value) : serialize (m := m) .tree v = pure v.toJson.canonical := by
  induction v with
  | float x =>
      rw [serialize, toJson]
      split
      · next hfinite => simp [Serializer.tree, hfinite, Json.canonical]
      · next hfinite => simp [Serializer.tree, hfinite, Json.canonical]
  | array items ih =>
      have hbegin : (Serializer.tree (m := m)).beginArray items.length = pure [] := rfl
      rw [serialize, hbegin, pure_bind, serializeItems_tree ih, pure_bind, toJson,
        Json.canonical_arr, toJsonItems_eq_map, List.map_map]
      rfl
  | object members ih =>
      have hbegin : (Serializer.tree (m := m)).beginObject members.length = pure [] := rfl
      have hmap : Members.mapEntries Json.canonical (Members.mapEntries toJson members) =
          Members.mapEntries (fun v => v.toJson.canonical) members := List.map_map
      rw [serialize, hbegin, pure_bind, serializeMembers_tree ih, pure_bind, toJson,
        Json.canonical_obj, toJsonMembers_eq_map, hmap]
      rfl
  | _ => rfl

/-- **Conversions and serializers agree.**  A document without greater integers comes back as it is; any
document keeps its shape; a value without dates, instants and floats that are no numbers comes back as
it is; and every value is serialized to its document, in which such floats are null. -/
theorem conversions_agree :
    (∀ j : Json, j.Canonical → j.Finite → j.Signed → (ofJson j).toJson = j) ∧
      (∀ j : Json, j.Canonical → (ofJson j).depth = j.depth ∧ (ofJson j).size = j.size ∧
        ∀ l : Location, (ofJson j).at? l = (j.at? l).map ofJson) ∧
      (∀ v : Value, v.Plain → ofJson v.toJson = v) ∧
      (∀ v : Value, v.WellFormed → ∀ (m : Type → Type) [Monad m] [LawfulMonad m],
        serialize (m := m) .tree v = pure v.toJson) ∧
      ∀ x : Binary64, ¬x.IsFinite → (float x).toJson = .null := by
  refine ⟨fun j hj hfinite hsigned => ?_, fun j hj => ?_, fun v => ofJson_toJson,
    fun v hv m _ _ => ?_, fun x hx => if_neg hx⟩
  · rw [toJson_ofJson hfinite hsigned, Json.canonical_eq_self hj]
  · obtain ⟨hdepth, hsize⟩ := depth_size_ofJson hj
    exact ⟨hdepth, hsize, at?_ofJson j⟩
  · rw [serialize_tree, Json.canonical_eq_self (canonical_toJson hv)]

/-- A record of a measurement: negative zero, a whole number as a float, and an integer. -/
def measured : Json :=
  .obj [("error", .float ⟨0x8000000000000000⟩), ("runs", .arr [.float ⟨0x4000000000000000⟩, .int 2])]

/-- A record with an integer beyond those of 64 signed bits. -/
def counted : Json := .obj [("seen", .arr [.big 0xFFFFFFFFFFFFFFFF])]

/-- The value of a record with a date, and with a float that is no number. -/
def recorded : Value := .object [("day", .date ⟨0⟩), ("mean", .array [.float Binary64.nan])]

theorem conversions_agree_record : (ofJson measured).toJson = measured ∧
    ((ofJson counted).depth = 3 ∧ (ofJson counted).size = 3 ∧
      (ofJson counted).at? [.name "seen", .index 0] =
        some (float ⟨0x43F0000000000000⟩)) ∧
    ofJson (ofJson measured).toJson = ofJson measured ∧
    serialize (m := Id) .tree recorded =
      pure (.obj [("day", .str "1970-01-01"), ("mean", .arr [.null])]) := by
  obtain ⟨hback, hshape, hvalue, hserial, hnull⟩ := conversions_agree
  have hmeasured : measured.Finite := by decide
  have hcounted : counted.Canonical := by decide
  have hrecorded : recorded.WellFormed := by decide
  obtain ⟨hdepth, hsize, hat⟩ := hshape counted hcounted
  refine ⟨hback measured (by decide) hmeasured (by decide), ⟨hdepth, hsize, ?_⟩,
    hvalue _ (plain_ofJson hmeasured), ?_⟩
  · rw [hat]
    have hround : Binary64.ofInt (0xFFFFFFFFFFFFFFFF : UInt64).toNat = ⟨0x43F0000000000000⟩ := by
      decide +kernel
    show some (float (Binary64.ofInt _)) = _
    rw [hround]
  · rw [hserial recorded hrecorded Id]
    rfl

end Value

end Conform
