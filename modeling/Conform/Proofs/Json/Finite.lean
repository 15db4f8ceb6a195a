/-
**Documents that are read.**

Floats of documents are numbers, as there is no way to write another; a document is *finite* if all of
them are.  Whatever is read is finite: the reader refuses numbers that are too great, and all it does
afterwards is to choose among what it has read.

More is true of what is read.  The reader takes an integer of 64 signed bits as an `int`, so no `big`
is one; and it refuses what is nested too deeply.  A document is *legible* to a depth if its numbers are
those of the reader and it is nested no deeper.

Main definitions:

* `Json.Finite` — every float of a document is finite;
* `Json.IsNumber` — the numbers that the reader yields;
* `Json.Legible` — a document has such numbers, and is nested to a given depth at most;
* `Source.Proper` — the usable numbers of a document as written are those of the reader.

Main results:

* `Source.proper_value` — the numbers of whatever is read are those of the reader;
* `Json.legible_of_read?`, `Json.legible_of_readRecord?` — **every document that is read is legible**;
* `Json.finite_of_read?`, `Json.finite_of_readRecord?` — **every document that is read is finite**.
-/

import Conform.Json.Reader
import Conform.Proofs.Json.Everywhere

set_option relaxedAutoImplicit false
set_option autoImplicit false

namespace Conform

/-! ### Finite documents -/

namespace Json

/-- The float, if the document is one, is finite. -/
def FiniteHere : Json → Prop
  | .float x => x.IsFinite
  | .null | .bool _ | .int _ | .big _ | .str _ | .arr _ | .obj _ => True

instance : DecidablePred FiniteHere
  | .float x => inferInstanceAs (Decidable x.IsFinite)
  | .null | .bool _ | .int _ | .big _ | .str _ | .arr _ | .obj _ => isTrue trivial

/-- Every float of the document is finite. -/
abbrev Finite (j : Json) : Prop := j.Everywhere FiniteHere

/-! ### Legible documents -/

/-- A number as the reader yields it: a float is finite, and a `big` is too great for an `int`. -/
def IsNumber : Json → Prop
  | .int _ => True
  | .big n => 0x8000000000000000 ≤ n.toNat
  | .float x => x.IsFinite
  | .null | .bool _ | .str _ | .arr _ | .obj _ => False

mutual

/-- The numbers of the document are those of the reader, and it is nested to the depth at most. -/
def Legible (depth : Nat) : Json → Prop
  | .null | .bool _ | .str _ => True
  | .int n => IsNumber (.int n)
  | .big n => IsNumber (.big n)
  | .float x => IsNumber (.float x)
  | .arr items =>
    match depth with
    | 0 => False
    | depth + 1 => LegibleItems depth items
  | .obj members =>
    match depth with
    | 0 => False
    | depth + 1 => LegibleMembers depth members

/-- Every item is legible. -/
def LegibleItems (depth : Nat) : List Json → Prop
  | [] => True
  | j :: rest => Legible depth j ∧ LegibleItems depth rest

/-- Every member is legible. -/
def LegibleMembers (depth : Nat) : List (String × Json) → Prop
  | [] => True
  | (_, j) :: rest => Legible depth j ∧ LegibleMembers depth rest

end

theorem legible_of_isNumber {j : Json} (depth : Nat) (h : j.IsNumber) : j.Legible depth := by
  cases j with
  | int | big | float => exact h
  | _ => exact h.elim

theorem legible_arr {depth : Nat} {items : List Json} :
    (arr items).Legible depth ↔ ∃ below, depth = below + 1 ∧ ∀ j ∈ items, j.Legible below := by
  have hitems : ∀ below, LegibleItems below items ↔ ∀ j ∈ items, j.Legible below := by
    intro below
    induction items with
    | nil => simp [LegibleItems]
    | cons j rest ih => rw [LegibleItems, ih, List.forall_mem_cons]
  cases depth with
  | zero => simp [Legible]
  | succ below => simp [Legible, hitems]

theorem legible_obj {depth : Nat} {members : List (String × Json)} :
    (obj members).Legible depth ↔
      ∃ below, depth = below + 1 ∧ ∀ member ∈ members, member.2.Legible below := by
  have hmembers : ∀ below, LegibleMembers below members ↔
      ∀ member ∈ members, member.2.Legible below := by
    intro below
    induction members with
    | nil => simp [LegibleMembers]
    | cons member rest ih => rw [LegibleMembers, ih, List.forall_mem_cons]
  cases depth with
  | zero => simp [Legible]
  | succ below => simp [Legible, hmembers]

/-- A legible document is finite. -/
theorem Legible.finite {j : Json} : ∀ {depth : Nat}, j.Legible depth → j.Finite := by
  induction j with
  | float x => exact fun h => h
  | arr items ih =>
      intro depth h
      obtain ⟨below, -, h⟩ := legible_arr.1 h
      exact everywhere_arr.2 ⟨trivial, fun j hj => ih j hj (h j hj)⟩
  | obj members ih =>
      intro depth h
      obtain ⟨below, -, h⟩ := legible_obj.1 h
      exact everywhere_obj.2 ⟨trivial, fun member hmember => ih member hmember (h member hmember)⟩
  | _ => exact fun _ => trivial

end Json

/-! ### What is read -/

namespace Source

/-- The number, if it is usable, is one that the reader yields. -/
def ProperNumber (value : Option Json) : Prop := ∀ j, value = some j → j.IsNumber

mutual

/-- Every usable number of the source is one that the reader yields. -/
def Proper : Source → Prop
  | number value => ProperNumber value
  | arr items => ProperItems items
  | obj members => ProperMembers members
  | null | bool _ | str _ => True

/-- Every item is proper. -/
def ProperItems : List Source → Prop
  | [] => True
  | s :: rest => Proper s ∧ ProperItems rest

/-- Every member is proper. -/
def ProperMembers : List (Option String × Source) → Prop
  | [] => True
  | (_, s) :: rest => Proper s ∧ ProperMembers rest

end

theorem properItems_iff {items : List Source} : ProperItems items ↔ ∀ s ∈ items, s.Proper := by
  induction items with
  | nil => simp [ProperItems]
  | cons s rest ih => rw [ProperItems, ih, List.forall_mem_cons]

theorem properMembers_iff {members : List (Option String × Source)} :
    ProperMembers members ↔ ∀ member ∈ members, member.2.Proper := by
  induction members with
  | nil => simp [ProperMembers]
  | cons member rest ih => rw [ProperMembers, ih, List.forall_mem_cons]

theorem properNumber_finite? (x : Binary64) : ProperNumber (finite? x) := by
  intro j h
  rw [finite?] at h
  split at h
  · next hfinite =>
      cases h
      exact hfinite
  · cases h

theorem properNumber_integer? (negative : Bool) (n : Nat) : ProperNumber (integer? negative n) := by
  rw [integer?]
  split
  · split
    · rintro _ ⟨⟩
      trivial
    · exact properNumber_finite? _
  · split
    · rintro _ ⟨⟩
      trivial
    · next hgreat =>
        split
        · -- below the limit of 64 bits nothing is lost
          rintro _ ⟨⟩
          show _ ≤ (UInt64.ofNat n).toNat
          rw [UInt64.toNat_ofNat']
          omega
        · exact properNumber_finite? _

theorem proper_numeral {s rest : List Char} {source : Source}
    (h : numeral s = some (source, rest)) : source.Proper := by
  obtain ⟨⟨whole, s₁⟩, -, h⟩ := Option.bind_eq_some_iff.1 h
  obtain ⟨⟨part, s₂⟩, -, h⟩ := Option.bind_eq_some_iff.1 h
  obtain ⟨⟨power, s₃⟩, -, h⟩ := Option.bind_eq_some_iff.1 h
  cases h
  show ProperNumber _
  -- it is read as an integer if it has neither fraction nor exponent
  split
  · exact properNumber_integer? _ _
  · exact properNumber_finite? _

variable {α : Type} {p : α → Prop} {element : Scan α} {close : Char}

/-- What holds of every element that is read holds of all that are read in a row. -/
theorem forall_of_elements (hp : ∀ {s a rest}, element s = some (a, rest) → p a) :
    ∀ {fuel : Nat} {s : List Char} {as : List α} {rest : List Char},
      elements element close fuel s = some (as, rest) → ∀ a ∈ as, p a := by
  intro fuel
  induction fuel with
  | zero =>
      intro s as rest h
      cases h
  | succ fuel ih =>
      intro s as rest h
      obtain ⟨⟨a, s₁⟩, ha, h⟩ := Option.bind_eq_some_iff.1 h
      simp only at h
      split at h
      · cases h
      · split at h
        · obtain ⟨⟨others, s₂⟩, hothers, h⟩ := Option.bind_eq_some_iff.1 h
          cases h
          exact List.forall_mem_cons.2 ⟨hp ha, ih hothers⟩
        · split at h
          · cases h
            exact List.forall_mem_singleton.2 (hp ha)
          · cases h

theorem forall_of_enclosed (hp : ∀ {s a rest}, element s = some (a, rest) → p a)
    {s rest : List Char} {as : List α} (h : enclosed element close s = some (as, rest)) :
    ∀ a ∈ as, p a := by
  unfold enclosed at h
  split at h
  · cases h
  · split at h
    · cases h
      exact List.forall_mem_nil p
    · exact forall_of_elements hp h

theorem proper_member {value : Scan Source} (hvalue : ∀ {s source rest},
      value s = some (source, rest) → source.Proper) {s rest : List Char}
    {m : Option String × Source} (h : member value s = some (m, rest)) : m.2.Proper := by
  unfold member at h
  split at h
  · obtain ⟨⟨name, s₁⟩, -, h⟩ := Option.bind_eq_some_iff.1 h
    simp only at h
    split at h
    · obtain ⟨⟨v, s₂⟩, hv, h⟩ := Option.bind_eq_some_iff.1 h
      cases h
      exact hvalue hv
    · cases h
  · cases h

/-- The numbers of every source that is read are those of the reader. -/
theorem proper_value : ∀ {fuel : Nat} {s rest : List Char} {source : Source},
    value fuel s = some (source, rest) → source.Proper := by
  intro fuel
  induction fuel with
  | zero =>
      intro s rest source h
      cases h
  | succ fuel ih =>
      intro s rest source h
      rw [value] at h
      split at h
      · cases h
      · cases h
        trivial
      · cases h
        trivial
      · cases h
        trivial
      · obtain ⟨⟨t, s₁⟩, -, h⟩ := Option.map_eq_some_iff.1 h
        cases h
        trivial
      · -- an array, the items of which are read with less fuel
        obtain ⟨⟨items, s₁⟩, hitems, h⟩ := Option.map_eq_some_iff.1 h
        cases h
        exact properItems_iff.2 (forall_of_enclosed ih hitems)
      · -- an object, the values of which are read with less fuel
        obtain ⟨⟨members, s₁⟩, hmembers, h⟩ := Option.map_eq_some_iff.1 h
        cases h
        exact properMembers_iff.2 (forall_of_enclosed (proper_member ih) hmembers)
      · exact proper_numeral h

theorem proper_of_read? {text : String} {source : Source} (h : read? text = some source) :
    source.Proper := by
  unfold read? readChars? at h
  split at h
  · next hvalue =>
      split at h
      · cases h
        exact proper_value hvalue
      · cases h
  · cases h

/-! ### From sources to trees -/

/-- Induction over a source and the sources within it. -/
@[elab_as_elim, induction_eliminator]
theorem induct {motive : Source → Prop} (null : motive .null) (bool : ∀ b, motive (.bool b))
    (number : ∀ value, motive (.number value)) (str : ∀ text, motive (.str text))
    (arr : ∀ items, (∀ s ∈ items, motive s) → motive (.arr items))
    (obj : ∀ members, (∀ member ∈ members, motive member.2) → motive (.obj members))
    (s : Source) : motive s := by
  refine Source.rec (motive_2 := fun items => ∀ s ∈ items, motive s)
    (motive_3 := fun members => ∀ member ∈ members, motive member.2)
    (motive_4 := fun member => motive member.2)
    null bool number str arr obj ?_ ?_ ?_ ?_ ?_ s
  · exact List.forall_mem_nil _
  · exact fun _ _ hhead htail => List.forall_mem_cons.2 ⟨hhead, htail⟩
  · exact List.forall_mem_nil _
  · exact fun _ _ hhead htail => List.forall_mem_cons.2 ⟨hhead, htail⟩
  · exact fun _ _ h => h

theorem forall_of_toJsonItems? {p : Json → Prop} {depth : Nat} {items : List Source} :
    ∀ {js : List Json}, toJsonItems? depth items = some js →
      (∀ s ∈ items, ∀ j, toJson? depth s = some j → p j) → ∀ j ∈ js, p j := by
  induction items with
  | nil =>
      intro js h hp
      cases h
      exact List.forall_mem_nil p
  | cons s rest ih =>
      intro js h hp
      obtain ⟨j, hj, h⟩ := Option.bind_eq_some_iff.1 h
      obtain ⟨others, hothers, h⟩ := Option.bind_eq_some_iff.1 h
      cases h
      obtain ⟨hhead, hrest⟩ := List.forall_mem_cons.1 hp
      exact List.forall_mem_cons.2 ⟨hhead j hj, ih hothers hrest⟩

theorem forall_of_toJsonMembers? {p : Json → Prop} {depth : Nat}
    {members : List (Option String × Source)} :
    ∀ {js : List (String × Json)}, toJsonMembers? depth members = some js →
      (∀ member ∈ members, ∀ j, toJson? depth member.2 = some j → p j) →
        ∀ member ∈ js, p member.2 := by
  induction members with
  | nil =>
      intro js h hp
      cases h
      exact List.forall_mem_nil _
  | cons member rest ih =>
      intro js h hp
      obtain ⟨k, hk, h⟩ := Option.bind_eq_some_iff.1 h
      obtain ⟨j, hj, h⟩ := Option.bind_eq_some_iff.1 h
      obtain ⟨others, hothers, h⟩ := Option.bind_eq_some_iff.1 h
      cases h
      obtain ⟨hhead, hrest⟩ := List.forall_mem_cons.1 hp
      exact List.forall_mem_cons.2 ⟨hhead j hj, ih hothers hrest⟩

/-- The tree of a proper source is legible to the depth to which it was taken. -/
theorem legible_toJson? {source : Source} : ∀ {depth : Nat} {j : Json}, source.Proper →
    toJson? depth source = some j → j.Legible depth := by
  induction source with
  | null | bool b =>
      intro depth j _ h
      cases h
      trivial
  | number value => exact fun hvalue h => Json.legible_of_isNumber _ (hvalue _ h)
  | str text =>
      intro depth j _ h
      obtain ⟨t, -, rfl⟩ := Option.map_eq_some_iff.1 h
      trivial
  | arr items ih =>
      intro depth j hproper h
      cases depth with
      | zero => cases h
      | succ depth =>
          obtain ⟨js, hjs, rfl⟩ := Option.map_eq_some_iff.1 h
          refine Json.legible_arr.2 ⟨depth, rfl, forall_of_toJsonItems? hjs fun s hs j hj => ?_⟩
          exact ih s hs (properItems_iff.1 hproper s hs) hj
  | obj members ih =>
      intro depth j hproper h
      cases depth with
      | zero => cases h
      | succ depth =>
          obtain ⟨js, hjs, rfl⟩ := Option.map_eq_some_iff.1 h
          refine Json.legible_obj.2 ⟨depth, rfl, forall_of_toJsonMembers? hjs fun member hmem j hj => ?_⟩
          exact ih member hmem (properMembers_iff.1 hproper member hmem) hj

theorem proper_restrict {source : Source} (known : List String) (h : source.Proper) :
    (source.restrict known).Proper := by
  cases source with
  | obj members =>
      refine properMembers_iff.2 fun member hmember => ?_
      exact properMembers_iff.1 h member (List.mem_of_mem_filter hmember)
  | _ => exact h

end Source

namespace Json

/-- **Every document that is read is legible.** -/
theorem legible_of_read? {text : String} {j : Json} (h : read? text = some j) :
    j.Legible nestingLimit := by
  obtain ⟨source, hsource, h⟩ := Option.bind_eq_some_iff.1 h
  exact Source.legible_toJson? (Source.proper_of_read? hsource) h

/-- **So is every record that is read.** -/
theorem legible_of_readRecord? {known : List String} {text : String} {j : Json}
    (h : readRecord? known text = some j) : j.Legible nestingLimit := by
  obtain ⟨source, hsource, h⟩ := Option.bind_eq_some_iff.1 h
  exact Source.legible_toJson? (Source.proper_restrict known (Source.proper_of_read? hsource)) h

/-- **Every document that is read is finite.** -/
theorem finite_of_read? {text : String} {j : Json} (h : read? text = some j) : j.Finite :=
  (legible_of_read? h).finite

/-- **So is every record that is read.** -/
theorem finite_of_readRecord? {known : List String} {text : String} {j : Json}
    (h : readRecord? known text = some j) : j.Finite := (legible_of_readRecord? h).finite

/-- Sorting the members keeps a document finite. -/
theorem finite_canonical {j : Json} (h : j.Finite) : j.canonical.Finite := by
  refine h.canonical fun j hj => ?_
  cases j with
  | float x => exact hj
  | _ => trivial

/-- Sorting the members keeps a document legible. -/
theorem Legible.canonical {j : Json} : ∀ {depth : Nat}, j.Legible depth →
    j.canonical.Legible depth := by
  induction j with
  | arr items ih =>
      intro depth h
      obtain ⟨below, rfl, hparts⟩ := legible_arr.1 h
      rw [canonical_arr]
      refine legible_arr.2 ⟨below, rfl, List.forall_mem_map.2 fun j hj => ?_⟩
      exact ih j hj (hparts j hj)
  | obj members ih =>
      intro depth h
      obtain ⟨below, rfl, hparts⟩ := legible_obj.1 h
      rw [canonical_obj]
      refine legible_obj.2 ⟨below, rfl, Members.forall_mem_ofList_mapEntries fun member hmember => ?_⟩
      exact ih member hmember (hparts member hmember)
  | _ => exact fun h => h

end Json

end Conform
