/-
**Absent fields.**

An object may leave out a field, or hold null under its name.  To the field this is the same, and if
the field has a default, then it is the same as the default written out.  An array has no default; the
same holds of it with an array of no items.

A default has been accepted when the schema was built.  So in none of these cases the field is at fault,
except that an array may need items.  If the object is refused, then for an undeclared name or for
another field.

All this is said of one time, for the schema of a document and for the objects within it.

Main definitions:

* `Definition.BlamesOther` — a fault of an object is about something else than a given field;
* `Definition.StandsIn` — a field that is absent or null is the same as one with a given value;
* `Definition.HasStandIn` — the value with which an absent field is the same.

Main results:

* `Definition.answer_null_of_default`, `Definition.answer_null_of_array` — what stands in for null;
* `Definition.answer_insert` — an object does not see the value of a field that the field treats like
  null;
* `Definition.blames_of_erase` — what an object without a field is refused for;
* `Document.hasStandIn_of_schema` — **absent, null and the default are the same**.
-/

import Conform.Proofs.Definition.Blame
import Conform.Proofs.Document

set_option relaxedAutoImplicit false
set_option autoImplicit false

namespace Conform

namespace Definition

variable {now : DateTime} {fields : List (String × Definition)} {strict : Bool} {options : Options}
  {name : String} {d : Definition} {members : Members Value} {fault : Fault}

/-! ### What stands in for null -/

/-- The default of a sound definition is answered like null, and it has a result. -/
theorem answer_null_of_default (hs : d.Sound now) {j : Json} (hdefault : d.options.default = some j)
    (hj : j ≠ .null) :
    answer now d (.ofJson j) = answer now d .null ∧ ∃ w, answer now d .null = .ok w := by
  have hne : d.options.default ≠ none := by simp [hdefault]
  cases d with
  | leaf type options => exact ⟨Options.answer_default hdefault hj, hs.2 hne⟩
  | object fields strict options => exact ⟨Options.answer_default hdefault hj, hs.1 hne⟩
  | array items length options => exact absurd hs.1 hne
  | choice entries options => exact ⟨Options.answer_default hdefault hj, hs.1 hne⟩

/-- An array of no items is answered like null; only its length can be at fault. -/
theorem answer_null_of_array (items : Definition) (length : LengthBounds) (options : Options) :
    answer now (array items length options) (.array []) =
        answer now (array items length options) .null ∧
      ∀ inner, answer now (array items length options) .null = .error inner →
        ¬ length.Admits 0 ∧ inner = Fault.outOfRange ("array of length " ++ Fault.number 0) := by
  refine ⟨Options.answer_default (j := .arr []) rfl (by simp), fun inner h => ?_⟩
  rcases Options.answer_eq_error.1 h with ⟨hnull, -⟩ | ⟨-, h⟩
  · cases hnull
  · rcases bind_eq_error.1 h with hkind | ⟨values, hvalues, h⟩
    · cases hkind
    · cases hvalues
      split at h
      · cases h
      · next hadmits =>
          cases h
          exact ⟨fun hlength => hadmits (LengthBounds.admits_iff.2 hlength), rfl⟩

/-! ### One field of an object -/

/-- An object does not see the value of a field that the field treats like null. -/
theorem answer_insert (hsorted : Members.Sorted fields) (hmem : (name, d) ∈ fields) {u : Value}
    (hu : answer now d u = answer now d .null) (members : Members Value) :
    answer now (object fields strict options) (.object (Members.insert members name u)) =
      answer now (object fields strict options) (.object (Members.erase members name)) := by
  have hname : name ∈ Members.names fields := List.mem_map_of_mem hmem
  have hdeclared : (!(Members.names fields).contains name) = false := by simpa using hname
  have hnames : expectDeclared strict fields (Members.insert members name u) =
      expectDeclared strict fields (Members.erase members name) := by
    rw [expectDeclared, expectDeclared,
      Members.find?_names_insert (p := fun key => !(Members.names fields).contains key) hdeclared,
      Members.find?_names_erase (p := fun key => !(Members.names fields).contains key) hdeclared]
  have hfields : answerFields now fields (Members.insert members name u) =
      answerFields now fields (Members.erase members name) := by
    refine answerFields_eq_of_find? fun field hfield => ?_
    rw [Members.find?_insert, Members.find?_erase]
    obtain ⟨key, e⟩ := field
    by_cases hkey : name = key
    · subst hkey
      rw [if_pos rfl, if_pos rfl, hsorted.eq_of_mem hfield hmem]
      exact hu
    · rw [if_neg hkey, if_neg hkey]
  rw [answer, Options.answer_of_ne_null (by simp), Options.answer_of_ne_null (by simp)]
  simp only [Schema.membersOf, ok_bind, hnames, hfields]

/-- A fault of an object is about a name that is not declared, or is that of another field than
`name`. -/
def BlamesOther (now : DateTime) (fields : List (String × Definition)) (members : Members Value)
    (name : String) (fault : Fault) : Prop :=
  (∃ key ∈ Members.names members, key ∉ Members.names fields ∧ fault = Fault.unexpectedField key) ∨
    ∃ sibling ∈ fields, sibling.1 ≠ name ∧ ∃ inner,
      Yields now sibling.2 ((Members.find? members sibling.1).getD .null) (.error inner) ∧
        fault = inner.within sibling.1

/-- An object without a field is refused for something else, or for what the field says to null. -/
theorem blames_of_erase (hd : (object fields strict options).WellFormed)
    (hs : (object fields strict options).Sound now) (hmem : (name, d) ∈ fields)
    (h : answer now (object fields strict options) (.object (Members.erase members name)) =
      .error fault) :
    BlamesOther now fields members name fault ∨
      ∃ inner, answer now d .null = .error inner ∧ fault = inner.within name := by
  have hsorted : Members.Sorted fields := hd.1
  rw [answer, Options.answer_of_ne_null (by simp)] at h
  -- first the kind, then the names, then the fields one by one
  rcases bind_eq_error.1 h with hkind | ⟨_, ⟨⟩, h⟩
  · cases hkind
  rcases bind_eq_error.1 h with hundeclared | ⟨⟨⟩, -, h⟩
  · rw [expectDeclared] at hundeclared
    split at hundeclared
    · next key hkey =>
        split at hundeclared
        · cases hundeclared
          have hnot : key ∉ Members.names fields := by simpa using List.find?_some hkey
          obtain ⟨member, hmember, rfl⟩ := List.mem_map.1 (List.mem_of_find?_eq_some hkey)
          have hold : member ∈ members := (List.mem_filter.1 hmember).1
          exact .inl (.inl ⟨member.1, List.mem_map_of_mem hold, hnot, rfl⟩)
        · cases hundeclared
    · cases hundeclared
  · obtain ⟨front, key, e, rest, inner, hfields, -, hinner, rfl⟩ :=
      answerFields_eq_error (map_eq_error.1 h)
    have hsibling : (key, e) ∈ fields := by
      rw [hfields]
      simp
    rw [Members.find?_erase] at hinner
    by_cases hkey : name = key
    · subst hkey
      rw [if_pos rfl, hsorted.eq_of_mem hsibling hmem] at hinner
      exact .inr ⟨inner, hinner, rfl⟩
    · rw [if_neg hkey] at hinner
      refine .inl (.inr ⟨(key, e), hsibling, Ne.symm hkey, inner, ?_, rfl⟩)
      rw [← hinner]
      exact yields_answer ((everywhere_object.1 hd).2 _ hsibling)
        ((everywhere_object.1 hs).2 _ hsibling) _

/-! ### Absent, null, and the value that stands in -/

/-- To the validator `run` of an object with the given fields, the field `name` is the same whether it
is absent, null, or `u`; and the field is not at fault then, except with a fault in `own`. -/
structure StandsIn (now : DateTime) (fields : List (String × Definition))
    (run : Value → Except Fault Value) (name : String) (u : Value) (own : Fault → Prop) : Prop where
  null : ∀ members, run (.object (Members.insert members name .null)) =
    run (.object (Members.erase members name))
  value : ∀ members, run (.object (Members.insert members name u)) =
    run (.object (Members.erase members name))
  cause : ∀ members fault, run (.object (Members.erase members name)) = .error fault →
    BlamesOther now fields members name fault ∨ own fault

/-- The default of a field stands in for it, and the field is never at fault then.  For an array it is
an array of no items, and the field is at fault only if that is too short. -/
def HasStandIn (now : DateTime) (fields : List (String × Definition))
    (run : Value → Except Fault Value) (name : String) (d : Definition) : Prop :=
  (∀ j, d.options.default = some j → j ≠ .null →
    StandsIn now fields run name (.ofJson j) fun _ => False) ∧
  ∀ items length options, d = array items length options →
    StandsIn now fields run name (.array []) fun fault => ¬ length.Admits 0 ∧
      fault = (Fault.outOfRange ("array of length " ++ Fault.number 0)).within name

/-- A value that a field treats like null stands in for it. -/
theorem standsIn_of_answer (hd : (object fields strict options).WellFormed)
    (hs : (object fields strict options).Sound now) (hmem : (name, d) ∈ fields) {u : Value}
    (hu : answer now d u = answer now d .null) {own : Fault → Prop}
    (hown : ∀ inner, answer now d .null = .error inner → own (inner.within name)) :
    StandsIn now fields (answer now (object fields strict options)) name u own where
  null := answer_insert hd.1 hmem rfl
  value := answer_insert hd.1 hmem hu
  cause := fun members fault h => (blames_of_erase hd hs hmem h).imp_right <| by
    rintro ⟨inner, hinner, rfl⟩
    exact hown inner hinner

/-- Every field of a sound object has a value that stands in for it, if it has a default or is an
array. -/
theorem hasStandIn_of_sound (hd : (object fields strict options).WellFormed)
    (hs : (object fields strict options).Sound now) (hmem : (name, d) ∈ fields) :
    HasStandIn now fields (answer now (object fields strict options)) name d := by
  refine ⟨fun j hdefault hj => ?_, ?_⟩
  · obtain ⟨hsame, w, hw⟩ := answer_null_of_default ((everywhere_object.1 hs).2 _ hmem) hdefault hj
    refine standsIn_of_answer hd hs hmem hsame fun inner hinner => ?_
    rw [hw] at hinner
    cases hinner
  · rintro items length options' rfl
    obtain ⟨hsame, hfault⟩ := @answer_null_of_array now items length options'
    refine standsIn_of_answer hd hs hmem hsame fun inner hinner => ?_
    obtain ⟨hlength, rfl⟩ := hfault inner hinner
    exact ⟨hlength, rfl⟩

end Definition

namespace Document

open Definition

variable {now : DateTime}

/-- **Absent, null and the default are the same**, for every field of a document that has a schema and
of every object within it. -/
theorem hasStandIn_of_schema {document : Document} (hd : document.root.WellFormed)
    {schema : Schema Clocked}
    (hbuild : (document.schema : Outcome Clocked (Schema Clocked)).asOf now = .ok schema) :
    (∀ name d, (name, d) ∈ document.fields →
      HasStandIn now document.fields (fun v => (schema.validate v).asOf now) name d) ∧
    ∀ fields strict options, Within (.object fields strict options) document.root →
      ∃ f, (Definition.object fields strict options).build.asOf now = .ok f ∧
        ∀ name d, (name, d) ∈ fields →
          HasStandIn now fields (fun v => (f v).asOf now) name d := by
  have hs : document.root.Sound now := (exists_schema_iff hd).1 ⟨schema, hbuild⟩
  constructor
  · intro name d hmem
    have hrun : (fun v => (schema.validate v).asOf now) = answer now document.root :=
      funext (validate_asOf hd hbuild)
    rw [hrun]
    exact hasStandIn_of_sound hd hs hmem
  · intro fields strict options hwithin
    have hd' := hd.within hwithin
    have hs' : (Definition.object fields strict options).Sound now := hs.within hwithin
    obtain ⟨f, hf⟩ := (validator_eq_ok_iff hd').2 hs'
    refine ⟨f, hf, fun name d hmem => ?_⟩
    have hrun : (fun v => (f v).asOf now) = answer now (.object fields strict options) :=
      funext (asOf_of_validator hd' hf)
    rw [hrun]
    exact hasStandIn_of_sound hd' hs' hmem

/-- A booking: for how many guests, and a room with at least one extra. -/
def booking : Document :=
  ⟨"booking", "1", none, true,
    [("guests", .leaf (.int (some 1) none) ⟨false, some (.int 2)⟩),
      ("room", .object [("extras", .array (.leaf (.string ⟨none, none⟩) ⟨false, none⟩)
        ⟨some 1, none⟩ .standard)] true .standard)]⟩

theorem hasStandIn_of_schema_booking : ∃ schema,
    (booking.schema : Outcome Clocked (Schema Clocked)).asOf DateTime.epoch = .ok schema ∧
      (∀ v ∈ [Value.object [], .object [("guests", .null)], .object [("guests", .int 2)]],
        (schema.validate v).asOf DateTime.epoch =
          .ok (.object [("guests", .int 2), ("room", .null)])) ∧
      ∃ f, (Definition.object [("extras", .array (.leaf (.string ⟨none, none⟩) ⟨false, none⟩)
          ⟨some 1, none⟩ .standard)] true .standard).build.asOf DateTime.epoch = .ok f ∧
        ∀ v ∈ [Value.object [], .object [("extras", .null)], .object [("extras", .array [])]],
          (f v).asOf DateTime.epoch =
            .error ⟨.rangeViolation, "value array of length 0 is out of defined range", "extras"⟩ := by
  have hd : booking.root.WellFormed := by decide
  obtain ⟨schema, hschema⟩ : ∃ schema,
    (booking.schema : Outcome Clocked (Schema Clocked)).asOf DateTime.epoch = .ok schema := ⟨_, rfl⟩
  obtain ⟨hguests, hnested⟩ := hasStandIn_of_schema hd hschema
  have hguests := (hguests "guests" _ (List.mem_cons_self ..)).1 (.int 2) rfl (by simp)
  obtain ⟨f, hf, hextras⟩ := hnested _ _ _
    (.field (.here _) (List.mem_cons_of_mem _ (List.mem_cons_self ..)))
  have hextras := (hextras "extras" _ (List.mem_cons_self ..)).2 _ _ _ rfl
  refine ⟨schema, hschema, ?_, f, hf, ?_⟩
  · have habsent : (schema.validate (.object [])).asOf DateTime.epoch =
        .ok (.object [("guests", .int 2), ("room", .null)]) := by
      rw [validate_asOf hd hschema]
      rfl
    refine List.forall_mem_cons.2 ⟨habsent, List.forall_mem_cons.2 ⟨?_, ?_⟩⟩
    · exact (hguests.null []).trans habsent
    · exact List.forall_mem_singleton.2 ((hguests.value []).trans habsent)
  · have habsent : (f (.object [])).asOf DateTime.epoch =
        .error ⟨.rangeViolation, "value array of length 0 is out of defined range", "extras"⟩ := by
      rw [asOf_of_validator (by decide) hf]
      rfl
    refine List.forall_mem_cons.2 ⟨habsent, List.forall_mem_cons.2 ⟨?_, ?_⟩⟩
    · exact (hextras.null []).trans habsent
    · exact List.forall_mem_singleton.2 ((hextras.value []).trans habsent)

end Document

end Conform
