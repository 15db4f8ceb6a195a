/-
**Documents are read as they are written.**

A document is written as an object with its members in a fixed order.  Whichever way a document was
read, as an object or as an array, its text is read as that document again: its definitions are
faithful, and it is nested no deeper than what was read.

Main results:

* `Document.ofJson?_toJson` — a faithful document is read out of its tree;
* `Document.faithful_of_ofJson?` — what is read is faithful, and its tree is legible;
* `Document.read?_indented` — **a document that is read is read again out of its text**.
-/

import Conform.Document
import Conform.Proofs.Definition.Writing
import Conform.Proofs.Document
import Conform.Proofs.Json.Text

set_option relaxedAutoImplicit false
set_option autoImplicit false

namespace Conform

namespace Document

variable {document : Document} {depth : ℕ}

/-- The members of a document's tree. -/
def treeMembers (document : Document) : List (String × Json) :=
  [("schema_id", .str document.id), ("schema_version", .str document.version)]
    ++ Json.optional "description" .str document.description
    ++ [("strict", .bool document.strict),
      ("fields", .obj (Definition.toJsonFields document.fields))]

theorem toJson_eq (document : Document) : document.toJson = .obj document.treeMembers := rfl

/-- The members stand there under the names of documents, in their order. -/
theorem names_treeMembers_sublist (document : Document) :
    (Members.names document.treeMembers).Sublist members := by
  rw [treeMembers, Members.names_append, Members.names_append]
  exact ((List.Sublist.refl ["schema_id", "schema_version"]).append
    (Json.names_optional_sublist ..)).append (List.Sublist.refl ["strict", "fields"])

/-- A faithful document is read out of its tree. -/
theorem ofJson?_toJson (h : document.root.Faithful) : ofJson? document.toJson = some document := by
  obtain ⟨⟨hsorted, -⟩, hfields⟩ := Definition.everywhere_object.1 h
  have hnodup : (Members.names document.treeMembers).Nodup :=
    document.names_treeMembers_sublist.nodup (by decide)
  have hid : Json.required? Json.asString? document.treeMembers "schema_id" = some document.id :=
    Json.required?_eq (j := .str document.id) hnodup rfl
  have hversion : Json.required? Json.asString? document.treeMembers "schema_version" =
      some document.version := Json.required?_eq (j := .str document.version) hnodup rfl
  have hdescription : Json.optional? Json.asString? document.treeMembers "description" =
      some document.description := by
    have hfind : Members.find? document.treeMembers "description" =
        document.description.map Json.str := by
      simp [treeMembers, Members.find?_append, Members.find?_cons, Json.find?_optional]
    exact Json.optional?_eq hnodup hfind fun s _ => ⟨by simp, rfl⟩
  have hstrict : Json.withDefault? Json.asBool? false document.treeMembers "strict" =
      some document.strict := by
    have hfind : Members.find? document.treeMembers "strict" = some (.bool document.strict) := by
      simp [treeMembers, Members.find?_append, Members.find?_cons, Json.find?_optional]
    exact Json.withDefault?_eq hnodup hfind
  have hread : Json.required? fieldsOf? document.treeMembers "fields" = some document.fields := by
    have hfind : Members.find? document.treeMembers "fields" =
        some (.obj (Definition.toJsonFields document.fields)) := by
      simp [treeMembers, Members.find?_append, Members.find?_cons, Json.find?_optional]
    rw [Json.required?_eq hnodup hfind]
    exact Definition.fieldsOf?_toJson hsorted fun field hfield =>
      Definition.ofJson?_toJson (hfields field hfield)
  rw [toJson_eq, ofJson?, hid, hversion, hdescription, hstrict, hread]
  rfl

/-- Fields that are read are faithful and legible. -/
theorem faithful_of_fieldsOf? {j : Json} (hj : j.Legible depth)
    (h : fieldsOf? j = some document.fields) :
    document.root.Faithful ∧ (Json.obj (Definition.toJsonFields document.fields)).Legible depth := by
  have hfields : Definition.ofMembers?.fieldsOf? Definition.ofJson? j = some document.fields := h
  obtain ⟨written, rfl, hsorted, hparts⟩ := Definition.fieldsOf?_eq_some hfields
  obtain ⟨below, rfl, hbelow⟩ := Json.legible_obj.1 hj
  have hfield : ∀ field ∈ document.fields, field.2.Faithful ∧ field.2.toJson.Legible below := by
    intro field hfield
    obtain ⟨part, hpart, hread⟩ := hparts field hfield
    exact Definition.faithful_of_ofJson? (hbelow part hpart) hread
  refine ⟨Definition.everywhere_object.2 ⟨⟨hsorted, nofun⟩, fun field hmem => (hfield field hmem).1⟩, ?_⟩
  rw [Definition.toJsonFields_eq_map]
  exact Json.legible_obj.2 ⟨below, rfl, List.forall_mem_map.2 fun field hmem => (hfield field hmem).2⟩

/-- A document is legible if its fields are. -/
theorem legible_toJson (h : (Json.obj (Definition.toJsonFields document.fields)).Legible depth) :
    document.toJson.Legible (depth + 1) := by
  refine Json.legible_obj.2 ⟨depth, rfl, fun member hmember => ?_⟩
  rcases List.mem_append.1 hmember with hmember | hmember
  · rcases List.mem_append.1 hmember with hmember | hmember
    · rcases List.mem_cons.1 hmember with rfl | hmember
      · trivial
      · obtain rfl := List.mem_singleton.1 hmember
        trivial
    · have hdescription : ∀ s, document.description = some s → (Json.str s).Legible depth :=
        fun _ _ => trivial
      exact Json.legible_optional hdescription member hmember
  · rcases List.mem_cons.1 hmember with rfl | hmember
    · trivial
    · obtain rfl := List.mem_singleton.1 hmember
      exact h

/-- **A document that is read is faithful**, and its tree is as legible as what was read. -/
theorem faithful_of_ofJson? {j : Json} (hj : j.Legible depth) (h : ofJson? j = some document) :
    document.root.Faithful ∧ document.toJson.Legible depth := by
  unfold ofJson? at h
  split at h
  · obtain ⟨id, -, h⟩ := Option.bind_eq_some_iff.1 h
    obtain ⟨version, -, h⟩ := Option.bind_eq_some_iff.1 h
    obtain ⟨description, -, h⟩ := Option.bind_eq_some_iff.1 h
    obtain ⟨strict, -, h⟩ := Option.bind_eq_some_iff.1 h
    obtain ⟨fields, hfields, h⟩ := Option.bind_eq_some_iff.1 h
    cases h
    obtain ⟨below, rfl, hbelow⟩ := Json.legible_obj.1 hj
    obtain ⟨j, hmem, hread⟩ := Json.required?_eq_some hfields
    exact (faithful_of_fieldsOf? (hbelow _ hmem) hread).imp_right legible_toJson
  · next fields =>
      obtain ⟨id, -, h⟩ := Option.bind_eq_some_iff.1 h
      obtain ⟨version, -, h⟩ := Option.bind_eq_some_iff.1 h
      obtain ⟨description, -, h⟩ := Option.bind_eq_some_iff.1 h
      obtain ⟨strict, -, h⟩ := Option.bind_eq_some_iff.1 h
      obtain ⟨fields, hfields, h⟩ := Option.bind_eq_some_iff.1 h
      cases h
      obtain ⟨below, rfl, hbelow⟩ := Json.legible_arr.1 hj
      exact (faithful_of_fieldsOf? (hbelow _ (by simp)) hfields).imp_right legible_toJson
  · cases h

/-- A faithful document is read out of its text, if it is not nested too deeply. -/
theorem read?_of_faithful (hfaithful : document.root.Faithful)
    (hlegible : document.toJson.Legible Json.nestingLimit) :
    read? document.toJson.indented = some document := by
  have hknown : ∀ member ∈ document.treeMembers, member.1 ∈ members := fun member hmember =>
    document.names_treeMembers_sublist.subset (List.mem_map_of_mem hmember)
  have htext : Json.readRecord? members document.toJson.indented = some document.toJson :=
    Json.readRecord?_indented hlegible hknown
  rw [read?, htext]
  exact ofJson?_toJson hfaithful

/-- **A document that is read is read again out of its text.** -/
theorem read?_indented {text : String} (h : read? text = some document) :
    read? document.toJson.indented = some document := by
  obtain ⟨j, hj, hread⟩ := Option.bind_eq_some_iff.1 h
  obtain ⟨hfaithful, hlegible⟩ := faithful_of_ofJson? (Json.legible_of_readRecord? hj) hread
  exact read?_of_faithful hfaithful hlegible

end Document

end Conform
