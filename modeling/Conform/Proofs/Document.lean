/-
**Schemas of documents.**

The schema of a document answers what one definition answers: that of an object with the fields of the
document, which may not be null and has no default.  So what holds of definitions holds of schemas.

Main definitions:

* `Document.root` — the definition that a document stands for.

Main results:

* `Document.wellFormed_of_read?`, `Document.finiteDefaults_of_read?` — **what is read is well-formed**,
  and its defaults are finite;
* `Document.validate_asOf` — a schema yields the answers of the definition;
* `Document.exists_schema_iff` — a document has a schema exactly if its definitions are sound;
* `Document.validate_toJson` — **a schema accepts the documents of its results**.
-/

import Conform.Document
import Conform.Proofs.Definition.Emission

set_option relaxedAutoImplicit false
set_option autoImplicit false

namespace Conform

namespace Document

variable {start now later : DateTime}

/-- The definition of the objects that a document declares. -/
def root (document : Document) : Definition :=
  .object document.fields document.strict ⟨false, none⟩

/-! ### Documents that are read -/

/-- Fields that are read are sorted, and so are those within them; their defaults are finite. -/
theorem everywhere_of_fieldsOf? {j : Json} {document : Document} (hj : j.Finite)
    (h : fieldsOf? j = some document.fields) :
    document.root.Everywhere Definition.ReadHere := by
  have hfields : Definition.ofMembers?.fieldsOf? Definition.ofJson? j = some document.fields := h
  obtain ⟨written, rfl, hsorted, hparts⟩ := Definition.fieldsOf?_eq_some hfields
  refine Definition.everywhere_object.2 ⟨⟨hsorted, nofun⟩, fun field hfield => ?_⟩
  obtain ⟨part, hpart, hread⟩ := hparts field hfield
  exact Definition.everywhere_of_ofJson? (hj.member hpart) hread

theorem everywhere_of_ofJson? {j : Json} {document : Document} (hj : j.Finite)
    (h : ofJson? j = some document) : document.root.Everywhere Definition.ReadHere := by
  unfold ofJson? at h
  split at h
  · obtain ⟨id, -, h⟩ := Option.bind_eq_some_iff.1 h
    obtain ⟨version, -, h⟩ := Option.bind_eq_some_iff.1 h
    obtain ⟨description, -, h⟩ := Option.bind_eq_some_iff.1 h
    obtain ⟨strict, -, h⟩ := Option.bind_eq_some_iff.1 h
    obtain ⟨fields, hfields, h⟩ := Option.bind_eq_some_iff.1 h
    cases h
    obtain ⟨j, hmem, hread⟩ := Json.required?_eq_some hfields
    exact everywhere_of_fieldsOf? (hj.member hmem) hread
  · next fields =>
      obtain ⟨id, -, h⟩ := Option.bind_eq_some_iff.1 h
      obtain ⟨version, -, h⟩ := Option.bind_eq_some_iff.1 h
      obtain ⟨description, -, h⟩ := Option.bind_eq_some_iff.1 h
      obtain ⟨strict, -, h⟩ := Option.bind_eq_some_iff.1 h
      obtain ⟨fields, hfields, h⟩ := Option.bind_eq_some_iff.1 h
      cases h
      exact everywhere_of_fieldsOf? (hj.item (by simp)) hfields
  · cases h

/-- **A document that is read is well-formed.** -/
theorem wellFormed_of_read? {text : String} {document : Document}
    (h : read? text = some document) : document.root.WellFormed := by
  obtain ⟨j, hj, h⟩ := Option.bind_eq_some_iff.1 h
  exact (everywhere_of_ofJson? (Json.finite_of_readRecord? hj) h).imp fun _ hd => hd.1

/-- **The defaults of a document that is read are finite.** -/
theorem finiteDefaults_of_read? {text : String} {document : Document}
    (h : read? text = some document) : document.root.FiniteDefaults := by
  obtain ⟨j, hj, h⟩ := Option.bind_eq_some_iff.1 h
  exact (everywhere_of_ofJson? (Json.finite_of_readRecord? hj) h).imp fun _ hd => hd.2

/-! ### Schemas -/

/-- A schema yields the answers of the definition that its document stands for. -/
theorem validate_asOf {document : Document} (hd : document.root.WellFormed)
    {schema : Schema Clocked}
    (hbuild : (document.schema : Outcome Clocked (Schema Clocked)).asOf start = .ok schema)
    (v : Value) : (schema.validate v).asOf now = Definition.answer now document.root v := by
  obtain ⟨hsorted, hfields⟩ := Definition.everywhere_object.1 hd
  obtain ⟨built, hbuilt, rfl⟩ :=
    (Definition.addFields_asOf_iff hsorted (fun _ _ => List.not_mem_nil)).1 hbuild
  have hyields : ∀ field ∈ document.fields, ∀ f,
      (Definition.validator field.1 field.2).asOf start = .ok f →
        ∀ v, (f v).asOf now = Definition.answer now field.2 v :=
    fun field hmem f => Definition.asOf_of_validator (hfields field hmem)
  have hanswers := Definition.answers_of_fields hyields hbuilt
  -- all but objects are refused on both sides
  cases v with
  | object members => exact Definition.validateFields_asOf hsorted hanswers document.strict members
  | _ => rfl

/-- A document has a schema exactly if its definitions are sound. -/
theorem exists_schema_iff {document : Document} (hd : document.root.WellFormed) :
    (∃ schema, (document.schema : Outcome Clocked (Schema Clocked)).asOf start = .ok schema) ↔
      document.root.Sound start := by
  have hroot : (∃ f, (document.root.validator document.id).asOf start = .ok f) ↔
      document.root.Sound start := Definition.validator_eq_ok_iff hd
  rw [← hroot, root, Definition.validator, Outcome.asOf_bind]
  simp only [bind_eq_ok, Options.checkDefault_asOf]
  constructor
  · rintro ⟨schema, hschema⟩
    exact ⟨_, schema, hschema, rfl, fun hne => absurd rfl hne⟩
  · rintro ⟨_, schema, hschema, -⟩
    exact ⟨schema, hschema⟩

/-- **A schema accepts the documents of its results**, and its results have the same documents, where
choices are among literals, bounds of dates and instants are fixed, and lower bounds of instants have
whole microseconds.  That the fields are sorted and that floats are numbers holds of whatever is
read. -/
theorem validate_toJson {document : Document} (hd : document.root.WellFormed)
    (hfinite : document.root.FiniteDefaults) (hliteral : document.root.LiteralChoices)
    (hsteady : document.root.Steady) {schema : Schema Clocked}
    (hbuild : (document.schema : Outcome Clocked (Schema Clocked)).asOf start = .ok schema)
    {j : Json} (hj : j.Finite) {w : Value}
    (hrun : (schema.validate (.ofJson j)).asOf now = .ok w) :
    ∃ w', (schema.validate (.ofJson w.toJson)).asOf later = .ok w' ∧ w'.toJson = w.toJson := by
  rw [validate_asOf hd hbuild] at hrun ⊢
  exact Definition.answer_toJson hd hliteral hsteady hfinite (Value.plain_ofJson hj) hrun

/-- A shipment: when it arrived, how it is marked, and when it was ordered. -/
def shipment : Document :=
  ⟨"shipment", "1", none, true,
    [("arrival", .leaf (.datetime (some (.literal "2024-02-29T18:29:59Z")) none) ⟨false, none⟩),
      ("marks", .choice [.literal (.str "fragile")] .standard),
      ("ordered", .leaf (.date none none) .standard)]⟩

/-- When a shipment may arrive at the earliest. -/
def shipmentBound : DateTime := .ofParts 1709231399 0 0 rfl

/-- When that shipment arrived: in a leap second, under an offset. -/
def shipmentArrival : DateTime := .ofParts 1709231399 1123456700 19800 rfl

/-- The document of that shipment put in. -/
def shipmentInput : Json :=
  .obj [("arrival", .str "2024-02-29T23:59:60.1234567+05:30"), ("ordered", .str "2024-02-28T08:00")]

/-- That shipment validated. -/
def shipmentOutput : Value :=
  .object [("arrival", .datetime shipmentArrival), ("marks", .null), ("ordered", .date ⟨19781⟩)]

theorem validate_toJson_shipment : ∃ schema,
    (shipment.schema : Outcome Clocked (Schema Clocked)).asOf DateTime.epoch = .ok schema ∧
      (schema.validate (.ofJson shipmentInput)).asOf DateTime.epoch = .ok shipmentOutput ∧
      ∃ w', (schema.validate (.ofJson shipmentOutput.toJson)).asOf shipmentArrival = .ok w' ∧
        w'.toJson = shipmentOutput.toJson := by
  have hd : shipment.root.WellFormed := by decide
  have hbound : DateTime.parse "2024-02-29T18:29:59Z" = .ok shipmentBound := by
    have hsplit : DateTime.splitOffset? (DateTime.expandZulu "2024-02-29T18:29:59Z".toList) =
        some ("2024-02-29T18:29:59".toList, shipmentBound.offset) := rfl
    exact mapError_eq_ok.2 (DateTime.readChars_of_parts hsplit rfl)
  have harrival : DateTime.parse "2024-02-29T23:59:60.1234567+05:30" = .ok shipmentArrival := by
    have hsplit : DateTime.splitOffset? (DateTime.expandZulu
        "2024-02-29T23:59:60.1234567+05:30".toList) =
          some ("2024-02-29T23:59:60.1234567".toList, shipmentArrival.offset) := rfl
    exact mapError_eq_ok.2 (DateTime.readChars_of_parts hsplit rfl)
  have hordered : Date.parse "2024-02-28T08:00" = .ok ⟨19781⟩ := rfl
  have hsound : shipment.root.Sound DateTime.epoch := by
    refine Definition.everywhere_object.2 ⟨fun hne => absurd rfl hne, ?_⟩
    refine List.forall_mem_cons.2 ⟨⟨⟨?_, nofun⟩, fun hne => absurd rfl hne⟩, ?_⟩
    · rintro _ ⟨⟩
      exact ⟨shipmentBound, hbound⟩
    refine List.forall_mem_cons.2 ⟨⟨fun hne => absurd rfl hne, trivial⟩, ?_⟩
    exact List.forall_mem_singleton.2 ⟨⟨nofun, nofun⟩, fun hne => absurd rfl hne⟩
  have hsteady : shipment.root.Steady := by
    refine Definition.everywhere_object.2 ⟨trivial, ?_⟩
    refine List.forall_mem_cons.2 ⟨⟨?_, nofun, ?_⟩, ?_⟩
    · rintro _ ⟨⟩
      rfl
    · rintro _ a ⟨⟩ ha
      obtain rfl := Except.ok.inj (hbound.symm.trans ha)
      rfl
    refine List.forall_mem_cons.2 ⟨⟨trivial, trivial⟩, ?_⟩
    exact List.forall_mem_singleton.2 ⟨nofun, nofun⟩
  have hdefaults : shipment.root.FiniteDefaults := by
    refine Definition.everywhere_object.2 ⟨nofun, ?_⟩
    refine List.forall_mem_cons.2 ⟨nofun, List.forall_mem_cons.2 ⟨⟨nofun, trivial⟩, ?_⟩⟩
    exact List.forall_mem_singleton.2 nofun
  have hfinite : shipmentInput.Finite := by decide
  obtain ⟨schema, hschema⟩ := (exists_schema_iff hd).2 hsound
  have hrun : (schema.validate (.ofJson shipmentInput)).asOf DateTime.epoch =
      .ok shipmentOutput := by
    rw [validate_asOf hd hschema]
    refine Definition.object_eq_ok.2 (.inr ⟨_, _, rfl, fun _ => by decide, ?_, rfl⟩)
    refine Definition.answerFields_eq_ok.2 (.cons ⟨rfl, ?_⟩ (.cons ⟨rfl, rfl⟩ (.cons ⟨rfl, ?_⟩ .nil)))
    · refine bind_eq_ok.2 ⟨⟨some shipmentBound, none⟩, ?_, ?_⟩
      · simp [TimeBound.bounds, TimeBound.resolve, Option.mapM, hbound]
      · exact ScalarKind.datetime_eq_ok.2
          ⟨shipmentArrival, map_eq_ok.2 ⟨_, harrival, rfl⟩, rfl, by decide⟩
    · refine bind_eq_ok.2 ⟨⟨none, none⟩, rfl, ?_⟩
      exact ScalarKind.date_eq_ok.2 ⟨_, map_eq_ok.2 ⟨_, hordered, rfl⟩, rfl, rfl⟩
  exact ⟨schema, hschema, hrun,
    validate_toJson hd hdefaults (by decide) hsteady hschema hfinite hrun⟩

end Document

end Conform
