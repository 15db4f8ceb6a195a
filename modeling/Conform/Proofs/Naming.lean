/-
**What faults tell of the names of fields.**

A document is registered only if its own fields have names.  Within them nothing is demanded of names:
an object below may have a field without one.  What a registered document tells of its faults follows
from both.  Every fault arose at some location and is seen from outside.  If this location leads to a
field with a name, then the path ends in the name; if it leads to a field without a name, then the fault
is told like one of the value around it.  Where all fields below have names, too, the path of a fault of
a declared field always ends in a name.

Documents come into a registry by being given or by being read.  What all of these have in common, all
registered documents have in common: here, that their fields are sorted.

Main definitions:

* `Registry.All`, `Registry.Occurrence.Gives` — what documents have in common;
* `Registered.TellsFields` — what the faults of a registered document tell of fields.

Main results:

* `Registry.all_step`, `Registry.all_run` — **what documents given and documents read have in common,
  registered documents have**;
* `Registry.tellsFields_run` — **what faults tell of fields, at every point of a run**;
* `Registry.nameless_below` — a registered document with a nameless field, and a fault of it.
-/

import Conform.Proofs.Definition.Trace
import Conform.Proofs.Loading

set_option relaxedAutoImplicit false
set_option autoImplicit false

namespace Conform

namespace Registry

/-! ### What registered documents have in common -/

/-- All registered documents have the property. -/
def All (p : Document → Prop) (registry : Registry) : Prop :=
  ∀ entry ∈ registry.entries, p entry.document

/-- A document that is given to be registered has the property. -/
def Occurrence.Gives (p : Document → Prop) : Occurrence → Prop
  | .operation _ (.register document) => p document
  | .operation _ .loadAll | .operation _ (.save _) | .change _ => True

variable {p : Document → Prop} {registry later : Registry} {now : DateTime} {source : String}
  {document : Document}

theorem all_empty : All p empty := List.forall_mem_nil _

theorem all_register {noted : Entry} (h : registry.All p) (hdocument : p document)
    (hregister : registry.register now source document = .ok (later, noted)) : later.All p := by
  obtain ⟨entry, hentry, heq⟩ := register_eq_ok.1 hregister
  obtain ⟨-, -, schema, -, rfl⟩ := enroll_eq_ok.1 hentry
  cases heq
  exact List.forall_mem_append.2 ⟨h, List.forall_mem_singleton.2 hdocument⟩

variable (hread : ∀ text document, Document.read? text = some document → p document)

include hread

/-- Files hold documents that are read. -/
theorem all_registerFiles (now : DateTime) (files : List (String × Except FileFault ByteArray)) :
    ∀ registry : Registry, registry.All p → (registerFiles now registry files).registry.All p := by
  induction files with
  | nil => exact fun _ h => h
  | cons file rest ih =>
      intro registry h
      obtain ⟨path, bytes⟩ := file
      rw [registerFiles]
      cases hdone : documentOf path bytes >>= registry.register now path with
      | error fault => exact h
      | ok done =>
          obtain ⟨document, hdocument, hregister⟩ := bind_eq_ok.1 hdone
          obtain ⟨_, text, -, -, htext⟩ := documentOf_eq_ok.1 hdocument
          exact ih done.1 (all_register h (hread text document htext) hregister)

theorem all_loadAll (h : registry.All p) (directory : String) (now : DateTime) (journal : Journal)
    (files : Files) :
    (Workspace.perform (registry.loadAll directory) now journal files).result.1.All p := by
  rw [perform_loadAll]
  split
  · split
    · exact h
    · simp only
      split <;> exact all_registerFiles hread now _ registry h
  · split <;> exact h

/-- Whatever happens, no other documents are registered than those given and those read. -/
theorem all_step {directory : String} {world : World} {occurrence : Occurrence}
    (h : world.registry.All p) (hgiven : occurrence.Gives p) :
    (step directory world occurrence).registry.All p := by
  cases occurrence with
  | operation now operation =>
      cases operation with
      | register document =>
          rw [step]
          cases hdone : world.registry.register now inMemory document with
          | error fault => exact h
          | ok done => exact all_register h hgiven hdone
      | loadAll => exact all_loadAll hread h directory now world.journal world.files
      | save document => exact h
  | change files => exact h

/-- **What documents given and documents read have in common, registered documents have.** -/
theorem all_run {directory : String} {occurrences : List Occurrence} :
    ∀ {world : World}, world.registry.All p → (∀ occurrence ∈ occurrences, occurrence.Gives p) →
      (run directory world occurrences).registry.All p := by
  induction occurrences with
  | nil => exact fun h _ => h
  | cons occurrence rest ih =>
      intro world h hgiven
      obtain ⟨hfirst, hrest⟩ := List.forall_mem_cons.1 hgiven
      exact ih (all_step hread h hfirst) hrest

end Registry

/-! ### Names of fields -/

theorem Document.named_of_defect? {document : Document} (h : document.defect? = none) :
    ∀ field ∈ document.fields, field.1 ≠ "" := by
  intro field hfield hempty
  have hany : document.fields.any (fun field => field.1 = "") = true :=
    List.any_eq_true.2 ⟨field, hfield, decide_eq_true hempty⟩
  -- this is asked last, and every answer before it is a defect, too
  rw [Document.defect?, if_pos hany] at h
  split_ifs at h

/-- What the faults of a registered document tell of the fields where they arise. -/
structure Registered.TellsFields (entry : Registered) : Prop where
  /-- the fields of the document itself have names -/
  named : ∀ field ∈ entry.document.fields, field.1 ≠ ""
  /-- the faults of the schema are those that arise in the document, seen from outside -/
  traced : ∀ now v, (entry.schema.validate v).asOf now =
    (entry.document.root.trace now v).mapError Raised.seen
  /-- if a fault arises at a field with a name, then its path ends in the name -/
  ends : ∀ now v front name fault,
    entry.document.root.trace now v = .error ⟨front ++ [.name name], fault⟩ → name ≠ "" →
      Fault.EndsIn (Raised.seen ⟨front ++ [.name name], fault⟩).path name
  /-- if it arises at a field without a name, then it is told like one of the value around it -/
  nameless : ∀ now v front fault,
    entry.document.root.trace now v = .error ⟨front ++ [.name ""], fault⟩ →
      Raised.seen ⟨front ++ [.name ""], fault⟩ = Raised.seen ⟨front, fault⟩
  /-- the latter does not happen at a field that the document itself declares -/
  outermost : ∀ now v name fault,
    entry.document.root.trace now v = .error ⟨[.name name], fault⟩ →
      fault.kind ≠ .unexpectedField → name ≠ ""
  /-- nor at any declared field, where all fields at every depth have names -/
  everywhere : entry.document.root.Everywhere Definition.NamedFields → ∀ now v front name fault,
    entry.document.root.trace now v = .error ⟨front ++ [.name name], fault⟩ →
      fault.kind ≠ .unexpectedField → name ≠ ""

namespace Registry

variable {entry : Registered}

/-- A sound document with sorted fields tells its fields, whenever it was compiled. -/
theorem tellsFields (hdefect : entry.document.defect? = none)
    (hsorted : entry.document.root.WellFormed) {start : DateTime}
    (hschema : (entry.document.schema : Outcome Clocked (Schema Clocked)).asOf start =
      .ok entry.schema) : entry.TellsFields where
  named := entry.document.named_of_defect? hdefect
  traced := fun now v =>
    (Document.validate_asOf hsorted hschema v).trans (Definition.answer_eq_trace now _ v)
  ends := fun now v front name fault h hname =>
    Raised.endsIn_seen (Definition.raises_of_trace now _ v _ h).pathless hname front
  nameless := fun now v front fault h =>
    Raised.seen_nameless (Definition.raises_of_trace now _ v _ h).pathless front
  outermost := by
    intro now v name fault h hkind
    rcases (Definition.raises_of_trace now _ v _ h).declared [] name rfl with hname | hunexpected
    · obtain ⟨fields, _, _, ⟨⟩, hname⟩ := hname
      obtain ⟨field, hfield, rfl⟩ := List.mem_map.1 hname
      exact entry.document.named_of_defect? hdefect field hfield
    · exact absurd hunexpected hkind
  everywhere := by
    intro hnamed now v front name fault h hkind
    rcases (Definition.raises_of_trace now _ v _ h).declared front name rfl with hname | hunexpected
    · exact hname.ne_empty hnamed
    · exact absurd hunexpected hkind

/-- **What faults tell of fields, at every point of a run**: the documents given have sorted fields. -/
theorem tellsFields_run (directory : String) (files : Files) (journal : Journal)
    (occurrences : List Occurrence)
    (h : ∀ occurrence ∈ occurrences, occurrence.Gives fun document => document.root.WellFormed) :
    ∀ entry ∈ (run directory ⟨empty, files, journal⟩ occurrences).registry.entries,
      entry.TellsFields := by
  intro entry hentry
  have hvalid := (grows_run directory occurrences ⟨empty, files, journal⟩).valid valid_empty
  have hsorted : (run directory ⟨empty, files, journal⟩ occurrences).registry.All _ :=
    all_run (fun text document => Document.wellFormed_of_read?) all_empty h
  obtain ⟨start, hschema⟩ := hvalid.compiled entry hentry
  exact tellsFields (hvalid.sound entry hentry) (hsorted entry hentry) hschema

/-- A text that may not be null. -/
def line : Definition := .leaf (.string ⟨none, none⟩) ⟨false, none⟩

/-- A card: its address has a street. -/
def card : Document :=
  ⟨"card", "1", none, false, [("address", .object [("street", line)] false .standard)]⟩

/-- A letter: its address has a street, and a line without a name. -/
def letter : Document :=
  ⟨"letter", "1", none, false,
    [("address", .object [("", line), ("street", line)] false .standard)]⟩

/-- The card and the letter are registered. -/
def posted : List Registry.Occurrence :=
  [.operation .epoch (.register card), .operation .epoch (.register letter)]

/-- The registry with the card and the letter. -/
def postbox : Registry := (run "schemas" ⟨empty, ⟨[], []⟩, .empty⟩ posted).registry

theorem tellsFields_run_postbox :
    (∀ occurrence ∈ posted, occurrence.Gives fun document => document.root.WellFormed) ∧
      card.root.Everywhere Definition.NamedFields ∧
      ∃ ofCard ofLetter, postbox.entries = [⟨card, ofCard⟩, ⟨letter, ofLetter⟩] ∧
        Registered.TellsFields ⟨card, ofCard⟩ ∧ Registered.TellsFields ⟨letter, ofLetter⟩ := by
  have hgiven : ∀ occurrence ∈ posted,
      occurrence.Gives fun document => document.root.WellFormed := by
    refine List.forall_mem_cons.2 ⟨?_, List.forall_mem_singleton.2 ?_⟩
    · show card.root.WellFormed
      decide
    · show letter.root.WellFormed
      decide
  have htells := tellsFields_run "schemas" ⟨[], []⟩ .empty posted hgiven
  refine ⟨hgiven, by decide, _, _, rfl, ?_, ?_⟩
  · exact htells _ (List.mem_cons_self ..)
  · exact htells _ (List.mem_cons_of_mem _ (List.mem_cons_self ..))

/-- A letter with an empty address. -/
def unaddressed : Value := .object [("address", .object [])]

/-- The letter is registered, though it has a field without a name.  A fault that arises there is told of
the address. -/
theorem nameless_below :
    ¬ letter.root.Everywhere Definition.NamedFields ∧
      ∃ ofCard ofLetter, postbox.entries = [⟨card, ofCard⟩, ⟨letter, ofLetter⟩] ∧
        letter.root.trace .epoch unaddressed =
          .error ⟨[.name "address", .name ""], Fault.nullValue⟩ ∧
        (ofLetter.validate unaddressed).asOf .epoch =
          .error ⟨.nullViolation, "value should not be null", "address"⟩ := by
  exact ⟨by decide, _, _, rfl, rfl, rfl⟩

end Registry

end Conform
