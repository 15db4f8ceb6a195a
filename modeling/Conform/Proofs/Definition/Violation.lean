/-
**What a schema can find fault with.**

A schema that was compiled from a document, whatever the definitions in it, finds fault with inputs
only: it never blames a definition or the registry, and it knows no limits.  This is so at every time,
also if it was compiled at another one.

The proof follows the way from definitions to validators.  The steps that all validators share, and
the check of each kind of validator, find fault with inputs only if their parts do; so does everything
that is built of such parts.

Main definitions:

* `Fault.IsViolation` — the fault is found in an input;
* `Violating` — a result, or a violation;
* `Validator.Judges` — a validator that never fails but with a violation.

Main results:

* `Property.judges_run` — the steps that all validators share;
* `Definition.judges_validator` — **the validator of a definition finds fault with inputs only**;
* `Document.violating_schema` — and so does the schema of a document.
-/

import Conform.Document
import Conform.Proofs.Definition.Simulation

set_option relaxedAutoImplicit false
set_option autoImplicit false

namespace Conform

/-! ### Violations -/

/-- Are faults of the class found in an input, and not for its size? -/
def Fault.Class.isViolation (kind : Class) : Bool := kind.blamesInput && kind ≠ .limitExceeded

/-- The fault is found in an input, and not for its size. -/
def Fault.IsViolation (fault : Fault) : Prop := fault.kind.isViolation = true

theorem Fault.isViolation_iff {fault : Fault} :
    fault.IsViolation ↔ fault.kind.blamesInput = true ∧ fault.kind ≠ .limitExceeded := by
  simp [IsViolation, Class.isViolation]

/-- The fault, if there is one, is a violation. -/
def Violating {α : Type} (x : Except Fault α) : Prop := ∀ fault, x = .error fault → fault.IsViolation

namespace Violating

variable {α β : Type} {x : Except Fault α}

theorem ok (a : α) : Violating (.ok a : Except Fault α) := FailsOnly.ok a

theorem error {fault : Fault} (h : fault.IsViolation) : Violating (.error fault : Except Fault α) :=
  FailsOnly.error h

theorem bind {f : α → Except Fault β} (hx : Violating x) (hf : ∀ a, Violating (f a)) :
    Violating (x >>= f) :=
  FailsOnly.bind hx hf

theorem map (f : α → β) (hx : Violating x) : Violating (f <$> x) := FailsOnly.map f hx

theorem mapError {ε : Type} {x : Except ε α} {f : ε → Fault} (hf : ∀ e, (f e).IsViolation) :
    Violating (x.mapError f) :=
  FailsOnly.mapError hf

/-- A violation in a part is a violation. -/
theorem within (hx : Violating x) (segment : String) : Violating (x.mapError (·.within segment)) := by
  intro fault h
  obtain ⟨inner, hinner, rfl⟩ := mapError_eq_error.1 h
  exact hx inner hinner

end Violating

/-- A validator that never fails but with a violation, at whatever time. -/
def Validator.Judges (validator : Validator Clocked) : Prop :=
  ∀ v now, Violating ((validator v).asOf now)

open Validator

/-! ### The shared steps -/

theorem Property.violating_checkKind (property : Property Clocked) (v : Value) :
    Violating (property.checkKind v) := by
  rw [checkKind]
  split
  · exact .ok ()
  · exact .error rfl

/-- Around a conversion and a check that find fault with inputs only, so do all steps together. -/
theorem Property.judges_run (property : Property Clocked) {coerce : Value → Except Fault Value}
    {check : Value → Outcome Clocked Value} (hcoerce : ∀ v, Violating (coerce v))
    (hcheck : Judges check) : Judges (property.run coerce check) := by
  intro v now
  rw [run_asOf]
  split
  · split
    · exact .ok _
    · exact .error rfl
  · exact (hcoerce _).bind fun u => (property.violating_checkKind u).bind fun _ =>
      (hcheck u now).map _

/-! ### Scalars -/

theorem Value.violating_toInstant (v : Value) : Violating v.toInstant := by
  rw [toInstant]
  split
  · exact .ok _
  · exact .error rfl

namespace ScalarKind

theorem violating_toDate (v : Value) : Violating (toDate v) := by
  cases v with
  | date d => exact .ok _
  | datetime t => exact .ok _
  | string s =>
      have hparse : Violating (Date.parse s) := .mapError fun _ => rfl
      exact hparse.map _
  | int n | float x => exact (Value.violating_toInstant _).map _
  | _ => exact .error rfl

theorem violating_toDateTime (v : Value) : Violating (toDateTime v) := by
  cases v with
  | datetime t => exact .ok _
  | string s =>
      have hparse : Violating (DateTime.parse s) := .mapError fun _ => rfl
      exact hparse.map _
  | int n | float x => exact (Value.violating_toInstant _).map _
  | _ => exact .error rfl

end ScalarKind

theorem Scalar.violating_checkFormat (format : Option Format) (v : Value) :
    Violating (checkFormat format v) := by
  unfold checkFormat
  split
  · split
    · exact .ok ()
    · exact .error rfl
  · exact .ok ()

theorem Scalar.judges_check {μ : Type} [Comparable μ] (scalar : Scalar Clocked μ) :
    Judges scalar.check := by
  intro v now
  rw [check_asOf]
  split
  · exact (violating_checkFormat _ v).bind fun _ => .ok _
  · exact .error rfl

/-- A scalar finds fault with inputs only if its conversion does. -/
theorem LeafType.judges_scalar {μ : Type} [Comparable μ] {kind : ScalarKind μ}
    (hcoerce : ∀ v, Violating (kind.coerce v)) (options : Options) (range : Range Clocked μ)
    (format : Option Format) (stripHyphens : Bool) :
    Judges (scalar kind options range format stripHyphens) :=
  Property.judges_run _ hcoerce (Scalar.judges_check _)

/-- Whatever the leaf, its validator finds fault with inputs only. -/
theorem LeafType.judges_bare {options : Options} {type : LeafType} {f : Validator Clocked}
    {start : DateTime} (h : (type.bare options).asOf start = .ok f) : Judges f := by
  have hok : ∀ v : Value, Violating (Except.ok v : Except Fault Value) := Violating.ok
  cases type with
  | any kinds =>
      rw [bare, Outcome.asOf_bind] at h
      obtain ⟨known, -, h⟩ := bind_eq_ok.1 h
      cases h
      exact Property.judges_run _ hok fun v now => .ok v
  | regex pattern length =>
      rw [bare, Outcome.asOf_bind] at h
      obtain ⟨format, -, h⟩ := bind_eq_ok.1 h
      cases h
      exact judges_scalar hok _ _ _ _
  | date min max =>
      rw [bare, Outcome.asOf_bind] at h
      obtain ⟨range, -, h⟩ := bind_eq_ok.1 h
      cases h
      exact judges_scalar ScalarKind.violating_toDate _ _ _ _
  | datetime min max =>
      rw [bare, Outcome.asOf_bind] at h
      obtain ⟨range, -, h⟩ := bind_eq_ok.1 h
      cases h
      exact judges_scalar ScalarKind.violating_toDateTime _ _ _ _
  | _ =>
      cases h
      exact judges_scalar hok _ _ _ _

/-! ### Objects -/

namespace Schema

variable {schema : Schema Clocked} {fields : List (String × Validator Clocked)}

theorem violating_membersOf (v : Value) : Violating (membersOf v) := by
  cases v with
  | object members => exact .ok members
  | _ => exact .error rfl

/-- Fields stay so if one more is declared. -/
theorem judges_declare {name : String} {f : Validator Clocked} (hf : Judges f)
    (h : ∀ field ∈ fields, Judges field.2) : ∀ field ∈ declare name f fields, Judges field.2 := by
  induction fields with
  | nil => exact List.forall_mem_singleton.2 hf
  | cons field rest ih =>
      obtain ⟨hfield, hrest⟩ := List.forall_mem_cons.1 h
      rw [declare]
      split
      · exact List.forall_mem_cons.2 ⟨hf, hrest⟩
      · exact List.forall_mem_cons.2 ⟨hfield, ih hrest⟩

theorem violating_validateEach (h : ∀ field ∈ fields, Judges field.2) (input : Members Value)
    (now : DateTime) : Violating ((validateEach input fields).asOf now) := by
  induction fields with
  | nil => exact .ok _
  | cons field rest ih =>
      obtain ⟨name, f⟩ := field
      obtain ⟨hf, hrest⟩ := List.forall_mem_cons.1 h
      simp only [validateEach, Outcome.asOf_bind, Outcome.asOf_mapFault]
      exact ((hf _ now).within name).bind fun _ => (ih hrest).bind fun _ => .ok _

/-- The first undeclared name is a violation, and then what the fields make of the members. -/
theorem violating_validateFields (h : ∀ field ∈ schema.fields, Judges field.2) (strict : Bool)
    (input : Members Value) (now : DateTime) :
    Violating ((schema.validateFields strict input).asOf now) := by
  rw [validateFields]
  split
  · exact .error rfl
  · rw [Outcome.asOf_bind]
    exact (violating_validateEach h input now).bind fun _ => .ok _

/-- A schema finds fault with inputs only if its fields do. -/
theorem judges_validate (h : ∀ field ∈ schema.fields, Judges field.2) : Judges schema.validate := by
  intro v now
  rw [validate, Outcome.asOf_ite, Outcome.asOf_bind]
  split
  · exact .error rfl
  · exact (violating_membersOf v).bind fun members => violating_validateFields h _ members now

end Schema

theorem ObjectProperty.judges_validate {object : ObjectProperty Clocked}
    (h : ∀ field ∈ object.schema.fields, Judges field.2) : Judges object.validate := by
  refine Property.judges_run _ Violating.ok fun v now => ?_
  rw [Outcome.asOf_bind]
  exact (Schema.violating_membersOf v).bind fun members =>
    Schema.violating_validateFields h _ members now

/-! ### Arrays and choices -/

namespace ArrayProperty

theorem violating_validateFrom {f : Validator Clocked} (hf : Judges f) (now : DateTime)
    (items : List Value) : ∀ index, Violating ((validateFrom f index items).asOf now) := by
  induction items with
  | nil => exact fun _ => .ok _
  | cons item rest ih =>
      intro index
      simp only [validateFrom, Outcome.asOf_bind, Outcome.asOf_mapFault]
      exact ((hf item now).within _).bind fun _ => (ih (index + 1)).bind fun _ => .ok _

/-- An array finds fault with inputs only if its items do. -/
theorem judges_validate {array : ArrayProperty Clocked} (h : Judges array.items) :
    Judges array.validate := by
  refine Property.judges_run _ Violating.ok fun v now => ?_
  have hitems : Violating (itemsOf v) := by
    cases v with
    | array items => exact .ok items
    | _ => exact .error rfl
  simp only [check, Outcome.asOf_bind, Outcome.asOf_liftM, Outcome.asOf_of, ok_bind]
  refine hitems.bind fun items => ?_
  split
  · rw [Outcome.asOf_bind]
    exact (violating_validateFrom h now items 0).bind fun _ => .ok _
  · exact .error rfl

end ArrayProperty

/-- What its candidates find fault with, a choice does not report: its only fault is its own. -/
theorem ChoiceProperty.judges_validate (choice : ChoiceProperty Clocked) :
    Judges choice.validate := by
  refine Property.judges_run _ Violating.ok fun v now => ?_
  rw [Outcome.asOf_bind, Outcome.asOf_lift, ok_bind]
  split
  · exact .ok _
  · exact .error rfl

/-! ### Definitions -/

namespace Definition

variable {start : DateTime}

/-- Fields whose validators find fault with inputs only make a schema of such fields. -/
theorem judges_addFields {fields : List (String × Definition)}
    (h : ∀ field ∈ fields, ∀ name f, (validator name field.2).asOf start = .ok f → Judges f) :
    ∀ {schema schema' : Schema Clocked}, (addFields schema fields).asOf start = .ok schema' →
      (∀ field ∈ schema.fields, Judges field.2) → ∀ field ∈ schema'.fields, Judges field.2 := by
  induction fields with
  | nil =>
      intro schema schema' hadd hschema
      cases hadd
      exact hschema
  | cons field rest ih =>
      intro schema schema' hadd hschema
      obtain ⟨hfield, hrest⟩ := List.forall_mem_cons.1 h
      simp only [addFields, Outcome.asOf_bind, Outcome.asOf_mapFault, bind_eq_ok,
        mapError_eq_ok] at hadd
      obtain ⟨f, hf, hadd⟩ := hadd
      exact ih hrest hadd (Schema.judges_declare (hfield field.1 f hf) hschema)

/-- **The validator of a definition finds fault with inputs only**, whenever it was built. -/
theorem judges_validator (d : Definition) : ∀ name f,
    (d.validator name).asOf start = .ok f → Judges f := by
  induction d with
  | leaf type options =>
      intro name f h
      rw [validator, LeafType.validator, Outcome.asOf_bind] at h
      obtain ⟨bare, hbare, h⟩ := bind_eq_ok.1 h
      obtain ⟨rfl, -⟩ := Options.checkDefault_asOf.1 h
      exact LeafType.judges_bare hbare
  | object fields strict options ih =>
      intro name f h
      rw [validator, Outcome.asOf_bind] at h
      obtain ⟨schema, hschema, h⟩ := bind_eq_ok.1 h
      obtain ⟨rfl, -⟩ := Options.checkDefault_asOf.1 h
      exact ObjectProperty.judges_validate (judges_addFields ih hschema (List.forall_mem_nil _))
  | array items length options ih =>
      intro name f h
      rw [validator, Outcome.asOf_ite, Outcome.asOf_bind] at h
      split at h
      · cases h
      · obtain ⟨inner, hinner, h⟩ := bind_eq_ok.1 h
        cases h
        exact ArrayProperty.judges_validate (ih name inner hinner)
  | choice entries options ih =>
      intro name f h
      rw [validator, Outcome.asOf_bind] at h
      obtain ⟨candidates, -, h⟩ := bind_eq_ok.1 h
      obtain ⟨rfl, -⟩ := Options.checkDefault_asOf.1 h
      exact ChoiceProperty.judges_validate _

end Definition

/-- **The schema of a document finds fault with inputs only**, whenever it was compiled. -/
theorem Document.violating_schema {document : Document} {schema : Schema Clocked} {start : DateTime}
    (h : (document.schema : Outcome Clocked (Schema Clocked)).asOf start = .ok schema) :
    Judges schema.validate :=
  Schema.judges_validate <| Definition.judges_addFields
    (fun field _ => Definition.judges_validator field.2) h (List.forall_mem_nil _)

end Conform
