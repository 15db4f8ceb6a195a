/-
**Validators do not depend on when they are built.**

To build a validator is to ask for the time only in order to see whether relative bounds lead to
supported dates.  The validator asks for the time again, whenever it runs.  So a definition may have a
validator at one time and none at another, but it never has two.

Main definitions:

* `Outcome.Single` — the results of an outcome at all times are the same.

Main results:

* `Outcome.Single.bind` — outcomes one behind another have a single result if each has;
* `Definition.single_validator` — **a definition has a single validator**;
* `Document.single_schema` — a document has a single schema.
-/

import Conform.Proofs.Definition.Simulation
import Conform.Document

set_option relaxedAutoImplicit false
set_option autoImplicit false

namespace Conform

variable {α β : Type}

/-! ### Single results -/

/-- Wherever the outcome has a result, it is the same one. -/
def Outcome.Single (outcome : Outcome Clocked α) : Prop :=
  ∀ t t' a a', outcome.asOf t = .ok a → outcome.asOf t' = .ok a' → a = a'

namespace Outcome.Single

/-- A result that needs no time is single. -/
theorem of (result : Except Fault α) : Single (Outcome.of result) := by
  intro t t' a a' ha ha'
  rw [asOf_of] at ha ha'
  exact Except.ok.inj (ha.symm.trans ha')

theorem pure (a : α) : Single (Pure.pure a) := .of (.ok a)

theorem throw (fault : Fault) : Single (throw fault : Outcome Clocked α) := .of (.error fault)

/-- Behind a single result, a single result is single. -/
theorem bind {outcome : Outcome Clocked α} {f : α → Outcome Clocked β} (h : outcome.Single)
    (hf : ∀ a, (f a).Single) : (outcome >>= f).Single := by
  intro t t' b b' hb hb'
  rw [asOf_bind] at hb hb'
  obtain ⟨a, ha, hb⟩ := bind_eq_ok.1 hb
  obtain ⟨a', ha', hb'⟩ := bind_eq_ok.1 hb'
  obtain rfl := h t t' a a' ha ha'
  exact hf a t t' b b' hb hb'

theorem map {outcome : Outcome Clocked α} (h : outcome.Single) (f : α → β) :
    (f <$> outcome).Single := by
  rw [← bind_pure_comp]
  exact h.bind fun a => .pure (f a)

/-- To change the fault is not to change the result. -/
theorem mapFault {outcome : Outcome Clocked α} (h : outcome.Single) (f : Fault → Fault) :
    (outcome.mapFault f).Single := by
  intro t t' a a' ha ha'
  rw [asOf_mapFault, mapError_eq_ok] at ha ha'
  exact h t t' a a' ha ha'

/-- If the result is always one and the same, then it is single. -/
theorem of_eq {outcome : Outcome Clocked α} (a : α)
    (h : ∀ t b, outcome.asOf t = .ok b → b = a) : outcome.Single := by
  intro t t' b b' hb hb'
  rw [h t b hb, h t' b' hb']

theorem mapM (c : Option α) {f : α → Outcome Clocked β} (hf : ∀ a, (f a).Single) :
    (c.mapM f).Single := by
  cases c with
  | none => exact .pure none
  | some a => exact (hf a).map some

end Outcome.Single

open Outcome

/-- The check of a default yields the validator itself. -/
theorem Options.single_checkDefault (options : Options) (validator : Validator Clocked) :
    (options.checkDefault validator).Single :=
  .of_eq validator fun _ _ h => (checkDefault_asOf.1 h).1

/-! ### Leaves -/

namespace TimeBound

variable {parse : String → Except Fault α} {shift? : DateTime → Int → Option α}

/-- A relative bound asks for the time, but its provider does not hold it. -/
theorem single_provider (fallback : α) (bound : TimeBound) :
    (provider parse shift? fallback bound : Outcome Clocked _).Single := by
  cases bound with
  | literal text => exact .of _
  | relative days =>
      -- the time decides whether there is a provider, and does not occur in it
      refine .of_eq (.thunk do return (shift? (← readThe DateTime) days.toInt).getD fallback)
        fun t p h => ?_
      rw [provider, asOf_bind] at h
      obtain ⟨now, -, h⟩ := bind_eq_ok.1 h
      cases hshift : shift? now days.toInt with
      | none =>
          rw [hshift] at h
          cases h
      | some a =>
          rw [hshift] at h
          exact (Except.ok.inj h).symm

theorem single_range (first last : α) (min max : Option TimeBound) :
    (range parse shift? first last min max : Outcome Clocked _).Single :=
  .bind (.mapM min (single_provider last)) fun _ =>
    .bind (.mapM max (single_provider first)) fun _ => .pure _

end TimeBound

theorem LeafType.single_bare (options : Options) (type : LeafType) :
    (type.bare options : Outcome Clocked _).Single := by
  cases type with
  | any kinds => exact .bind (.of _) fun _ => .pure _
  | regex pattern length => exact .bind (.of _) fun _ => .pure _
  | date min max => exact .bind (TimeBound.single_range _ _ min max) fun _ => .pure _
  | datetime min max => exact .bind (TimeBound.single_range _ _ min max) fun _ => .pure _
  | _ => exact .pure _

/-! ### Definitions -/

namespace Definition

/-- Fields that have single validators have a single schema. -/
theorem single_addFields {fields : List (String × Definition)}
    (h : ∀ field ∈ fields, ∀ name, (validator name field.2 : Outcome Clocked _).Single) :
    ∀ schema : Schema Clocked, (addFields schema fields).Single := by
  induction fields with
  | nil => exact fun schema => .pure schema
  | cons field rest ih =>
      intro schema
      obtain ⟨hfield, hrest⟩ := List.forall_mem_cons.1 h
      exact .bind ((hfield field.1).mapFault _) fun _ => ih hrest _

/-- Entries that have single validators have single candidates. -/
theorem single_candidatesOf {name : String} {entries : List (ChoiceEntry Definition)}
    (h : ∀ d, .property d ∈ entries → (validator name d : Outcome Clocked _).Single) :
    (candidatesOf name entries : Outcome Clocked _).Single := by
  induction entries with
  | nil => exact .pure []
  | cons entry rest ih =>
      have hrest := ih fun d hd => h d (List.mem_cons_of_mem _ hd)
      cases entry with
      | literal j => exact .bind hrest fun _ => .pure _
      | property d =>
          exact .bind (h d (List.mem_cons_self ..)) fun _ => .bind hrest fun _ => .pure _

/-- **A definition has a single validator**, at whatever times it is built. -/
theorem single_validator (d : Definition) :
    ∀ name, (d.validator name : Outcome Clocked (Validator Clocked)).Single := by
  induction d with
  | leaf type options =>
      exact fun name => .bind (LeafType.single_bare options type) options.single_checkDefault
  | object fields strict options ih =>
      exact fun name => .bind (single_addFields ih _) fun _ => options.single_checkDefault _
  | array items length options ih =>
      intro name
      rw [validator]
      split
      · exact .throw _
      · exact .bind (ih name) fun _ => .pure _
  | choice entries options ih =>
      exact fun name => .bind (single_candidatesOf fun d hd => ih d hd name) fun _ =>
        options.single_checkDefault _

end Definition

/-- A document has a single schema, at whatever times it is compiled. -/
theorem Document.single_schema (document : Document) :
    (document.schema : Outcome Clocked (Schema Clocked)).Single :=
  Definition.single_addFields (fun field _ => Definition.single_validator field.2) _

end Conform
