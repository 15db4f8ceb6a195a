/-
**Definitions and their parts.**

A definition is a tree: an object holds the definitions of its fields, an array that of its items, a
choice those among its entries.  This module gives the induction over such trees and a way to demand
something of every definition within one.

Main definitions:

* `Definition.Everywhere` — a property of a definition and of all definitions within it;
* `Definition.Within` — a definition is found in another;
* `Definition.WellFormed` — the fields of every object are sorted by name, without repetitions;
* `Definition.LiteralChoices` — every choice is among literals only.

Main results:

* `Definition.induct` — induction over definitions;
* `Definition.everywhere_object`, `Definition.everywhere_choice` — what is demanded everywhere is
  demanded of the parts.
-/

import Conform.Definition.Reader
import Mathlib

set_option relaxedAutoImplicit false
set_option autoImplicit false

namespace Conform

namespace Definition

/-! ### Induction -/

/-- Induction over a definition and the definitions within it. -/
@[elab_as_elim, induction_eliminator]
theorem induct {motive : Definition → Prop}
    (leaf : ∀ type options, motive (leaf type options))
    (object : ∀ fields strict options, (∀ field ∈ fields, motive field.2) →
      motive (object fields strict options))
    (array : ∀ items length options, motive items → motive (array items length options))
    (choice : ∀ entries options, (∀ d, ChoiceEntry.property d ∈ entries → motive d) →
      motive (choice entries options))
    (d : Definition) : motive d := by
  refine Definition.rec
    (motive_2 := fun fields => ∀ field ∈ fields, motive field.2)
    (motive_3 := fun entries => ∀ d, ChoiceEntry.property d ∈ entries → motive d)
    (motive_4 := fun field => motive field.2)
    (motive_5 := fun entry => ∀ d, entry = .property d → motive d)
    leaf object array choice ?_ ?_ ?_ ?_ ?_ ?_ ?_ d
  · intro field hf
    cases hf
  · intro head tail hhead htail field hf
    rcases List.mem_cons.1 hf with rfl | hf
    · exact hhead
    · exact htail field hf
  · intro d hd
    cases hd
  · intro head tail hhead htail d hd
    rcases List.mem_cons.1 hd with rfl | hd
    · exact hhead d rfl
    · exact htail d hd
  · intro _ d hd
    exact hd
  · intro _ d hd
    cases hd
  · intro d hd d' h
    cases h
    exact hd

/-! ### Demands on all parts -/

mutual

/-- The property holds of the definition and of every definition within it. -/
def Everywhere (p : Definition → Prop) : Definition → Prop
  | leaf type options => p (leaf type options)
  | object fields strict options => p (object fields strict options) ∧ EverywhereFields p fields
  | array items length options => p (array items length options) ∧ Everywhere p items
  | choice entries options => p (choice entries options) ∧ EverywhereEntries p entries

/-- `Everywhere` of each field. -/
def EverywhereFields (p : Definition → Prop) : List (String × Definition) → Prop
  | [] => True
  | (_, d) :: rest => Everywhere p d ∧ EverywhereFields p rest

/-- `Everywhere` of each definition among the entries. -/
def EverywhereEntries (p : Definition → Prop) : List (ChoiceEntry Definition) → Prop
  | [] => True
  | .literal _ :: rest => EverywhereEntries p rest
  | .property d :: rest => Everywhere p d ∧ EverywhereEntries p rest

end

mutual

/-- Decides `Everywhere`. -/
def decideEverywhere (p : Definition → Prop) [DecidablePred p] :
    (d : Definition) → Decidable (Everywhere p d)
  | leaf type options => inferInstanceAs (Decidable (p (leaf type options)))
  | object fields strict options =>
    @instDecidableAnd (p (object fields strict options)) _ _ (decideEverywhereFields p fields)
  | array items length options =>
    @instDecidableAnd (p (array items length options)) _ _ (decideEverywhere p items)
  | choice entries options =>
    @instDecidableAnd (p (choice entries options)) _ _ (decideEverywhereEntries p entries)

/-- Decides `EverywhereFields`. -/
def decideEverywhereFields (p : Definition → Prop) [DecidablePred p] :
    (fields : List (String × Definition)) → Decidable (EverywhereFields p fields)
  | [] => isTrue trivial
  | (_, d) :: rest => @instDecidableAnd _ _ (decideEverywhere p d) (decideEverywhereFields p rest)

/-- Decides `EverywhereEntries`. -/
def decideEverywhereEntries (p : Definition → Prop) [DecidablePred p] :
    (entries : List (ChoiceEntry Definition)) → Decidable (EverywhereEntries p entries)
  | [] => isTrue trivial
  | .literal _ :: rest => decideEverywhereEntries p rest
  | .property d :: rest =>
    @instDecidableAnd _ _ (decideEverywhere p d) (decideEverywhereEntries p rest)

end

instance (p : Definition → Prop) [DecidablePred p] : DecidablePred (Everywhere p) :=
  decideEverywhere p

variable {p : Definition → Prop}

theorem everywhereFields_iff {fields : List (String × Definition)} :
    EverywhereFields p fields ↔ ∀ field ∈ fields, Everywhere p field.2 := by
  induction fields with
  | nil => simp [EverywhereFields]
  | cons field rest ih => simp [EverywhereFields, ih]

theorem everywhereEntries_iff {entries : List (ChoiceEntry Definition)} :
    EverywhereEntries p entries ↔ ∀ d, .property d ∈ entries → Everywhere p d := by
  induction entries with
  | nil => simp [EverywhereEntries]
  | cons entry rest ih =>
      cases entry with
      | literal j => simp [EverywhereEntries, ih]
      | property d => simp [EverywhereEntries, ih, or_imp, forall_and]

@[simp] theorem everywhere_leaf {type : LeafType} {options : Options} :
    Everywhere p (leaf type options) ↔ p (leaf type options) := Iff.rfl

@[simp] theorem everywhere_array {items : Definition} {length : LengthBounds} {options : Options} :
    Everywhere p (array items length options) ↔
      p (array items length options) ∧ Everywhere p items := Iff.rfl

/-- What is demanded everywhere in an object is demanded of it and everywhere in its fields. -/
theorem everywhere_object {fields : List (String × Definition)} {strict : Bool}
    {options : Options} :
    Everywhere p (object fields strict options) ↔
      p (object fields strict options) ∧ ∀ field ∈ fields, Everywhere p field.2 :=
  and_congr_right fun _ => everywhereFields_iff

/-- What is demanded everywhere in a choice is demanded of it and everywhere in its entries. -/
theorem everywhere_choice {entries : List (ChoiceEntry Definition)} {options : Options} :
    Everywhere p (choice entries options) ↔
      p (choice entries options) ∧ ∀ d, .property d ∈ entries → Everywhere p d :=
  and_congr_right fun _ => everywhereEntries_iff

/-- What follows from a demand is fulfilled wherever the demand is. -/
theorem Everywhere.imp {q : Definition → Prop} (h : ∀ d, p d → q d) {d : Definition}
    (hd : d.Everywhere p) : d.Everywhere q := by
  induction d with
  | leaf type options => exact h _ hd
  | object fields strict options ih =>
      obtain ⟨hhere, hfields⟩ := everywhere_object.1 hd
      exact everywhere_object.2 ⟨h _ hhere, fun field hfield => ih field hfield (hfields field hfield)⟩
  | array items length options ih => exact ⟨h _ hd.1, ih hd.2⟩
  | choice entries options ih =>
      obtain ⟨hhere, hentries⟩ := everywhere_choice.1 hd
      exact everywhere_choice.2 ⟨h _ hhere, fun d hmem => ih d hmem (hentries d hmem)⟩

/-- The definition is the other one, or is found in it. -/
inductive Within : Definition → Definition → Prop
  | here (d : Definition) : Within d d
  | field {e d : Definition} {fields : List (String × Definition)} {name : String} {strict : Bool}
      {options : Options} : Within e d → (name, d) ∈ fields → Within e (object fields strict options)
  | item {e items : Definition} {length : LengthBounds} {options : Options} :
      Within e items → Within e (array items length options)
  | entry {e d : Definition} {entries : List (ChoiceEntry Definition)} {options : Options} :
      Within e d → .property d ∈ entries → Within e (choice entries options)

/-- What is demanded everywhere in a definition is demanded everywhere in those within it. -/
theorem Everywhere.within {e d : Definition} (hd : d.Everywhere p) (h : Within e d) :
    e.Everywhere p := by
  induction h with
  | here => exact hd
  | field _ hmem ih => exact ih ((everywhere_object.1 hd).2 _ hmem)
  | item _ ih => exact ih hd.2
  | entry _ hmem ih => exact ih ((everywhere_choice.1 hd).2 _ hmem)

/-! ### Well-formed definitions -/

/-- The fields of an object are sorted by name. -/
def SortedFields : Definition → Prop
  | object fields _ _ => Members.Sorted fields
  | leaf _ _ | array _ _ _ | choice _ _ => True

instance : DecidablePred SortedFields
  | object fields _ _ => inferInstanceAs (Decidable (Members.Sorted fields))
  | leaf _ _ | array _ _ _ | choice _ _ => isTrue trivial

/-- The fields of every object are sorted by name, without repetitions. -/
abbrev WellFormed (d : Definition) : Prop := d.Everywhere SortedFields

/-- Is the entry a literal? -/
def isLiteral : ChoiceEntry Definition → Bool
  | .literal _ => true
  | .property _ => false

/-- The entries of a choice are literals. -/
def LiteralEntries : Definition → Prop
  | choice entries _ => ∀ entry ∈ entries, isLiteral entry = true
  | leaf _ _ | object _ _ _ | array _ _ _ => True

instance : DecidablePred LiteralEntries
  | choice entries _ => inferInstanceAs (Decidable (∀ entry ∈ entries, isLiteral entry = true))
  | leaf _ _ | object _ _ _ | array _ _ _ => isTrue trivial

/-- Every choice is among literals only. -/
abbrev LiteralChoices (d : Definition) : Prop := d.Everywhere LiteralEntries

end Definition

end Conform
