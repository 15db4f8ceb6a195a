/-
**Choices and custom checks.**

A choice tries its candidates in order and takes the first that accepts the value: a literal accepts
what equals it and leaves it as it is, a validator accepts what it validates and yields its result.

A custom check is any function from values to outcomes, behind the steps that all validators share.
A rule makes a check that leaves accepted values as they are.

Main definitions:

* `Candidate`, `ChoiceProperty` — candidates and choices;
* `CustomProperty` — checks of one's own, and `CustomProperty.ofRule` for rules;
* `Rule.accepts` — the rule that accepts what a validator accepts.
-/

import Conform.Rule
import Conform.Validation.Property
import Conform.Value.Equality

set_option relaxedAutoImplicit false
set_option autoImplicit false

namespace Conform

/-! ### Choices -/

/-- One candidate of a choice. -/
inductive Candidate (m : Type → Type) where
  | literal (value : Value)
  | validated (validator : Validator m)

/-- What the candidate makes of a value, if it accepts it. -/
def Candidate.attempt {m : Type → Type} [Monad m] (value : Value) :
    Candidate m → m (Option Value)
  | literal l => pure (if l.equal value then some value else none)
  | validated validator => do return (← (validator value).run).toOption

/-- A property with candidates. -/
structure ChoiceProperty (m : Type → Type) where
  property : Property m
  candidates : List (Candidate m)

namespace ChoiceProperty

variable {m : Type → Type}

/-- A nullable choice. -/
def of (candidates : List (Candidate m)) : ChoiceProperty m := ⟨Property.any, candidates⟩

/-- What the first candidate that accepts the value makes of it. -/
def firstMatch [Monad m] (value : Value) : List (Candidate m) → m (Option Value)
  | [] => pure none
  | candidate :: rest => do
    match ← candidate.attempt value with
    | some result => return some result
    | none => firstMatch value rest

/-- The validator of a choice. -/
def validate [Monad m] (choice : ChoiceProperty m) : Validator m :=
  choice.property.run .ok fun value => do
    match ← ExceptT.lift (firstMatch value choice.candidates) with
    | some result => return result
    | none => throw (Fault.noMatchingChoice value.text)

end ChoiceProperty

/-! ### Custom checks -/

/-- A property with a check of one's own. -/
structure CustomProperty (m : Type → Type) where
  property : Property m
  check : Value → Outcome m Value

namespace CustomProperty

variable {m : Type → Type}

/-- A nullable custom check of the given kinds. -/
def of (accepts : List Kind) (check : Value → Outcome m Value) : CustomProperty m :=
  ⟨Property.of accepts, check⟩

/-- The check that refuses with a message what a rule does not accept. -/
def ofRule [Monad m] (rule : Rule m Value) (message : String) : CustomProperty m :=
  of [] fun value => do
    if ← ExceptT.lift (rule.check value) then return value else throw (Fault.rejected message)

/-- The validator of a custom check. -/
def validate [Monad m] (custom : CustomProperty m) : Validator m :=
  custom.property.run .ok custom.check

end CustomProperty

/-- The rule that accepts what a validator accepts. -/
def Rule.accepts {m : Type → Type} [Monad m] (validator : Validator m) : Rule m Value :=
  .test fun value => (validator value).succeeds

end Conform
