/-
**Validators and properties.**

A validator takes a value and yields the validated value or a fault.  It may ask providers on the
way, so it runs in a monad.

A property holds what all validators share.  It puts six steps around the check that is peculiar to a
validator: a default stands in for null; a null that is left must be allowed, and is the result; the
value is converted; its kind must be accepted; the check runs; a callback changes the result.

Main definitions:

* `Validator` — from values to validated values or faults;
* `Property` — accepted kinds, nullability, default and callback;
* `Property.resolve`, `Property.checkKind`, `Property.finish` — the shared steps;
* `Property.run` — all steps around a conversion and a check.
-/

import Conform.Fault
import Conform.Validation.Range
import Conform.Value.Json

set_option relaxedAutoImplicit false
set_option autoImplicit false

namespace Conform

/-- A result, or a fault, in a monad. -/
abbrev Outcome (m : Type → Type) (α : Type) := ExceptT Fault m α

/-- What validates the value at one place. -/
abbrev Validator (m : Type → Type) := Value → Outcome m Value

namespace Outcome

variable {m : Type → Type} [Monad m] {α : Type}

/-- A result or a fault that needs no effects. -/
def of (result : Except Fault α) : Outcome m α := ExceptT.mk (pure result)

/-- The outcome with its fault changed, if it has one. -/
def mapFault (f : Fault → Fault) (outcome : Outcome m α) : Outcome m α :=
  ExceptT.mk do return (← outcome.run).mapError f

/-- Did it yield a result? -/
def succeeds (outcome : Outcome m α) : m Bool := do
  match ← outcome.run with
  | .ok _ => return true
  | .error _ => return false

end Outcome

/-- What all validators share. -/
structure Property (m : Type → Type) where
  /-- the kinds of values that pass; all if the list is empty -/
  accepts : List Kind
  nullable : Bool
  /-- what stands in for null -/
  default : Option (Provider m Value)
  /-- what changes a validated value -/
  callback : Option (Value → Value)

namespace Property

variable {m : Type → Type}

/-- A nullable property of the given kinds, without default and callback. -/
def of (accepts : List Kind) : Property m := ⟨accepts, true, none, none⟩

/-- A nullable property of all kinds. -/
def any : Property m := of []

/-- Is there a default? -/
def hasDefault (property : Property m) : Bool := property.default.isSome

/-- The value, or the default in place of null; null is a fault where it is not allowed. -/
def resolve [Monad m] (property : Property m) (value : Value) : Outcome m Value := do
  let value ← match value, property.default with
    | .null, some provider => provider.resolve
    | value, _ => pure value
  if value.isNull && !property.nullable then throw Fault.nullValue else return value

/-- The names of the accepted kinds. -/
def expectation (property : Property m) : String :=
  " or ".intercalate (property.accepts.map Kind.name)

/-- A value of another kind than those accepted is a fault. -/
def checkKind (property : Property m) (value : Value) : Except Fault Unit :=
  if property.accepts.isEmpty || property.accepts.contains value.kind then .ok ()
  else .error (Fault.typeMismatch property.expectation value.kind.name)

/-- The value after the callback. -/
def finish (property : Property m) (value : Value) : Value :=
  match property.callback with
  | some callback => callback value
  | none => value

/-- All steps, with a conversion and a check in their places.  A null that is allowed passes at once. -/
def run [Monad m] (property : Property m) (coerce : Value → Except Fault Value)
    (check : Value → Outcome m Value) : Validator m := fun value => do
  let value ← property.resolve value
  if value.isNull then return .null
  else
    let value ← Outcome.of (coerce value)
    Outcome.of (property.checkKind value)
    let value ← check value
    return property.finish value

/-- The property alone, without conversion and check. -/
def validate [Monad m] (property : Property m) : Validator m := property.run .ok pure

end Property

end Conform
