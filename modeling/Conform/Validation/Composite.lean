/-
**Objects and arrays.**

A schema declares fields in an order, each with a validator.  It validates an object field by field
in this order, a missing field like null, and yields an object with just the declared names.  If it is
strict, an undeclared name is a fault, and of several the first in the order of names.

An array validates its length and then its items one by one.  It is never null: an empty array stands
in for null, and then has to keep the bounds like any other.

The first fault ends the validation, and its path tells the place.

Main definitions:

* `Schema`, `Schema.field`, `Schema.validate` — declared fields;
* `ObjectProperty` — a schema with the steps that all validators share;
* `ArrayProperty` — arrays of items of one validator.
-/

import Conform.Validation.Property

set_option relaxedAutoImplicit false
set_option autoImplicit false

namespace Conform

/-! ### Schemas -/

/-- Declared fields, in the order of their first declaration. -/
structure Schema (m : Type → Type) where
  name : String
  /-- are undeclared names refused? -/
  strict : Bool
  fields : List (String × Validator m)

namespace Schema

variable {m : Type → Type}

/-- A schema without fields. -/
def empty (name : String) (strict : Bool) : Schema m := ⟨name, strict, []⟩

/-- The fields with one more; if its name is declared already, it takes that place. -/
def declare (name : String) (validator : Validator m) :
    List (String × Validator m) → List (String × Validator m)
  | [] => [(name, validator)]
  | (k, v) :: rest =>
    if k = name then (name, validator) :: rest else (k, v) :: declare name validator rest

/-- The schema with one more field. -/
def field (schema : Schema m) (name : String) (validator : Validator m) : Schema m :=
  { schema with fields := declare name validator schema.fields }

/-- The names of the fields. -/
def names (schema : Schema m) : List String := schema.fields.map Prod.fst

/-- The validator of a field. -/
def get? (schema : Schema m) (name : String) : Option (Validator m) := schema.fields.lookup name

/-- The first name of an object that is not declared. -/
def undeclared? (schema : Schema m) (input : Members Value) : Option String :=
  (input.map Prod.fst).find? fun name => !schema.names.contains name

/-- The validated fields of an object, and nothing else. -/
def validateEach [Monad m] (input : Members Value) :
    List (String × Validator m) → Outcome m (Members Value)
  | [] => pure []
  | (name, validator) :: rest => do
    let value ← (validator ((Members.find? input name).getD .null)).mapFault (·.within name)
    let output ← validateEach input rest
    return Members.insert output name value

/-- The object of the validated fields. -/
def validateFields [Monad m] (schema : Schema m) (strict : Bool) (input : Members Value) :
    Outcome m Value := do
  match if strict then schema.undeclared? input else none with
  | some name => throw (Fault.unexpectedField name)
  | none => return .object (← validateEach input schema.fields)

/-- The members of an object; another kind is a fault. -/
def membersOf : Value → Except Fault (Members Value)
  | .object members => .ok members
  | other => .error (Fault.typeMismatch "object" other.kind.name)

/-- The validator of a schema alone, which does not take null. -/
def validate [Monad m] (schema : Schema m) : Validator m := fun value => do
  if value.isNull then throw Fault.nullValue
  else schema.validateFields schema.strict (← Outcome.of (membersOf value))

end Schema

/-- A schema within a property; it may be strict where the schema is not. -/
structure ObjectProperty (m : Type → Type) where
  property : Property m
  schema : Schema m
  strict : Bool

namespace ObjectProperty

variable {m : Type → Type}

/-- A nullable object of a schema. -/
def of (schema : Schema m) : ObjectProperty m := ⟨Property.of [.object], schema, false⟩

/-- Are undeclared names refused? -/
def isStrict (object : ObjectProperty m) : Bool := object.strict || object.schema.strict

/-- The validator of an object. -/
def validate [Monad m] (object : ObjectProperty m) : Validator m :=
  object.property.run .ok fun value => do
    object.schema.validateFields object.isStrict (← Outcome.of (Schema.membersOf value))

end ObjectProperty

/-! ### Arrays -/

/-- Items of one validator. -/
structure ArrayProperty (m : Type → Type) where
  items : Validator m
  /-- the bounds of the length -/
  length : Range m Nat
  callback : Option (Value → Value)

namespace ArrayProperty

variable {m : Type → Type}

/-- Arrays of any length. -/
def of (items : Validator m) : ArrayProperty m := ⟨items, .unbounded, none⟩

/-- The shared steps: only an array passes, and an empty one stands in for null. -/
def property [Monad m] (array : ArrayProperty m) : Property m :=
  ⟨[.array], false, some (.thunk (pure (.array []))), array.callback⟩

/-- The validated items, the first of which has the index `index`. -/
def validateFrom [Monad m] (validator : Validator m) (index : Nat) :
    List Value → Outcome m (List Value)
  | [] => pure []
  | item :: rest => do
    let item ← (validator item).mapFault (·.atIndex index)
    return item :: (← validateFrom validator (index + 1) rest)

/-- The items of an array; another kind is a fault. -/
def itemsOf : Value → Except Fault (List Value)
  | .array items => .ok items
  | other => .error (Fault.typeMismatch "array" other.kind.name)

/-- The length, then the items. -/
def check [Monad m] (array : ArrayProperty m) (value : Value) : Outcome m Value := do
  let items ← Outcome.of (itemsOf value)
  if ← array.length.admits (some items.length) then
    return .array (← validateFrom array.items 0 items)
  else throw (Fault.outOfRange ("array of length " ++ Fault.number items.length))

/-- The validator of an array. -/
def validate [Monad m] (array : ArrayProperty m) : Validator m :=
  array.property.run .ok array.check

end ArrayProperty

end Conform
