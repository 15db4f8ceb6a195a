/-
**The validator of a definition.**

A definition that is well-formed has a validator: its kinds are known, its pattern is one, its fixed
bounds are dates or instants, its relative bounds lead to supported dates, and its default is accepted
by itself.  An array may not have a default.  The first definition that is not well-formed is blamed,
by the names of the fields that lead to it.

Relative bounds depend on the current time, which is read from the environment: once when the
validator is made, and anew whenever it runs.

Main definitions:

* `LeafType.validator` — the validator of a leaf;
* `Definition.validator` — the validator of a definition;
* `Definition.schemaOf` — the schema of named definitions.
-/

import Conform.Definition.Basic
import Conform.Validation.Alternative
import Conform.Validation.Composite
import Conform.Validation.Scalar

set_option relaxedAutoImplicit false
set_option autoImplicit false

namespace Conform

variable {m : Type → Type}

/-! ### Options -/

/-- The property with the nullability and the default of the options. -/
def Options.configure (options : Options) (property : Property m) : Property m :=
  { property with
    nullable := options.nullable
    default := match options.default with
      | some j => some (.literal (Value.ofJson j))
      | none => property.default }

/-- The validator, if it accepts the default of the options. -/
def Options.checkDefault [Monad m] (options : Options) (validator : Validator m) :
    Outcome m (Validator m) :=
  match options.default with
  | none => pure validator
  | some _ => do
    discard <| (validator .null).mapFault fun fault =>
      Fault.invalidDefinition ("invalid default: " ++ fault.text)
    return validator

/-! ### Bounds -/

namespace TimeBound

/-- A bound that lies outside the supported dates. -/
def outOfReach (days : Int64) : Fault :=
  Fault.invalidDefinition
    ("relative temporal bound of " ++ String.ofList (Json.integerChars days.toInt) ++
      " days is out of range")

/-- A text that is no bound. -/
def unreadable (fault : Fault) : Fault :=
  Fault.invalidDefinition ("invalid temporal bound: " ++ fault.message)

/-- The provider of a bound, where `shift?` moves the current time by days and `fallback` is the bound
once it can no longer be moved that far. -/
def provider [Monad m] [MonadReaderOf DateTime m] {α : Type} (parse : String → Except Fault α)
    (shift? : DateTime → Int → Option α) (fallback : α) : TimeBound → Outcome m (Provider m α)
  | literal text => Outcome.of (((parse text).mapError unreadable).map .literal)
  | relative days => do
    let now ← ExceptT.lift (readThe DateTime)
    match shift? now days.toInt with
    | none => throw (outOfReach days)
    | some _ => return .thunk do return (shift? (← readThe DateTime) days.toInt).getD fallback

/-- The range of a pair of bounds.  Once a relative bound can no longer be moved, the range is empty. -/
def range [Monad m] [MonadReaderOf DateTime m] {α : Type} (parse : String → Except Fault α)
    (shift? : DateTime → Int → Option α) (first last : α) (min max : Option TimeBound) :
    Outcome m (Range m α) := do
  let min ← min.mapM (provider parse shift? last)
  let max ← max.mapM (provider parse shift? first)
  return ⟨min, max⟩

end TimeBound

/-- The range of literal bounds. -/
def Range.literals {μ : Type} (min max : Option μ) : Range m μ :=
  ⟨min.map .literal, max.map .literal⟩

/-- The range of a length. -/
def LengthBounds.range (length : LengthBounds) : Range m Nat :=
  Range.literals (length.min.map UInt64.toNat) (length.max.map UInt64.toNat)

/-! ### Leaves -/

namespace LeafType

/-- The kinds of their names. -/
def kindsOf : List String → Except Fault (List Kind)
  | [] => .ok []
  | name :: rest =>
    match Kind.ofName? name with
    | some kind => (kindsOf rest).map (kind :: ·)
    | none => .error (Fault.invalidDefinition ("unknown kind '" ++ name ++ "'"))

/-- The validator of a scalar with options, a range, and perhaps a format. -/
def scalar [Monad m] {μ : Type} [Comparable μ] (kind : ScalarKind μ) (options : Options)
    (range : Range m μ) (format : Option Format) (stripHyphens : Bool) : Validator m :=
  Scalar.validate ⟨kind, options.configure (Property.of kind.accepts), range, format, stripHyphens⟩

/-- The validator of a leaf, before its default is checked. -/
def bare [Monad m] [MonadReaderOf DateTime m] (options : Options) :
    LeafType → Outcome m (Validator m)
  | any kinds => do
    let kinds ← Outcome.of (kindsOf kinds)
    return (options.configure (Property.of kinds)).validate
  | int min max =>
    return scalar .int options (Range.literals (min.map .int) (max.map .int)) none false
  | float min max =>
    return scalar .float options (Range.literals (min.map .float) (max.map .float)) none false
  | number min max =>
    return scalar .number options (Range.literals (min.map .float) (max.map .float)) none false
  | bool => return scalar .bool options .unbounded none false
  | string length => return scalar .text options length.range none false
  | regex pattern length => do
    let format ← Outcome.of (Format.compile pattern)
    return scalar .text options length.range (some format) false
  | email length => return scalar .text options length.range (some Format.email) false
  | uuid stripHyphens => return scalar .text options .unbounded (some Format.uuid) stripHyphens
  | date min max => do
    let range ← TimeBound.range Date.parse DateTime.shiftDate? Date.first Date.last min max
    return scalar .date options range none false
  | datetime min max => do
    let range ← TimeBound.range DateTime.parse DateTime.addDays? DateTime.first DateTime.last min max
    return scalar .datetime options range none false

/-- The validator of a leaf. -/
def validator [Monad m] [MonadReaderOf DateTime m] (type : LeafType) (options : Options) :
    Outcome m (Validator m) := do
  options.checkDefault (← type.bare options)

end LeafType

/-! ### Definitions -/

namespace Definition

mutual

/-- The validator of a definition; `name` is the name of the field that it stands under. -/
def validator [Monad m] [MonadReaderOf DateTime m] (name : String) :
    Definition → Outcome m (Validator m)
  | leaf type options => type.validator options
  | object fields strict options => do
    let schema ← addFields (Schema.empty name strict) fields
    options.checkDefault
      (ObjectProperty.validate ⟨options.configure (Property.of [.object]), schema, false⟩)
  | array items length options =>
    if options.default.isSome then
      throw (Fault.invalidDefinition "array fields always default to an empty array")
    else do
      let items ← validator name items
      return ArrayProperty.validate ⟨items, length.range, none⟩
  | choice entries options => do
    let candidates ← candidatesOf name entries
    options.checkDefault (ChoiceProperty.validate ⟨options.configure Property.any, candidates⟩)

/-- The schema with the fields of named definitions. -/
def addFields [Monad m] [MonadReaderOf DateTime m] (schema : Schema m) :
    List (String × Definition) → Outcome m (Schema m)
  | [] => pure schema
  | (name, definition) :: rest => do
    let validator ← (validator name definition).mapFault (·.within name)
    addFields (schema.field name validator) rest

/-- The candidates of a choice. -/
def candidatesOf [Monad m] [MonadReaderOf DateTime m] (name : String) :
    List (ChoiceEntry Definition) → Outcome m (List (Candidate m))
  | [] => pure []
  | .literal j :: rest => return .literal (Value.ofJson j) :: (← candidatesOf name rest)
  | .property definition :: rest => do
    let candidate ← validator name definition
    return .validated candidate :: (← candidatesOf name rest)

end

/-- The validator of a definition that stands alone. -/
def build [Monad m] [MonadReaderOf DateTime m] (definition : Definition) :
    Outcome m (Validator m) :=
  definition.validator ""

/-- The schema of named definitions. -/
def schemaOf [Monad m] [MonadReaderOf DateTime m] (name : String) (strict : Bool)
    (fields : List (String × Definition)) : Outcome m (Schema m) :=
  addFields (Schema.empty name strict) fields

end Definition

end Conform
