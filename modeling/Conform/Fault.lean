/-
**Faults.**

Everything that can go wrong with a value or a definition is a *fault*: its class, a message, and the
path of the place where it happened.  Paths are built from the inside out: whoever finds a fault in a
part adds the part's segment in front.  Field names are joined by a point; an index in brackets
attaches to what precedes it.

Main definitions:

* `Fault.Class` — the fifteen classes, their codes, and which of them blame the input;
* `Fault` — class, message and path;
* `Fault.within`, `Fault.atIndex` — a fault seen from the enclosing value;
* `Fault.text` — a fault on one line.
-/

import Conform.Json.Writer

set_option relaxedAutoImplicit false
set_option autoImplicit false

namespace Conform

namespace Fault

/-- The class of a fault. -/
inductive Class where
  /-- a value is required but absent, and there is no usable default -/
  | nullViolation
  /-- a value of the wrong kind -/
  | typeMismatch
  /-- a length, number or time outside its bounds -/
  | rangeViolation
  /-- a text that fails its pattern -/
  | patternViolation
  /-- no candidate of a choice accepts the value -/
  | noMatchingChoice
  /-- a strict object holds a name that is not declared -/
  | unexpectedField
  /-- a malformed date or time -/
  | parseFailure
  /-- a custom check refuses the value -/
  | callbackRejected
  /-- a body is present or absent against the policy -/
  | bodyPolicy
  /-- an input that is too deep or too large -/
  | limitExceeded
  /-- a definition that cannot be built -/
  | invalidDefinition
  /-- no schema of that name is registered -/
  | unknownSchema
  /-- the schema is not registered in that version -/
  | unknownSchemaVersion
  /-- a registered schema would be replaced -/
  | schemaImmutable
  /-- a schema document that cannot be read or is malformed -/
  | malformedSchema
deriving DecidableEq

namespace Class

/-- The code of a class. -/
def code : Class → String
  | nullViolation => "SCHEMA_NULL_VIOLATION"
  | typeMismatch => "SCHEMA_TYPE_MISMATCH"
  | rangeViolation => "SCHEMA_RANGE_VIOLATION"
  | patternViolation => "SCHEMA_PATTERN_VIOLATION"
  | noMatchingChoice => "SCHEMA_NO_MATCHING_CHOICE"
  | unexpectedField => "SCHEMA_UNEXPECTED_FIELD"
  | parseFailure => "SCHEMA_PARSE_FAILURE"
  | callbackRejected => "SCHEMA_CALLBACK_REJECTED"
  | bodyPolicy => "SCHEMA_BODY_POLICY"
  | limitExceeded => "SCHEMA_LIMIT_EXCEEDED"
  | invalidDefinition => "SCHEMA_INVALID_DEFINITION"
  | unknownSchema => "SCHEMA_UNKNOWN"
  | unknownSchemaVersion => "SCHEMA_UNKNOWN_VERSION"
  | schemaImmutable => "SCHEMA_IMMUTABLE"
  | malformedSchema => "SCHEMA_MALFORMED"

/-- Is it the input that is at fault, and not a definition or the registry? -/
def blamesInput : Class → Bool
  | invalidDefinition | unknownSchema | unknownSchemaVersion | schemaImmutable
  | malformedSchema => false
  | nullViolation | typeMismatch | rangeViolation | patternViolation | noMatchingChoice
  | unexpectedField | parseFailure | callbackRejected | bodyPolicy | limitExceeded => true

end Class

end Fault

/-- What went wrong, and where. -/
structure Fault where
  kind : Fault.Class
  message : String
  /-- the place, seen from the outermost value; empty for that value itself -/
  path : String
deriving DecidableEq

namespace Fault

/-- The decimal text of a natural. -/
def number (n : Nat) : String := String.ofList (Json.integerChars n)

/-- A fault of the value itself. -/
def new (kind : Class) (message : String) : Fault := ⟨kind, message, ""⟩

/-- The fault seen from the enclosing value, in which the part is called `segment`. -/
def within (fault : Fault) (segment : String) : Fault :=
  { fault with
    path :=
      if fault.path = "" then segment
      else if fault.path.toList.head? = some '[' then segment ++ fault.path
      else segment ++ "." ++ fault.path }

/-- The fault seen from the enclosing array. -/
def atIndex (fault : Fault) (index : Nat) : Fault := fault.within ("[" ++ number index ++ "]")

/-- Null where no null is allowed. -/
def nullValue : Fault := new .nullViolation "value should not be null"

/-- A value of an unexpected kind. -/
def typeMismatch (expected actual : String) : Fault :=
  new .typeMismatch ("expected " ++ expected ++ ", got " ++ actual)

/-- A value outside its range. -/
def outOfRange (value : String) : Fault :=
  new .rangeViolation ("value " ++ value ++ " is out of defined range")

/-- A text that does not match its pattern. -/
def patternMismatch (value pattern : String) : Fault :=
  new .patternViolation ("value '" ++ value ++ "' does not match pattern '" ++ pattern ++ "'")

/-- A value that no candidate accepts. -/
def noMatchingChoice (value : String) : Fault :=
  new .noMatchingChoice ("value " ++ value ++ " matches none of the choices")

/-- A strict object with an undeclared name. -/
def unexpectedField (field : String) : Fault :=
  (new .unexpectedField "object contains undeclared field").within field

/-- A malformed date or time. -/
def parseFailure (input reason : String) : Fault :=
  new .parseFailure ("cannot parse '" ++ input ++ "': " ++ reason)

/-- A value that a custom check refuses. -/
def rejected (reason : String) : Fault := new .callbackRejected reason

/-- A body against the policy. -/
def bodyPolicy (reason : String) : Fault := new .bodyPolicy reason

/-- An input beyond a limit. -/
def limitExceeded (limit : String) (actual greatest : Nat) : Fault :=
  new .limitExceeded
    ("input " ++ limit ++ " " ++ number actual ++ " exceeds maximum " ++ number greatest)

/-- A definition that cannot be built. -/
def invalidDefinition (reason : String) : Fault := new .invalidDefinition reason

/-- A schema of which no version is registered. -/
def unknownSchema (id : String) : Fault := new .unknownSchema ("Schema '" ++ id ++ "' not found")

/-- A version that is not registered. -/
def unknownVersion (id version : String) : Fault :=
  new .unknownSchemaVersion ("Schema '" ++ id ++ "' version '" ++ version ++ "' not found")

/-- A schema that is registered already. -/
def schemaImmutable (id version : String) : Fault :=
  new .schemaImmutable ("Schema '" ++ id ++ "' version '" ++ version ++ "' is immutable")

/-- A document that cannot be read, or is malformed. -/
def malformedSchema (source reason : String) : Fault :=
  new .malformedSchema ("Malformed schema '" ++ source ++ "': " ++ reason)

/-- A fault on one line: code, path if there is one, message. -/
def text (fault : Fault) : String :=
  fault.kind.code ++ (if fault.path = "" then "" else " at '" ++ fault.path ++ "'")
    ++ ": " ++ fault.message

end Fault

end Conform
