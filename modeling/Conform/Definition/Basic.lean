/-
**Definitions.**

A definition says in a document what the values at one place have to be.  It is a *leaf*, that is, of
a type without parts, or an object with named fields, an array of items, or a choice.  Each carries
its options: may the value be null, and what stands in for null.

Main definitions:

* `TimeBound` — a fixed date or instant, or a number of days from today;
* `LeafType` — the types without parts, with their own options;
* `Definition`, `Options` — definitions;
* `TypeName` — the fourteen types by name;
* `Definition.toJson` — the document of a definition.
-/

import Conform.Json.Basic

set_option relaxedAutoImplicit false
set_option autoImplicit false

namespace Conform

/-! ### Types -/

/-- A bound of dates or instants. -/
inductive TimeBound where
  /-- so many days from the current day, whenever it is asked -/
  | relative (days : Int64)
  /-- the date or instant of a text -/
  | literal (text : String)
deriving DecidableEq

/-- Bounds of a length. -/
structure LengthBounds where
  min : Option UInt64
  max : Option UInt64
deriving DecidableEq

/-- A type without parts. -/
inductive LeafType where
  /-- values of the named kinds, of all kinds if none is named -/
  | any (kinds : List String)
  | int (min max : Option Int64)
  | float (min max : Option Binary64)
  | number (min max : Option Binary64)
  | bool
  | string (length : LengthBounds)
  | regex (pattern : String) (length : LengthBounds)
  | email (length : LengthBounds)
  | uuid (stripHyphens : Bool)
  | date (min max : Option TimeBound)
  | datetime (min max : Option TimeBound)
deriving DecidableEq

/-- What all definitions have. -/
structure Options where
  nullable : Bool
  /-- what stands in for null -/
  default : Option Json
deriving DecidableEq

/-- The options of a definition that says nothing about them. -/
def Options.standard : Options := ⟨true, none⟩

/-- One entry of a choice, over definitions `δ`. -/
inductive ChoiceEntry (δ : Type) where
  | literal (value : Json)
  | property (definition : δ)

/-- What the values at one place have to be. -/
inductive Definition where
  | leaf (type : LeafType) (options : Options)
  | object (fields : List (String × Definition)) (strict : Bool) (options : Options)
  | array (items : Definition) (length : LengthBounds) (options : Options)
  | choice (entries : List (ChoiceEntry Definition)) (options : Options)

/-! ### Names of types -/

/-- The types by name, in the order of their numbers. -/
inductive TypeName where
  | any
  | int
  | float
  | number
  | bool
  | string
  | regex
  | email
  | uuid
  | date
  | datetime
  | object
  | array
  | choice
deriving DecidableEq

namespace TypeName

/-- The name as documents write it. -/
def text : TypeName → String
  | any => "any"
  | int => "int"
  | float => "float"
  | number => "number"
  | bool => "bool"
  | string => "string"
  | regex => "regex"
  | email => "email"
  | uuid => "uuid"
  | date => "date"
  | datetime => "datetime"
  | object => "object"
  | array => "array"
  | choice => "choice"

/-- All types; a type's place here is its number. -/
def all : List TypeName :=
  [any, int, float, number, bool, string, regex, email, uuid, date, datetime, object, array, choice]

/-- The type of a name. -/
def ofText? (text : String) : Option TypeName := all.find? fun t => t.text = text

/-- The type of a number. -/
def ofNumber? (n : Nat) : Option TypeName := all[n]?

end TypeName

/-- The name of a leaf's type. -/
def LeafType.typeName : LeafType → TypeName
  | any _ => .any
  | int _ _ => .int
  | float _ _ => .float
  | number _ _ => .number
  | bool => .bool
  | string _ => .string
  | regex _ _ => .regex
  | email _ => .email
  | uuid _ => .uuid
  | date _ _ => .date
  | datetime _ _ => .datetime

namespace Definition

/-- The name of a definition's type. -/
def typeName : Definition → TypeName
  | leaf type _ => type.typeName
  | object _ _ _ => .object
  | array _ _ _ => .array
  | choice _ _ => .choice

/-- The options of a definition. -/
def options : Definition → Options
  | leaf _ options | object _ _ options | array _ _ options | choice _ options => options

/-- The definition with other options. -/
def withOptions (options : Options) : Definition → Definition
  | leaf type _ => leaf type options
  | object fields strict _ => object fields strict options
  | array items length _ => array items length options
  | choice entries _ => choice entries options

end Definition

/-! ### Equality -/

namespace Definition

mutual

/-- Are two definitions the same? -/
def same : Definition → Definition → Bool
  | leaf t o, leaf t' o' => t = t' && o = o'
  | object fs s o, object fs' s' o' => sameFields fs fs' && s == s' && o = o'
  | array d l o, array d' l' o' => same d d' && l = l' && o = o'
  | choice es o, choice es' o' => sameEntries es es' && o = o'
  | leaf _ _, _ | object _ _ _, _ | array _ _ _, _ | choice _ _, _ => false

/-- Are two lists of fields the same? -/
def sameFields : List (String × Definition) → List (String × Definition) → Bool
  | [], [] => true
  | (k, d) :: rest, (k', d') :: rest' => k == k' && same d d' && sameFields rest rest'
  | [], _ :: _ | _ :: _, [] => false

/-- Are two lists of entries the same? -/
def sameEntries : List (ChoiceEntry Definition) → List (ChoiceEntry Definition) → Bool
  | [], [] => true
  | .literal j :: rest, .literal j' :: rest' => j = j' && sameEntries rest rest'
  | .property d :: rest, .property d' :: rest' => same d d' && sameEntries rest rest'
  | [], _ :: _ | _ :: _, [] => false
  | .literal _ :: _, .property _ :: _ | .property _ :: _, .literal _ :: _ => false

end

end Definition

/-! ### Documents of definitions -/

namespace Json

/-- A member that is left out if it has no value. -/
def optional {α : Type} (name : String) (write : α → Json) : Option α → List (String × Json)
  | none => []
  | some a => [(name, write a)]

/-- A number of 64 unsigned bits. -/
def ofUInt64 (n : UInt64) : Json := if n.toNat < 0x8000000000000000 then .int n.toInt64 else .big n

/-- A float; what is no number becomes null. -/
def ofFloat (x : Binary64) : Json := if x.IsFinite then .float x else .null

end Json

/-- The document of a bound. -/
def TimeBound.toJson : TimeBound → Json
  | relative days => .obj [("days_from_today", .int days)]
  | literal text => .str text

/-- The members of length bounds. -/
def LengthBounds.members (length : LengthBounds) : List (String × Json) :=
  Json.optional "min_length" Json.ofUInt64 length.min
    ++ Json.optional "max_length" Json.ofUInt64 length.max

/-- The members of a pair of bounds. -/
def boundMembers {α : Type} (write : α → Json) (min max : Option α) : List (String × Json) :=
  Json.optional "min" write min ++ Json.optional "max" write max

/-- The members of the options of a leaf's type. -/
def LeafType.members : LeafType → List (String × Json)
  | any kinds => if kinds.isEmpty then [] else [("kinds", .arr (kinds.map .str))]
  | int min max => boundMembers .int min max
  | float min max | number min max => boundMembers Json.ofFloat min max
  | bool => []
  | string length | email length => length.members
  | regex pattern length => ("pattern", .str pattern) :: length.members
  | uuid stripHyphens => [("strip_hyphens", .bool stripHyphens)]
  | date min max | datetime min max => boundMembers TimeBound.toJson min max

/-- The members of options. -/
def Options.members (options : Options) : List (String × Json) :=
  ("nullable", .bool options.nullable) :: Json.optional "default" id options.default

namespace Definition

/-- A definition's document from its type, the members of this type, and its options. -/
def record (type : TypeName) (members : List (String × Json)) (options : Options) : Json :=
  .obj (("type", .str type.text) :: (members ++ options.members))

mutual

/-- The document of a definition: the type, the options of the type, and the common options. -/
def toJson : Definition → Json
  | leaf type options => record type.typeName type.members options
  | object fields strict options =>
    record .object [("fields", .obj (toJsonFields fields)), ("strict", .bool strict)] options
  | array items length options => record .array (("items", toJson items) :: length.members) options
  | choice entries options => record .choice [("choices", .arr (toJsonEntries entries))] options

/-- The documents of fields. -/
def toJsonFields : List (String × Definition) → List (String × Json)
  | [] => []
  | (k, d) :: rest => (k, toJson d) :: toJsonFields rest

/-- The documents of the entries of a choice. -/
def toJsonEntries : List (ChoiceEntry Definition) → List Json
  | [] => []
  | .literal j :: rest => .obj [("literal", j)] :: toJsonEntries rest
  | .property d :: rest => .obj [("property", toJson d)] :: toJsonEntries rest

end

end Definition

end Conform
