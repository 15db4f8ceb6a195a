/-
**Values and JSON documents.**

A JSON document becomes a value with its objects sorted; an integer beyond 64 signed bits becomes a
float.  Back again, dates and instants become texts, and a float that is no number becomes null.

Main definitions:

* `Value.ofJson` — the value of a document;
* `Value.toJson` — the document of a value;
* `Value.text` — a value as it appears in messages.
-/

import Conform.Calendar.Writer
import Conform.Json.Writer
import Conform.Value.Basic

set_option relaxedAutoImplicit false
set_option autoImplicit false

namespace Conform

namespace Value

mutual

/-- The value of a document. -/
def ofJson : Json → Value
  | .null => null
  | .bool b => bool b
  | .int n => int n
  | .big n => float (Binary64.ofInt n.toNat)
  | .float x => float x
  | .str s => string s
  | .arr items => array (ofJsonItems items)
  | .obj members => object (Members.ofList (ofJsonMembers members))

/-- The values of items. -/
def ofJsonItems : List Json → List Value
  | [] => []
  | j :: rest => ofJson j :: ofJsonItems rest

/-- The values of members, in their order. -/
def ofJsonMembers : List (String × Json) → List (String × Value)
  | [] => []
  | (k, j) :: rest => (k, ofJson j) :: ofJsonMembers rest

end

mutual

/-- The document of a value. -/
def toJson : Value → Json
  | null => .null
  | bool b => .bool b
  | int n => .int n
  | float x => if x.IsFinite then .float x else .null
  | string s => .str s
  | date d => .str d.text
  | datetime t => .str t.text
  | array items => .arr (toJsonItems items)
  | object members => .obj (toJsonMembers members)

/-- The documents of items. -/
def toJsonItems : List Value → List Json
  | [] => []
  | v :: rest => toJson v :: toJsonItems rest

/-- The documents of members. -/
def toJsonMembers : List (String × Value) → List (String × Json)
  | [] => []
  | (k, v) :: rest => (k, toJson v) :: toJsonMembers rest

end

/-- A value as it appears in messages: a string between single quotes, an array or object as its JSON
text. -/
def text : Value → String
  | null => "null"
  | bool b => if b then "true" else "false"
  | int n => String.ofList (Json.integerChars n.toInt)
  | float x => String.ofList x.plainText
  | string s => "'" ++ s ++ "'"
  | date d => d.text
  | datetime t => t.text
  | array items => (Json.arr (toJsonItems items)).compact
  | object members => (Json.obj (toJsonMembers members)).compact

end Value

end Conform
