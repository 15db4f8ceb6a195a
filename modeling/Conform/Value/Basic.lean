/-
**Values.**

A value is what validation takes and gives: the data of a JSON document, and the dates and instants
into which texts and timestamps are turned.  The members of an object are sorted by name.

Main definitions:

* `Kind` — the nine kinds of values, and their names;
* `Value` — the values;
* `Value.depth`, `Value.size` — the nesting depth and the number of values.
-/

import Conform.Calendar.DateTime
import Conform.Binary64.Nearest
import Conform.Members

set_option relaxedAutoImplicit false
set_option autoImplicit false

namespace Conform

/-! ### Kinds -/

/-- The kind of a value. -/
inductive Kind where
  | null
  | bool
  | int
  | float
  | string
  | date
  | datetime
  | array
  | object
deriving DecidableEq

namespace Kind

/-- The name of a kind. -/
def name : Kind → String
  | null => "null"
  | bool => "bool"
  | int => "int"
  | float => "float"
  | string => "string"
  | date => "date"
  | datetime => "datetime"
  | array => "array"
  | object => "object"

/-- All kinds. -/
def all : List Kind := [null, bool, int, float, string, date, datetime, array, object]

/-- The kind of a name. -/
def ofName? (name : String) : Option Kind := all.find? fun k => k.name = name

end Kind

/-! ### Values -/

/-- A value; the members of an object are sorted by name. -/
inductive Value where
  | null
  | bool (b : Bool)
  | int (n : Int64)
  | float (x : Binary64)
  | string (s : String)
  | date (d : Date)
  | datetime (t : DateTime)
  | array (items : List Value)
  | object (members : List (String × Value))
deriving Inhabited

namespace Value

/-- The kind of a value. -/
def kind : Value → Kind
  | null => .null
  | bool _ => .bool
  | int _ => .int
  | float _ => .float
  | string _ => .string
  | date _ => .date
  | datetime _ => .datetime
  | array _ => .array
  | object _ => .object

/-- Is the value null? -/
def isNull : Value → Bool
  | null => true
  | _ => false

/-- The text of a string. -/
def asString? : Value → Option String
  | string s => some s
  | _ => none

/-- The number of an integer. -/
def asInt? : Value → Option Int64
  | int n => some n
  | _ => none

/-- The number of an integer or a float, rounded to a float. -/
def asFloat? : Value → Option Binary64
  | int n => some (Binary64.ofInt n.toInt)
  | float x => some x
  | _ => none

/-- The truth value of a boolean. -/
def asBool? : Value → Option Bool
  | bool b => some b
  | _ => none

/-- The items of an array. -/
def asArray? : Value → Option (List Value)
  | array items => some items
  | _ => none

/-- The members of an object. -/
def asObject? : Value → Option (Members Value)
  | object members => some members
  | _ => none

/-- The member of an object under a name. -/
def get? (v : Value) (name : String) : Option Value :=
  v.asObject?.bind fun members => Members.find? members name

/-! ### Size -/

mutual

/-- The nesting depth; a value without parts has depth 1. -/
def depth : Value → Nat
  | array items => 1 + depthItems items
  | object members => 1 + depthMembers members
  | null | bool _ | int _ | float _ | string _ | date _ | datetime _ => 1

/-- The greatest depth among the items, zero if there are none. -/
def depthItems : List Value → Nat
  | [] => 0
  | v :: rest => max (depth v) (depthItems rest)

/-- The greatest depth among the members, zero if there are none. -/
def depthMembers : List (String × Value) → Nat
  | [] => 0
  | (_, v) :: rest => max (depth v) (depthMembers rest)

end

mutual

/-- The number of values, this one included. -/
def size : Value → Nat
  | array items => 1 + sizeItems items
  | object members => 1 + sizeMembers members
  | null | bool _ | int _ | float _ | string _ | date _ | datetime _ => 1

/-- The number of values in the items. -/
def sizeItems : List Value → Nat
  | [] => 0
  | v :: rest => size v + sizeItems rest

/-- The number of values in the members. -/
def sizeMembers : List (String × Value) → Nat
  | [] => 0
  | (_, v) :: rest => size v + sizeMembers rest

end

end Value

end Conform
