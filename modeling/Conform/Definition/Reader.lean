/-
**Reading definitions.**

A definition is read from an object.  Members without a meaning for its type are ignored, whatever
they hold; a member with a meaning may stand there only once.  An option that is left out or null has
no value, unless it has a value of its own for that case; then null is refused.

The type is given by name or by number.  Of a repeated field name the last definition stays.

Main definitions:

* `Json.unique?` — a member that may not be repeated;
* `Definition.ofJson?` — the definition of a document.
-/

import Conform.Binary64.Nearest
import Conform.Definition.Basic
import Conform.Json.Reader

set_option relaxedAutoImplicit false
set_option autoImplicit false

namespace Conform

/-! ### Members -/

namespace Json

/-- The members of an object. -/
def asObject? : Json → Option (List (String × Json))
  | .obj members => some members
  | _ => none

/-- The items of an array. -/
def asArray? : Json → Option (List Json)
  | .arr items => some items
  | _ => none

/-- The text of a string. -/
def asString? : Json → Option String
  | .str s => some s
  | _ => none

/-- A truth value. -/
def asBool? : Json → Option Bool
  | .bool b => some b
  | _ => none

/-- An integer of 64 signed bits. -/
def asInt64? : Json → Option Int64
  | .int n => some n
  | _ => none

/-- An integer of 64 unsigned bits. -/
def asUInt64? : Json → Option UInt64
  | .int n => if 0 ≤ n.toInt then some n.toUInt64 else none
  | .big n => some n
  | _ => none

/-- A number as a float. -/
def asFloat? : Json → Option Binary64
  | .int n => some (Binary64.ofInt n.toInt)
  | .big n => some (Binary64.ofInt n.toNat)
  | .float x => some x
  | _ => none

/-- The member of a name, if there is one; refused if there are several. -/
def unique? (members : List (String × Json)) (name : String) : Option (Option Json) :=
  match members.filter fun member => member.1 = name with
  | [] => some none
  | [member] => some (some member.2)
  | _ => none

/-- The value of a member that has to be there. -/
def required? {α : Type} (read : Json → Option α) (members : List (String × Json))
    (name : String) : Option α := do
  match ← unique? members name with
  | some j => read j
  | none => none

/-- The value of a member that may be left out or null. -/
def optional? {α : Type} (read : Json → Option α) (members : List (String × Json))
    (name : String) : Option (Option α) := do
  match ← unique? members name with
  | none | some .null => some none
  | some j => some <$> read j

/-- The value of a member that has a value of its own if it is left out. -/
def withDefault? {α : Type} (read : Json → Option α) (fallback : α)
    (members : List (String × Json)) (name : String) : Option α := do
  match ← unique? members name with
  | none => some fallback
  | some j => read j

end Json

/-! ### Leaves -/

/-- A number of days, or a text. -/
def TimeBound.ofJson? : Json → Option TimeBound
  | .obj members => relative <$> Json.required? Json.asInt64? members "days_from_today"
  | .str s => some (literal s)
  | _ => none

/-- The bounds of a length. -/
def LengthBounds.ofMembers? (members : List (String × Json)) : Option LengthBounds := do
  some ⟨← Json.optional? Json.asUInt64? members "min_length",
    ← Json.optional? Json.asUInt64? members "max_length"⟩

/-- A pair of bounds. -/
def boundsOfMembers? {α : Type} (read : Json → Option α) (members : List (String × Json)) :
    Option (Option α × Option α) := do
  some (← Json.optional? read members "min", ← Json.optional? read members "max")

/-- A list of texts. -/
def textsOfJson? (j : Json) : Option (List String) := j.asArray? >>= fun items =>
  items.mapM Json.asString?

/-- The leaf of a type's name; absent for a type with parts. -/
def LeafType.ofMembers? (members : List (String × Json)) : TypeName → Option LeafType
  | .any => any <$> Json.withDefault? textsOfJson? [] members "kinds"
  | .int => (fun (a, b) => int a b) <$> boundsOfMembers? Json.asInt64? members
  | .float => (fun (a, b) => float a b) <$> boundsOfMembers? Json.asFloat? members
  | .number => (fun (a, b) => number a b) <$> boundsOfMembers? Json.asFloat? members
  | .bool => some bool
  | .string => string <$> LengthBounds.ofMembers? members
  | .regex => do
    some (regex (← Json.required? Json.asString? members "pattern")
      (← LengthBounds.ofMembers? members))
  | .email => email <$> LengthBounds.ofMembers? members
  | .uuid => uuid <$> Json.withDefault? Json.asBool? false members "strip_hyphens"
  | .date => (fun (a, b) => date a b) <$> boundsOfMembers? TimeBound.ofJson? members
  | .datetime => (fun (a, b) => datetime a b) <$> boundsOfMembers? TimeBound.ofJson? members
  | .object | .array | .choice => none

/-- The common options. -/
def Options.ofMembers? (members : List (String × Json)) : Option Options := do
  some ⟨← Json.withDefault? Json.asBool? true members "nullable",
    (← Json.optional? some members "default").map Json.canonical⟩

/-- The type that a document names, by name or by number. -/
def TypeName.ofJson? : Json → Option TypeName
  | .str s => ofText? s
  | .int n => if 0 ≤ n.toInt then ofNumber? n.toInt.toNat else none
  | _ => none

/-! ### Definitions -/

namespace Definition

/-- The definition of a document, from a reader of the definitions within it. -/
def ofMembers? (inner : Json → Option Definition) (members : List (String × Json)) :
    Option Definition := do
  let options ← Options.ofMembers? members
  match ← Json.required? TypeName.ofJson? members "type" with
  | .object =>
    let fields ← Json.required? fieldsOf? members "fields"
    let strict ← Json.withDefault? Json.asBool? false members "strict"
    some (object fields strict options)
  | .array =>
    let items ← Json.required? inner members "items"
    some (array items (← LengthBounds.ofMembers? members) options)
  | .choice =>
    let entries ← Json.required? entriesOf? members "choices"
    some (choice entries options)
  | type => (leaf · options) <$> LeafType.ofMembers? members type
where
  /-- Named definitions; of a repeated name the last one stays. -/
  fieldsOf? (j : Json) : Option (List (String × Definition)) := do
    let fields ← (← j.asObject?).mapM fun (name, j) => (name, ·) <$> inner j
    some (Members.ofList fields)
  /-- The entries of a choice: objects with one member. -/
  entriesOf? (j : Json) : Option (List (ChoiceEntry Definition)) := do
    (← j.asArray?).mapM fun
      | .obj [("literal", j)] => some (.literal j.canonical)
      | .obj [("property", j)] => .property <$> inner j
      | _ => none

/-- The definition of a document nested no deeper than `depth`. -/
def ofJsonWithin? : Nat → Json → Option Definition
  | 0, _ => none
  | depth + 1, j => j.asObject? >>= ofMembers? (ofJsonWithin? depth)

/-- The definition of a document. -/
def ofJson? (j : Json) : Option Definition := ofJsonWithin? j.depth j

/-- The definition of a text. -/
def read? (text : String) : Option Definition := Json.read? text >>= ofJson?

end Definition

end Conform
