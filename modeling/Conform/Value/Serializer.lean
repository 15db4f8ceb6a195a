/-
**Values written part by part.**

A value can be handed to any format without becoming a document first.  A *serializer* is such a
format: it takes the parts of a value one after another, in their order, and decides when it lets a
part be written.  Dates and instants are texts to it.

One serializer builds the tree of a document.

Main definitions:

* `Serializer` — what a format does with the parts of a value;
* `Value.serialize` — a value handed to a serializer;
* `Serializer.tree` — the serializer that builds a document.
-/

import Conform.Calendar.Writer
import Conform.Json.Basic
import Conform.Value.Basic

set_option relaxedAutoImplicit false
set_option autoImplicit false

namespace Conform

/-- A format to which values are handed part by part.  What it makes of a value is of type `α`; while
it is within an array it keeps a `σ`, and within an object a `τ`. -/
structure Serializer (m : Type → Type) (α σ τ : Type) where
  null : m α
  bool (b : Bool) : m α
  int (n : Int64) : m α
  float (x : Binary64) : m α
  string (s : String) : m α
  /-- an array of so many items begins -/
  beginArray (length : Nat) : m σ
  /-- one more item, written by the action -/
  item (array : σ) (write : m α) : m σ
  endArray (array : σ) : m α
  /-- an object of so many members begins -/
  beginObject (length : Nat) : m τ
  /-- one more member, the value of which is written by the action -/
  member (object : τ) (name : String) (write : m α) : m τ
  endObject (object : τ) : m α

namespace Value

variable {m : Type → Type} {α σ τ : Type}

mutual

/-- Hands a value to a serializer. -/
def serialize [Monad m] (serializer : Serializer m α σ τ) : Value → m α
  | null => serializer.null
  | bool b => serializer.bool b
  | int n => serializer.int n
  | float x => serializer.float x
  | string s => serializer.string s
  | date d => serializer.string d.text
  | datetime t => serializer.string t.text
  | array items => do
    let array ← serializer.beginArray items.length
    serializer.endArray (← serializeItems serializer array items)
  | object members => do
    let object ← serializer.beginObject members.length
    serializer.endObject (← serializeMembers serializer object members)

/-- Hands over items, one after another. -/
def serializeItems [Monad m] (serializer : Serializer m α σ τ) (array : σ) : List Value → m σ
  | [] => pure array
  | v :: rest => do
    let array ← serializer.item array (serialize serializer v)
    serializeItems serializer array rest

/-- Hands over members, one after another. -/
def serializeMembers [Monad m] (serializer : Serializer m α σ τ) (object : τ) :
    List (String × Value) → m τ
  | [] => pure object
  | (name, v) :: rest => do
    let object ← serializer.member object name (serialize serializer v)
    serializeMembers serializer object rest

end

end Value

/-- The serializer that builds a document.  A float that is no number becomes null; the members of an
object are put in order, and of a repeated name the last one stays. -/
def Serializer.tree {m : Type → Type} [Monad m] : Serializer m Json (List Json) (Members Json) where
  null := pure .null
  bool b := pure (.bool b)
  int n := pure (.int n)
  float x := pure (if x.IsFinite then .float x else .null)
  string s := pure (.str s)
  beginArray _ := pure []
  item items write := do return items ++ [← write]
  endArray items := pure (.arr items)
  beginObject _ := pure []
  member members name write := do return Members.insert members name (← write)
  endObject members := pure (.obj members)

end Conform
