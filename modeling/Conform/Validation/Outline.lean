/-
**Outlines.**

An outline shows on one line how a property, a range or an expectation of a body is set up: the name
of a structure with its fields in braces, the name of a case with what it holds in parentheses, lists
in brackets.  What runs only when it is asked is shown as two points.

Main definitions:

* `Outline`, `Outline.text` — outlines and their text;
* `Value.outline`, `Provider.outline`, `Range.outline`, `Property.outline`, `BodyRule.outline` — the
  outlines of the parts.
-/

import Conform.Text.CharSet
import Conform.Validation.Body
import Conform.Validation.Property

set_option relaxedAutoImplicit false
set_option autoImplicit false

namespace Conform

/-! ### Outlines -/

/-- An outline. -/
inductive Outline where
  /-- a text as it is -/
  | atom (text : String)
  /-- a quoted text -/
  | quoted (text : String)
  /-- a case that holds one thing -/
  | holding (name : String) (part : Outline)
  | list (items : List Outline)
  /-- names and what they are bound to -/
  | map (entries : List (String × Outline))
  /-- a structure with named fields -/
  | record (name : String) (fields : List (String × Outline))

namespace Outline

/-- Is the character shown as it is?  Controls, unassigned characters, marks and blanks other than the
space are not. -/
def isShown (c : Char) : Bool :=
  c = ' ' || (CharSet.assigned.contains c.toNat
    && [Text.control, Text.formatting, Text.privateUse, Text.spaceSeparator, Text.lineSeparator,
      Text.paragraphSeparator, Text.nonspacingMark, Text.enclosingMark].all fun table =>
        !Text.inRanges table c.toNat)

/-- One character between quotes. -/
def escaped (c : Char) : List Char :=
  if c = '\x00' then ['\\', '0']
  else if c = '\t' then ['\\', 't']
  else if c = '\r' then ['\\', 'r']
  else if c = '\n' then ['\\', 'n']
  else if c = '"' then ['\\', '"']
  else if c = '\\' then ['\\', '\\']
  else if isShown c then [c]
  else "\\u\x7b".toList ++ Nat.toDigits 16 c.toNat ++ ['}']

/-- A text between quotes. -/
def quote (text : String) : String :=
  String.ofList ('"' :: (text.toList.flatMap escaped ++ ['"']))

mutual

/-- The text of an outline. -/
def text : Outline → String
  | atom text => text
  | quoted text => quote text
  | holding name part => name ++ "(" ++ text part ++ ")"
  | list items => "[" ++ textOfItems items ++ "]"
  | map entries => "\x7b" ++ textOfEntries entries ++ "\x7d"
  | record name fields => name ++ " \x7b " ++ textOfFields fields ++ " \x7d"

/-- Items with commas between them. -/
def textOfItems : List Outline → String
  | [] => ""
  | [item] => text item
  | item :: rest => text item ++ ", " ++ textOfItems rest

/-- Entries with commas between them. -/
def textOfEntries : List (String × Outline) → String
  | [] => ""
  | [(name, part)] => quote name ++ ": " ++ text part
  | (name, part) :: rest => quote name ++ ": " ++ text part ++ ", " ++ textOfEntries rest

/-- Fields with commas between them. -/
def textOfFields : List (String × Outline) → String
  | [] => ""
  | [(name, part)] => name ++ ": " ++ text part
  | (name, part) :: rest => name ++ ": " ++ text part ++ ", " ++ textOfFields rest

end

/-- What may be missing. -/
def optional : Option Outline → Outline
  | none => atom "None"
  | some part => holding "Some" part

end Outline

/-! ### Values -/

/-- The name of a kind in outlines. -/
def Kind.caseName : Kind → String
  | null => "Null"
  | bool => "Bool"
  | int => "Int"
  | float => "Float"
  | string => "String"
  | date => "Date"
  | datetime => "DateTime"
  | array => "Array"
  | object => "Object"

/-- A fraction of a second: none, or as many groups of three digits as it needs. -/
def fractionChars (nanos : Nat) : List Char :=
  if nanos = 0 then []
  else if nanos % 1000000 = 0 then '.' :: paddedDigits 3 (nanos / 1000000)
  else if nanos % 1000 = 0 then '.' :: paddedDigits 6 (nanos / 1000)
  else '.' :: paddedDigits 9 nanos

/-- An offset with its hours and minutes, and its seconds if there are any. -/
def offsetOutline (offset : Int) : List Char :=
  let size := offset.natAbs
  (if offset < 0 then '-' else '+') :: (paddedDigits 2 (size / 3600)
    ++ ':' :: (paddedDigits 2 (size / 60 % 60)
    ++ if size % 60 = 0 then [] else ':' :: paddedDigits 2 (size % 60)))

/-- The outline of an instant: the date, the time of day with the fraction it needs, the offset. -/
def DateTime.outline (t : DateTime) : Outline :=
  let second := t.localSecond
  let leap := 1000000000 ≤ t.nanos
  .atom (String.ofList (t.localDate.chars ++ 'T' :: (paddedDigits 2 (second / 3600)
    ++ ':' :: (paddedDigits 2 (second / 60 % 60)
    ++ ':' :: (paddedDigits 2 (second % 60 + if leap then 1 else 0)
    ++ fractionChars (t.nanos % 1000000000) ++ offsetOutline t.offset)))))

namespace Value

mutual

/-- The outline of a value. -/
def outline : Value → Outline
  | null => .atom "Null"
  | bool b => .holding "Bool" (.atom (if b then "true" else "false"))
  | int n => .holding "Int" (.atom (String.ofList (Json.integerChars n.toInt)))
  | float x => .holding "Float" (.atom (String.ofList x.outlineText))
  | string s => .holding "String" (.quoted s)
  | date d => .holding "Date" (.atom d.text)
  | datetime t => .holding "DateTime" t.outline
  | array items => .holding "Array" (.list (outlineItems items))
  | object members => .holding "Object" (.map (outlineMembers members))

/-- The outlines of items. -/
def outlineItems : List Value → List Outline
  | [] => []
  | v :: rest => outline v :: outlineItems rest

/-- The outlines of members. -/
def outlineMembers : List (String × Value) → List (String × Outline)
  | [] => []
  | (k, v) :: rest => (k, outline v) :: outlineMembers rest

end

end Value

/-- The outline of a number. -/
def Numeric.outline : Numeric → Outline
  | int n => (Value.int n).outline
  | float x => (Value.float x).outline

/-! ### Properties -/

/-- The outline of a provider; what it yields is shown if it is always the same. -/
def Provider.outline {m : Type → Type} {α : Type} (show? : α → Outline) : Provider m α → Outline
  | literal a => .holding "Literal" (show? a)
  | thunk _ => .atom "Thunk(..)"

/-- The outline of a range. -/
def Range.outline {m : Type → Type} {μ : Type} (show? : μ → Outline) (range : Range m μ) : Outline :=
  .record "Range"
    [("min", .optional (range.min.map (Provider.outline show?))),
      ("max", .optional (range.max.map (Provider.outline show?)))]

/-- The outline of a property. -/
def Property.outline {m : Type → Type} (property : Property m) : Outline :=
  .record "Property"
    [("accepts", .list (property.accepts.map fun kind => .atom kind.caseName)),
      ("nullable", .atom (if property.nullable then "true" else "false")),
      ("default", .optional (property.default.map (Provider.outline Value.outline))),
      ("callback", .optional (property.callback.map fun _ => .quoted ".."))]

/-- The outline of an expectation of a body. -/
def BodyRule.outline {m : Type → Type} : BodyRule m → Outline
  | required => .atom "Required"
  | forbidden => .atom "Forbidden"
  | optional => .atom "Optional"
  | validated _ => .atom "Validated(..)"

end Conform
