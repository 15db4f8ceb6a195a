/-
**The text of a JSON document.**

Two layouts: compact, without any blanks, and indented by two blanks per level.  In strings only the
quote, the backslash and the controls below U+0020 are escaped; everything else stands as it is.
Integers are written in decimal, finite floats in the interchange layout, and a float that is no
finite number as `null`.

Main definitions:

* `Json.quoted` — a string between quotes;
* `Json.compact` — the text without blanks;
* `Json.indented` — the text with one value per line.
-/

import Conform.Binary64.Digits
import Conform.Json.Basic

set_option relaxedAutoImplicit false
set_option autoImplicit false

namespace Conform

namespace Json

/-- The lower-case hexadecimal digit of a number below 16. -/
def hexDigit (n : Nat) : Char := if n < 10 then Char.ofNat (48 + n) else Char.ofNat (87 + n)

/-- A character inside a quoted string. -/
def escaped (c : Char) : List Char :=
  if c = '"' then ['\\', '"']
  else if c = '\\' then ['\\', '\\']
  else if c = '\x08' then ['\\', 'b']
  else if c = '\x0c' then ['\\', 'f']
  else if c = '\n' then ['\\', 'n']
  else if c = '\r' then ['\\', 'r']
  else if c = '\t' then ['\\', 't']
  else if c.toNat < 0x20 then
    ['\\', 'u', '0', '0', hexDigit (c.toNat / 16), hexDigit (c.toNat % 16)]
  else [c]

/-- A string between quotes. -/
def quotedChars (s : List Char) : List Char := '"' :: (s.flatMap escaped ++ ['"'])

/-- A string between quotes. -/
def quoted (s : String) : String := String.ofList (quotedChars s.toList)

/-- The decimal text of an integer. -/
def integerChars (n : Int) : List Char :=
  if n < 0 then '-' :: Decimal.digitChars n.natAbs else Decimal.digitChars n.natAbs

/-- The text of a float. -/
def floatChars (x : Binary64) : List Char :=
  if x.IsFinite then x.interchangeText else ['n', 'u', 'l', 'l']

mutual

/-- The compact text of a document. -/
def compactChars : Json → List Char
  | .null => ['n', 'u', 'l', 'l']
  | .bool true => ['t', 'r', 'u', 'e']
  | .bool false => ['f', 'a', 'l', 's', 'e']
  | .int n => integerChars n.toInt
  | .big n => integerChars n.toNat
  | .float x => floatChars x
  | .str s => quotedChars s.toList
  | .arr items => '[' :: (compactItems items ++ [']'])
  | .obj members => '{' :: (compactMembers members ++ ['}'])

/-- Items separated by commas. -/
def compactItems : List Json → List Char
  | [] => []
  | [j] => compactChars j
  | j :: rest => compactChars j ++ ',' :: compactItems rest

/-- Members separated by commas. -/
def compactMembers : List (String × Json) → List Char
  | [] => []
  | [(k, j)] => quotedChars k.toList ++ ':' :: compactChars j
  | (k, j) :: rest => quotedChars k.toList ++ ':' :: (compactChars j ++ ',' :: compactMembers rest)

end

/-- The text without blanks. -/
def compact (j : Json) : String := String.ofList (compactChars j)

/-- A line break and the blanks of a level. -/
def newline (level : Nat) : List Char := '\n' :: List.replicate (2 * level) ' '

mutual

/-- The indented text of a document that stands at a level. -/
def indentedChars (level : Nat) : Json → List Char
  | .arr [] => ['[', ']']
  | .arr items => '[' :: (indentedItems (level + 1) items ++ newline level ++ [']'])
  | .obj [] => ['{', '}']
  | .obj members => '{' :: (indentedMembers (level + 1) members ++ newline level ++ ['}'])
  | .null => compactChars .null
  | .bool b => compactChars (.bool b)
  | .int n => compactChars (.int n)
  | .big n => compactChars (.big n)
  | .float x => compactChars (.float x)
  | .str s => compactChars (.str s)

/-- Items on lines of their own. -/
def indentedItems (level : Nat) : List Json → List Char
  | [] => []
  | [j] => newline level ++ indentedChars level j
  | j :: rest => newline level ++ indentedChars level j ++ ',' :: indentedItems level rest

/-- Members on lines of their own. -/
def indentedMembers (level : Nat) : List (String × Json) → List Char
  | [] => []
  | [(k, j)] => newline level ++ quotedChars k.toList ++ ':' :: ' ' :: indentedChars level j
  | (k, j) :: rest =>
    newline level ++ quotedChars k.toList ++ ':' :: ' ' :: indentedChars level j
      ++ ',' :: indentedMembers level rest

end

/-- The text with one value per line. -/
def indented (j : Json) : String := String.ofList (indentedChars 0 j)

end Json

end Conform
