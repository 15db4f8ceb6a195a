/-
**Reading JSON text.**

Reading has two steps.  The first follows the grammar and yields a `Source`: the tree as written, in
which a leaf may be *unusable*, that is, a number too great for a float or a string with half of a
surrogate pair.  The second step turns a source into a tree, and refuses unusable leaves and trees
that are nested too deeply.  The steps are apart because a reader of records skips members it does
not know: of those only the grammar is checked.

The grammar is the strict one: blanks are space, tab, line feed and carriage return; numbers have no
leading zeros and no bare point; strings hold no raw controls; nothing follows the document.  Numbers
are assumed to be read exactly (`Source.numeral`).

Main definitions:

* `Source` — a tree as written;
* `Source.read?` — the source of a text;
* `Source.toJson?` — the tree of a source, nested to a given depth at most;
* `Json.read?` — the tree of a text, nested 127 deep at most.
-/

import Conform.Binary64.Nearest
import Conform.Json.Basic
import Conform.Text.Ranges

set_option relaxedAutoImplicit false
set_option autoImplicit false

namespace Conform

/-- A document as written.  Integers, floats and strings are absent where they are unusable. -/
inductive Source where
  | null
  | bool (b : Bool)
  | number (value : Option Json)
  | str (text : Option String)
  | arr (items : List Source)
  | obj (members : List (Option String × Source))

namespace Source

/-- A step of a reader: a result and the text behind it. -/
abbrev Scan (α : Type) := List Char → Option (α × List Char)

/-- Is the character a blank between tokens? -/
def isBlank (c : Char) : Bool := c = ' ' || c = '\t' || c = '\n' || c = '\r'

/-- The text behind leading blanks. -/
def skipBlanks (s : List Char) : List Char := s.dropWhile isBlank

/-! ### Strings -/

/-- The value of four hexadecimal digits. -/
def hexValue4? (a b c d : Char) : Option Nat := do
  let a ← Text.hexValue? a
  let b ← Text.hexValue? b
  let c ← Text.hexValue? c
  let d ← Text.hexValue? d
  some (((a * 16 + b) * 16 + c) * 16 + d)

/-- The character behind a backslash that stands for another one. -/
def unescape? (c : Char) : Option Char :=
  if c = '"' then some '"'
  else if c = '\\' then some '\\'
  else if c = '/' then some '/'
  else if c = 'b' then some '\x08'
  else if c = 'f' then some '\x0c'
  else if c = 'n' then some '\n'
  else if c = 'r' then some '\r'
  else if c = 't' then some '\t'
  else none

/-- Reads the inside of a string and its closing quote, as code units: an escape with digits is a
16-bit unit, every other character is its code point. -/
def stringUnits : Scan (List Nat)
  | [] => none
  | c :: rest =>
    if c = '"' then some ([], rest)
    else if c = '\\' then
      match rest with
      | [] => none
      | 'u' :: a :: b :: d :: e :: rest' => do
        let u ← hexValue4? a b d e
        let (us, tail) ← stringUnits rest'
        some (u :: us, tail)
      | x :: rest' => do
        let u ← unescape? x
        let (us, tail) ← stringUnits rest'
        some (u.toNat :: us, tail)
    else if c.toNat < 0x20 then none
    else do
      let (us, tail) ← stringUnits rest
      some (c.toNat :: us, tail)

/-- Is the unit the first half of a surrogate pair? -/
def isHighSurrogate (u : Nat) : Bool := 0xD800 ≤ u && u < 0xDC00

/-- Is the unit the second half of a surrogate pair? -/
def isLowSurrogate (u : Nat) : Bool := 0xDC00 ≤ u && u < 0xE000

/-- The characters of code units; half of a surrogate pair is none. -/
def charsOfUnits? : List Nat → Option (List Char)
  | [] => some []
  | [u] => if isHighSurrogate u || isLowSurrogate u then none else some [Char.ofNat u]
  | u :: v :: rest =>
    if isHighSurrogate u then
      if isLowSurrogate v then
        (charsOfUnits? rest).map (Char.ofNat (0x10000 + (u - 0xD800) * 0x400 + (v - 0xDC00)) :: ·)
      else none
    else if isLowSurrogate u then none
    else (charsOfUnits? (v :: rest)).map (Char.ofNat u :: ·)

/-- Reads the inside of a string and its closing quote. -/
def stringBody : Scan (Option String) := fun s => do
  let (us, rest) ← stringUnits s
  some ((charsOfUnits? us).map String.ofList, rest)

/-! ### Numbers -/

/-- Is the character a decimal digit? -/
def isDigit (c : Char) : Bool := '0' ≤ c && c ≤ '9'

/-- The value of decimal digits. -/
def digitsValue (cs : List Char) : Nat := cs.foldl (fun n c => 10 * n + (c.toNat - 48)) 0

/-- The leading digits and the text behind them. -/
def digits (s : List Char) : List Char × List Char := (s.takeWhile isDigit, s.dropWhile isDigit)

/-- The leading digits, of which there must be one. -/
def digits1 : Scan (List Char) := fun s =>
  match digits s with
  | ([], _) => none
  | (ds, rest) => some (ds, rest)

/-- The integral digits: a zero stands alone. -/
def integral : Scan (List Char)
  | '0' :: rest => some (['0'], rest)
  | s => digits1 s

/-- The digits behind a point, if there is one. -/
def fraction : Scan (Option (List Char))
  | '.' :: rest => (digits1 rest).map fun (ds, rest) => (some ds, rest)
  | s => some (none, s)

/-- The exponent, if there is one. -/
def exponentPart : Scan (Option Int) := fun s =>
  match s with
  | [] => some (none, [])
  | e :: rest =>
    if e = 'e' ∨ e = 'E' then
      let (negative, rest) := match rest with
        | '-' :: rest => (true, rest)
        | '+' :: rest => (false, rest)
        | rest => (false, rest)
      (digits1 rest).map fun (ds, rest) =>
        let n : Int := digitsValue ds
        (some (if negative then -n else n), rest)
    else some (none, s)

/-- A finite float, or nothing. -/
def finite? (x : Binary64) : Option Json := if x.IsFinite then some (.float x) else none

/-- The integer with a sign and a magnitude: within 64 bits it is exact, and a negative zero or a
greater number is a float. -/
def integer? (negative : Bool) (n : Nat) : Option Json :=
  if negative then
    if 0 < n ∧ n ≤ 0x8000000000000000 then some (.int (Int64.ofInt (-(n : Int))))
    else finite? (Binary64.ofScientific true n 0)
  else if n < 0x8000000000000000 then some (.int (Int64.ofInt n))
  else if n < 0x10000000000000000 then some (.big (UInt64.ofNat n))
  else finite? (Binary64.ofScientific false n 0)

/-- Reads a number.  One with a point or an exponent is assumed to be read exactly, that is, as the float
nearest to it, however many digits it has.  A reader that rounds more than once on the way yields a
neighbour of that float now and then, and finds some numbers too great that still have a nearest one;
then a float may not come back as it was written. -/
def numeral (s : List Char) : Option (Source × List Char) := do
  let (negative, s) := match s with
    | '-' :: rest => (true, rest)
    | s => (false, s)
  let (whole, s) ← integral s
  let (part, s) ← fraction s
  let (power, s) ← exponentPart s
  let value := match part, power with
    | none, none => integer? negative (digitsValue whole)
    | _, _ =>
      let tail := part.getD []
      finite? (Binary64.ofScientific negative (digitsValue (whole ++ tail))
        (power.getD 0 - tail.length))
  some (.number value, s)

/-! ### Documents -/

/-- Reads at least one element, separated by commas, and the closing bracket.  `fuel` bounds the
number of elements. -/
def elements {α : Type} (element : Scan α) (close : Char) : Nat → Scan (List α)
  | 0, _ => none
  | fuel + 1, s => do
    let (a, s) ← element (skipBlanks s)
    match skipBlanks s with
    | [] => none
    | c :: rest =>
      if c = ',' then do
        let (as, rest) ← elements element close fuel rest
        some (a :: as, rest)
      else if c = close then some ([a], rest)
      else none

/-- Reads the elements behind an opening bracket, possibly none. -/
def enclosed {α : Type} (element : Scan α) (close : Char) : Scan (List α) := fun s =>
  match skipBlanks s with
  | [] => none
  | c :: rest => if c = close then some ([], rest) else elements element close s.length s

/-- Reads a member: a quoted name, a colon and a value. -/
def member (value : Scan Source) : Scan (Option String × Source)
  | '"' :: rest => do
    let (name, rest) ← stringBody rest
    match skipBlanks rest with
    | ':' :: rest => do
      let (v, rest) ← value rest
      some ((name, v), rest)
    | _ => none
  | _ => none

/-- Reads one value.  `fuel` bounds the nesting. -/
def value : Nat → Scan Source
  | 0, _ => none
  | fuel + 1, s =>
    match skipBlanks s with
    | [] => none
    | 'n' :: 'u' :: 'l' :: 'l' :: rest => some (.null, rest)
    | 't' :: 'r' :: 'u' :: 'e' :: rest => some (.bool true, rest)
    | 'f' :: 'a' :: 'l' :: 's' :: 'e' :: rest => some (.bool false, rest)
    | '"' :: rest => (stringBody rest).map fun (t, rest) => (.str t, rest)
    | '[' :: rest => (enclosed (value fuel) ']' rest).map fun (vs, rest) => (.arr vs, rest)
    | '{' :: rest =>
      (enclosed (member (value fuel)) '}' rest).map fun (ms, rest) => (.obj ms, rest)
    | c :: rest => numeral (c :: rest)

/-- The source of a whole text: one value, with nothing but blanks around it. -/
def readChars? (s : List Char) : Option Source :=
  match value (s.length + 1) s with
  | some (v, rest) => if skipBlanks rest = [] then some v else none
  | none => none

/-- The source of a text. -/
def read? (text : String) : Option Source := readChars? text.toList

/-! ### From sources to trees -/

mutual

/-- The tree of a source.  An array or object needs one level of `depth`, and its parts stand one
level deeper. -/
def toJson? (depth : Nat) : Source → Option Json
  | .null => some .null
  | .bool b => some (.bool b)
  | .number n => n
  | .str t => t.map .str
  | .arr items =>
    match depth with
    | 0 => none
    | depth + 1 => (toJsonItems? depth items).map .arr
  | .obj members =>
    match depth with
    | 0 => none
    | depth + 1 => (toJsonMembers? depth members).map .obj

/-- The trees of items. -/
def toJsonItems? (depth : Nat) : List Source → Option (List Json)
  | [] => some []
  | s :: rest => do
    let j ← toJson? depth s
    let js ← toJsonItems? depth rest
    some (j :: js)

/-- The trees of members. -/
def toJsonMembers? (depth : Nat) : List (Option String × Source) → Option (List (String × Json))
  | [] => some []
  | (k, s) :: rest => do
    let k ← k
    let j ← toJson? depth s
    let js ← toJsonMembers? depth rest
    some ((k, j) :: js)

end

/-- The members of an object whose names are usable and among `known`; a name that is unusable stays,
so that it is refused later.  Other sources stay as they are. -/
def restrict (known : List String) : Source → Source
  | .obj members => .obj (members.filter fun e => e.1.all known.contains)
  | s => s

end Source

namespace Json

/-- How deeply the arrays and objects of a text may be nested. -/
def nestingLimit : Nat := 127

/-- The tree of a text, with the members as they are written. -/
def read? (text : String) : Option Json := Source.read? text >>= Source.toJson? nestingLimit

/-- The tree of the text of a record: members of the outermost object whose names are not `known`
are checked for their grammar only, and dropped. -/
def readRecord? (known : List String) (text : String) : Option Json :=
  Source.read? text >>= fun s => (s.restrict known).toJson? nestingLimit

end Json

end Conform
