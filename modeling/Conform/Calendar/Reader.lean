/-
**Reading dates and times.**

A date is read as year, month and day with `-` between them, a time as hour, minute and second with
`:` between them and an optional fraction.  The text is read from left to right and the first fault
counts.  Before each number blanks are skipped; a year has up to four digits, or a sign and any number
of digits; every other number has up to two.  Behind a time there may be `Z` or an offset `±HH:MM`;
without one the time is UTC.

Main definitions:

* `TextFault`, `DateTimeFault` — what can be wrong with a text;
* `Date.read` — the date in front of a `T`, or of the whole text;
* `DateTime.splitOffset?` — a text without its offset, and the offset;
* `DateTime.read` — the instant of a text.
-/

import Conform.Calendar.DateTime
import Conform.Text.Blank

set_option relaxedAutoImplicit false
set_option autoImplicit false

namespace Conform

/-- What is wrong with the text of a date or time. -/
inductive TextFault where
  /-- the text ends where something is needed -/
  | tooShort
  /-- a character that does not belong there -/
  | invalid
  /-- a number too great for its place, or a date that does not exist -/
  | outOfRange
  /-- text behind the end -/
  | tooLong
deriving DecidableEq

namespace TextFault

/-- The wording of a fault. -/
def message : TextFault → String
  | tooShort => "premature end of input"
  | invalid => "input contains invalid characters"
  | outOfRange => "input is out of range"
  | tooLong => "trailing input"

end TextFault

namespace Calendar

/-- A step of a reader: a result and the text behind it, or the first fault. -/
abbrev Scan (α : Type) := List Char → Except TextFault (α × List Char)

/-- Is the character an ASCII digit? -/
def isDigit (c : Char) : Bool := '0' ≤ c && c ≤ '9'

/-- The value of decimal digits. -/
def digitsValue (cs : List Char) : Nat := cs.foldl (fun n c => 10 * n + (c.toNat - 48)) 0

/-- Reads digits, of which there must be one; those behind the first `width` are left. -/
def digits (width : Nat) : Scan (List Char) := fun s =>
  match (s.take width).takeWhile isDigit with
  | [] => .error (if s = [] then .tooShort else .invalid)
  | d :: ds => .ok (d :: ds, s.drop (d :: ds).length)

/-- Reads a number of up to two digits between two bounds, behind blanks. -/
def field (least greatest : Nat) : Scan Nat := fun s => do
  let (ds, rest) ← digits 2 (s.dropWhile Text.isBlank)
  let n := digitsValue ds
  if least ≤ n ∧ n ≤ greatest then .ok (n, rest) else .error .outOfRange

/-- A year has to fit 32 bits. -/
def checkYear (year : Int) (rest : List Char) : Except TextFault (Int × List Char) :=
  if -0x80000000 ≤ year ∧ year < 0x80000000 then .ok (year, rest) else .error .outOfRange

/-- Reads a year, behind blanks. -/
def year : Scan Int := fun s =>
  match s.dropWhile Text.isBlank with
  | '-' :: rest => do
    let (ds, rest) ← digits rest.length rest
    checkYear (-(digitsValue ds : Int)) rest
  | '+' :: rest => do
    let (ds, rest) ← digits rest.length rest
    checkYear (digitsValue ds) rest
  | rest => do
    let (ds, rest) ← digits 4 rest
    checkYear (digitsValue ds) rest

/-- Reads one given character. -/
def mark (c : Char) : Scan Unit
  | [] => .error .tooShort
  | d :: rest => if d = c then .ok ((), rest) else .error .invalid

/-- Reads an optional fraction of a second, in nanoseconds; digits behind the ninth do not count. -/
def fraction : Scan Nat
  | '.' :: rest => do
    let (ds, rest) ← digits 9 rest
    .ok (digitsValue ds * Nat.pow 10 (9 - ds.length), rest.dropWhile isDigit)
  | s => .ok (0, s)

/-- Reads a year, a month and a day. -/
def dateFields : Scan (Int × Nat × Nat) := fun s => do
  let (y, s) ← year s
  let (_, s) ← mark '-' s
  let (m, s) ← field 1 12 s
  let (_, s) ← mark '-' s
  let (d, s) ← field 1 31 s
  .ok ((y, m, d), s)

/-- Reads an hour, a minute, a second and a fraction: the second of the day and the nanoseconds.
Second 60 is second 59 with a further second in nanoseconds. -/
def timeFields : Scan (Nat × Nat) := fun s => do
  let (h, s) ← field 0 23 s
  let (_, s) ← mark ':' s
  let (m, s) ← field 0 59 s
  let (_, s) ← mark ':' s
  let (sec, s) ← field 0 60 s
  let (nanos, s) ← fraction s
  if sec = 60 then .ok ((h * 3600 + m * 60 + 59, nanos + 1000000000), s)
  else .ok ((h * 3600 + m * 60 + sec, nanos), s)

/-- The supported date of a year, a month and a day. -/
def toDate (ymd : Int × Nat × Nat) : Except TextFault Date :=
  match Date.ofYmd? ymd.1 ymd.2.1 ymd.2.2 with
  | some d => if d.Supported then .ok d else .error .outOfRange
  | none => .error .outOfRange

/-- A text that must have ended. -/
def finish : List Char → Except TextFault Unit
  | [] => .ok ()
  | _ :: _ => .error .tooLong

/-- Reads a text that is a date and nothing else. -/
def wholeDate (s : List Char) : Except TextFault Date := do
  let (ymd, rest) ← dateFields s
  finish rest
  toDate ymd

/-- Reads a text that is a date, a `T` and a time, and nothing else: the date, the second of the day
and the nanoseconds. -/
def wholeDateTime (s : List Char) : Except TextFault (Date × Nat × Nat) := do
  let (ymd, s) ← dateFields s
  let (_, s) ← mark 'T' s
  let (time, rest) ← timeFields s
  finish rest
  let date ← toDate ymd
  .ok (date, time)

end Calendar

namespace Date

/-- Reads a date; a `T` and what follows it are ignored. -/
def readChars (s : List Char) : Except TextFault Date := Calendar.wholeDate (s.takeWhile (· ≠ 'T'))

/-- Reads a date; a `T` and what follows it are ignored. -/
def read (text : String) : Except TextFault Date := readChars text.toList

end Date

/-- What is wrong with the text of an instant. -/
inductive DateTimeFault where
  /-- the offset is a day or more -/
  | offsetOutOfRange
  /-- the local date and time cannot be read -/
  | malformed (fault : TextFault)
  /-- the instant is not supported -/
  | ambiguous
deriving DecidableEq

namespace DateTimeFault

/-- The wording of a fault. -/
def message : DateTimeFault → String
  | offsetOutOfRange => "timezone offset out of range"
  | malformed fault => fault.message
  | ambiguous => "ambiguous local time"

end DateTimeFault

namespace DateTime

/-- Splits off an offset `±HH:MM` at the end, in seconds.  Written back to front, it is two digits, a
colon, two digits and a sign. -/
def splitOffset? (s : List Char) : Option (List Char × Int) :=
  match s.reverse with
  | m₀ :: m₁ :: ':' :: h₀ :: h₁ :: sign :: rest =>
    if [m₀, m₁, h₀, h₁].all Calendar.isDigit ∧ (sign = '+' ∨ sign = '-') then
      let size : Int :=
        Calendar.digitsValue [h₁, h₀] * 3600 + Calendar.digitsValue [m₁, m₀] * 60
      some (rest.reverse, if sign = '-' then -size else size)
    else none
  | _ => none

/-- A `Z` at the end stands for the offset zero. -/
def expandZulu (s : List Char) : List Char :=
  match s.reverse with
  | 'Z' :: rest => rest.reverse ++ ['+', '0', '0', ':', '0', '0']
  | _ => s

/-- Reads an instant. -/
def readChars (s : List Char) : Except DateTimeFault DateTime := do
  let (naive, offset) := (splitOffset? (expandZulu s)).getD (expandZulu s, 0)
  if secondsPerDay ≤ offset.natAbs then .error .offsetOutOfRange
  else
    match Calendar.wholeDateTime naive with
    | .error fault => .error (.malformed fault)
    | .ok (date, second, nanos) =>
      match ofLocal? date second nanos offset with
      | some t => .ok t
      | none => .error .ambiguous

/-- Reads an instant. -/
def read (text : String) : Except DateTimeFault DateTime := readChars text.toList

end DateTime

end Conform
