/-
**Scalars.**

A scalar validates a number, a truth value, a text, a date or an instant.  What tells the scalars
apart is a `ScalarKind`: the kinds it accepts, a conversion from raw values, and the quantity that its
range bounds (the number itself, the length of a text in characters, the date or the instant).  Texts
may have a format, and may lose their hyphens behind it.

Dates and instants are read from texts and from timestamps in seconds.

Main definitions:

* `ScalarKind`, with `ScalarKind.int`, `.float`, `.number`, `.bool`, `.text`, `.date`, `.datetime`;
* `Scalar`, `Scalar.validate` — a property with a range and a format;
* `Value.toInstant` — the instant of a timestamp.
-/

import Conform.Calendar.Reader
import Conform.Validation.Format
import Conform.Validation.Property

set_option relaxedAutoImplicit false
set_option autoImplicit false

namespace Conform

/-! ### Timestamps -/

/-- The instant of a timestamp in seconds, in UTC and to the microsecond. -/
def Value.instant? : Value → Option DateTime
  | .int n => DateTime.ofSeconds? n.toInt
  | .float x => x.millionfold?.bind DateTime.ofMicroseconds?
  | _ => none

/-- The instant of a timestamp; one outside the supported dates is a fault. -/
def Value.toInstant (value : Value) : Except Fault DateTime :=
  match value.instant? with
  | some t => .ok t
  | none => .error (Fault.parseFailure value.text "timestamp out of range")

/-- The date that a text denotes; the fault quotes the text. -/
def Date.parse (text : String) : Except Fault Date :=
  (Date.read text).mapError fun fault => Fault.parseFailure text fault.message

/-- The instant that a text denotes; the fault quotes the text. -/
def DateTime.parse (text : String) : Except Fault DateTime :=
  (DateTime.read text).mapError fun fault => Fault.parseFailure text fault.message

/-! ### Kinds of scalars -/

/-- What tells one scalar from another. -/
structure ScalarKind (μ : Type) where
  /-- the kinds of values that pass after the conversion -/
  accepts : List Kind
  /-- the conversion of raw values -/
  coerce : Value → Except Fault Value
  /-- the quantity that the range bounds -/
  measure? : Value → Option μ

namespace ScalarKind

/-- The number of a value. -/
def numeric? : Value → Option Numeric
  | .int n => some (.int n)
  | .float x => some (.float x)
  | _ => none

/-- Integers. -/
def int : ScalarKind Numeric := ⟨[.int], .ok, numeric?⟩

/-- Integers and floats. -/
def float : ScalarKind Numeric := ⟨[.int, .float], .ok, numeric?⟩

/-- Integers and floats. -/
def number : ScalarKind Numeric := ⟨[.int, .float], .ok, numeric?⟩

/-- Truth values; nothing about them can be bounded. -/
def bool : ScalarKind Nat := ⟨[.bool], .ok, fun _ => none⟩

/-- Texts, by their length in characters. -/
def text : ScalarKind Nat := ⟨[.string], .ok, fun value => value.asString?.map String.length⟩

/-- A date as it is, the local date of an instant, the date of a text or of a timestamp. -/
def toDate : Value → Except Fault Value
  | .date d => .ok (.date d)
  | .datetime t => .ok (.date t.localDate)
  | .string s => (Date.parse s).map .date
  | .int n => ((Value.int n).toInstant).map fun t => .date t.localDate
  | .float x => ((Value.float x).toInstant).map fun t => .date t.localDate
  | other => .error (Fault.typeMismatch "date" other.kind.name)

/-- An instant as it is, the instant of a text or of a timestamp. -/
def toDateTime : Value → Except Fault Value
  | .datetime t => .ok (.datetime t)
  | .string s => (DateTime.parse s).map .datetime
  | .int n => ((Value.int n).toInstant).map .datetime
  | .float x => ((Value.float x).toInstant).map .datetime
  | other => .error (Fault.typeMismatch "datetime" other.kind.name)

/-- The date of a value that is one. -/
def date? : Value → Option Date
  | .date d => some d
  | _ => none

/-- The instant of a value that is one. -/
def datetime? : Value → Option DateTime
  | .datetime t => some t
  | _ => none

/-- Dates. -/
def date : ScalarKind Date := ⟨[.date], toDate, date?⟩

/-- Instants. -/
def datetime : ScalarKind DateTime := ⟨[.datetime], toDateTime, datetime?⟩

end ScalarKind

/-! ### Scalars -/

/-- A property with a range, and for texts a format. -/
structure Scalar (m : Type → Type) (μ : Type) where
  kind : ScalarKind μ
  property : Property m
  range : Range m μ
  format : Option Format
  /-- do texts lose their hyphens behind the format? -/
  stripHyphens : Bool

namespace Scalar

variable {m : Type → Type} {μ : Type}

/-- The nullable scalar of a kind, without bounds and format. -/
def of (kind : ScalarKind μ) : Scalar m μ := ⟨kind, Property.of kind.accepts, .unbounded, none, false⟩

/-- The text without hyphens. -/
def withoutHyphens (text : String) : String := String.ofList (text.toList.filter (· ≠ '-'))

/-- A text that does not have the format is a fault; other values have none. -/
def checkFormat (format : Option Format) (value : Value) : Except Fault Unit :=
  match format, value with
  | some format, .string s =>
    if format.admits s then .ok () else .error (Fault.patternMismatch s format.text)
  | _, _ => .ok ()

/-- The value, or the text without its hyphens. -/
def strip (stripHyphens : Bool) : Value → Value
  | .string s => .string (if stripHyphens then withoutHyphens s else s)
  | value => value

/-- The range, then the format, then the hyphens. -/
def check [Monad m] [Comparable μ] (scalar : Scalar m μ) (value : Value) : Outcome m Value := do
  if ← scalar.range.admits (scalar.kind.measure? value) then
    Outcome.of (checkFormat scalar.format value)
    return strip scalar.stripHyphens value
  else throw (Fault.outOfRange value.text)

/-- The validator of a scalar. -/
def validate [Monad m] [Comparable μ] (scalar : Scalar m μ) : Validator m :=
  scalar.property.run scalar.kind.coerce scalar.check

end Scalar

end Conform
