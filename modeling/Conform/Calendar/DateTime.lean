/-
**Instants with an offset.**

A date and time is an instant, counted in seconds and nanoseconds from 1970-01-01T00:00:00Z, together
with the offset from UTC at which it is written.  A leap second is the second before it with a
thousand million nanoseconds or more.  Two of them are *simultaneous* if the instants agree, whatever
the offsets; the order is that of the instants.

The date is supported in UTC and where the offset holds.  Nothing that is read lacks the second: a
text names a supported date with its offset, and a timestamp is in UTC.  Only a supported instant in
the last hours of the calendar that is moved to another offset could lack it.  It has no local date to
give, and whoever asks it for one gets no answer, not even a fault; so it is no `DateTime`.

Main definitions:

* `DateTime` — an instant and an offset of less than a day, within the supported dates;
* `DateTime.localDate`, `DateTime.localSecond` — the date and the second of the day where the offset
  holds;
* `DateTime.ofLocal?` — the instant of a local date and time;
* `DateTime.ofMicroseconds?`, `DateTime.ofSeconds?` — the instant of a timestamp;
* `DateTime.addDays?` — an instant some days later.
-/

import Conform.Calendar.Date

set_option relaxedAutoImplicit false
set_option autoImplicit false

namespace Conform

/-- The seconds of a day. -/
def secondsPerDay : Nat := 86400

/-- An instant and an offset from UTC. -/
structure DateTime where
  /-- whole seconds since 1970-01-01T00:00:00Z -/
  seconds : Int
  /-- nanoseconds within the second; from a thousand million on they lie in a leap second -/
  nanos : Nat
  /-- seconds by which local time is ahead of UTC -/
  offset : Int
  /-- a second and a leap second behind it -/
  nanos_lt : nanos < 2000000000
  /-- less than a day -/
  offset_lt : offset.natAbs < secondsPerDay
  /-- the date in UTC is supported -/
  supported : (Date.mk (seconds / secondsPerDay)).Supported
  /-- the date where the offset holds is supported -/
  supported_local : (Date.mk ((seconds + offset) / secondsPerDay)).Supported
deriving DecidableEq

namespace DateTime

/-- The seconds since 1970-01-01T00:00:00 in local time. -/
def localSeconds (t : DateTime) : Int := t.seconds + t.offset

/-- The date where the offset holds. -/
def localDate (t : DateTime) : Date := ⟨t.localSeconds / secondsPerDay⟩

theorem localDate_supported (t : DateTime) : t.localDate.Supported := t.supported_local

/-- The second of the day where the offset holds. -/
def localSecond (t : DateTime) : Nat := (t.localSeconds % secondsPerDay).toNat

/-- The instant of a second count, nanoseconds and an offset, if all are in range. -/
def ofParts? (seconds : Int) (nanos : Nat) (offset : Int) : Option DateTime :=
  if h : nanos < 2000000000 ∧ offset.natAbs < secondsPerDay
      ∧ (Date.mk (seconds / secondsPerDay)).Supported
      ∧ (Date.mk ((seconds + offset) / secondsPerDay)).Supported then
    some ⟨seconds, nanos, offset, h.1, h.2.1, h.2.2.1, h.2.2.2⟩
  else none

/-- The instant at which clocks ahead of UTC by `offset` show a date and a second of the day. -/
def ofLocal? (date : Date) (second nanos : Nat) (offset : Int) : Option DateTime :=
  ofParts? (date.day * secondsPerDay + second - offset) nanos offset

/-- The instant that lies some microseconds after 1970-01-01T00:00:00Z, in UTC. -/
def ofMicroseconds? (micros : Int) : Option DateTime :=
  ofParts? (micros / 1000000) ((micros % 1000000).toNat * 1000) 0

/-- The instant of a timestamp in seconds, if its microseconds fit 64 bits. -/
def ofSeconds? (seconds : Int) : Option DateTime :=
  let micros := seconds * 1000000
  if -0x8000000000000000 ≤ micros ∧ micros < 0x8000000000000000 then ofMicroseconds? micros else none

/-- Are the instants the same? -/
def simultaneous (a b : DateTime) : Bool := a.seconds = b.seconds && a.nanos = b.nanos

/-- The order of the instants. -/
def compare (a b : DateTime) : Ordering :=
  (Ord.compare a.seconds b.seconds).then (Ord.compare a.nanos b.nanos)

/-! ### Days around an instant -/

/-- How many days a duration may have. -/
def dayLimit : Nat := 106751991167

/-- The date some days after that of an instant in UTC. -/
def shiftDate? (now : DateTime) (days : Int) : Option Date :=
  let date : Date := ⟨now.seconds / secondsPerDay + days⟩
  if days.natAbs ≤ dayLimit ∧ date.Supported then some date else none

/-- The instant some days later, in UTC. -/
def addDays? (now : DateTime) (days : Int) : Option DateTime :=
  if days.natAbs ≤ dayLimit then ofParts? (now.seconds + days * secondsPerDay) now.nanos 0 else none

/-- The first supported instant. -/
def first : DateTime :=
  ⟨Date.first.day * secondsPerDay, 0, 0, by decide, by decide, by decide, by decide⟩

/-- The last supported instant. -/
def last : DateTime :=
  ⟨Date.last.day * secondsPerDay + 86399, 999999999, 0, by decide, by decide, by decide, by decide⟩

end DateTime

end Conform
