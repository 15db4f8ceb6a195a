/-
**Dates and instants from raw values.**

The property of dates and the property of instants read the same raw values, each in its own way.
Where both read a value, they agree: the date is the one that the instant has under its own offset.
This holds of texts, of which the one reader takes the part in front of the first `T` and the other
everything but the offset, and of timestamps, for which both count from 1970-01-01T00:00:00Z.

A timestamp of whole seconds is exact.  It is read where the day it falls on is supported, and nowhere
else; the microseconds in between fit 64 bits wherever the day is supported, so the check for that
refuses nothing that the calendar has.

Main definitions:

* `Timestamp.Exact` — what a timestamp of whole seconds is read as;
* `Timestamp.Ordered` — later timestamps are later instants, and not earlier dates.

Main results:

* `Scalar.validate_of_asOf` — an unbounded property converts a value and does nothing else;
* `Temporal.date_of_datetime` — **a date is the local date of the instant**;
* `DateTime.ofSeconds?_eq` — no supported instant is lost on the way through microseconds;
* `Timestamp.exact_ordered` — **timestamps of whole seconds are exact**, and read in their order.
-/

import Conform.Proofs.Calendar.Offset
import Conform.Proofs.Calendar.Succession
import Conform.Proofs.Definition.Leaf
import Conform.Proofs.Definition.Simulation

set_option relaxedAutoImplicit false
set_option autoImplicit false

namespace Conform

variable {now : DateTime} {v w : Value}

/-! ### Unbounded properties -/

/-- An unbounded property gives the answer of its kind to a value other than null. -/
theorem Scalar.validate_of_asOf {μ : Type} [Comparable μ] (kind : ScalarKind μ) (hv : v ≠ .null) :
    ((Scalar.of kind).validate v).asOf now = kind.answer ⟨none, none⟩ none false v := by
  have hstandard : ((Scalar.of kind).validate v : Outcome Clocked Value) =
      LeafType.scalar kind Options.standard .unbounded none false v := rfl
  rw [hstandard, LeafType.scalar_asOf, Options.answer_of_ne_null hv]
  rfl

namespace ScalarKind

/-- The unbounded property of dates converts a value and does nothing else. -/
theorem date_unbounded (v : Value) : date.answer ⟨none, none⟩ none false v = toDate v := by
  cases hv : toDate v with
  | error fault =>
      show (toDate v >>= _) = _
      rw [hv, error_bind]
  | ok w =>
      obtain ⟨d, rfl⟩ := toDate_eq_ok hv
      exact date_eq_ok.2 ⟨d, hv, rfl, rfl⟩

/-- The unbounded property of instants converts a value and does nothing else. -/
theorem datetime_unbounded (v : Value) :
    datetime.answer ⟨none, none⟩ none false v = toDateTime v := by
  cases hv : toDateTime v with
  | error fault =>
      show (toDateTime v >>= _) = _
      rw [hv, error_bind]
  | ok w =>
      obtain ⟨t, rfl⟩ := toDateTime_eq_ok hv
      exact datetime_eq_ok.2 ⟨t, hv, rfl, rfl⟩

end ScalarKind

namespace Temporal

/-- What the property of dates makes of a value. -/
def dateOf (now : DateTime) (v : Value) : Except Fault Value :=
  ((Scalar.of ScalarKind.date).validate v : Outcome Clocked Value).asOf now

/-- What the property of instants makes of a value. -/
def datetimeOf (now : DateTime) (v : Value) : Except Fault Value :=
  ((Scalar.of ScalarKind.datetime).validate v : Outcome Clocked Value).asOf now

theorem dateOf_eq (hv : v ≠ .null) : dateOf now v = ScalarKind.toDate v := by
  rw [dateOf, Scalar.validate_of_asOf _ hv, ScalarKind.date_unbounded]

theorem datetimeOf_eq (hv : v ≠ .null) : datetimeOf now v = ScalarKind.toDateTime v := by
  rw [datetimeOf, Scalar.validate_of_asOf _ hv, ScalarKind.datetime_unbounded]

/-! ### Dates of instants -/

/-- The date of a text is the local date of its instant. -/
theorem parse_date {s : String} {t : DateTime} (h : DateTime.parse s = .ok t) :
    Date.parse s = .ok t.localDate := by
  obtain ⟨naive, suffix, hs, hwhole⟩ := DateTime.exists_naive_of_readChars (mapError_eq_ok.1 h)
  refine mapError_eq_ok.2 ?_
  rw [Date.read, hs]
  exact Date.readChars_of_wholeDateTime hwhole suffix

theorem toDate_of_toDateTime {t : DateTime} (h : ScalarKind.toDateTime v = .ok (.datetime t)) :
    ScalarKind.toDate v = .ok (.date t.localDate) := by
  cases v with
  | datetime t' =>
      cases h
      rfl
  | string s =>
      obtain ⟨t', ht, heq⟩ := map_eq_ok.1 h
      cases heq
      exact map_eq_ok.2 ⟨t.localDate, parse_date ht, rfl⟩
  | int n =>
      obtain ⟨t', ht, heq⟩ := map_eq_ok.1 h
      cases heq
      exact map_eq_ok.2 ⟨t, ht, rfl⟩
  | float x =>
      obtain ⟨t', ht, heq⟩ := map_eq_ok.1 h
      cases heq
      exact map_eq_ok.2 ⟨t, ht, rfl⟩
  | null | bool b | date d | array items | object members => cases h

/-- A text with blanks, a year before 0, a leap second and an offset under which it is another day. -/
def eveText : String := " -0001-02-28T 23:59:60.25-10:00"

/-- The instant of that text. -/
def eve : DateTime := ⟨-62193621601, 1250000000, -36000, by decide, by decide, by decide, by decide⟩

end Temporal

/-! ### Timestamps -/

theorem Date.supported_iff_day {d : Date} :
    d.Supported ↔ -96465292 ≤ d.day ∧ d.day ≤ 95026236 := by
  have hfirst : Date.first.day = -96465292 := by decide
  have hlast : Date.last.day = 95026236 := by decide
  rw [Supported, hfirst, hlast]

namespace DateTime

variable {n : Int} {t : DateTime}

/-- No supported instant is lost on the way through microseconds. -/
theorem ofSeconds?_eq (n : Int) : ofSeconds? n = ofParts? n 0 0 := by
  by_cases hfits : -0x8000000000000000 ≤ n * 1000000 ∧ n * 1000000 < 0x8000000000000000
  · have hseconds : n * 1000000 / 1000000 = n := Int.mul_ediv_cancel n (by decide)
    have hnanos : (n * 1000000 % 1000000).toNat * 1000 = 0 := by omega
    rw [ofSeconds?, if_pos hfits, ofMicroseconds?, hseconds, hnanos]
  · have hnone : ¬ (0 < 2000000000 ∧ (0 : Int).natAbs < secondsPerDay ∧
        (Date.mk (n / secondsPerDay)).Supported ∧
        (Date.mk ((n + 0) / secondsPerDay)).Supported) := by
      rintro ⟨-, -, hsupported, -⟩
      obtain ⟨hfirst, hlast⟩ := Date.supported_iff_day.1 hsupported
      simp only [secondsPerDay] at hfirst hlast
      omega
    rw [ofSeconds?, if_neg hfits, ofParts?, dif_neg hnone]

theorem ofSeconds?_eq_some_iff :
    ofSeconds? n = some t ↔ t.seconds = n ∧ t.nanos = 0 ∧ t.offset = 0 := by
  rw [ofSeconds?_eq, ofParts?]
  constructor
  · intro h
    split at h
    · cases h
      exact ⟨rfl, rfl, rfl⟩
    · cases h
  · obtain ⟨seconds, nanos, offset, hnanos, hoffset, hsupported, hlocal⟩ := t
    rintro ⟨rfl, rfl, rfl⟩
    exact dif_pos ⟨hnanos, hoffset, hsupported, hlocal⟩

theorem exists_ofSeconds?_iff :
    (∃ t, ofSeconds? n = some t) ↔ (Date.mk (n / secondsPerDay)).Supported := by
  constructor
  · rintro ⟨t, ht⟩
    obtain ⟨rfl, -, -⟩ := ofSeconds?_eq_some_iff.1 ht
    exact t.supported
  · intro hsupported
    rw [ofSeconds?_eq, ofParts?]
    exact ⟨_, dif_pos ⟨by decide, by decide, hsupported, by rwa [Int.add_zero]⟩⟩

end DateTime

namespace Timestamp

open Temporal

/-- The date that a timestamp of whole seconds falls on. -/
def dayOf (n : Int64) : Date := ⟨n.toInt / secondsPerDay⟩

/-- The microseconds of a timestamp of whole seconds fit 64 bits. -/
def Scales (n : Int64) : Prop :=
  -0x8000000000000000 ≤ n.toInt * 1000000 ∧ n.toInt * 1000000 < 0x8000000000000000

/-- What a timestamp of whole seconds is read as. -/
structure Exact (now : DateTime) (n : Int64) : Prop where
  /-- microseconds that fit 64 bits are not wrapped -/
  unwrapped : Scales n → (n * 1000000).toInt = n.toInt * 1000000
  /-- those of a supported day fit -/
  scales : (dayOf n).Supported → Scales n
  /-- the day is as many days from 1970-01-01 as it should be -/
  counted : Calendar.LiesDaysFromEpoch (n.toInt / secondsPerDay) (dayOf n).parts
  /-- on a supported day the instant is exact, in UTC, and the date is that day -/
  supported : (dayOf n).Supported →
    (∃ t, datetimeOf now (.int n) = .ok (.datetime t) ∧
      t.seconds = n.toInt ∧ t.nanos = 0 ∧ t.offset = 0) ∧
    dateOf now (.int n) = .ok (.date (dayOf n))
  /-- on any other day there is neither -/
  unsupported : ¬ (dayOf n).Supported →
    ∃ fault, fault.kind = .parseFailure ∧
      datetimeOf now (.int n) = .error fault ∧ dateOf now (.int n) = .error fault

/-- Later timestamps are later instants, and not earlier dates. -/
def Ordered (now : DateTime) (n n' : Int64) : Prop :=
  n < n' →
    (∀ t t', datetimeOf now (.int n) = .ok (.datetime t) →
      datetimeOf now (.int n') = .ok (.datetime t') → t.compare t' = .lt) ∧
    ∀ d d', dateOf now (.int n) = .ok (.date d) → dateOf now (.int n') = .ok (.date d') →
      d.compare d' ≠ .gt

variable {n n' : Int64} {t t' : DateTime} {d d' : Date}

theorem int_ne_null : Value.int n ≠ .null := nofun

theorem datetimeOf_int : datetimeOf now (.int n) = Value.datetime <$> (Value.int n).toInstant :=
  datetimeOf_eq int_ne_null

theorem dateOf_int :
    dateOf now (.int n) = (fun t => Value.date (DateTime.localDate t)) <$> (Value.int n).toInstant :=
  dateOf_eq int_ne_null

theorem toInstant_int_eq_ok :
    (Value.int n).toInstant = .ok t ↔ t.seconds = n.toInt ∧ t.nanos = 0 ∧ t.offset = 0 := by
  rw [← DateTime.ofSeconds?_eq_some_iff, Value.toInstant, Value.instant?]
  cases DateTime.ofSeconds? n.toInt with
  | none => simp
  | some t' => simp

theorem datetimeOf_eq_ok : datetimeOf now (.int n) = .ok (.datetime t) ↔
    t.seconds = n.toInt ∧ t.nanos = 0 ∧ t.offset = 0 := by
  rw [datetimeOf_int, map_eq_ok, ← toInstant_int_eq_ok]
  constructor
  · rintro ⟨t', ht', heq⟩
    rwa [← Value.datetime.inj heq]
  · exact fun ht => ⟨t, ht, rfl⟩

/-- The local date of a timestamp is the day it falls on. -/
theorem localDate_eq (hseconds : t.seconds = n.toInt) (hoffset : t.offset = 0) :
    t.localDate = dayOf n := by
  rw [DateTime.localDate, DateTime.localSeconds, hseconds, hoffset, Int.add_zero, dayOf]

theorem dateOf_eq_ok : dateOf now (.int n) = .ok (.date d) ↔ d = dayOf n ∧ d.Supported := by
  rw [dateOf_int, map_eq_ok]
  constructor
  · rintro ⟨t, ht, heq⟩
    obtain ⟨hseconds, -, hoffset⟩ := toInstant_int_eq_ok.1 ht
    obtain rfl := Value.date.inj heq
    exact ⟨localDate_eq hseconds hoffset, t.localDate_supported⟩
  · rintro ⟨rfl, hsupported⟩
    obtain ⟨t, ht⟩ := DateTime.exists_ofSeconds?_iff.2 hsupported
    obtain ⟨hseconds, hnanos, hoffset⟩ := DateTime.ofSeconds?_eq_some_iff.1 ht
    exact ⟨t, toInstant_int_eq_ok.2 ⟨hseconds, hnanos, hoffset⟩,
      congrArg Value.date (localDate_eq hseconds hoffset)⟩

/-- Microseconds that fit 64 bits are not wrapped. -/
theorem unwrapped (h : Scales n) : (n * 1000000).toInt = n.toInt * 1000000 := by
  obtain ⟨hleast, hgreatest⟩ := h
  have hfactor : (1000000 : Int64).toInt = 1000000 := by decide
  rw [Int64.toInt_mul, hfactor]
  exact Int.bmod_eq_of_le_mul_two (by omega) (by omega)

/-- The microseconds of a supported day fit 64 bits. -/
theorem scales_of_supported (h : (dayOf n).Supported) : Scales n := by
  obtain ⟨hfirst, hlast⟩ := Date.supported_iff_day.1 h
  simp only [dayOf, secondsPerDay] at hfirst hlast
  exact ⟨by omega, by omega⟩

/-- On a day that is not supported a timestamp is refused, by both properties alike. -/
theorem refused (h : ¬ (dayOf n).Supported) : ∃ fault : Fault, fault.kind = .parseFailure ∧
    datetimeOf now (.int n) = .error fault ∧ dateOf now (.int n) = .error fault := by
  have hnone : DateTime.ofSeconds? n.toInt = none := by
    cases hread : DateTime.ofSeconds? n.toInt with
    | none => rfl
    | some t => exact absurd (DateTime.exists_ofSeconds?_iff.1 ⟨t, hread⟩) h
  have hinstant : (Value.int n).toInstant =
      .error (Fault.parseFailure (Value.int n).text "timestamp out of range") := by
    rw [Value.toInstant, Value.instant?, hnone]
  refine ⟨Fault.parseFailure (Value.int n).text "timestamp out of range", rfl, ?_, ?_⟩
  · rw [datetimeOf_int, hinstant]
    rfl
  · rw [dateOf_int, hinstant]
    rfl

/-- Later timestamps are later instants, and not earlier dates. -/
theorem ordered (now : DateTime) (n n' : Int64) : Ordered now n n' := by
  intro hlt
  rw [Int64.lt_iff_toInt_lt] at hlt
  refine ⟨fun t t' ht ht' => ?_, fun d d' hd hd' => ?_⟩
  · obtain ⟨hseconds, -, -⟩ := datetimeOf_eq_ok.1 ht
    obtain ⟨hseconds', -, -⟩ := datetimeOf_eq_ok.1 ht'
    have hcompare : Ord.compare t.seconds t'.seconds = .lt := Int.compare_eq_lt.2 (by omega)
    rw [DateTime.compare, hcompare]
    rfl
  · obtain ⟨rfl, -⟩ := dateOf_eq_ok.1 hd
    obtain ⟨rfl, -⟩ := dateOf_eq_ok.1 hd'
    rw [Date.compare, Ne, Int.compare_eq_gt]
    simp only [dayOf, secondsPerDay]
    omega

/-- **Timestamps of whole seconds are exact**, and read in their order. -/
theorem exact_ordered (now : DateTime) : (∀ n, Exact now n) ∧ ∀ n n', Ordered now n n' := by
  refine ⟨fun n => ?_, ordered now⟩
  refine ⟨unwrapped, scales_of_supported, (dayOf n).liesDaysFromEpoch, fun h => ⟨?_, ?_⟩, refused⟩
  · obtain ⟨t, ht⟩ := DateTime.exists_ofSeconds?_iff.2 h
    have hexact := DateTime.ofSeconds?_eq_some_iff.1 ht
    exact ⟨t, datetimeOf_eq_ok.2 hexact, hexact⟩
  · exact dateOf_eq_ok.2 ⟨rfl, h⟩

/-- The last second of the calendar is read, the one behind it is not; a second before 1970 is one of
1969. -/
theorem exact_ordered_ends : dateOf .first (.int 8210266876799) = .ok (.date .last) ∧
    (∃ fault, dateOf .first (.int 8210266876800) = .error fault) ∧
    (dayOf (-1)).parts = (1969, 12, 31) ∧ ∃ t, datetimeOf .first (.int (-1)) = .ok (.datetime t) ∧
      t.seconds = -1 := by
  obtain ⟨hexact, -⟩ := exact_ordered .first
  obtain ⟨-, hlast⟩ := (hexact 8210266876799).supported (by decide)
  obtain ⟨fault, -, -, hbehind⟩ := (hexact 8210266876800).unsupported (by decide)
  obtain ⟨⟨t, ht, hseconds, -⟩, -⟩ := (hexact (-1)).supported (by decide)
  exact ⟨hlast, ⟨fault, hbehind⟩, by decide, t, ht, hseconds⟩

end Timestamp

end Conform
