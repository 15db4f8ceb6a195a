/-
**What an ending does to a text.**

A text that ends neither with `Z` nor with an offset is *plain*: it is read as UTC.  An ending behind a
plain text leaves its date and time as they are and says only under which offset they hold; the endings
for zero change nothing.  Behind a text that is not plain a further `Z` is a fault, as the first ending
then stands where the time should end.  Whether a text is plain is a matter of its last bytes, and to
look at them never goes wrong.

Main definitions:

* `DateTime.Plain` — the texts without an ending, by their bytes;
* `DateTime.zeroEndings` — the endings that stand for UTC;
* `DateTime.ReadWithEndings` — how a text is read, alone and with endings behind it.

Main results:

* `DateTime.plain_iff_bare` — plain texts are those whose characters have no ending;
* `DateTime.parse_plain_eq_ok_iff`, `DateTime.parse_mark_eq_ok_iff` — **the date and the time are those
  of the plain text, the offset is that of the ending**;
* `DateTime.readWithEndings` — **how endings are read**, for every text.
-/

import Conform.Proofs.Calendar.Bytes
import Conform.Validation.Scalar

set_option relaxedAutoImplicit false
set_option autoImplicit false

namespace Conform

namespace DateTime

/-! ### Plain texts -/

/-- The text neither ends with `Z`, nor are its last six bytes those of an offset. -/
def Plain (s : String) : Prop :=
  (∀ front, s ≠ front ++ "Z") ∧ ¬ OffsetMark.EndsBytes (Utf8.bytes s)

/-- Plain texts are those whose characters have no ending. -/
theorem plain_iff_bare {s : String} : Plain s ↔ Bare s.toList := by
  have hzulu : (∀ front, s ≠ front ++ "Z") ↔ ∀ naive, s.toList ≠ naive ++ ['Z'] := by
    constructor
    · intro h naive heq
      refine h (String.ofList naive) (String.toList_inj.1 ?_)
      rw [String.toList_append, String.toList_ofList, heq]
      rfl
    · rintro h front rfl
      exact h front.toList String.toList_append
  have hmark : ¬ OffsetMark.EndsBytes (Utf8.bytes s) ↔
      ∀ naive, ∀ mark : OffsetMark, s.toList ≠ naive ++ mark.chars := by
    rw [OffsetMark.endsBytes_iff]
    push Not
    rfl
  rw [Plain, hzulu, hmark]
  exact ⟨fun h => ⟨h.1, h.2⟩, fun h => ⟨h.zulu, h.mark⟩⟩

/-- A text that reads as a local date and time is plain. -/
theorem plain_of_wholeDateTime {s : String} {d : Date} {time : Nat × Nat}
    (h : Calendar.wholeDateTime s.toList = .ok (d, time)) : Plain s :=
  plain_iff_bare.2 (bare_of_wholeDateTime h)

/-! ### Reading with an ending -/

theorem parse_eq_ok_iff {s : String} {t : DateTime} :
    parse s = .ok t ↔ readChars s.toList = .ok t := mapError_eq_ok

/-- Every text is read as an instant, or refused as one that cannot be parsed. -/
theorem parse_cases (s : String) : (∃ t, parse s = .ok t) ∨
    ∃ fault, parse s = .error fault ∧ fault.kind = .parseFailure := by
  unfold parse
  cases read s with
  | ok t => exact .inl ⟨t, rfl⟩
  | error fault => exact .inr ⟨_, rfl, rfl⟩

variable {s : String} {t u : DateTime}

theorem parse_mark_eq_ok_iff (mark : OffsetMark) : parse (s ++ mark.text) = .ok t ↔
    Calendar.wholeDateTime s.toList = .ok (t.localDate, t.localSecond, t.nanos) ∧
      t.offset = mark.seconds := by
  rw [parse_eq_ok_iff, String.toList_append, OffsetMark.text, String.toList_ofList, readChars_mark,
    readAt_eq_ok_iff]

theorem parse_zulu_eq_ok_iff : parse (s ++ "Z") = .ok t ↔
    Calendar.wholeDateTime s.toList = .ok (t.localDate, t.localSecond, t.nanos) ∧ t.offset = 0 := by
  have hchars : (s ++ "Z").toList = s.toList ++ ['Z'] := String.toList_append
  rw [parse_eq_ok_iff, hchars, readChars_zulu, readAt_eq_ok_iff]

theorem parse_plain_eq_ok_iff (h : Plain s) : parse s = .ok t ↔
    Calendar.wholeDateTime s.toList = .ok (t.localDate, t.localSecond, t.nanos) ∧ t.offset = 0 := by
  rw [parse_eq_ok_iff, readChars_bare (plain_iff_bare.1 h), readAt_eq_ok_iff]

/-! ### Offsets of zero -/

/-- The offset `+00:00`. -/
def plusZero : OffsetMark := ⟨'+', '0', '0', '0', '0', .inl rfl, rfl⟩

/-- The offset `-00:00`. -/
def minusZero : OffsetMark := ⟨'-', '0', '0', '0', '0', .inr rfl, rfl⟩

/-- The endings that stand for UTC, no ending among them. -/
def zeroEndings : List String := ["", "Z", "+00:00", "-00:00"]

/-- Behind a plain text all endings for UTC are read alike. -/
theorem parse_zeroEnding_eq_ok_iff (h : Plain s) {ending : String} (hmem : ending ∈ zeroEndings) :
    parse (s ++ ending) = .ok t ↔
      Calendar.wholeDateTime s.toList = .ok (t.localDate, t.localSecond, t.nanos) ∧
        t.offset = 0 := by
  simp only [zeroEndings, List.mem_cons, List.not_mem_nil, or_false] at hmem
  rcases hmem with rfl | rfl | rfl | rfl
  · rw [String.append_empty]
    exact parse_plain_eq_ok_iff h
  · exact parse_zulu_eq_ok_iff
  · exact parse_mark_eq_ok_iff plusZero
  · exact parse_mark_eq_ok_iff minusZero

/-- What all endings for UTC are read as, if the plain text is read at all. -/
theorem parse_zeroEndings (h : Plain s) :
    (∃ t : DateTime, t.offset = 0 ∧ ∀ ending ∈ zeroEndings, parse (s ++ ending) = .ok t) ∨
      ∀ ending ∈ zeroEndings, ∃ fault, parse (s ++ ending) = .error fault := by
  rcases parse_cases s with ⟨t, ht⟩ | ⟨fault, hfault, -⟩
  · have hwhole := (parse_plain_eq_ok_iff h).1 ht
    exact .inl ⟨t, hwhole.2, fun ending hmem => (parse_zeroEnding_eq_ok_iff h hmem).2 hwhole⟩
  · refine .inr fun ending hmem => ?_
    rcases parse_cases (s ++ ending) with ⟨t, ht⟩ | ⟨fault', hfault', -⟩
    · have hplain := (parse_plain_eq_ok_iff h).2 ((parse_zeroEnding_eq_ok_iff h hmem).1 ht)
      rw [hfault] at hplain
      cases hplain
    · exact ⟨fault', hfault'⟩

/-! ### Offsets other than zero -/

/-- UTC itself is an offset. -/
theorem utc_lt_secondsPerDay : (0 : Int).natAbs < secondsPerDay := by decide

/-- A local date and time is that of an instant in UTC. -/
theorem exists_utc {naive : List Char} {d : Date} {second nanos : Nat}
    (h : Calendar.wholeDateTime naive = .ok (d, second, nanos)) (hnanos : nanos < 2000000000) :
    ∃ u : DateTime, u.localDate = d ∧ u.localSecond = second ∧ u.nanos = nanos ∧ u.offset = 0 := by
  obtain ⟨hsupported, hsecond, -⟩ := Calendar.wholeDateTime_eq_ok h
  have hday : (d.day * secondsPerDay + second) / secondsPerDay = d.day := by
    unfold secondsPerDay
    omega
  have hparts : (Date.mk ((d.day * secondsPerDay + second - 0) / secondsPerDay)).Supported := by
    rw [Int.sub_zero, hday]
    exact hsupported
  obtain ⟨u, hu⟩ := (exists_ofLocal?_iff hsupported hsecond hnanos utc_lt_secondsPerDay).2 hparts
  exact ⟨u, ofLocal?_eq_some hsecond hu⟩

/-- Two instants that show the same date and time are apart by their offsets. -/
theorem seconds_eq (hdate : t.localDate = u.localDate) (hsecond : t.localSecond = u.localSecond) :
    t.seconds + t.offset = u.seconds + u.offset := by
  rw [← localDate_add_localSecond, ← localDate_add_localSecond, hdate, hsecond]

/-- An offset of a day or more is a fault. -/
theorem parse_excessive (mark : OffsetMark) (hmark : 1440 ≤ mark.minutes) :
    parse (s ++ mark.text) = .error
      (Fault.parseFailure (s ++ mark.text) DateTimeFault.offsetOutOfRange.message) := by
  have hread : read (s ++ mark.text) = .error .offsetOutOfRange := by
    have hday : secondsPerDay ≤ mark.seconds.natAbs := by
      rw [mark.natAbs_seconds, secondsPerDay]
      omega
    rw [read, String.toList_append, OffsetMark.text, String.toList_ofList, readChars_mark, readAt,
      if_pos hday]
  rw [parse, hread]
  rfl

/-- With an offset a plain text is read as the same local time, which is another instant. -/
theorem parse_mark_of_plain (h : Plain s) {mark : OffsetMark}
    (ht : parse (s ++ mark.text) = .ok t) :
    ∃ u, parse s = .ok u ∧ t.offset = mark.seconds ∧ t.localDate = u.localDate ∧
      t.localSecond = u.localSecond ∧ t.nanos = u.nanos ∧ t.seconds = u.seconds - mark.seconds := by
  obtain ⟨hwhole, hoffset⟩ := (parse_mark_eq_ok_iff mark).1 ht
  obtain ⟨u, hdate, hsecond, hnanos, hzero⟩ := exists_utc hwhole t.nanos_lt
  rw [← hdate, ← hsecond, ← hnanos] at hwhole
  have hinstant := seconds_eq hdate hsecond
  exact ⟨u, (parse_plain_eq_ok_iff h).2 ⟨hwhole, hzero⟩, hoffset, hdate.symm, hsecond.symm,
    hnanos.symm, by omega⟩

/-- With an offset a plain text is read if it is read alone, and the instant is supported. -/
theorem exists_parse_mark_iff (h : Plain s) {mark : OffsetMark} (hmark : mark.minutes < 1440) :
    (∃ t, parse (s ++ mark.text) = .ok t) ↔ ∃ u, parse s = .ok u ∧
      (Date.mk ((u.seconds - mark.seconds) / secondsPerDay)).Supported := by
  constructor
  · rintro ⟨t, ht⟩
    obtain ⟨u, hu, -, -, -, -, hseconds⟩ := parse_mark_of_plain h ht
    refine ⟨u, hu, ?_⟩
    rw [← hseconds]
    exact t.supported
  · rintro ⟨u, hu, hsupported⟩
    obtain ⟨hwhole, hzero⟩ := (parse_plain_eq_ok_iff h).1 hu
    have hoffset : mark.seconds.natAbs < secondsPerDay := by
      rw [mark.natAbs_seconds, secondsPerDay]
      omega
    -- the same local time under the offset
    have hseconds : u.seconds - mark.seconds + mark.seconds = u.seconds + u.offset := by omega
    let t : DateTime := ⟨u.seconds - mark.seconds, u.nanos, mark.seconds, u.nanos_lt, hoffset,
      hsupported, hseconds ▸ u.supported_local⟩
    have hlocal : t.localSeconds = u.localSeconds := hseconds
    refine ⟨t, (parse_mark_eq_ok_iff mark).2 ⟨?_, rfl⟩⟩
    rw [localDate, localSecond, hlocal]
    exact hwhole

/-! ### All texts -/

/-- How a text is read, alone and with endings behind it. -/
structure ReadWithEndings (s : String) : Prop where
  /-- a plain text is read as a local date and time, in UTC -/
  utc : Plain s → ∀ u, parse s = .ok u ↔
    Calendar.wholeDateTime s.toList = .ok (u.localDate, u.localSecond, u.nanos) ∧ u.offset = 0
  /-- behind a plain text all endings for UTC are read alike -/
  zero : Plain s →
    (∃ t : DateTime, t.offset = 0 ∧ ∀ ending ∈ zeroEndings, parse (s ++ ending) = .ok t) ∨
      ∀ ending ∈ zeroEndings, ∃ fault, parse (s ++ ending) = .error fault
  /-- an offset of a day or more is refused -/
  excessive : Plain s → ∀ mark : OffsetMark, 1440 ≤ mark.minutes →
    ∃ fault, parse (s ++ mark.text) = .error fault ∧ fault.kind = .parseFailure
  /-- any other offset is accepted where the plain text is, and the instant is supported -/
  accepted : Plain s → ∀ mark : OffsetMark, mark.minutes < 1440 →
    ((∃ t, parse (s ++ mark.text) = .ok t) ↔ ∃ u, parse s = .ok u ∧
      (Date.mk ((u.seconds - mark.seconds) / secondsPerDay)).Supported)
  /-- the local time stays, and the instant is moved by the offset -/
  shifted : Plain s → ∀ mark : OffsetMark, ∀ t, parse (s ++ mark.text) = .ok t →
    ∃ u, parse s = .ok u ∧ t.offset = mark.seconds ∧ t.localDate = u.localDate ∧
      t.localSecond = u.localSecond ∧ t.nanos = u.nanos ∧ t.seconds = u.seconds - mark.seconds
  /-- behind another ending a `Z` is refused -/
  second : ¬ Plain s → ∃ fault, parse (s ++ "Z") = .error fault ∧ fault.kind = .parseFailure
  /-- no cut and no look-up in the bytes fails, and they say what the characters say -/
  split : OffsetMark.splitBytes (Utf8.bytes s) = .ok ((splitOffset? s.toList).map fun found =>
    (Utf8.encode found.1, found.2))
  /-- whatever is refused cannot be parsed -/
  faults : ∀ fault, parse s = .error fault → fault.kind = .parseFailure

/-- **How endings are read.** -/
theorem readWithEndings (s : String) : ReadWithEndings s where
  utc h _ := parse_plain_eq_ok_iff h
  zero := parse_zeroEndings
  excessive _ mark hmark := ⟨_, parse_excessive mark hmark, rfl⟩
  accepted h _ hmark := exists_parse_mark_iff h hmark
  shifted h _ _ ht := parse_mark_of_plain h ht
  second h := by
    refine (parse_cases (s ++ "Z")).resolve_left ?_
    rintro ⟨t, ht⟩
    exact h (plain_of_wholeDateTime (parse_zulu_eq_ok_iff.1 ht).1)
  split := OffsetMark.splitBytes_eq s
  faults fault h := by
    rcases parse_cases s with ⟨t, ht⟩ | ⟨fault', hfault', hkind⟩
    · rw [h] at ht
      cases ht
    · rw [h] at hfault'
      cases hfault'
      exact hkind

/-- The local time of a leap second. -/
def leapText : String := "2016-12-31T23:59:60.5"

/-- That leap second in UTC. -/
def leapInstant : DateTime :=
  ⟨1483228799, 1500000000, 0, by decide, utc_lt_secondsPerDay, by decide, by decide⟩

/-- The offset `-00:30`. -/
def halfHourBehind : OffsetMark := ⟨'-', '0', '0', '3', '0', .inr rfl, rfl⟩

theorem readWithEndings_leap : Plain leapText ∧ ¬ Plain (leapText ++ halfHourBehind.text) ∧
    parse leapText = .ok leapInstant ∧
    (∃ t, parse (leapText ++ halfHourBehind.text) = .ok t ∧ t.seconds = leapInstant.seconds + 1800) ∧
    ∃ fault, parse (leapText ++ halfHourBehind.text ++ "Z") = .error fault := by
  have hwhole : Calendar.wholeDateTime leapText.toList =
      .ok (leapInstant.localDate, leapInstant.localSecond, leapInstant.nanos) := rfl
  have hplain : Plain leapText := plain_of_wholeDateTime hwhole
  have hended : ¬ Plain (leapText ++ halfHourBehind.text) := fun h =>
    h.2 (OffsetMark.endsBytes_iff.2 ⟨leapText.toList, halfHourBehind, rfl⟩)
  have hutc := ((readWithEndings leapText).utc hplain leapInstant).2 ⟨hwhole, rfl⟩
  obtain ⟨t, ht⟩ := ((readWithEndings leapText).accepted hplain halfHourBehind (by decide)).2
    ⟨leapInstant, hutc, by decide⟩
  obtain ⟨u, hu, -, -, -, -, hseconds⟩ :=
    (readWithEndings leapText).shifted hplain halfHourBehind t ht
  rw [hutc] at hu
  obtain rfl := Except.ok.inj hu
  obtain ⟨fault, hfault, -⟩ := (readWithEndings (leapText ++ halfHourBehind.text)).second hended
  exact ⟨hplain, hended, hutc, ⟨t, ht, hseconds⟩, fault, hfault⟩

end DateTime

end Conform
