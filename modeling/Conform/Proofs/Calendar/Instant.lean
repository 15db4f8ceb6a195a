/-
**Instants written and read.**

An instant can be *written* if its local date is supported, its offset has whole minutes, and its
nanoseconds run into a further second only at the end of a minute.  What is written of such an
instant is read as the same, cut to microseconds; and whatever is read, from a text or a timestamp, is
such an instant.

Main definitions:

* `DateTime.Writable` — the instants that a text can stand for;
* `DateTime.truncated` — the instant cut to microseconds.

Main results:

* `DateTime.read_text` — **an instant is read from its text**, to the microsecond;
* `DateTime.text_truncated` — what is cut off is not written;
* `DateTime.writable_of_read`, `DateTime.writable_of_seconds` — what is read can be written.
-/

import Conform.Proofs.Calendar.Text

set_option relaxedAutoImplicit false
set_option autoImplicit false

namespace Conform

namespace DateTime

/-- The instants that a text can stand for. -/
structure Writable (t : DateTime) : Prop where
  /-- the offset has whole minutes -/
  minutes : t.offset % 60 = 0
  /-- a leap second ends a minute -/
  leap : 1000000000 ≤ t.nanos → t.localSecond % 60 = 59

/-- The instant cut to microseconds. -/
def truncated (t : DateTime) : DateTime :=
  ⟨t.seconds, t.nanos / 1000 * 1000, t.offset,
    Nat.lt_of_le_of_lt (Nat.div_mul_le_self _ _) t.nanos_lt, t.offset_lt, t.supported,
    t.supported_local⟩

theorem localSecond_lt (t : DateTime) : t.localSecond < 86400 := by
  unfold localSecond secondsPerDay
  omega

/-- The local date and the local second count the seconds of local time. -/
theorem localDate_add_localSecond (t : DateTime) :
    t.localDate.day * secondsPerDay + t.localSecond = t.seconds + t.offset := by
  have hday : t.localDate.day = (t.seconds + t.offset) / 86400 := rfl
  rw [hday]
  unfold localSecond localSeconds secondsPerDay
  omega

/-- What is cut off is not written. -/
theorem text_truncated (t : DateTime) : t.truncated.text = t.text := by
  have hdate : t.truncated.localDate = t.localDate := rfl
  have hsecond : t.truncated.localSecond = t.localSecond := rfl
  have hnanos : t.truncated.nanos = t.nanos / 1000 * 1000 := rfl
  have hoffset : t.truncated.offset = t.offset := rfl
  have hleap : 1000000000 ≤ t.nanos / 1000 * 1000 ↔ 1000000000 ≤ t.nanos := by omega
  have hmicros : (if 1000000000 ≤ t.nanos then t.nanos / 1000 * 1000 - 1000000000
      else t.nanos / 1000 * 1000) / 1000 =
      (if 1000000000 ≤ t.nanos then t.nanos - 1000000000 else t.nanos) / 1000 := by
    split
    · omega
    · omega
  simp only [text, chars, hdate, hsecond, hnanos, hoffset, hleap, hmicros]

end DateTime

namespace Calendar

/-! ### Times -/

theorem fraction_padded {n : Nat} (h : n < 1000000) :
    fraction ('.' :: paddedDigits 6 n) = .ok (n * 1000, []) := by
  have hlength : (paddedDigits 6 n).length = 6 := length_padded (by omega) h
  have hdigits : digits 9 (paddedDigits 6 n ++ []) = .ok (paddedDigits 6 n, []) :=
    digits_padded (by omega) (.inr (by simp))
  rw [List.append_nil] at hdigits
  rw [fraction, hdigits, ok_bind]
  simp only [hlength, digitsValue_padded]
  rfl

/-- A time is read from its characters; second 60 is a leap second. -/
theorem timeFields_chars {hour minute second micros : Nat} (hhour : hour ≤ 23)
    (hminute : minute ≤ 59) (hsecond : second ≤ 60) (hmicros : micros < 1000000) :
    timeFields (paddedDigits 2 hour ++ ':' :: (paddedDigits 2 minute ++
      ':' :: (paddedDigits 2 second ++ '.' :: paddedDigits 6 micros))) =
      .ok (if second = 60 then (hour * 3600 + minute * 60 + 59, micros * 1000 + 1000000000)
        else (hour * 3600 + minute * 60 + second, micros * 1000), []) := by
  unfold timeFields
  rw [field_padded (Nat.zero_le _) hhour (by omega), ok_bind]
  simp only [mark_cons, ok_bind]
  rw [field_padded (Nat.zero_le _) hminute (by omega), ok_bind]
  simp only [mark_cons, ok_bind]
  rw [field_padded (Nat.zero_le _) hsecond (by omega), ok_bind]
  simp only [fraction_padded hmicros, ok_bind]
  split <;> rfl

end Calendar

namespace DateTime

/-! ### Offsets -/

/-- Two digits stand for a number below a hundred. -/
theorem padded_two {n : Nat} (h : n < 100) : ∃ a b, paddedDigits 2 n = [a, b] ∧
    Calendar.isDigit a = true ∧ Calendar.isDigit b = true ∧ Calendar.digitsValue [a, b] = n := by
  have hlength : (paddedDigits 2 n).length = 2 := Calendar.length_padded (by omega) h
  obtain ⟨a, b, hab⟩ := List.length_eq_two.1 hlength
  have hall : ∀ c ∈ [a, b], Calendar.isDigit c = true := by
    rw [← hab]
    exact fun c => Calendar.isDigit_of_mem_padded
  refine ⟨a, b, hab, hall a (by simp), hall b (by simp), ?_⟩
  rw [← hab, Calendar.digitsValue_padded]

/-- An offset with a sign is split off. -/
theorem splitOffset?_append {sign h₁ h₀ m₁ m₀ : Char}
    (hdigits : [m₀, m₁, h₀, h₁].all Calendar.isDigit = true) (hsign : sign = '+' ∨ sign = '-')
    (naive : List Char) :
    splitOffset? (naive ++ [sign, h₁, h₀, ':', m₁, m₀]) =
      some (naive, if sign = '-' then
          -(Calendar.digitsValue [h₁, h₀] * 3600 + Calendar.digitsValue [m₁, m₀] * 60 : Int)
        else Calendar.digitsValue [h₁, h₀] * 3600 + Calendar.digitsValue [m₁, m₀] * 60) := by
  have hreverse : (naive ++ [sign, h₁, h₀, ':', m₁, m₀]).reverse =
      m₀ :: m₁ :: ':' :: h₀ :: h₁ :: sign :: naive.reverse := by simp
  unfold splitOffset?
  rw [hreverse]
  simp only [if_pos (And.intro hdigits hsign), List.reverse_reverse]

theorem expandZulu_append (naive : List Char) :
    expandZulu (naive ++ ['Z']) = naive ++ ['+', '0', '0', ':', '0', '0'] := by
  unfold expandZulu
  rw [List.reverse_append, List.reverse_singleton, List.singleton_append]
  simp only [List.reverse_reverse]

theorem expandZulu_of_digit {c : Char} (hc : Calendar.isDigit c = true) (s : List Char) :
    expandZulu (s ++ [c]) = s ++ [c] := by
  unfold expandZulu
  rw [List.reverse_append, List.reverse_singleton, List.singleton_append]
  split
  · next heq =>
      cases heq
      exact absurd hc (by decide)
  · rfl

/-- An offset of whole minutes is split off again as it was written. -/
theorem splitOffset?_offsetChars {offset : Int} (hlt : offset.natAbs < secondsPerDay)
    (hminutes : offset % 60 = 0) (naive : List Char) :
    splitOffset? (expandZulu (naive ++ offsetChars offset)) = some (naive, offset) := by
  unfold offsetChars
  split
  · next hzero =>
      rw [hzero, expandZulu_append, splitOffset?_append (by decide) (.inl rfl)]
      rfl
  · next hne =>
      unfold secondsPerDay at hlt
      obtain ⟨h₁, h₀, hhour, hh₁, hh₀, hhourValue⟩ :=
        padded_two (n := (offset.natAbs + 30) / 60 / 60) (by omega)
      obtain ⟨m₁, m₀, hminute, hm₁, hm₀, hminuteValue⟩ :=
        padded_two (n := (offset.natAbs + 30) / 60 % 60) (by omega)
      have hdigits : [m₀, m₁, h₀, h₁].all Calendar.isDigit = true := by
        simp [hm₀, hm₁, hh₀, hh₁]
      simp only [hhour, hminute]
      -- the offset ends with a digit, so it is not the short form
      have hexpand : ∀ sign, expandZulu (naive ++ sign :: ([h₁, h₀] ++ ':' :: [m₁, m₀])) =
          naive ++ [sign, h₁, h₀, ':', m₁, m₀] := by
        intro sign
        have hlast := expandZulu_of_digit hm₀ (naive ++ [sign, h₁, h₀, ':', m₁])
        rwa [List.append_assoc] at hlast
      rw [hexpand]
      split
      · next hnegative =>
          rw [splitOffset?_append hdigits (.inr rfl), hhourValue, hminuteValue, if_pos rfl]
          refine congrArg some (Prod.ext rfl ?_)
          show -(_ : Int) = offset
          omega
      · next hpositive =>
          rw [splitOffset?_append hdigits (.inl rfl), hhourValue, hminuteValue,
            if_neg (by decide)]
          refine congrArg some (Prod.ext rfl ?_)
          show (_ : Int) = offset
          omega

/-! ### Texts -/

/-- The second and the microseconds written stand for the time of day, to the microsecond. -/
theorem written_time {t : DateTime} (h : t.Writable) {second micros : Nat}
    (hsecond : second = t.localSecond % 60 + if 1000000000 ≤ t.nanos then 1 else 0)
    (hmicros : micros =
      (if 1000000000 ≤ t.nanos then t.nanos - 1000000000 else t.nanos) / 1000) :
    (if second = 60 then
        (t.localSecond / 3600 * 3600 + t.localSecond / 60 % 60 * 60 + 59,
          micros * 1000 + 1000000000)
      else (t.localSecond / 3600 * 3600 + t.localSecond / 60 % 60 * 60 + second,
          micros * 1000)) = (t.localSecond, t.truncated.nanos) := by
  have htruncated : t.truncated.nanos = t.nanos / 1000 * 1000 := rfl
  by_cases hleap : 1000000000 ≤ t.nanos
  · -- the second written is 60, as the leap second ends a minute
    have hlast := h.leap hleap
    rw [if_pos hleap] at hsecond hmicros
    rw [if_pos (by omega), htruncated]
    refine Prod.ext ?_ ?_
    · show _ + 59 = t.localSecond
      omega
    · show _ + 1000000000 = t.nanos / 1000 * 1000
      omega
  · rw [if_neg hleap] at hsecond hmicros
    rw [if_neg (by omega), htruncated]
    refine Prod.ext ?_ ?_
    · show _ + second = t.localSecond
      omega
    · show micros * 1000 = t.nanos / 1000 * 1000
      rw [hmicros]

/-- The local date and time of an instant are read from their characters. -/
theorem wholeDateTime_chars {t : DateTime} (h : t.Writable) {second micros : Nat}
    (hsecond : second = t.localSecond % 60 + if 1000000000 ≤ t.nanos then 1 else 0)
    (hmicros : micros =
      (if 1000000000 ≤ t.nanos then t.nanos - 1000000000 else t.nanos) / 1000) :
    Calendar.wholeDateTime (t.localDate.chars ++ 'T' :: (paddedDigits 2 (t.localSecond / 3600) ++
      ':' :: (paddedDigits 2 (t.localSecond / 60 % 60) ++
      ':' :: (paddedDigits 2 second ++ '.' :: paddedDigits 6 micros)))) =
      .ok (t.localDate, t.localSecond, t.truncated.nanos) := by
  have hlt := t.localSecond_lt
  have hnanos := t.nanos_lt
  have htime := written_time h hsecond hmicros
  have hsecond' : second ≤ 60 := by
    rw [hsecond]
    split
    · omega
    · omega
  have hmicros' : micros < 1000000 := by
    rw [hmicros]
    split
    · omega
    · omega
  unfold Calendar.wholeDateTime
  rw [Calendar.dateFields_chars t.localDate_supported, ok_bind]
  simp only [Calendar.mark_cons, ok_bind]
  rw [Calendar.timeFields_chars (by omega) (by omega) hsecond' hmicros', ok_bind, htime]
  simp only [Calendar.finish, ok_bind, Calendar.toDate_parts t.localDate_supported]

/-- The instant of its local date and time. -/
theorem ofLocal?_parts (t : DateTime) :
    ofLocal? t.localDate t.localSecond t.nanos t.offset = some t := by
  have hseconds : t.localDate.day * secondsPerDay + t.localSecond - t.offset = t.seconds := by
    rw [localDate_add_localSecond]
    omega
  rw [ofLocal?, hseconds, ofParts?, dif_pos ⟨t.nanos_lt, t.offset_lt, t.supported, t.supported_local⟩]

/-- A text is read as an instant, if its offset is split off and its local date and time are left. -/
theorem readChars_of_parts {s naive : List Char} {t : DateTime}
    (hsplit : splitOffset? (expandZulu s) = some (naive, t.offset))
    (hwhole : Calendar.wholeDateTime naive = .ok (t.localDate, t.localSecond, t.nanos)) :
    readChars s = .ok t := by
  unfold readChars
  simp only [hsplit, Option.getD_some, if_neg (Nat.not_le.2 t.offset_lt), hwhole, ofLocal?_parts]

/-- **An instant is read from its text**, to the microsecond. -/
theorem read_text {t : DateTime} (h : t.Writable) : read t.text = .ok t.truncated := by
  have hchars : ∃ naive, t.chars = naive ++ offsetChars t.offset ∧
      Calendar.wholeDateTime naive = .ok (t.localDate, t.localSecond, t.truncated.nanos) := by
    refine ⟨_, ?_, wholeDateTime_chars h rfl rfl⟩
    simp [chars]
  obtain ⟨naive, hnaive, hwhole⟩ := hchars
  have hoffset := splitOffset?_offsetChars t.offset_lt h.minutes naive
  rw [← hnaive] at hoffset
  rw [read, text, String.toList_ofList]
  exact readChars_of_parts hoffset hwhole

end DateTime

/-! ### What is read -/

namespace Calendar

theorem digits_eq_ok {width : Nat} {s ds rest : List Char} (h : digits width s = .ok (ds, rest)) :
    (∀ c ∈ ds, isDigit c = true) ∧ ds.length ≤ width := by
  unfold digits at h
  split at h
  · cases h
  · next d ds' heq =>
      cases h
      rw [← heq]
      have htake := List.length_take_le width s
      have hwhile := (List.takeWhile_prefix isDigit (l := s.take width)).length_le
      exact ⟨List.all_eq_true.1 List.all_takeWhile, by omega⟩

theorem field_eq_ok {least greatest n : Nat} {s rest : List Char}
    (h : field least greatest s = .ok (n, rest)) : least ≤ n ∧ n ≤ greatest := by
  obtain ⟨⟨ds, rest'⟩, -, h⟩ := bind_eq_ok.1 h
  simp only at h
  split at h
  · next hbounds =>
      cases h
      exact hbounds
  · cases h

/-- A fraction is less than a second. -/
theorem fraction_lt {s rest : List Char} {n : Nat} (h : fraction s = .ok (n, rest)) :
    n < 1000000000 := by
  unfold fraction at h
  split at h
  · obtain ⟨⟨ds, rest'⟩, hdigits, h⟩ := bind_eq_ok.1 h
    obtain ⟨hall, hlength⟩ := digits_eq_ok hdigits
    cases h
    have hvalue := digitsValue_lt hall
    have hscale : 0 < 10 ^ (9 - ds.length) := Nat.pow_pos (by omega)
    calc digitsValue ds * 10 ^ (9 - ds.length)
        < 10 ^ ds.length * 10 ^ (9 - ds.length) := Nat.mul_lt_mul_of_pos_right hvalue hscale
      _ = 10 ^ 9 := by rw [← Nat.pow_add, Nat.add_sub_cancel' hlength]
      _ = 1000000000 := rfl
  · cases h
    omega

/-- A time lies within a day, and only the last second of a minute is prolonged. -/
theorem timeFields_eq_ok {s rest : List Char} {second nanos : Nat}
    (h : timeFields s = .ok ((second, nanos), rest)) :
    second < 86400 ∧ (1000000000 ≤ nanos → second % 60 = 59) := by
  obtain ⟨⟨hour, s₁⟩, hhour, h⟩ := bind_eq_ok.1 h
  obtain ⟨_, -, h⟩ := bind_eq_ok.1 h
  obtain ⟨⟨minute, s₂⟩, hminute, h⟩ := bind_eq_ok.1 h
  obtain ⟨_, -, h⟩ := bind_eq_ok.1 h
  obtain ⟨⟨sec, s₃⟩, hsec, h⟩ := bind_eq_ok.1 h
  obtain ⟨⟨fractional, s₄⟩, hfraction, h⟩ := bind_eq_ok.1 h
  have hhour := field_eq_ok hhour
  have hminute := field_eq_ok hminute
  have hsec := field_eq_ok hsec
  have hfraction := fraction_lt hfraction
  simp only at h
  split at h
  · cases h
    exact ⟨by omega, fun _ => by omega⟩
  · cases h
    exact ⟨by omega, fun hleap => by omega⟩

theorem wholeDateTime_eq_ok {s : List Char} {d : Date} {second nanos : Nat}
    (h : wholeDateTime s = .ok (d, second, nanos)) :
    d.Supported ∧ second < 86400 ∧ (1000000000 ≤ nanos → second % 60 = 59) := by
  obtain ⟨⟨ymd, s₁⟩, -, h⟩ := bind_eq_ok.1 h
  obtain ⟨_, -, h⟩ := bind_eq_ok.1 h
  obtain ⟨⟨⟨second', nanos'⟩, s₂⟩, htime, h⟩ := bind_eq_ok.1 h
  obtain ⟨_, -, h⟩ := bind_eq_ok.1 h
  obtain ⟨d', hdate, h⟩ := bind_eq_ok.1 h
  cases h
  exact ⟨supported_of_toDate hdate, timeFields_eq_ok htime⟩

end Calendar

namespace DateTime

theorem splitOffset?_minutes {s naive : List Char} {offset : Int}
    (h : splitOffset? s = some (naive, offset)) : offset % 60 = 0 := by
  unfold splitOffset? at h
  split at h
  · split at h
    · cases h
      split
      · omega
      · omega
    · cases h
  · cases h

/-- The instant at which clocks show a date and a time shows these. -/
theorem ofLocal?_eq_some {d : Date} {second nanos : Nat} {offset : Int} {t : DateTime}
    (hsecond : second < 86400) (h : ofLocal? d second nanos offset = some t) :
    t.localDate = d ∧ t.localSecond = second ∧ t.nanos = nanos ∧ t.offset = offset := by
  unfold ofLocal? ofParts? at h
  split at h
  · cases h
    have hlocal : d.day * secondsPerDay + second - offset + offset =
        d.day * secondsPerDay + second := by omega
    refine ⟨?_, ?_, rfl, rfl⟩
    · refine congrArg Date.mk ?_
      show (d.day * secondsPerDay + second - offset + offset) / secondsPerDay = d.day
      rw [hlocal]
      unfold secondsPerDay
      omega
    · show ((d.day * secondsPerDay + second - offset + offset) % secondsPerDay).toNat = second
      rw [hlocal]
      unfold secondsPerDay
      omega
  · cases h

/-- A supported local date and time is an instant wherever this is supported in UTC. -/
theorem exists_ofLocal?_iff {d : Date} {second nanos : Nat} {offset : Int} (hdate : d.Supported)
    (hsecond : second < 86400) (hnanos : nanos < 2000000000)
    (hoffset : offset.natAbs < secondsPerDay) :
    (∃ t, ofLocal? d second nanos offset = some t) ↔
      (Date.mk ((d.day * secondsPerDay + second - offset) / secondsPerDay)).Supported := by
  have hlocal : (d.day * secondsPerDay + second - offset + offset) / secondsPerDay = d.day := by
    unfold secondsPerDay
    omega
  have hback : (Date.mk ((d.day * secondsPerDay + second - offset + offset) /
      secondsPerDay)).Supported := by rwa [hlocal]
  rw [ofLocal?, ofParts?]
  constructor
  · rintro ⟨t, ht⟩
    split at ht
    · next h => exact h.2.2.1
    · cases ht
  · exact fun hsupported => ⟨_, dif_pos ⟨hnanos, hoffset, hsupported, hback⟩⟩

/-- An instant that is read from a text can be written. -/
theorem writable_of_read {text : String} {t : DateTime} (h : read text = .ok t) : t.Writable := by
  unfold read readChars at h
  generalize hsplit : (splitOffset? (expandZulu text.toList)).getD (expandZulu text.toList, 0) =
    split at h
  obtain ⟨naive, offset⟩ := split
  have hminutes : offset % 60 = 0 := by
    cases hsome : splitOffset? (expandZulu text.toList) with
    | none =>
        rw [hsome] at hsplit
        cases hsplit
        rfl
    | some found =>
        rw [hsome] at hsplit
        cases hsplit
        exact splitOffset?_minutes hsome
  simp only at h
  split at h
  · cases h
  · split at h
    · cases h
    · next d second nanos hwhole =>
        split at h
        · next found hlocal =>
            cases h
            obtain ⟨-, hsecond, hleap⟩ := Calendar.wholeDateTime_eq_ok hwhole
            obtain ⟨rfl, rfl, rfl, rfl⟩ := ofLocal?_eq_some hsecond hlocal
            exact ⟨hminutes, hleap⟩
        · cases h

/-! ### Timestamps -/

/-- An instant without offset and without a leap second can be written. -/
theorem writable_of_offset_zero {t : DateTime} (hoffset : t.offset = 0)
    (hnanos : t.nanos < 1000000000) : t.Writable := by
  refine ⟨?_, fun hleap => ?_⟩
  · rw [hoffset]
    rfl
  · omega

/-- The instant of a number of microseconds can be written. -/
theorem writable_of_microseconds {micros : Int} {t : DateTime}
    (h : ofMicroseconds? micros = some t) : t.Writable := by
  unfold ofMicroseconds? ofParts? at h
  split at h
  · cases h
    refine writable_of_offset_zero rfl ?_
    show (micros % 1000000).toNat * 1000 < 1000000000
    omega
  · cases h

/-- The instant of a number of seconds can be written. -/
theorem writable_of_seconds {seconds : Int} {t : DateTime} (h : ofSeconds? seconds = some t) :
    t.Writable := by
  unfold ofSeconds? at h
  simp only at h
  split at h
  · exact writable_of_microseconds h
  · cases h

end DateTime

end Conform
