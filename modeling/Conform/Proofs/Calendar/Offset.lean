/-
**The offset at the end of a text.**

A text of an instant may end with `Z`, with an offset `±HH:MM`, or with neither.  Which of the three
it is can be told from the text alone, and what is left in front of the ending is read as a local date
and time: no text that reads as one has such an ending itself.  So an ending is never taken for a part
of the time, nor a part of the time for an ending, and a second ending is always too much.

Main definitions:

* `OffsetMark` — a sign, and hours and minutes of two digits each;
* `DateTime.Bare` — the texts with neither ending;
* `DateTime.readAt` — what is read of a text without its ending.

Main results:

* `DateTime.splitOffset?_eq_some_iff` — what is split off is an offset mark;
* `DateTime.readAt_eq_ok_iff` — **an instant is read where its local date and time are**;
* `DateTime.bare_of_wholeDateTime` — **a local date and time has no ending**;
* `DateTime.exists_naive_of_readChars` — the text of an instant begins with its local date and time.
-/

import Conform.Proofs.Calendar.Scan

set_option relaxedAutoImplicit false
set_option autoImplicit false

namespace Conform

/-! ### Offset marks -/

/-- The mark of an offset: a sign, and hours and minutes of two digits each. -/
structure OffsetMark where
  sign : Char
  h₁ : Char
  h₀ : Char
  m₁ : Char
  m₀ : Char
  sign_eq : sign = '+' ∨ sign = '-'
  digits : [m₀, m₁, h₀, h₁].all Calendar.isDigit = true

namespace OffsetMark

variable (mark : OffsetMark)

/-- The characters of a mark. -/
def chars : List Char := [mark.sign, mark.h₁, mark.h₀, ':', mark.m₁, mark.m₀]

/-- The text of a mark. -/
def text : String := String.ofList mark.chars

/-- The minutes that a mark stands for, without its sign. -/
def minutes : Nat :=
  Calendar.digitsValue [mark.h₁, mark.h₀] * 60 + Calendar.digitsValue [mark.m₁, mark.m₀]

/-- The offset that a mark stands for, in seconds. -/
def seconds : Int := if mark.sign = '-' then -(mark.minutes * 60 : Int) else mark.minutes * 60

theorem natAbs_seconds : mark.seconds.natAbs = mark.minutes * 60 := by
  unfold seconds
  split <;> omega

/-- A sign is no part of a number, and no colon. -/
theorem sign_spec : Calendar.isDigit mark.sign = false ∧ Text.isBlank mark.sign = false ∧
    mark.sign ≠ ':' := by
  rcases mark.sign_eq with h | h
  · rw [h]
    decide
  · rw [h]
    decide

theorem isDigit_of_mem {c : Char} (h : c ∈ [mark.m₀, mark.m₁, mark.h₀, mark.h₁]) :
    Calendar.isDigit c = true :=
  List.all_eq_true.1 mark.digits c h

end OffsetMark

namespace DateTime

/-! ### Endings -/

/-- An offset mark is split off. -/
theorem splitOffset?_mark (naive : List Char) (mark : OffsetMark) :
    splitOffset? (naive ++ mark.chars) = some (naive, mark.seconds) := by
  rw [OffsetMark.chars, splitOffset?_append mark.digits mark.sign_eq]
  refine congrArg some (Prod.ext rfl ?_)
  unfold OffsetMark.seconds OffsetMark.minutes
  push_cast
  split
  · ring
  · ring

/-- What is split off is an offset mark. -/
theorem splitOffset?_eq_some_iff {s naive : List Char} {offset : Int} :
    splitOffset? s = some (naive, offset) ↔
      ∃ mark : OffsetMark, s = naive ++ mark.chars ∧ offset = mark.seconds := by
  constructor
  · intro h
    -- the characters of the end are found, and then splitting them off is known
    have hmark : ∃ front, ∃ mark : OffsetMark, s = front ++ mark.chars := by
      unfold splitOffset? at h
      split at h
      · next m₀ m₁ h₀ h₁ sign rest heq =>
          split at h
          · next hform =>
              refine ⟨rest.reverse, ⟨sign, h₁, h₀, m₁, m₀, hform.2, hform.1⟩, ?_⟩
              rw [← List.reverse_reverse s, heq]
              simp [OffsetMark.chars]
          · cases h
      · cases h
    obtain ⟨front, mark, rfl⟩ := hmark
    rw [splitOffset?_mark] at h
    obtain ⟨rfl, rfl⟩ := Prod.mk.inj (Option.some.inj h)
    exact ⟨mark, rfl, rfl⟩
  · rintro ⟨mark, rfl, rfl⟩
    exact splitOffset?_mark naive mark

/-- Only a `Z` is expanded. -/
theorem expandZulu_eq_self {s : List Char} (h : ∀ naive, s ≠ naive ++ ['Z']) : expandZulu s = s := by
  unfold expandZulu
  split
  · next rest heq =>
      refine absurd ?_ (h rest.reverse)
      rw [← List.reverse_reverse s, heq, List.reverse_cons]
  · rfl

/-- A text with neither a `Z` nor an offset mark at its end. -/
structure Bare (s : List Char) : Prop where
  zulu : ∀ naive, s ≠ naive ++ ['Z']
  mark : ∀ naive, ∀ mark : OffsetMark, s ≠ naive ++ mark.chars

/-- A text ends with a `Z`, with an offset mark, or with neither. -/
theorem cases_ending (s : List Char) :
    (∃ naive, s = naive ++ ['Z']) ∨ (∃ naive, ∃ mark : OffsetMark, s = naive ++ mark.chars) ∨
      Bare s := by
  by_cases hzulu : ∃ naive, s = naive ++ ['Z']
  · exact .inl hzulu
  by_cases hmark : ∃ naive, ∃ mark : OffsetMark, s = naive ++ mark.chars
  · exact .inr (.inl hmark)
  exact .inr (.inr ⟨fun naive h => hzulu ⟨naive, h⟩, fun naive mark h => hmark ⟨naive, mark, h⟩⟩)

/-! ### Reading in front of an ending -/

/-- What is read of a text without its ending, under the offset of the ending. -/
def readAt (naive : List Char) (offset : Int) : Except DateTimeFault DateTime :=
  if secondsPerDay ≤ offset.natAbs then .error .offsetOutOfRange
  else
    match Calendar.wholeDateTime naive with
    | .error fault => .error (.malformed fault)
    | .ok (date, second, nanos) =>
      match ofLocal? date second nanos offset with
      | some t => .ok t
      | none => .error .ambiguous

theorem readChars_of_split {s naive : List Char} {offset : Int}
    (h : (splitOffset? (expandZulu s)).getD (expandZulu s, 0) = (naive, offset)) :
    readChars s = readAt naive offset := by
  unfold readChars
  rw [h]
  rfl

theorem readChars_zulu (naive : List Char) : readChars (naive ++ ['Z']) = readAt naive 0 := by
  refine readChars_of_split ?_
  rw [expandZulu_append, splitOffset?_append (by decide) (.inl rfl)]
  rfl

theorem readChars_mark (naive : List Char) (mark : OffsetMark) :
    readChars (naive ++ mark.chars) = readAt naive mark.seconds := by
  have hlast : Calendar.isDigit mark.m₀ = true := mark.isDigit_of_mem (by simp)
  have hexpand : expandZulu (naive ++ mark.chars) = naive ++ mark.chars := by
    have hfront := expandZulu_of_digit hlast (naive ++ [mark.sign, mark.h₁, mark.h₀, ':', mark.m₁])
    rwa [List.append_assoc] at hfront
  refine readChars_of_split ?_
  rw [hexpand, splitOffset?_mark]
  rfl

theorem readChars_bare {s : List Char} (h : Bare s) : readChars s = readAt s 0 := by
  have hnone : splitOffset? s = none := by
    cases hsplit : splitOffset? s with
    | none => rfl
    | some found =>
        obtain ⟨mark, hmark, -⟩ := splitOffset?_eq_some_iff.1 hsplit
        exact absurd hmark (h.mark _ mark)
  refine readChars_of_split ?_
  rw [expandZulu_eq_self h.zulu, hnone]
  rfl

/-- **An instant is read where its local date and time are.** -/
theorem readAt_eq_ok_iff {naive : List Char} {offset : Int} {t : DateTime} :
    readAt naive offset = .ok t ↔
      Calendar.wholeDateTime naive = .ok (t.localDate, t.localSecond, t.nanos) ∧
        t.offset = offset := by
  constructor
  · intro h
    unfold readAt at h
    split at h
    · cases h
    · split at h
      · cases h
      · next hwhole =>
          split at h
          · next hlocal =>
              cases h
              obtain ⟨-, hsecond, -⟩ := Calendar.wholeDateTime_eq_ok hwhole
              obtain ⟨rfl, rfl, rfl, rfl⟩ := ofLocal?_eq_some hsecond hlocal
              exact ⟨hwhole, rfl⟩
          · cases h
  · rintro ⟨hwhole, rfl⟩
    unfold readAt
    rw [if_neg (Nat.not_le.2 t.offset_lt), hwhole]
    simp only [ofLocal?_parts]

/-- The text of an instant begins with its local date and time. -/
theorem exists_naive_of_readChars {s : List Char} {t : DateTime} (h : readChars s = .ok t) :
    ∃ naive suffix, s = naive ++ suffix ∧
      Calendar.wholeDateTime naive = .ok (t.localDate, t.localSecond, t.nanos) := by
  rcases cases_ending s with ⟨naive, rfl⟩ | ⟨naive, mark, rfl⟩ | hbare
  · rw [readChars_zulu] at h
    exact ⟨naive, _, rfl, (readAt_eq_ok_iff.1 h).1⟩
  · rw [readChars_mark] at h
    exact ⟨naive, _, rfl, (readAt_eq_ok_iff.1 h).1⟩
  · rw [readChars_bare hbare] at h
    exact ⟨s, [], (List.append_nil s).symm, (readAt_eq_ok_iff.1 h).1⟩

/-! ### Local dates and times have no ending -/

/-- What is left of a text without its digits. -/
def withoutDigits (s : List Char) : List Char := s.filter fun c => !Calendar.isDigit c

theorem withoutDigits_append (s s' : List Char) :
    withoutDigits (s ++ s') = withoutDigits s ++ withoutDigits s' := List.filter_append ..

theorem withoutDigits_eq_nil {ds : List Char} (h : ∀ c ∈ ds, Calendar.isDigit c = true) :
    withoutDigits ds = [] :=
  List.filter_eq_nil_iff.2 fun c hc => by rw [h c hc]; decide

/-- Of a number its blanks are left. -/
theorem withoutDigits_numeral {cs : List Char} (h : Calendar.Numeral cs) :
    ∀ c ∈ withoutDigits cs, Text.isBlank c = true := by
  obtain ⟨blanks, ds, rfl, hblanks, -, hall⟩ := h
  rw [withoutDigits_append, withoutDigits_eq_nil hall, List.append_nil]
  exact fun c hc => hblanks c (List.mem_filter.1 hc).1

/-- Of an offset mark its sign and its colon are left. -/
theorem withoutDigits_mark (mark : OffsetMark) :
    withoutDigits mark.chars = [mark.sign, ':'] := by
  obtain ⟨hsign, -, -⟩ := mark.sign_spec
  have hdigit : ∀ c ∈ [mark.m₀, mark.m₁, mark.h₀, mark.h₁], Calendar.isDigit c = true :=
    fun c => mark.isDigit_of_mem
  simp only [List.forall_mem_cons] at hdigit
  obtain ⟨hm₀, hm₁, hh₀, hh₁, -⟩ := hdigit
  have hcolon : Calendar.isDigit ':' = false := by decide
  simp [withoutDigits, OffsetMark.chars, hsign, hm₀, hm₁, hh₀, hh₁, hcolon]

/-- Of a time its two colons are left, with blanks behind them, and perhaps the point of its fraction. -/
theorem withoutDigits_time {time : List Char} (h : Calendar.TimeText time) :
    ∃ front blanks blanks' point,
      withoutDigits time = front ++ ':' :: blanks ++ ':' :: blanks' ++ point ∧
        (∀ c ∈ blanks, Text.isBlank c = true) ∧ (∀ c ∈ blanks', Text.isBlank c = true) ∧
        (point = [] ∨ point = ['.']) := by
  obtain ⟨hour, minute, second, fraction, rfl, -, hminute, hsecond, hfraction⟩ := h
  have hcolon : ∀ s, withoutDigits (':' :: s) = ':' :: withoutDigits s := fun s =>
    List.filter_cons_of_pos (by decide)
  have hpoint : ∀ s, withoutDigits ('.' :: s) = '.' :: withoutDigits s := fun s =>
    List.filter_cons_of_pos (by decide)
  refine ⟨withoutDigits hour, withoutDigits minute, withoutDigits second, withoutDigits fraction,
    ?_, withoutDigits_numeral hminute, withoutDigits_numeral hsecond, ?_⟩
  · simp [withoutDigits_append, hcolon]
  · rcases hfraction with rfl | ⟨ds, rfl, hall⟩
    · exact .inl rfl
    · rw [hpoint, withoutDigits_eq_nil hall]
      exact .inr rfl

/-- A character with blanks behind it ends a text, or one of the blanks does. -/
theorem last_of_blanks {front front' blanks : List Char} {c d : Char}
    (hblanks : ∀ c ∈ blanks, Text.isBlank c = true) (h : front ++ c :: blanks = front' ++ [d]) :
    (d = c ∧ front' = front) ∨ Text.isBlank d = true := by
  rcases List.eq_nil_or_concat blanks with rfl | ⟨init, b, rfl⟩
  · obtain ⟨rfl, hlast⟩ := List.append_inj' h rfl
    exact .inl ⟨(List.singleton_inj.1 hlast).symm, rfl⟩
  · have hconcat : (front ++ c :: init) ++ [b] = front' ++ [d] := by simpa using h
    obtain ⟨-, hlast⟩ := List.append_inj' hconcat rfl
    rw [← List.singleton_inj.1 hlast]
    exact .inr (hblanks b (by simp))

/-- **A local date and time has no ending.** -/
theorem bare_of_wholeDateTime {s : List Char} {d : Date} {time : Nat × Nat}
    (h : Calendar.wholeDateTime s = .ok (d, time)) : Bare s := by
  obtain ⟨dateText, timeText, rfl, -, -, htime⟩ := Calendar.wholeDateTime_split h
  obtain ⟨front, blanks, blanks', point, hleft, hblanks, hblanks', hpoint⟩ := withoutDigits_time htime
  -- the last character that is no digit: the point, a blank behind the second colon, or that colon
  have hlast : ∀ {front' : List Char} {c : Char},
      withoutDigits (dateText ++ 'T' :: timeText) = front' ++ [c] → c = '.' ∨ Text.isBlank c = true ∨
        (c = ':' ∧ front' = withoutDigits (dateText ++ ['T']) ++ (front ++ ':' :: blanks)) := by
    intro front' c heq
    have hsplit : withoutDigits (dateText ++ 'T' :: timeText) =
        withoutDigits (dateText ++ ['T']) ++ (front ++ ':' :: blanks ++ ':' :: blanks' ++ point) := by
      rw [← hleft, ← withoutDigits_append, List.append_assoc, List.singleton_append]
    rw [hsplit] at heq
    rcases hpoint with rfl | rfl
    · rw [List.append_nil, ← List.append_assoc] at heq
      rcases last_of_blanks hblanks' heq with ⟨hc, hfront⟩ | hblank
      · exact .inr (.inr ⟨hc, hfront⟩)
      · exact .inr (.inl hblank)
    · rw [← List.append_assoc] at heq
      obtain ⟨-, hc⟩ := List.append_inj' heq rfl
      exact .inl (List.singleton_inj.1 hc).symm
  refine ⟨fun naive heq => ?_, fun naive mark heq => ?_⟩
  · have hzulu : withoutDigits (dateText ++ 'T' :: timeText) = withoutDigits naive ++ ['Z'] := by
      rw [heq, withoutDigits_append]
      rfl
    rcases hlast hzulu with hc | hc | ⟨hc, -⟩
    · exact absurd hc (by decide)
    · exact absurd hc (by decide)
    · exact absurd hc (by decide)
  · have hmark : withoutDigits (dateText ++ 'T' :: timeText) =
        (withoutDigits naive ++ [mark.sign]) ++ [':'] := by
      rw [heq, withoutDigits_append, withoutDigits_mark, List.append_assoc]
      rfl
    rcases hlast hmark with hc | hc | ⟨-, hfront⟩
    · exact absurd hc (by decide)
    · exact absurd hc (by decide)
    · -- in front of the second colon a sign would have to be the first colon, or a blank behind it
      rw [← List.append_assoc] at hfront
      obtain ⟨-, hblank, hcolon⟩ := mark.sign_spec
      rcases last_of_blanks hblanks hfront.symm with ⟨hsign, -⟩ | hsign
      · exact hcolon hsign
      · rw [hblank] at hsign
        cases hsign

end DateTime

end Conform
