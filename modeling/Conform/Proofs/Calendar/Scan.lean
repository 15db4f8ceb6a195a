/-
**What the readers of dates and times take.**

A reader takes characters from the front of a text and leaves the rest.  What the readers of a date
take holds no `T`, and they would take the same if the text ended earlier behind it; so the date in
front of a time is the date that is read when the text is cut at its first `T`.  What the reader of a
time takes is three numbers with colons between them and perhaps a fraction: its last characters are
digits, and no sign stands in it.

Main definitions:

* `Calendar.Separable` — a reader that takes no `T` and needs nothing of what it leaves;
* `Calendar.Numeral`, `Calendar.TimeText` — how numbers and times are written.

Main results:

* `Calendar.Separable.bind` — readers one behind the other;
* `Calendar.wholeDateTime_split` — **a date with a time is a date, a `T` and a time**;
* `Date.readChars_of_wholeDateTime` — the date is read from all texts that go on behind it.
-/

import Conform.Proofs.Calendar.Instant

set_option relaxedAutoImplicit false
set_option autoImplicit false

namespace Conform

namespace Calendar

/-! ### Digits and numbers -/

/-- Digits end where their width ends, or in front of another character. -/
theorem digits_split {width : Nat} {s ds rest : List Char} (h : digits width s = .ok (ds, rest)) :
    s = ds ++ rest ∧ ds ≠ [] ∧
      (ds.length = width ∨ ∀ c, rest.head? = some c → isDigit c = false) := by
  obtain ⟨hall, hlength⟩ := digits_eq_ok h
  unfold digits at h
  split at h
  · cases h
  · next d ds' heq =>
      obtain ⟨rfl, rfl⟩ := Prod.mk.inj (Except.ok.inj h)
      have htake : d :: ds' <+: s := heq ▸ (List.takeWhile_prefix isDigit).trans (List.take_prefix _ s)
      obtain ⟨rest, rfl⟩ := htake
      rw [List.drop_left]
      refine ⟨rfl, List.cons_ne_nil _ _, ?_⟩
      by_cases hfull : (d :: ds').length = width
      · exact .inl hfull
      · -- there was room for one more
        refine .inr fun c hc => ?_
        obtain ⟨k, hk⟩ : ∃ k, width - (d :: ds').length = k + 1 :=
          ⟨width - (d :: ds').length - 1, by omega⟩
        obtain ⟨rest', rfl⟩ := List.head?_eq_some_iff.1 hc
        rw [List.take_append, List.take_of_length_le hlength, hk, List.take_succ_cons,
          List.takeWhile_append_of_pos hall] at heq
        have hstop := List.append_right_eq_self.1 heq
        rw [List.takeWhile_cons] at hstop
        split at hstop
        · cases hstop
        · next hc => exact Bool.eq_false_iff.2 hc

theorem head?_of_cut {rest rest' : List Char} (h : rest' <+: rest) {c : Char}
    (hc : rest'.head? = some c) : rest.head? = some c := by
  obtain ⟨behind, rfl⟩ := h
  rw [List.head?_append, hc]
  rfl

/-- Digits are read as before from a text that ends earlier behind them. -/
theorem digits_cut {width width' : Nat} {ds rest rest' : List Char}
    (h : digits width (ds ++ rest) = .ok (ds, rest)) (hrest : rest' <+: rest)
    (hlength : ds.length ≤ width')
    (hwidth : ds.length = width → ds.length = width' ∨ rest = []) :
    digits width' (ds ++ rest') = .ok (ds, rest') := by
  obtain ⟨-, hne, hend⟩ := digits_split h
  refine digits_append hne (digits_eq_ok h).1 hlength ?_
  have hnext : (∀ c, rest.head? = some c → isDigit c = false) →
      ∀ c, rest'.head? = some c → isDigit c = false :=
    fun hnone c hc => hnone c (head?_of_cut hrest hc)
  rcases hend with hfull | hnone
  · rcases hwidth hfull with hfull' | rfl
    · exact .inl hfull'
    · exact .inr (hnext fun _ hc => nomatch hc)
  · exact .inr (hnext hnone)

/-- A text is its blanks and what stands behind them. -/
theorem blanks_split (s : List Char) :
    ∃ blanks, s = blanks ++ s.dropWhile Text.isBlank ∧ ∀ c ∈ blanks, Text.isBlank c = true :=
  ⟨s.takeWhile Text.isBlank, List.takeWhile_append_dropWhile.symm,
    List.all_eq_true.1 List.all_takeWhile⟩

/-- A number as it is written: blanks and digits. -/
def Numeral (cs : List Char) : Prop :=
  ∃ blanks ds, cs = blanks ++ ds ∧ (∀ c ∈ blanks, Text.isBlank c = true) ∧ ds ≠ [] ∧
    ∀ c ∈ ds, isDigit c = true

/-! ### Readers that take no `T` -/

/-- A reader that takes no `T`, and takes the same from a text that ends earlier behind it. -/
def Separable {α : Type} (f : Scan α) : Prop :=
  ∀ ⦃s a rest⦄, f s = .ok (a, rest) → ∃ taken, s = taken ++ rest ∧ 'T' ∉ taken ∧
    ∀ rest', rest' <+: rest → f (taken ++ rest') = .ok (a, rest')

namespace Separable

variable {α β : Type}

theorem ok (a : α) : Separable fun s => .ok (a, s) := by
  rintro s _ _ ⟨⟩
  exact ⟨[], rfl, List.not_mem_nil, fun _ _ => rfl⟩

/-- Readers one behind the other take what each of them takes. -/
theorem bind {f : Scan α} {g : α → Scan β} (hf : Separable f) (hg : ∀ a, Separable (g a)) :
    Separable fun s => f s >>= fun r => g r.1 r.2 := by
  intro s b rest h
  obtain ⟨⟨a, middle⟩, hfirst, hsecond⟩ := bind_eq_ok.1 h
  obtain ⟨taken, rfl, htaken, hcut⟩ := hf hfirst
  obtain ⟨taken', rfl, htaken', hcut'⟩ := hg a hsecond
  refine ⟨taken ++ taken', (List.append_assoc ..).symm, ?_, fun rest' hrest => ?_⟩
  · rw [List.mem_append]
    exact fun hmem => hmem.elim htaken htaken'
  · show f (taken ++ taken' ++ rest') >>= _ = _
    have hmiddle : taken' ++ rest' <+: taken' ++ rest := (List.prefix_append_right_inj taken').2 hrest
    rw [List.append_assoc, hcut _ hmiddle, ok_bind]
    exact hcut' rest' hrest

end Separable

theorem not_mem_of_isDigit {ds : List Char} (h : ∀ c ∈ ds, isDigit c = true) : 'T' ∉ ds :=
  fun hmem => absurd (h _ hmem) (by decide)

theorem not_mem_of_isBlank {blanks : List Char} (h : ∀ c ∈ blanks, Text.isBlank c = true) :
    'T' ∉ blanks := fun hmem => absurd (h _ hmem) (by decide)

theorem separable_mark {c : Char} (hc : c ≠ 'T') : Separable (mark c) := by
  intro s a rest h
  cases s with
  | nil => cases h
  | cons d s =>
      rw [mark] at h
      split at h
      · next heq =>
          cases h
          refine ⟨[d], rfl, ?_, fun _ _ => if_pos heq⟩
          rw [List.mem_singleton, heq]
          exact hc.symm
      · cases h

/-- A number is read from its digits behind blanks. -/
theorem field_split {least greatest n : Nat} {s rest : List Char}
    (h : field least greatest s = .ok (n, rest)) : ∃ taken, s = taken ++ rest ∧ Numeral taken ∧
      ∀ rest', rest' <+: rest → field least greatest (taken ++ rest') = .ok (n, rest') := by
  obtain ⟨blanks, hs, hblanks⟩ := blanks_split s
  obtain ⟨⟨ds, rest₀⟩, hdigits, hbounds⟩ := bind_eq_ok.1 h
  obtain ⟨hds, hne, -⟩ := digits_split hdigits
  obtain ⟨hall, hlength⟩ := digits_eq_ok hdigits
  obtain ⟨d, ds', rfl⟩ := List.exists_cons_of_ne_nil hne
  simp only at hbounds
  split at hbounds
  · next hle =>
      cases hbounds
      rw [hds] at hdigits hs
      refine ⟨blanks ++ (d :: ds'), by rwa [List.append_assoc], ⟨blanks, _, rfl, hblanks, hne, hall⟩,
        fun rest' hrest => ?_⟩
      have hblank : (d :: ds' ++ rest').dropWhile Text.isBlank = d :: ds' ++ rest' := by
        rw [List.cons_append, List.dropWhile_cons,
          isBlank_of_isDigit (hall d (List.mem_cons_self ..)), if_neg Bool.false_ne_true]
      have hdigits' := digits_cut hdigits hrest hlength .inl
      unfold field
      rw [List.append_assoc, List.dropWhile_append_of_pos hblanks, hblank, hdigits', ok_bind]
      exact if_pos hle
  · cases hbounds

theorem not_mem_of_numeral {cs : List Char} (h : Numeral cs) : 'T' ∉ cs := by
  obtain ⟨blanks, ds, rfl, hblanks, -, hall⟩ := h
  rw [List.mem_append]
  exact fun hmem => hmem.elim (not_mem_of_isBlank hblanks) (not_mem_of_isDigit hall)

theorem separable_field (least greatest : Nat) : Separable (field least greatest) := by
  intro s n rest h
  obtain ⟨taken, rfl, hnumeral, hcut⟩ := field_split h
  exact ⟨taken, rfl, not_mem_of_numeral hnumeral, hcut⟩

/-! ### Years -/

theorem checkYear_eq_ok {y y' : Int} {rest rest' : List Char}
    (h : checkYear y rest = .ok (y', rest')) :
    y' = y ∧ rest' = rest ∧ ∀ s, checkYear y s = .ok (y, s) := by
  unfold checkYear at h
  split at h
  · next hfits =>
      cases h
      exact ⟨rfl, rfl, fun _ => if_pos hfits⟩
  · cases h

theorem year_blanks {blanks s : List Char} (h : ∀ c ∈ blanks, Text.isBlank c = true) :
    year (blanks ++ s) = year s := by
  unfold year
  rw [List.dropWhile_append_of_pos h]

/-- What is read of the digits of a year. -/
theorem yearDigits_split {width : Nat} {s rest : List Char} {y : Int} (value : List Char → Int)
    (h : (digits width s >>= fun r => checkYear (value r.1) r.2) = .ok (y, rest)) :
    ∃ ds, s = ds ++ rest ∧ digits width s = .ok (ds, rest) ∧
      ∀ s, checkYear (value ds) s = .ok (y, s) := by
  obtain ⟨⟨ds, rest₀⟩, hdigits, hcheck⟩ := bind_eq_ok.1 h
  obtain ⟨rfl, rfl, hfits⟩ := checkYear_eq_ok hcheck
  exact ⟨ds, (digits_split hdigits).1, hdigits, hfits⟩

/-- A year is a sign and any number of digits, or at most four digits, behind blanks. -/
theorem year_split {s rest : List Char} {y : Int} (h : year s = .ok (y, rest)) :
    ∃ blanks core, s = blanks ++ core ∧ (∀ c ∈ blanks, Text.isBlank c = true) ∧
      ((∃ sign ds, (sign = '-' ∨ sign = '+') ∧ core = sign :: (ds ++ rest) ∧
          digits (ds ++ rest).length (ds ++ rest) = .ok (ds, rest) ∧
          ∀ s, checkYear (if sign = '-' then -(digitsValue ds : Int) else digitsValue ds) s =
            .ok (y, s)) ∨
        ∃ ds, core = ds ++ rest ∧ digits 4 (ds ++ rest) = .ok (ds, rest) ∧
          ∀ s, checkYear (digitsValue ds) s = .ok (y, s)) := by
  obtain ⟨blanks, hs, hblanks⟩ := blanks_split s
  refine ⟨blanks, _, hs, hblanks, ?_⟩
  unfold year at h
  split at h
  · next signed heq =>
      obtain ⟨ds, rfl, hdigits, hfits⟩ := yearDigits_split (fun ds => -(digitsValue ds : Int)) h
      exact .inl ⟨'-', ds, .inl rfl, heq, hdigits, hfits⟩
  · next signed heq =>
      obtain ⟨ds, rfl, hdigits, hfits⟩ := yearDigits_split (fun ds => digitsValue ds) h
      exact .inl ⟨'+', ds, .inr rfl, heq, hdigits, hfits⟩
  · obtain ⟨ds, hds, hdigits, hfits⟩ := yearDigits_split (fun ds => digitsValue ds) h
    rw [hds] at hdigits
    exact .inr ⟨ds, hds, hdigits, hfits⟩

theorem separable_year : Separable year := by
  intro s y rest h
  obtain ⟨blanks, core, rfl, hblanks, hcore⟩ := year_split h
  rcases hcore with ⟨sign, ds, hsign, rfl, hdigits, hfits⟩ | ⟨ds, rfl, hdigits, hfits⟩
  · obtain ⟨hall, -⟩ := digits_eq_ok hdigits
    refine ⟨blanks ++ sign :: ds, by simp, ?_, fun rest' hrest => ?_⟩
    · have hne : 'T' ≠ sign := by
        rcases hsign with rfl | rfl <;> decide
      simp only [List.mem_append, List.mem_cons, not_or]
      exact ⟨not_mem_of_isBlank hblanks, hne, not_mem_of_isDigit hall⟩
    · -- a year with a sign may take all that is left, so its width is that of the shorter text
      have hdigits' : digits (ds ++ rest').length (ds ++ rest') = .ok (ds, rest') := by
        refine digits_cut hdigits hrest (by simp) fun hfull => .inr ?_
        rw [List.length_append] at hfull
        exact List.eq_nil_of_length_eq_zero (by omega)
      rw [List.append_assoc, year_blanks hblanks, List.cons_append]
      rcases hsign with rfl | rfl
      · rw [year_minus hdigits']
        exact hfits rest'
      · rw [year_plus hdigits']
        exact hfits rest'
  · obtain ⟨hall, hlength⟩ := digits_eq_ok hdigits
    obtain ⟨-, hne, -⟩ := digits_split hdigits
    refine ⟨blanks ++ ds, by simp, ?_, fun rest' hrest => ?_⟩
    · rw [List.mem_append]
      exact fun hmem => hmem.elim (not_mem_of_isBlank hblanks) (not_mem_of_isDigit hall)
    · have hdigits' := digits_cut hdigits hrest hlength .inl
      obtain ⟨d, ds', rfl⟩ := List.exists_cons_of_ne_nil hne
      rw [List.cons_append] at hdigits'
      rw [List.append_assoc, year_blanks hblanks, List.cons_append,
        year_digit (hall d (List.mem_cons_self ..)) hdigits']
      exact hfits rest'

/-! ### Dates and times -/

theorem separable_dateFields : Separable dateFields :=
  separable_year.bind fun y => (separable_mark (by decide)).bind fun _ =>
    (separable_field 1 12).bind fun m => (separable_mark (by decide)).bind fun _ =>
      (separable_field 1 31).bind fun d => .ok (y, m, d)

/-- A time as it is written: hour, minute, second and perhaps a fraction. -/
def TimeText (cs : List Char) : Prop :=
  ∃ hour minute second fraction,
    cs = hour ++ ':' :: (minute ++ ':' :: (second ++ fraction)) ∧ Numeral hour ∧ Numeral minute ∧
      Numeral second ∧ (fraction = [] ∨ ∃ ds, fraction = '.' :: ds ∧ ∀ c ∈ ds, isDigit c = true)

theorem mark_eq_ok {c : Char} {s rest : List Char} {u : Unit} (h : mark c s = .ok (u, rest)) :
    s = c :: rest := by
  cases s with
  | nil => cases h
  | cons d s =>
      rw [mark] at h
      split at h
      · next heq =>
          cases h
          rw [heq]
      · cases h

/-- All digits behind a point are taken, those that do not count as well. -/
theorem fraction_split {s rest : List Char} {n : Nat} (h : fraction s = .ok (n, rest)) :
    ∃ taken, s = taken ++ rest ∧
      (taken = [] ∨ ∃ ds, taken = '.' :: ds ∧ ∀ c ∈ ds, isDigit c = true) := by
  unfold fraction at h
  split at h
  · next s =>
      obtain ⟨⟨ds, rest₀⟩, hdigits, h⟩ := bind_eq_ok.1 h
      cases h
      obtain ⟨rfl, -, -⟩ := digits_split hdigits
      obtain ⟨hall, -⟩ := digits_eq_ok hdigits
      refine ⟨'.' :: (ds ++ rest₀.takeWhile isDigit), ?_, .inr ⟨_, rfl, ?_⟩⟩
      · rw [List.cons_append, List.append_assoc, List.takeWhile_append_dropWhile]
      · exact List.forall_mem_append.2 ⟨hall, List.all_eq_true.1 List.all_takeWhile⟩
  · cases h
    exact ⟨[], rfl, .inl rfl⟩

theorem timeText_of_timeFields {s : List Char} {time : Nat × Nat}
    (h : timeFields s = .ok (time, [])) : TimeText s := by
  obtain ⟨⟨hour, s₁⟩, hhour, h⟩ := bind_eq_ok.1 h
  obtain ⟨⟨_, s₂⟩, hcolon, h⟩ := bind_eq_ok.1 h
  obtain ⟨⟨minute, s₃⟩, hminute, h⟩ := bind_eq_ok.1 h
  obtain ⟨⟨_, s₄⟩, hcolon', h⟩ := bind_eq_ok.1 h
  obtain ⟨⟨second, s₅⟩, hsecond, h⟩ := bind_eq_ok.1 h
  obtain ⟨⟨nanos, s₆⟩, hfraction, h⟩ := bind_eq_ok.1 h
  have hend : s₆ = [] := by
    simp only at h
    split at h
    · cases h
      rfl
    · cases h
      rfl
  obtain ⟨hourText, rfl, hhourText, -⟩ := field_split hhour
  obtain rfl := mark_eq_ok hcolon
  obtain ⟨minuteText, rfl, hminuteText, -⟩ := field_split hminute
  obtain rfl := mark_eq_ok hcolon'
  obtain ⟨secondText, rfl, hsecondText, -⟩ := field_split hsecond
  obtain ⟨fractionText, rfl, hfractionText⟩ := fraction_split hfraction
  refine ⟨hourText, minuteText, secondText, fractionText, ?_, hhourText, hminuteText, hsecondText,
    hfractionText⟩
  rw [hend, List.append_nil]

/-- **A date with a time is a date, a `T` and a time.** -/
theorem wholeDateTime_split {s : List Char} {d : Date} {time : Nat × Nat}
    (h : wholeDateTime s = .ok (d, time)) : ∃ dateText timeText, s = dateText ++ 'T' :: timeText ∧
      'T' ∉ dateText ∧ wholeDate dateText = .ok d ∧ TimeText timeText := by
  obtain ⟨⟨ymd, s₁⟩, hdate, h⟩ := bind_eq_ok.1 h
  obtain ⟨⟨_, s₂⟩, hmark, h⟩ := bind_eq_ok.1 h
  obtain ⟨⟨time', s₃⟩, htime, h⟩ := bind_eq_ok.1 h
  obtain ⟨_, hfinish, h⟩ := bind_eq_ok.1 h
  obtain ⟨d', hymd, h⟩ := bind_eq_ok.1 h
  cases h
  obtain rfl : s₃ = [] := by
    cases s₃ with
    | nil => rfl
    | cons c s₃ => cases hfinish
  obtain ⟨dateText, rfl, hplain, hcut⟩ := separable_dateFields hdate
  have halone := hcut [] List.nil_prefix
  rw [List.append_nil] at halone
  obtain rfl := mark_eq_ok hmark
  refine ⟨dateText, s₂, rfl, hplain, ?_, timeText_of_timeFields htime⟩
  unfold wholeDate
  rw [halone, ok_bind]
  exact hymd

end Calendar

/-- The date of a date with a time is read from all texts that go on behind it. -/
theorem Date.readChars_of_wholeDateTime {naive : List Char} {d : Date} {time : Nat × Nat}
    (h : Calendar.wholeDateTime naive = .ok (d, time)) (suffix : List Char) :
    Date.readChars (naive ++ suffix) = .ok d := by
  obtain ⟨dateText, timeText, rfl, hplain, hdate, -⟩ := Calendar.wholeDateTime_split h
  have hcut : (dateText ++ 'T' :: timeText ++ suffix).takeWhile (· ≠ 'T') = dateText := by
    have hall : ∀ c ∈ dateText, decide (c ≠ 'T') = true := fun c hc =>
      decide_eq_true fun heq => hplain (heq ▸ hc)
    rw [List.append_assoc, List.takeWhile_append_of_pos hall, List.cons_append,
      List.takeWhile_cons_of_neg (by decide), List.append_nil]
  rw [readChars, hcut]
  exact hdate

end Conform
