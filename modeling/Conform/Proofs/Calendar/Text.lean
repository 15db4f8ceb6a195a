/-
**Dates written and read.**

What is written of a date is read as the same date.  The reader goes from left to right and takes as
many digits as it may; so it has to be seen, number by number, that it stops where the number was
written to stop: behind two digits it may not take more, and behind a year comes a hyphen.

Main results:

* `Calendar.digits_append` — digits are read to their end;
* `Calendar.year_yearChars` — a year is read from its text, with or without a sign;
* `Date.read_text` — **a supported date is read from its text**;
* `Date.supported_of_read` — a date that is read is supported.
-/

import Conform.Calendar.Reader
import Conform.Calendar.Writer
import Conform.Proofs.Calendar.Date
import Conform.Proofs.Result

set_option relaxedAutoImplicit false
set_option autoImplicit false

namespace Conform

namespace Calendar

/-! ### Digits -/

theorem isDigit_iff {c : Char} : isDigit c = true ↔ 48 ≤ c.toNat ∧ c.toNat ≤ 57 := by
  rw [isDigit, Bool.and_eq_true, decide_eq_true_eq, decide_eq_true_eq]
  exact Iff.rfl

theorem isBlank_of_isDigit {c : Char} (h : isDigit c = true) : Text.isBlank c = false := by
  rw [isDigit_iff] at h
  simp only [Text.isBlank, Text.inRanges, Text.blankRanges, List.any_cons, List.any_nil,
    Bool.or_false, Bool.or_eq_false_iff, Bool.and_eq_false_iff, decide_eq_false_iff_not]
  omega

theorem isDigit_of_mem_padded {width n : Nat} {c : Char} (h : c ∈ paddedDigits width n) :
    isDigit c = true := by
  rw [paddedDigits, List.mem_append] at h
  rcases h with h | h
  · rw [List.eq_of_mem_replicate h]
    rfl
  · have hdigit := Nat.isDigit_of_mem_toDigits (by omega) (by omega) h
    rw [Char.isDigit, Bool.and_eq_true, decide_eq_true_eq, decide_eq_true_eq] at hdigit
    exact isDigit_iff.2 hdigit

theorem length_padded {width n : Nat} (hwidth : 0 < width) (h : n < 10 ^ width) :
    (paddedDigits width n).length = width := by
  have hle := (Nat.length_toDigits_le_iff (by omega) hwidth).2 h
  rw [paddedDigits, List.length_append, List.length_replicate]
  omega

theorem padded_eq_cons (width n : Nat) :
    ∃ c cs, paddedDigits width n = c :: cs ∧ isDigit c = true := by
  cases h : paddedDigits width n with
  | nil =>
      rw [paddedDigits, List.append_eq_nil_iff] at h
      exact absurd h.2 Nat.toDigits_ne_nil
  | cons c cs =>
      have hmem : c ∈ paddedDigits width n := by
        rw [h]
        exact List.mem_cons_self ..
      exact ⟨c, cs, rfl, isDigit_of_mem_padded hmem⟩

theorem digitsValue_eq (cs : List Char) : digitsValue cs = Nat.ofDigitChars 10 cs 0 :=
  Nat.ofDigitChars_eq_foldl.symm

/-- The digits of a number have its value. -/
theorem digitsValue_padded (width n : Nat) : digitsValue (paddedDigits width n) = n := by
  rw [digitsValue_eq, paddedDigits, Nat.ofDigitChars_append, Nat.ofDigitChars_replicate_zero,
    Nat.mul_zero, Nat.ofDigitChars_ten_toDigits]

theorem digitsValue_lt {cs : List Char} (h : ∀ c ∈ cs, isDigit c = true) :
    digitsValue cs < 10 ^ cs.length := by
  rw [digitsValue_eq]
  induction cs with
  | nil => simp
  | cons c cs ih =>
      obtain ⟨hc, hcs⟩ := List.forall_mem_cons.1 h
      have hrest := ih hcs
      have hhead := isDigit_iff.1 hc
      have hvalue : c.toNat - '0'.toNat ≤ 9 := by
        have hzero : '0'.toNat = 48 := rfl
        omega
      rw [Nat.ofDigitChars_cons, Nat.mul_zero, Nat.zero_add, Nat.ofDigitChars_eq_ofDigitChars_zero,
        List.length_cons, Nat.pow_succ]
      have hmul := Nat.mul_le_mul_left (10 ^ cs.length) hvalue
      omega

/-! ### Numbers read -/

/-- Digits are read to their end, if the width or a character that is none ends them. -/
theorem digits_append {width : Nat} {cs rest : List Char} (hne : cs ≠ [])
    (hall : ∀ c ∈ cs, isDigit c = true) (hlength : cs.length ≤ width)
    (hrest : cs.length = width ∨ ∀ c, rest.head? = some c → isDigit c = false) :
    digits width (cs ++ rest) = .ok (cs, rest) := by
  have htail : (rest.take (width - cs.length)).takeWhile isDigit = [] := by
    rcases hrest with heq | hnone
    · rw [heq, Nat.sub_self]
      rfl
    · cases rest with
      | nil => simp
      | cons c rest =>
          have hc := hnone c rfl
          cases hk : width - cs.length with
          | zero => rfl
          | succ k => rw [List.take_succ_cons, List.takeWhile_cons, hc]; rfl
  have htake : ((cs ++ rest).take width).takeWhile isDigit = cs := by
    rw [List.take_append, List.take_of_length_le hlength, List.takeWhile_append_of_pos hall, htail,
      List.append_nil]
  rw [digits, htake]
  cases cs with
  | nil => exact absurd rfl hne
  | cons c cs => simp

/-- The digits of a number are read as they were written. -/
theorem digits_padded {width count n : Nat} {rest : List Char}
    (hlength : (paddedDigits count n).length ≤ width)
    (hrest : (paddedDigits count n).length = width ∨
      ∀ c, rest.head? = some c → isDigit c = false) :
    digits width (paddedDigits count n ++ rest) = .ok (paddedDigits count n, rest) := by
  obtain ⟨c, cs, hcons, -⟩ := padded_eq_cons count n
  exact digits_append (by simp [hcons]) (fun _ => isDigit_of_mem_padded) hlength hrest

theorem field_padded {least greatest n : Nat} (hleast : least ≤ n) (hgreatest : n ≤ greatest)
    (h : n < 100) (rest : List Char) :
    field least greatest (paddedDigits 2 n ++ rest) = .ok (n, rest) := by
  obtain ⟨c, cs, hcons, hc⟩ := padded_eq_cons 2 n
  have hlength : (paddedDigits 2 n).length = 2 := length_padded (by omega) h
  have hdigits : digits 2 (paddedDigits 2 n ++ rest) = .ok (paddedDigits 2 n, rest) :=
    digits_padded (Nat.le_of_eq hlength) (.inl hlength)
  have hblank : (paddedDigits 2 n ++ rest).dropWhile Text.isBlank = paddedDigits 2 n ++ rest := by
    rw [hcons, List.cons_append, List.dropWhile_cons, isBlank_of_isDigit hc]
    rfl
  simp only [field, hblank, hdigits, ok_bind, digitsValue_padded, if_pos (And.intro hleast hgreatest)]

theorem mark_cons (c : Char) (rest : List Char) : mark c (c :: rest) = .ok ((), rest) := if_pos rfl

theorem checkYear_ok {y : Int} (h : y.natAbs ≤ 262143) (rest : List Char) :
    checkYear y rest = .ok (y, rest) := if_pos (by omega)

theorem year_minus {rest ds rest' : List Char} (h : digits rest.length rest = .ok (ds, rest')) :
    year ('-' :: rest) = checkYear (-(digitsValue ds : Int)) rest' := by
  have hblank : ¬ Text.isBlank '-' = true := by decide
  unfold year
  rw [List.dropWhile_cons, if_neg hblank]
  -- the bounds of years are of no use to the cases
  generalize checkYear = check
  split
  · next heq =>
      obtain rfl := (List.cons.inj heq).2
      rw [h, ok_bind]
  · next heq => exact absurd (List.cons.inj heq).1 (by decide)
  · next hnot _ => exact absurd rfl (hnot rest)

theorem year_plus {rest ds rest' : List Char} (h : digits rest.length rest = .ok (ds, rest')) :
    year ('+' :: rest) = checkYear (digitsValue ds) rest' := by
  have hblank : ¬ Text.isBlank '+' = true := by decide
  unfold year
  rw [List.dropWhile_cons, if_neg hblank]
  generalize checkYear = check
  split
  · next heq => exact absurd (List.cons.inj heq).1 (by decide)
  · next heq =>
      obtain rfl := (List.cons.inj heq).2
      rw [h, ok_bind]
  · next hnot => exact absurd rfl (hnot rest)

theorem year_digit {c : Char} (hc : isDigit c = true) {rest ds rest' : List Char}
    (h : digits 4 (c :: rest) = .ok (ds, rest')) :
    year (c :: rest) = checkYear (digitsValue ds) rest' := by
  unfold year
  rw [List.dropWhile_cons, isBlank_of_isDigit hc, if_neg Bool.false_ne_true]
  generalize checkYear = check
  split
  · next heq =>
      cases heq
      cases hc
  · next heq =>
      cases heq
      cases hc
  · rw [h, ok_bind]

/-- A year is read to the hyphen behind it. -/
theorem year_yearChars {y : Int} (h : y.natAbs ≤ 262143) (rest : List Char) :
    year (yearChars y ++ '-' :: rest) = .ok (y, '-' :: rest) := by
  obtain ⟨c, cs, hcons, hc⟩ := padded_eq_cons 4 y.natAbs
  have hdigits : ∀ width, (paddedDigits 4 y.natAbs).length ≤ width →
      digits width (paddedDigits 4 y.natAbs ++ '-' :: rest) =
        .ok (paddedDigits 4 y.natAbs, '-' :: rest) := by
    intro width hwidth
    refine digits_padded hwidth (.inr ?_)
    rintro _ ⟨⟩
    rfl
  have hsigned := hdigits (paddedDigits 4 y.natAbs ++ '-' :: rest).length (by simp)
  -- only a year with a sign may have more than four digits
  rw [yearChars]
  split
  · next hplain =>
      have hlength : (paddedDigits 4 y.natAbs).length = 4 := length_padded (by omega) (by omega)
      have hplainDigits := hdigits 4 (Nat.le_of_eq hlength)
      rw [hcons, List.cons_append] at hplainDigits ⊢
      rw [year_digit hc hplainDigits, ← hcons, digitsValue_padded, Int.natAbs_of_nonneg hplain.1,
        checkYear_ok h]
  · split
    · next hnegative =>
        rw [List.cons_append, year_minus hsigned, digitsValue_padded,
          Int.ofNat_natAbs_of_nonpos (Int.le_of_lt hnegative), Int.neg_neg, checkYear_ok h]
    · next hpositive =>
        have hnonneg : 0 ≤ y := by omega
        rw [List.cons_append, year_plus hsigned, digitsValue_padded, Int.natAbs_of_nonneg hnonneg,
          checkYear_ok h]

/-! ### Dates -/

/-- The parts of a date are read from its characters, whatever follows them. -/
theorem dateFields_chars {d : Date} (h : d.Supported) (rest : List Char) :
    dateFields (d.chars ++ rest) = .ok ((d.year, d.month, d.dayOfMonth), rest) := by
  obtain ⟨hmonth, hmonth'⟩ := d.month_bounds
  obtain ⟨hday, hday'⟩ := d.dayOfMonth_bounds
  rw [Date.chars, List.append_assoc, List.cons_append, List.append_assoc, List.cons_append]
  unfold dateFields
  rw [year_yearChars (d.natAbs_year_le h), ok_bind]
  simp only [mark_cons, ok_bind]
  rw [field_padded hmonth hmonth' (by omega), ok_bind]
  simp only [mark_cons, ok_bind]
  rw [field_padded hday hday' (by omega), ok_bind]

theorem toDate_parts {d : Date} (h : d.Supported) :
    toDate (d.year, d.month, d.dayOfMonth) = .ok d := by
  simp only [toDate, d.ofYmd?_parts, if_pos h]

theorem supported_of_toDate {ymd : Int × Nat × Nat} {d : Date} (h : toDate ymd = .ok d) :
    d.Supported := by
  rw [toDate] at h
  split at h
  · next found _ =>
      split at h
      · next hsupported =>
          cases h
          exact hsupported
      · cases h
  · cases h

end Calendar

namespace Date

/-- No character of a date stands for the start of a time. -/
theorem ne_of_mem_chars {d : Date} {c : Char} (h : c ∈ d.chars) : c ≠ 'T' := by
  rintro rfl
  have hpadded : ∀ width n, 'T' ∉ paddedDigits width n := fun width n hmem =>
    absurd (Calendar.isDigit_of_mem_padded hmem) (by decide)
  rw [chars, List.mem_append, List.mem_cons, List.mem_append, List.mem_cons] at h
  rcases h with hyear | heq | hmonth | heq | hday
  · rw [yearChars] at hyear
    split at hyear
    · exact hpadded _ _ hyear
    · rcases List.mem_cons.1 hyear with heq | hyear
      · split at heq <;> exact absurd heq (by decide)
      · exact hpadded _ _ hyear
  · exact absurd heq (by decide)
  · exact hpadded _ _ hmonth
  · exact absurd heq (by decide)
  · exact hpadded _ _ hday

/-- **A supported date is read from its text.** -/
theorem read_text {d : Date} (h : d.Supported) : read d.text = .ok d := by
  have htake : (d.chars ++ []).takeWhile (· ≠ 'T') = d.chars ++ [] :=
    List.takeWhile_append_of_pos fun c hc => decide_eq_true (ne_of_mem_chars hc)
  have hfields := Calendar.dateFields_chars h []
  rw [List.append_nil] at htake hfields
  rw [read, text, String.toList_ofList, readChars, htake]
  unfold Calendar.wholeDate
  rw [hfields, ok_bind]
  exact Calendar.toDate_parts h

/-- A date that is read is supported. -/
theorem supported_of_read {s : String} {d : Date} (h : read s = .ok d) : d.Supported := by
  obtain ⟨⟨ymd, rest⟩, -, h⟩ := bind_eq_ok.1 h
  obtain ⟨⟨⟩, -, h⟩ := bind_eq_ok.1 h
  exact Calendar.supported_of_toDate h

end Date

end Conform
