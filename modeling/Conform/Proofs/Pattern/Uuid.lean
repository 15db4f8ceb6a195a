/-
**The format of identifiers.**

The pattern of universally unique identifiers is read once for all, into groups of digits with
optional hyphens between them, held to both ends of the text.  This module gives the texts that it
admits without mention of patterns, and shows that such a text may lose its hyphens.

Main definitions:

* `Uuid.Grouped` — groups of hexadecimal digits of given sizes, a hyphen or nothing between two.

Main results:

* `Uuid.matches_groupPattern` — the pattern of some groups matches texts of these groups to the end;
* `Uuid.admits_iff` — **the format admits groups of 8, 4, 4, 4 and 12 digits**, and nothing else;
* `Uuid.admits_withoutHyphens` — what is admitted is admitted without its hyphens.
-/

import Conform.Proofs.Pattern.Matches
import Conform.Validation.Scalar

set_option relaxedAutoImplicit false
set_option autoImplicit false

namespace Conform

/-! ### Matches of characters -/

/-- The spot behind some characters, with `rest` behind it. -/
def Spot.past (s : Spot) (front rest : List Char) : Spot :=
  ⟨s.index + front.length, front.getLast?.or s.before, rest⟩

theorem Spot.past_nil (s : Spot) : s.past [] s.rest = s := rfl

theorem Spot.past_past (s : Spot) (front front' rest rest' : List Char) :
    (s.past front rest).past front' rest' = s.past (front ++ front') rest' := by
  simp [past, List.getLast?_append, Option.or_assoc, Nat.add_assoc]

namespace Pattern

variable {s t : Spot} {set : CharSet}

theorem matches_one :
    (one set).Matches s t ↔
      ∃ c, set.contains c.toNat = true ∧ s.rest = c :: t.rest ∧ t = s.past [c] t.rest := by
  refine exists_congr fun c => ?_
  rw [Spot.next?_eq_some]
  obtain ⟨i, b, rest⟩ := t
  simp only [Spot.past, Spot.mk.injEq, List.length_cons, List.length_nil, List.getLast?_singleton]
  grind

/-- Rounds of one character pass so many characters of the set. -/
theorem rounds_one {n : Nat} : Rounds (one set).Matches n s t ↔
    ∃ front, front.length = n ∧ (∀ c ∈ front, set.contains c.toNat = true) ∧
      s.rest = front ++ t.rest ∧ t = s.past front t.rest := by
  induction n generalizing s with
  | zero =>
      constructor
      · rintro rfl
        exact ⟨[], rfl, by simp, rfl, rfl⟩
      · rintro ⟨front, hlength, -, hrest, ht⟩
        obtain rfl := List.length_eq_zero_iff.1 hlength
        rw [ht, ← List.nil_append t.rest, ← hrest, Spot.past_nil]
        rfl
  | succ n ih =>
      constructor
      · rintro ⟨u, hu, ht⟩
        obtain ⟨c, hc, hs, hu⟩ := matches_one.1 hu
        obtain ⟨front, hlength, hall, hrest, ht⟩ := ih.1 ht
        refine ⟨c :: front, by simp [hlength], ?_, ?_, ?_⟩
        · exact List.forall_mem_cons.2 ⟨hc, hall⟩
        · rw [hs, hrest, List.cons_append]
        · rw [ht, hu, Spot.past_past]
          rfl
      · rintro ⟨front, hlength, hall, hrest, ht⟩
        cases front with
        | nil => cases hlength
        | cons c front =>
            obtain ⟨hc, hall⟩ := List.forall_mem_cons.1 hall
            refine ⟨s.past [c] (front ++ t.rest), matches_one.2 ⟨c, hc, hrest, rfl⟩, ih.2 ?_⟩
            refine ⟨front, by simpa using hlength, hall, rfl, ?_⟩
            rw [Spot.past_past, List.singleton_append]
            exact ht

end Pattern

namespace Uuid

/-! ### Groups of digits -/

/-- A hexadecimal digit of either case. -/
def IsDigit (c : Char) : Prop :=
  ('0' ≤ c ∧ c ≤ '9') ∨ ('A' ≤ c ∧ c ≤ 'F') ∨ ('a' ≤ c ∧ c ≤ 'f')

instance : DecidablePred IsDigit := fun _ => inferInstanceAs (Decidable ((_ ∧ _) ∨ _))

/-- A group of `first` digits, then groups of the other sizes, each perhaps behind a hyphen. -/
def Grouped (first : Nat) : List Nat → List Char → Prop
  | [], text => text.length = first ∧ ∀ c ∈ text, IsDigit c
  | next :: sizes, text => ∃ group hyphen rest, text = group ++ hyphen ++ rest ∧
      group.length = first ∧ (∀ c ∈ group, IsDigit c) ∧ (hyphen = [] ∨ hyphen = ['-']) ∧
      Grouped next sizes rest

/-- The digits as the pattern writes them. -/
def digits : CharSet :=
  .union (.ranges [(48, 57)]) (.union (.ranges [(65, 70)]) (.union (.ranges [(97, 102)])
    (.ranges [])))

/-- The pattern of so many digits. -/
def group (n : Nat) : Pattern := .repetition (.one digits) n (some n)

/-- The pattern of a hyphen that may be left out. -/
def hyphen : Pattern := .repetition (.one (.single '-')) 0 (some 1)

/-- The pattern of groups that end with the text. -/
def groupPattern (first : Nat) : List Nat → Pattern
  | [] => .seq (group first) (.assertion .textEnd)
  | next :: sizes => .seq (group first) (.seq hyphen (groupPattern next sizes))

/-- The format is that of the five groups. -/
theorem uuid_pattern : Format.uuid.pattern =
    .seq (.assertion .textStart) (.seq (.assertion .textStart) (groupPattern 8 [4, 4, 4, 12])) := by
  decide +kernel

theorem contains_digits {c : Char} : digits.contains c.toNat = true ↔ IsDigit c := by
  simp only [digits, CharSet.contains, Text.inRanges, List.any_cons, List.any_nil, Bool.or_false,
    Bool.or_eq_true, Bool.and_eq_true, decide_eq_true_eq, IsDigit]
  exact Iff.rfl

variable {s t : Spot}

theorem matches_group {n : Nat} : (group n).Matches s t ↔
    ∃ front, front.length = n ∧ (∀ c ∈ front, IsDigit c) ∧
      s.rest = front ++ t.rest ∧ t = s.past front t.rest := by
  simp only [← contains_digits]
  rw [← Pattern.rounds_one]
  constructor
  · rintro ⟨more, hmore, h⟩
    have hzero : more = 0 := by
      have hle := hmore n rfl
      omega
    rwa [hzero, Nat.add_zero] at h
  · intro h
    exact ⟨0, fun _ _ => Nat.zero_le _, h⟩

theorem matches_hyphen : hyphen.Matches s t ↔
    ∃ front, (front = [] ∨ front = ['-']) ∧ s.rest = front ++ t.rest ∧ t = s.past front t.rest := by
  constructor
  · -- at most one round, so at most one character, and that is a hyphen
    rintro ⟨more, hmore, h⟩
    have hle : more ≤ 1 := hmore 1 rfl
    rw [Nat.zero_add, Pattern.rounds_one] at h
    obtain ⟨front, hlength, hall, hrest, ht⟩ := h
    refine ⟨front, ?_, hrest, ht⟩
    match front, hall, hlength with
    | [], _, _ => exact .inl rfl
    | [c], hall, _ =>
        have hc := hall c (List.mem_cons_self ..)
        rw [CharSet.contains_single, Bool.and_eq_true, decide_eq_true_eq, decide_eq_true_eq] at hc
        right
        rw [show c = '-' from Char.toNat_inj.1 (Nat.le_antisymm hc.2 hc.1)]
    | _ :: _ :: _, _, hlength =>
        simp at hlength
        omega
  · rintro ⟨front, hfront, hrest, ht⟩
    refine ⟨front.length, ?_, ?_⟩
    · rintro _ ⟨⟩
      rcases hfront with rfl | rfl
      · exact Nat.zero_le _
      · exact Nat.le_refl _
    · rw [Nat.zero_add]
      refine Pattern.rounds_one.2 ⟨front, rfl, ?_, hrest, ht⟩
      rcases hfront with rfl | rfl
      · simp
      · simp [CharSet.contains_single]

/-- **The pattern of groups matches a text of these groups** and nothing that goes on behind them. -/
theorem matches_groupPattern {sizes : List Nat} : ∀ {first : Nat} {s : Spot},
    (∃ t, (groupPattern first sizes).Matches s t) ↔ Grouped first sizes s.rest := by
  induction sizes with
  | nil =>
      intro first s
      constructor
      · rintro ⟨t, u, hu, hend, rfl⟩
        obtain ⟨front, hlength, hall, hrest, -⟩ := matches_group.1 hu
        have hnil : u.rest = [] := by
          simpa [Assertion.holds, Assertion.between] using hend
        rw [hrest, hnil, List.append_nil]
        exact ⟨hlength, hall⟩
      · rintro ⟨hlength, hall⟩
        refine ⟨s.past s.rest [], s.past s.rest [], matches_group.2 ?_, rfl, rfl⟩
        exact ⟨s.rest, hlength, hall, (List.append_nil _).symm, rfl⟩
  | cons next sizes ih =>
      intro first s
      constructor
      · rintro ⟨t, u, hu, v, hv, ht⟩
        obtain ⟨front, hlength, hall, hrest, -⟩ := matches_group.1 hu
        obtain ⟨sep, hsep, hrest', -⟩ := matches_hyphen.1 hv
        refine ⟨front, sep, v.rest, ?_, hlength, hall, hsep, ih.1 ⟨t, ht⟩⟩
        rw [hrest, hrest', List.append_assoc]
      · rintro ⟨front, sep, rest, htext, hlength, hall, hsep, hrest⟩
        -- the spots are those behind the group and behind what separates it from the next
        have hbehind : Grouped next sizes ((s.past front (sep ++ rest)).past sep rest).rest := hrest
        obtain ⟨t, ht⟩ := ih.2 hbehind
        refine ⟨t, s.past front (sep ++ rest), matches_group.2 ?_, _, matches_hyphen.2 ?_, ht⟩
        · exact ⟨front, hlength, hall, by rw [htext, List.append_assoc]; rfl, rfl⟩
        · exact ⟨sep, hsep, rfl, rfl⟩

/-! ### The format -/

/-- **The format admits five groups of digits**, and nothing else. -/
theorem admits_iff {text : String} :
    Format.uuid.admits text = true ↔ Grouped 8 [4, 4, 4, 12] text.toList := by
  rw [Format.admits, Pattern.found_iff, uuid_pattern]
  constructor
  · rintro ⟨s, hs, t, _, ⟨hstart, rfl⟩, _, ⟨-, rfl⟩, ht⟩
    -- the search begins anywhere, but only one spot has nothing in front
    have hbefore : s.before = none := by
      simpa [Assertion.holds, Assertion.between] using hstart
    obtain rfl := (Spot.before_eq_none hs).1 hbefore
    exact matches_groupPattern.1 ⟨t, ht⟩
  · intro h
    have hall : Grouped 8 [4, 4, 4, 12] (Spot.start text.toList).rest := h
    obtain ⟨t, ht⟩ := matches_groupPattern.2 hall
    exact ⟨_, Spot.start_mem_all, t, _, ⟨rfl, rfl⟩, _, ⟨rfl, rfl⟩, ht⟩

theorem filter_of_not_mem {text : List Char} (h : '-' ∉ text) : text.filter (· ≠ '-') = text := by
  rw [List.filter_eq_self]
  intro c hc
  have hne : c ≠ '-' := by
    rintro rfl
    exact h hc
  simpa using hne

theorem filter_of_digits {text : List Char} (h : ∀ c ∈ text, IsDigit c) :
    text.filter (· ≠ '-') = text := by
  have hyphen : ¬IsDigit '-' := by decide
  exact filter_of_not_mem fun hmem => hyphen (h '-' hmem)

/-- Groups stay groups without the hyphens between them. -/
theorem Grouped.filter {sizes : List Nat} : ∀ {first : Nat} {text : List Char},
    Grouped first sizes text → Grouped first sizes (text.filter (· ≠ '-')) := by
  induction sizes with
  | nil =>
      intro first text h
      rw [filter_of_digits h.2]
      exact h
  | cons next sizes ih =>
      rintro first _ ⟨front, sep, rest, rfl, hlength, hall, hsep, hrest⟩
      refine ⟨front, [], rest.filter (· ≠ '-'), ?_, hlength, hall, .inl rfl, ih hrest⟩
      have hnone : sep.filter (· ≠ '-') = [] := by
        rcases hsep with rfl | rfl
        · rfl
        · rfl
      rw [List.filter_append, List.filter_append, filter_of_digits hall, hnone]

/-- What the format admits, it admits without its hyphens. -/
theorem admits_withoutHyphens {text : String} (h : Format.uuid.admits text = true) :
    Format.uuid.admits (Scalar.withoutHyphens text) = true := by
  rw [admits_iff] at h ⊢
  rw [Scalar.withoutHyphens, String.toList_ofList]
  exact h.filter

end Uuid

namespace Scalar

theorem not_mem_withoutHyphens (text : String) : '-' ∉ (withoutHyphens text).toList := by
  simp [withoutHyphens]

theorem withoutHyphens_of_not_mem {text : String} (h : '-' ∉ text.toList) :
    withoutHyphens text = text := by
  rw [withoutHyphens, Uuid.filter_of_not_mem h, String.ofList_toList]

end Scalar

end Conform
