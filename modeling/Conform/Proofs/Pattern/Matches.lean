/-
**What a pattern matches.**

A pattern relates the spots of a text: it matches the stretch from one spot to another.  The search
computes with sets of spots and cuts repetitions off behind as many rounds as the text has places.
This module shows that it finds exactly the ends of the matches.

Two arguments carry this.  The search behind the least number of rounds looks only at spots that are
new, which is enough since what is reached from the others has been reached already.  And among more
rounds than the text has characters one is empty, so that it can be left out or made twice: the
number of rounds matters only up to there.

Main definitions:

* `Rounds` — a number of steps of a relation;
* `Pattern.Matches` — the pattern matches the stretch between two spots.

Main results:

* `Spot.mem_all` — a spot of a text divides it;
* `Pattern.mem_run` — **the search finds the ends of the matches**;
* `Pattern.found_iff`, `Pattern.begins_iff` — a pattern is found exactly if it matches somewhere, and
  begins a text exactly if it matches from the beginning on.
-/

import Conform.Pattern.Basic
import Mathlib

set_option relaxedAutoImplicit false
set_option autoImplicit false

namespace Conform

/-! ### Spots of a text -/

namespace Spot

theorem or_getLast?_cons (c : Char) (front : List Char) (before : Option Char) :
    (c :: front).getLast?.or before = front.getLast?.or (some c) := by
  rw [List.getLast?_cons]
  cases front.getLast? <;> rfl

theorem mem_allFrom {text : List Char} {s : Spot} :
    ∀ {index : Nat} {before : Option Char}, s ∈ allFrom index before text ↔
      ∃ front, text = front ++ s.rest ∧ s.index = index + front.length ∧
        s.before = front.getLast?.or before := by
  induction text with
  | nil =>
      intro index before
      rw [allFrom, List.mem_singleton]
      constructor
      · rintro rfl
        exact ⟨[], rfl, rfl, rfl⟩
      · rintro ⟨front, htext, hindex, hbefore⟩
        obtain ⟨rfl, hrest⟩ := List.append_eq_nil_iff.1 htext.symm
        obtain ⟨i, b, rest⟩ := s
        cases hrest
        cases hindex
        cases hbefore
        rfl
  | cons c text ih =>
      intro index before
      rw [allFrom, List.mem_cons, ih]
      constructor
      · rintro (rfl | ⟨front, rfl, hindex, hbefore⟩)
        · exact ⟨[], rfl, rfl, rfl⟩
        · refine ⟨c :: front, rfl, ?_, ?_⟩
          · rw [List.length_cons]
            omega
          · rw [or_getLast?_cons]
            exact hbefore
      · rintro ⟨front, htext, hindex, hbefore⟩
        cases front with
        | nil =>
            left
            obtain ⟨i, b, rest⟩ := s
            simp_all
        | cons d front =>
            right
            cases htext
            refine ⟨front, rfl, ?_, ?_⟩
            · rw [List.length_cons] at hindex
              omega
            · rw [← or_getLast?_cons]
              exact hbefore

variable {text : List Char} {s t : Spot}

/-- A spot of a text divides it. -/
theorem mem_all : s ∈ all text ↔
    ∃ front, text = front ++ s.rest ∧ s.index = front.length ∧ s.before = front.getLast? := by
  simp [all, mem_allFrom]

/-- Spots of one text are the same if they have the same index. -/
theorem eq_of_index_eq (hs : s ∈ all text) (ht : t ∈ all text) (h : s.index = t.index) : s = t := by
  obtain ⟨front, htext, hindex, hbefore⟩ := mem_all.1 hs
  obtain ⟨front', htext', hindex', hbefore'⟩ := mem_all.1 ht
  have hlength : front.length = front'.length := by omega
  obtain ⟨rfl, hrest⟩ := List.append_inj (htext.symm.trans htext') hlength
  obtain ⟨i, b, rest⟩ := s
  obtain ⟨j, c, rest'⟩ := t
  simp_all

theorem index_le_length (hs : s ∈ all text) : s.index ≤ text.length := by
  obtain ⟨front, htext, hindex, -⟩ := mem_all.1 hs
  rw [htext, List.length_append]
  omega

theorem next?_eq_some {c : Char} :
    s.next? = some (c, t) ↔ s.rest = c :: t.rest ∧ t.index = s.index + 1 ∧ t.before = some c := by
  obtain ⟨i, b, rest⟩ := s
  obtain ⟨j, b', rest'⟩ := t
  cases rest with
  | nil => simp [next?]
  | cons d rest =>
      simp only [next?, Option.some.injEq, Prod.mk.injEq, Spot.mk.injEq, List.cons.injEq]
      grind

theorem mem_all_of_next? {c : Char} (hs : s ∈ all text) (h : s.next? = some (c, t)) :
    t ∈ all text := by
  obtain ⟨front, htext, hindex, -⟩ := mem_all.1 hs
  obtain ⟨hrest, ht, hbefore⟩ := next?_eq_some.1 h
  refine mem_all.2 ⟨front ++ [c], ?_, ?_, ?_⟩
  · rw [htext, hrest, List.append_assoc]
    rfl
  · simp [ht, hindex]
  · simp [hbefore]

/-- Only the beginning of a text has no character in front. -/
theorem before_eq_none (hs : s ∈ all text) : s.before = none ↔ s = start text := by
  obtain ⟨front, htext, hindex, hbefore⟩ := mem_all.1 hs
  constructor
  · intro h
    have hfront : front = [] := by
      rwa [hbefore, List.getLast?_eq_none_iff] at h
    obtain ⟨i, b, rest⟩ := s
    subst hfront
    simp_all [start]
  · rintro rfl
    rfl

theorem start_mem_all : start text ∈ all text := mem_all.2 ⟨[], rfl, rfl, rfl⟩

end Spot

/-! ### Rounds -/

/-- A number of steps of a relation. -/
def Rounds (step : Spot → Spot → Prop) : Nat → Spot → Spot → Prop
  | 0, s, t => s = t
  | n + 1, s, t => ∃ u, step s u ∧ Rounds step n u t

/-- The steps of the relation lead from spots of the text to such that are not in front of them. -/
def Onward (text : List Char) (step : Spot → Spot → Prop) : Prop :=
  ∀ ⦃s t⦄, s ∈ Spot.all text → step s t → t ∈ Spot.all text ∧ s.index ≤ t.index

namespace Rounds

variable {text : List Char} {step : Spot → Spot → Prop} {s t : Spot} {n m : Nat}

theorem add : Rounds step (n + m) s t ↔ ∃ u, Rounds step n s u ∧ Rounds step m u t := by
  induction n generalizing s with
  | zero => simp [Rounds]
  | succ n ih =>
      rw [Nat.succ_add]
      simp only [Rounds, ih]
      constructor
      · rintro ⟨v, hv, u, hu, ht⟩
        exact ⟨u, ⟨v, hv, hu⟩, ht⟩
      · rintro ⟨u, ⟨v, hv, hu⟩, ht⟩
        exact ⟨v, hv, u, hu, ht⟩

theorem onward (hstep : Onward text step) : Onward text (Rounds step n) := by
  induction n with
  | zero =>
      rintro s _ hs rfl
      exact ⟨hs, Nat.le_refl _⟩
  | succ n ih =>
      rintro s t hs ⟨u, hu, ht⟩
      obtain ⟨hmem, hle⟩ := hstep hs hu
      obtain ⟨htmem, hle'⟩ := ih hmem ht
      exact ⟨htmem, Nat.le_trans hle hle'⟩

/-- Among more rounds than characters are passed one is empty, so one can be left out, and one can
be added. -/
theorem shorten_inflate (hstep : Onward text step) (hs : s ∈ Spot.all text)
    (h : Rounds step (n + 1) s t) (hlt : t.index < s.index + (n + 1)) :
    Rounds step n s t ∧ Rounds step (n + 2) s t := by
  -- both are said at once, as the round that is left out is also the one that is doubled
  induction n generalizing s with
  | zero =>
      obtain ⟨u, hu, rfl⟩ := h
      obtain ⟨hmem, hle⟩ := hstep hs hu
      have heq : s = u := Spot.eq_of_index_eq hs hmem (by omega)
      subst heq
      exact ⟨rfl, s, hu, s, hu, rfl⟩
  | succ n ih =>
      obtain ⟨u, hu, hrest⟩ := h
      obtain ⟨hmem, hle⟩ := hstep hs hu
      rcases Nat.eq_or_lt_of_le hle with heq | hlt'
      · -- the first round is empty
        have heq : s = u := Spot.eq_of_index_eq hs hmem heq
        subst heq
        exact ⟨hrest, s, hu, s, hu, hrest⟩
      · obtain ⟨hshort, hlong⟩ := ih hmem hrest (by omega)
        exact ⟨⟨u, hu, hshort⟩, u, hu, hlong⟩

/-- Behind as many rounds as the text has places, one more makes no difference. -/
theorem succ_iff (hstep : Onward text step) (hs : s ∈ Spot.all text) (hn : text.length < n) :
    Rounds step (n + 1) s t ↔ Rounds step n s t := by
  constructor
  · intro h
    have hle := Spot.index_le_length (onward hstep hs h).1
    exact (shorten_inflate hstep hs h (by omega)).1
  · intro h
    have hle := Spot.index_le_length (onward hstep hs h).1
    obtain ⟨k, rfl⟩ : ∃ k, n = k + 1 := ⟨n - 1, by omega⟩
    exact (shorten_inflate hstep hs h (by omega)).2

theorem add_iff {bound : Nat} (hstep : Onward text step) (hs : s ∈ Spot.all text)
    (hbound : text.length < bound) (k : Nat) :
    Rounds step (bound + k) s t ↔ Rounds step bound s t := by
  induction k with
  | zero => rfl
  | succ k ih =>
      have hlt : text.length < bound + k := by omega
      exact (succ_iff hstep hs hlt).trans ih

/-- The number of rounds matters only up to a bound beyond the length of the text. -/
theorem congr_min {bound : Nat} (hstep : Onward text step) (hs : s ∈ Spot.all text)
    (hbound : text.length < bound) (h : min n bound = min m bound) :
    Rounds step n s t ↔ Rounds step m s t := by
  rcases Nat.lt_or_ge n bound with hn | hn
  · have heq : n = m := by omega
    rw [heq]
  · obtain ⟨i, rfl⟩ : ∃ i, n = bound + i := ⟨n - bound, by omega⟩
    obtain ⟨j, rfl⟩ : ∃ j, m = bound + j := ⟨m - bound, by omega⟩
    rw [add_iff hstep hs hbound i, add_iff hstep hs hbound j]

end Rounds

/-! ### Matches -/

namespace Pattern

/-- The pattern matches the stretch from `s` to `t`.  A repetition is matched by its least number of
rounds and some more, where the bound leaves room for more. -/
def Matches : Pattern → Spot → Spot → Prop
  | empty, s, t => s = t
  | one set, s, t => ∃ c, s.next? = some (c, t) ∧ set.contains c.toNat = true
  | assertion a, s, t => a.holds s = true ∧ s = t
  | seq a b, s, t => ∃ u, Matches a s u ∧ Matches b u t
  | alt a b, s, t => Matches a s t ∨ Matches b s t
  | repetition a least most, s, t =>
    ∃ more, (∀ bound, most = some bound → more ≤ bound - least) ∧
      Rounds (Matches a) (least + more) s t

variable {text : List Char}

/-- Matches lead onward in a text. -/
theorem Matches.onward (p : Pattern) : Onward text p.Matches := by
  induction p with
  | empty =>
      rintro s _ hs rfl
      exact ⟨hs, Nat.le_refl _⟩
  | one set =>
      rintro s t hs ⟨c, hnext, -⟩
      obtain ⟨-, hindex, -⟩ := Spot.next?_eq_some.1 hnext
      exact ⟨Spot.mem_all_of_next? hs hnext, by omega⟩
  | assertion a =>
      rintro s _ hs ⟨-, rfl⟩
      exact ⟨hs, Nat.le_refl _⟩
  | seq a b iha ihb =>
      rintro s t hs ⟨u, hu, ht⟩
      obtain ⟨hmem, hle⟩ := iha hs hu
      obtain ⟨htmem, hle'⟩ := ihb hmem ht
      exact ⟨htmem, Nat.le_trans hle hle'⟩
  | alt a b iha ihb =>
      rintro s t hs (h | h)
      · exact iha hs h
      · exact ihb hs h
  | repetition a least most ih =>
      rintro s t hs ⟨more, -, h⟩
      exact Rounds.onward ih hs h

/-! ### The search -/

theorem any_same {spots : List Spot} {s : Spot} (hspots : ∀ u ∈ spots, u ∈ Spot.all text)
    (hs : s ∈ Spot.all text) : spots.any s.same = true ↔ s ∈ spots := by
  rw [List.any_eq_true]
  constructor
  · rintro ⟨u, hu, hsame⟩
    have heq : s = u := Spot.eq_of_index_eq hs (hspots u hu) (by simpa [Spot.same] using hsame)
    rwa [heq]
  · intro hmem
    exact ⟨s, hmem, by simp [Spot.same]⟩

/-- The spots of a union are those of both sets. -/
theorem mem_merge {xs ys : List Spot} {t : Spot} (hxs : ∀ s ∈ xs, s ∈ Spot.all text)
    (hys : ∀ s ∈ ys, s ∈ Spot.all text) : t ∈ merge xs ys ↔ t ∈ xs ∨ t ∈ ys := by
  induction ys generalizing xs with
  | nil => simp [merge]
  | cons y ys ih =>
      have hy := hys y (List.mem_cons_self ..)
      have hrest : ∀ s ∈ ys, s ∈ Spot.all text := fun s hs => hys s (List.mem_cons_of_mem _ hs)
      have hstep : merge xs (y :: ys) = merge (if xs.any y.same then xs else y :: xs) ys := rfl
      rw [hstep]
      split
      · next hany =>
          have hmem : y ∈ xs := (any_same hxs hy).1 hany
          rw [ih hxs hrest, List.mem_cons]
          grind
      · rw [ih (List.forall_mem_cons.2 ⟨hy, hxs⟩) hrest, List.mem_cons, List.mem_cons]
        grind

/-- The function on sets of spots computes the steps of the relation. -/
def Computes (text : List Char) (f : List Spot → List Spot) (step : Spot → Spot → Prop) : Prop :=
  ∀ ⦃spots⦄, (∀ s ∈ spots, s ∈ Spot.all text) → ∀ t, t ∈ f spots ↔ ∃ s ∈ spots, step s t

section Steps

variable {f : List Spot → List Spot} {step : Spot → Spot → Prop}

theorem Computes.mem_all (hf : Computes text f step) (hstep : Onward text step)
    {spots : List Spot} (hspots : ∀ s ∈ spots, s ∈ Spot.all text) : ∀ t ∈ f spots, t ∈ Spot.all text := by
  intro t ht
  obtain ⟨s, hs, hst⟩ := (hf hspots t).1 ht
  exact (hstep (hspots s hs) hst).1

/-- Applying the function a number of times makes so many rounds. -/
theorem mem_times (hf : Computes text f step) (hstep : Onward text step) (n : Nat) :
    Computes text (times f n) (Rounds step n) := by
  induction n with
  | zero => exact fun spots _ t => by simp [times, Rounds]
  | succ n ih =>
      intro spots hspots t
      rw [times]
      split
      · next hempty =>
          have hnil : spots = [] := List.isEmpty_iff.1 hempty
          simp [hnil]
      · rw [ih (hf.mem_all hstep hspots)]
        constructor
        · rintro ⟨u, hu, ht⟩
          obtain ⟨s, hs, hsu⟩ := (hf hspots u).1 hu
          exact ⟨s, hs, u, hsu, ht⟩
        · rintro ⟨s, hs, u, hsu, ht⟩
          exact ⟨u, (hf hspots u).2 ⟨s, hs, hsu⟩, ht⟩

/-- The spots of the next round are those that a step leads to and that are not yet reached. -/
theorem mem_next (hf : Computes text f step) (hstep : Onward text step) {reached fresh : List Spot}
    (hreached : ∀ s ∈ reached, s ∈ Spot.all text) (hfresh : ∀ s ∈ fresh, s ∈ Spot.all text)
    {u : Spot} : u ∈ ((f fresh).filter fun s => !reached.any s.same) ↔
      (∃ s ∈ fresh, step s u) ∧ u ∉ reached := by
  rw [List.mem_filter]
  constructor
  · rintro ⟨hu, hnew⟩
    have huAll := hf.mem_all hstep hfresh u hu
    refine ⟨(hf hfresh u).1 hu, fun hmem => ?_⟩
    simp [(any_same hreached huAll).2 hmem] at hnew
  · rintro ⟨hex, hnew⟩
    have hu := (hf hfresh u).2 hex
    refine ⟨hu, ?_⟩
    rw [Bool.not_eq_true', Bool.eq_false_iff]
    exact fun hany => hnew ((any_same hreached (hf.mem_all hstep hfresh u hu)).1 hany)

/-- If only fresh spots have steps that lead out of what is reached, then a step from what is reached
leads to what is reached or to a spot of the next round. -/
theorem mem_reached_or_next (hf : Computes text f step) (hstep : Onward text step)
    {reached fresh : List Spot} (hreached : ∀ s ∈ reached, s ∈ Spot.all text)
    (hfresh : ∀ s ∈ fresh, s ∈ Spot.all text)
    (hdone : ∀ s ∈ reached, s ∉ fresh → ∀ u, step s u → u ∈ reached) {s u : Spot}
    (hs : s ∈ reached) (hu : step s u) :
    u ∈ reached ∨ u ∈ (f fresh).filter fun s => !reached.any s.same := by
  by_cases hmem : u ∈ reached
  · exact .inl hmem
  · by_cases hsf : s ∈ fresh
    · exact .inr ((mem_next hf hstep hreached hfresh).2 ⟨⟨s, hsf, hu⟩, hmem⟩)
    · exact absurd (hdone s hs hsf u hu) hmem

/-- In a set that no step leaves no number of rounds leads out of it. -/
theorem Rounds.mem_of_closed {spots : List Spot} (hclosed : ∀ s ∈ spots, ∀ t, step s t → t ∈ spots)
    {n : Nat} {s t : Spot} (hs : s ∈ spots) (h : Rounds step n s t) : t ∈ spots := by
  induction n generalizing s with
  | zero => exact h ▸ hs
  | succ n ih =>
      obtain ⟨u, hu, ht⟩ := h
      exact ih (hclosed s hs u hu) ht

/-- Only fresh spots have steps that lead out of what is reached; then all that can be reached within
so many rounds is reached. -/
theorem mem_upTo (hf : Computes text f step) (hstep : Onward text step) {n : Nat} {t : Spot} :
    ∀ {reached fresh : List Spot}, (∀ s ∈ reached, s ∈ Spot.all text) → (∀ s ∈ fresh, s ∈ reached) →
      (∀ s ∈ reached, s ∉ fresh → ∀ u, step s u → u ∈ reached) →
      (t ∈ upTo f n reached fresh ↔ ∃ k ≤ n, ∃ s ∈ reached, Rounds step k s t) := by
  induction n with
  | zero =>
      intro reached fresh _ _ _
      simp [upTo, Rounds]
  | succ n ih =>
      intro reached fresh hreached hfresh hdone
      have hfreshAll : ∀ s ∈ fresh, s ∈ Spot.all text := fun s hs => hreached s (hfresh s hs)
      have hnext : ∀ u, u ∈ ((f fresh).filter fun s => !reached.any s.same) ↔
          (∃ s ∈ fresh, step s u) ∧ u ∉ reached :=
        fun u => mem_next hf hstep hreached hfreshAll
      have hexpand : ∀ s ∈ reached, ∀ u, step s u → u ∈ reached ∨
          u ∈ (f fresh).filter fun s => !reached.any s.same :=
        fun s hs u hu => mem_reached_or_next hf hstep hreached hfreshAll hdone hs hu
      rw [upTo]
      generalize (f fresh).filter (fun s => !reached.any s.same) = next at hnext hexpand ⊢
      split
      · next hempty =>
          -- no step leads out of what is reached
          have hnil : next = [] := List.isEmpty_iff.1 hempty
          constructor
          · intro ht
            exact ⟨0, Nat.zero_le _, t, ht, rfl⟩
          · rintro ⟨k, -, s, hs, hrounds⟩
            refine Rounds.mem_of_closed (fun s hs u hu => ?_) hs hrounds
            simpa [hnil] using hexpand s hs u hu
      · have hnextAll : ∀ s ∈ next, s ∈ Spot.all text := by
          intro u hu
          obtain ⟨⟨s, hs, hsu⟩, -⟩ := (hnext u).1 hu
          exact (hstep (hfreshAll s hs) hsu).1
        have hmem : ∀ u, u ∈ merge reached next ↔ u ∈ reached ∨ u ∈ next := fun u =>
          mem_merge hreached hnextAll
        rw [ih (fun s hs => ((hmem s).1 hs).elim (hreached s) (hnextAll s))
          (fun s hs => (hmem s).2 (.inr hs))]
        · constructor
          · rintro ⟨k, hk, s, hs, hrounds⟩
            rcases (hmem s).1 hs with hs | hs
            · exact ⟨k, by omega, s, hs, hrounds⟩
            · obtain ⟨⟨u, hu, hus⟩, -⟩ := (hnext s).1 hs
              exact ⟨k + 1, by omega, u, hfresh u hu, s, hus, hrounds⟩
          · rintro ⟨k, hk, s, hs, hrounds⟩
            cases k with
            | zero => exact ⟨0, Nat.zero_le _, s, (hmem s).2 (.inl hs), hrounds⟩
            | succ k =>
                -- the first round is spent on what is fresh from now on
                obtain ⟨u, hu, hrest⟩ := hrounds
                exact ⟨k, by omega, u, (hmem u).2 (hexpand s hs u hu), hrest⟩
        · -- what was reached before has its steps done, so only the new spots are fresh
          intro s hs hfreshless u hu
          rcases (hmem s).1 hs with hs | hs
          · exact (hmem u).2 (hexpand s hs u hu)
          · exact absurd hs hfreshless

end Steps

/-- **The search finds the ends of the matches** that begin at one of the spots. -/
theorem mem_run {room : Nat} (hroom : text.length ≤ room) (p : Pattern) :
    Computes text (run room p) p.Matches := by
  induction p with
  | empty =>
      intro spots _ t
      constructor
      · intro ht
        exact ⟨t, ht, rfl⟩
      · rintro ⟨s, hs, rfl⟩
        exact hs
  | one set =>
      intro spots _ t
      simp only [run, Matches, List.mem_filterMap]
      refine exists_congr fun s => and_congr_right fun _ => ?_
      cases hnext : s.next? with
      | none => simp
      | some pair =>
          obtain ⟨c, next⟩ := pair
          simp only [Option.some.injEq, Prod.mk.injEq]
          constructor
          · intro h
            split at h
            · next hc => exact ⟨c, ⟨rfl, Option.some.inj h⟩, hc⟩
            · cases h
          · rintro ⟨_, ⟨rfl, rfl⟩, hc⟩
            rw [if_pos hc]
  | assertion a =>
      intro spots _ t
      rw [run, List.mem_filter]
      constructor
      · rintro ⟨ht, hholds⟩
        exact ⟨t, ht, hholds, rfl⟩
      · rintro ⟨s, hs, hholds, rfl⟩
        exact ⟨hs, hholds⟩
  | seq a b iha ihb =>
      intro spots hspots t
      have hmid := iha.mem_all (Matches.onward a) hspots
      rw [run, ihb hmid]
      simp only [iha hspots, Matches]
      grind
  | alt a b iha ihb =>
      intro spots hspots t
      rw [run, mem_merge (iha.mem_all (Matches.onward a) hspots)
        (ihb.mem_all (Matches.onward b) hspots), iha hspots, ihb hspots]
      simp only [Matches]
      grind
  | repetition a least most ih =>
      intro spots hspots t
      have ha : Onward text a.Matches := Matches.onward a
      have hbegun := mem_times ih ha (min least (room + 1))
      have hbegunAll := hbegun.mem_all (Rounds.onward ha) hspots
      -- both numbers of rounds are cut where one round more makes no difference
      have hcut : text.length < room + 1 := by omega
      refine (mem_upTo ih ha hbegunAll (fun _ hs => hs) (fun s hs hnot => absurd hs hnot)).trans ?_
      simp only [hbegun hspots]
      constructor
      · rintro ⟨k, hk, u, ⟨s, hs, hfirst⟩, hmore⟩
        have hrounds := Rounds.add.2 ⟨u, hfirst, hmore⟩
        refine ⟨s, hs, k, ?_, (Rounds.congr_min ha (hspots s hs) hcut ?_).1 hrounds⟩
        · rintro bound rfl
          exact Nat.le_trans hk (Nat.min_le_left _ _)
        · omega
      · rintro ⟨s, hs, more, hbound, hrounds⟩
        have hrounds' := (Rounds.congr_min (m := min least (room + 1) + min more (room + 1)) ha
          (hspots s hs) hcut (by omega)).1 hrounds
        obtain ⟨u, hfirst, hmore⟩ := Rounds.add.1 hrounds'
        refine ⟨min more (room + 1), ?_, u, ⟨s, hs, hfirst⟩, hmore⟩
        cases most with
        | none => exact Nat.min_le_right _ _
        | some bound =>
            have hle := hbound bound rfl
            show min more (room + 1) ≤ min (bound - least) (room + 1)
            omega

/-- A pattern is found exactly if it matches somewhere in the text. -/
theorem found_iff {p : Pattern} {text : String} :
    p.found text = true ↔ ∃ s ∈ Spot.all text.toList, ∃ t, p.Matches s t := by
  have hrun := mem_run (Nat.le_refl text.toList.length) p
  rw [found, Bool.not_eq_true', List.isEmpty_eq_false_iff_exists_mem]
  simp only [hrun (fun s hs => hs)]
  exact ⟨fun ⟨t, s, hs, h⟩ => ⟨s, hs, t, h⟩, fun ⟨s, hs, t, h⟩ => ⟨t, s, hs, h⟩⟩

/-- A pattern begins a text exactly if it matches from the beginning on. -/
theorem begins_iff {p : Pattern} {text : String} :
    p.begins text = true ↔ ∃ t, p.Matches (Spot.start text.toList) t := by
  have hrun := mem_run (Nat.le_refl text.toList.length) p
  have hstart : ∀ s ∈ [Spot.start text.toList], s ∈ Spot.all text.toList := by
    simpa using Spot.start_mem_all
  rw [begins, Bool.not_eq_true', List.isEmpty_eq_false_iff_exists_mem]
  simp only [hrun hstart, List.mem_singleton, exists_eq_left]

end Pattern

end Conform
