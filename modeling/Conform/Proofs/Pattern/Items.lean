/-
**Escapes, sets and counts with a parenthesis behind.**

The parts of a pattern other than groups are read as they are without the parenthesis.  There is one
lemma for each reader.  What it says about a text that ends too early depends on the reader:

* counts, names of boundaries and whole sets never take the parenthesis;
* a single escape or a property takes it for the character that is missing;
* in brackets it is taken for an item or left over, and nothing closes the brackets behind it;
* a brace behind a word boundary begins a name unless no letter follows.  At the end of the text that
  is a fault; with the parenthesis the brace begins a repetition, and that is the fault then.

Main definitions:

* `Pattern.EscapeSpent`, `Pattern.Unclosed` — what escapes and items leave that have gone too far.

Main results:

* `Pattern.carries_readEscape` — escapes;
* `Pattern.keeps_readSetItems` — sets in brackets;
* `Pattern.carries_readCounts` — the bounds of repetitions.
-/

import Conform.Proofs.Pattern.Follows

set_option relaxedAutoImplicit false
set_option autoImplicit false

namespace Conform

namespace Pattern

variable {marked : Bool} {n m : Nat} {a b : List Char} {mode : Mode}

/-! ### Escapes -/

theorem keeps_readHexDigits (h : Follows marked n m a b) (count value : Nat) :
    Keeps marked n m (readHexDigits mode value count a) (readHexDigits mode value count b) := by
  induction count generalizing value a b with
  | zero => exact .same ⟨rfl, h⟩
  | succ count ih =>
      cases h with
      | done => exact .fault
      | mark h => exact .fault
      | next c h =>
          rw [readHexDigits, readHexDigits]
          split
          · exact .fault
          · exact ih (h.skip mode).succ _

theorem readBraced_nil (fuel : Nat) : readBraced mode fuel [] = .error .escapeUnfinished := by
  cases fuel with
  | zero => rfl
  | succ fuel => rw [readBraced, Mode.skip_nil]

theorem keeps_readBraced {fuel fuel' : Nat} (h : Follows marked n m a b) (hn : n < fuel)
    (hm : m < fuel') : Keeps marked n m (readBraced mode fuel a) (readBraced mode fuel' b) := by
  induction fuel generalizing fuel' n m a b with
  | zero => omega
  | succ fuel ih =>
      cases fuel' with
      | zero => omega
      | succ fuel' =>
          replace h := h.skip mode
          rw [readBraced, readBraced]
          generalize mode.skip a = a, mode.skip b = b at h
          cases h with
          | done => exact .fault
          | mark h =>
              -- behind the parenthesis no brace closes
              dsimp only
              rw [if_neg (by decide), readBraced_nil]
              exact .fault
          | next c h =>
              dsimp only
              split
              · exact .same ⟨rfl, h.succ⟩
              · refine (ih h (by omega) (by omega)).bind_kept ?_
                rintro ⟨digits, a⟩ ⟨_, b⟩ ⟨rfl, h⟩
                exact .same ⟨rfl, h.succ⟩

/-- Braces are read with room for all that is left. -/
theorem keeps_braced (h : Follows marked n m a b) :
    Keeps marked n m (readBraced mode (a.length + 1) a) (readBraced mode (b.length + 1) b) := by
  obtain ⟨htight, hn, hm⟩ := h.tight
  exact (keeps_readBraced htight (Nat.lt_succ_self _) (Nat.lt_succ_self _)).widen hn hm

theorem keeps_readHex (h : Follows marked n m a b) {count : Nat} (hcount : count ≠ 0) :
    Keeps marked n m (readHex mode count a) (readHex mode count b) := by
  replace h := h.skip mode
  rw [readHex, readHex]
  generalize mode.skip a = a, mode.skip b = b at h
  cases h with
  | done => exact .fault
  | mark h =>
      -- a parenthesis is no digit
      obtain ⟨count, rfl⟩ := Nat.exists_eq_succ_of_ne_zero hcount
      exact .fault
  | next c h =>
      by_cases hc : c = '{'
      · subst hc
        refine (keeps_braced h).bind_kept ?_
        rintro ⟨digits, a⟩ ⟨_, b⟩ ⟨rfl, h⟩
        dsimp only
        split
        · exact .fault
        · exact .bind_same _ fun c => .same ⟨rfl, (h.skip mode).succ⟩
      · simp only [List.cons.injEq, hc, false_and, imp_false, not_false_eq_true, implies_true]
        refine (keeps_readHexDigits (h.next c) count 0).bind_kept ?_
        rintro ⟨value, a⟩ ⟨_, b⟩ ⟨rfl, h⟩
        dsimp only
        split
        · exact .fault
        · exact .bind_same _ fun c => .same ⟨rfl, h⟩

theorem takes_readPropertyName (h : Follows marked n m a b) :
    Takes marked n m (readPropertyName mode a) (readPropertyName mode b) := by
  replace h := h.skip mode
  rw [readPropertyName, readPropertyName]
  generalize mode.skip a = a, mode.skip b = b at h
  cases h with
  | done => exact .fault
  | mark h => exact .spent (Mode.skip_nil mode)
  | next c h =>
      by_cases hbrace : c = '{'
      · subst hbrace
        exact (keeps_braced h).takes.mono (fun _ _ h => h.succ) fun _ => id
      · by_cases hslash : c = '\\'
        · subst hslash
          exact .fault
        · simp only []
          exact .same ⟨rfl, (h.skip mode).succ⟩

theorem takes_readProperty (h : Follows marked n m a b) (negated : Bool) :
    Takes marked n m (readProperty mode negated a) (readProperty mode negated b) := by
  refine (takes_readPropertyName h).bind ?_ ?_
  · rintro ⟨name, a⟩ ⟨_, b⟩ ⟨rfl, h⟩
    exact .bind_same _ fun set => .same ⟨rfl, h⟩
  · rintro ⟨name, _⟩ fault rfl
    exact .of_error fun set _ => .spent rfl

theorem boundaryLetters_follows (mode : Mode) {fuel fuel' : Nat} (h : Follows marked n m a b)
    (hn : n ≤ fuel) (hm : m ≤ fuel') :
    (boundaryLetters mode fuel a).1 = (boundaryLetters mode fuel' b).1 ∧
      Follows marked n m (boundaryLetters mode fuel a).2 (boundaryLetters mode fuel' b).2 := by
  induction fuel generalizing fuel' n m a b with
  | zero =>
      cases h with
      | done => cases fuel' <;> exact ⟨rfl, .done⟩
      | mark h => cases fuel' <;> exact ⟨rfl, .mark h⟩
      | next c h => omega
  | succ fuel ih =>
      cases h with
      | done => cases fuel' <;> exact ⟨rfl, .done⟩
      | mark h => cases fuel' <;> exact ⟨rfl, .mark h⟩
      | next c h =>
          cases fuel' with
          | zero => omega
          | succ fuel' =>
              rw [boundaryLetters, boundaryLetters]
              dsimp only
              split
              · obtain ⟨hletters, hrest⟩ := ih (h.skip mode) (Nat.le_of_succ_le_succ hn)
                  (Nat.le_of_succ_le_succ hm)
                exact ⟨congrArg (c :: ·) hletters, hrest.succ⟩
              · exact ⟨rfl, h.next c⟩

/-- The plain word boundary in front of a brace and nothing but the parenthesis: no repetition begins
so. -/
def Stuck (mode : Mode) (x : Assertion × List Char) : Prop :=
  ∃ more, x.2 = '{' :: more ∧ mode.skip more = [')']

theorem keeps_closeBoundary (h : Follows marked n m a b) (letters : List Char) :
    Keeps marked n m (closeBoundary mode letters a) (closeBoundary mode letters b) := by
  cases h with
  | done => exact .fault
  | mark h => exact .fault
  | next c h =>
      by_cases hc : c = '}'
      · subst hc
        exact .bind_same _ fun assertion => .same ⟨rfl, h.succ⟩
      · have hfault : ∀ rest, closeBoundary mode letters (c :: rest) = .error .boundaryUnclosed := by
          simp [closeBoundary, hc]
        rw [hfault, hfault]
        exact .fault

theorem carries_readBoundary (h : Follows marked n m a b) :
    Carries (Alike marked n m) (Stuck mode) (readBoundary mode a) (readBoundary mode b) := by
  cases h with
  | done => exact .same ⟨rfl, .done⟩
  | mark h => exact .same ⟨rfl, .mark h⟩
  | @next n m a b c h =>
      by_cases hc : c = '{'
      · subst hc
        have hskip := h.skip mode
        simp only [readBoundary]
        generalize hsa : mode.skip a = s, hsb : mode.skip b = t at hskip
        cases hskip with
        | done => exact .fault
        | mark _ => exact .spent ⟨b, rfl, hsb⟩
        | @next k l s t d hskip =>
            dsimp only
            split
            · obtain ⟨htight, hn, hm⟩ := (hskip.next d).tight
              obtain ⟨hletters, hrest⟩ := boundaryLetters_follows mode htight (Nat.le_refl _)
                (Nat.le_refl _)
              rw [List.length_cons, List.length_cons] at hletters hrest
              rw [hletters]
              exact (keeps_closeBoundary (hrest.mono hn hm).succ _).mono (fun _ _ => id)
                fun _ => False.elim
            · exact .same ⟨rfl, h.next _⟩
      · have hplain : ∀ rest, readBoundary mode (c :: rest) =
            .ok (.wordBoundary mode.word, c :: rest) := by simp [readBoundary, hc]
        rw [hplain, hplain]
        exact .same ⟨rfl, h.next c⟩

/-- What an escape may leave that has taken the parenthesis. -/
def EscapeSpent (mode : Mode) (x : Escape × List Char) : Prop :=
  x.2 = [] ∨ ∃ a more, x.1 = .assertion a ∧ x.2 = '{' :: more ∧ mode.skip more = [')']

theorem carries_readEscape (h : Follows marked n m a b) :
    Carries (Alike marked n m) (EscapeSpent mode) (readEscape mode a) (readEscape mode b) := by
  cases h with
  | done => exact .fault
  | mark h => exact .spent (.inl rfl)
  | @next n m a b c h =>
      have hplain : ∀ e : Escape, Carries (Alike marked (n + 1) (m + 1)) (EscapeSpent mode)
          (.ok (e, a)) (.ok (e, b)) := fun e => .same ⟨rfl, h.succ⟩
      rw [readEscape, readEscape]
      refine .ite (fun _ => .fault) fun _ => .ite (fun _ => ?hex) fun _ => .ite (fun _ => ?property)
        fun _ => .ite (fun _ => .bind_same _ fun _ => hplain _) fun _ => .ite (fun _ => hplain _)
        fun _ => .ite (fun _ => hplain _) fun _ => .ite (fun _ => hplain _)
        fun _ => .ite (fun _ => hplain _) fun _ => .ite (fun _ => hplain _)
        fun _ => .ite (fun _ => hplain _) fun _ => .ite (fun _ => ?boundary) fun _ => ?control
      case hex =>
        have hcount : (if c = 'x' then 2 else if c = 'u' then 4 else 8) ≠ 0 := by
          split_ifs <;> decide
        refine (keeps_readHex h hcount).bind_kept ?_
        rintro ⟨d, a⟩ ⟨_, b⟩ ⟨rfl, h⟩
        exact .same ⟨rfl, h.succ⟩
      case property =>
        refine (takes_readProperty h _).bind ?_ ?_
        · rintro ⟨set, a⟩ ⟨_, b⟩ ⟨rfl, h⟩
          exact .same ⟨rfl, h.succ⟩
        · rintro ⟨set, _⟩ fault rfl
          exact .spent (.inl rfl)
      case boundary =>
        refine (carries_readBoundary h).bind ?_ ?_
        · rintro ⟨assertion, a⟩ ⟨_, b⟩ ⟨rfl, h⟩
          exact .same ⟨rfl, h.succ⟩
        · rintro ⟨assertion, _⟩ fault ⟨more, rfl, hskip⟩
          exact .spent (.inr ⟨assertion, more, rfl, rfl, hskip⟩)
      case control =>
        split
        · exact hplain _
        · exact .fault

/-! ### Sets in brackets -/

/-- A character or an escape that begins with `c`: what is left is behind `c`. -/
theorem carries_readSetAtom_cons (h : Follows marked n m a b) (c : Char) :
    Carries (Alike marked n m) (EscapeSpent mode) (readSetAtom mode (c :: a))
      (readSetAtom mode (c :: b)) := by
  by_cases hc : c = '\\'
  · subst hc
    exact carries_readEscape h
  · have hplain : ∀ rest, readSetAtom mode (c :: rest) = .ok (.char c, rest) := by
      simp [readSetAtom]
    rw [hplain, hplain]
    exact .same ⟨rfl, h⟩

theorem carries_readSetAtom (h : Follows marked n m a b) :
    Carries (Alike marked n m) (EscapeSpent mode) (readSetAtom mode a) (readSetAtom mode b) := by
  cases h with
  | done => exact .fault
  | mark h => exact .spent (.inl rfl)
  | next c h => exact (carries_readSetAtom_cons h c).mono (fun _ _ h => h.succ) fun _ => id

/-- At most the parenthesis is left, so that a set is not closed. -/
def Unclosed {α : Type} (x : α × List Char) : Prop := x.2 = [] ∨ x.2 = [')']

theorem Mode.skip_brace (mode : Mode) (rest : List Char) :
    mode.skip ('{' :: rest) = '{' :: rest := by
  rw [Mode.skip]
  split <;> rfl

theorem carries_readRange (h : Follows marked n m a b) (first : Escape) :
    Carries (Alike marked n m) Unclosed (readRange mode first a) (readRange mode first b) := by
  refine (carries_readSetAtom h).bind ?_ ?_
  · rintro ⟨last, a⟩ ⟨_, b⟩ ⟨rfl, h⟩
    refine .bind_same _ fun lo => .bind_same _ fun hi => .ite (fun _ => ?_) fun _ => .fault
    exact .same ⟨rfl, h⟩
  · rintro ⟨last, _⟩ fault (rfl | ⟨a, more, rfl, -, -⟩)
    · refine .of_error fun lo _ => .of_error fun hi _ => ?_
      split
      · exact .spent (.inl rfl)
      · exact .fault
    · -- a condition is no end of a range
      exact .of_error fun lo _ => .fault

theorem carries_readItemEnd (h : Follows marked n m a b) (first : Escape) :
    Carries (Alike marked n m) Unclosed (readItemEnd mode first a) (readItemEnd mode first b) := by
  cases h with
  | done => exact .fault
  | mark h => exact .of_error fun set _ => .spent (.inr rfl)
  | @next n m a b c h =>
      by_cases hc : c = '-'
      · subst hc
        rw [readItemEnd, readItemEnd]
        have hpeek : (mode.peek a = some ']' ∨ mode.peek a = some '-') ↔
            (mode.peek b = some ']' ∨ mode.peek b = some '-') :=
          or_congr (h.peek_eq_some mode (by decide)) (h.peek_eq_some mode (by decide))
        refine .ite_congr hpeek (fun _ => .bind_same _ fun set => .same ⟨rfl, h.next _⟩) fun _ => ?_
        exact carries_readRange (h.skip mode).succ first
      · have hitem : ∀ rest, readItemEnd mode first (c :: rest) =
            atomSet mode first >>= fun set => .ok (set, c :: rest) := by simp [readItemEnd, hc]
        rw [hitem, hitem]
        exact .bind_same _ fun set => .same ⟨rfl, h.next c⟩

theorem carries_readSetRange (h : Follows marked n m a b) (c : Char) :
    Carries (Alike marked n m) Unclosed (readSetRange mode (c :: a))
      (readSetRange mode (c :: b)) := by
  refine (carries_readSetAtom_cons h c).bind ?_ ?_
  · rintro ⟨first, a⟩ ⟨_, b⟩ ⟨rfl, h⟩
    exact carries_readItemEnd (h.skip mode) first
  · rintro ⟨first, _⟩ fault (rfl | ⟨a, more, rfl, rfl, -⟩)
    · dsimp only
      rw [Mode.skip_nil]
      exact .fault
    · -- nor is it an item
      dsimp only
      rw [Mode.skip_brace]
      exact .fault

theorem readNegation_follows (h : Follows marked n m a b) :
    (readNegation a).1 = (readNegation b).1 ∧
      Follows marked n m (readNegation a).2 (readNegation b).2 := by
  cases h with
  | done => exact ⟨rfl, .done⟩
  | mark h => exact ⟨rfl, .mark h⟩
  | next c h =>
      by_cases hc : c = '^'
      · subst hc
        exact ⟨rfl, h.succ⟩
      · have hplain : ∀ rest, readNegation (c :: rest) = (false, c :: rest) := by
          simp [readNegation, hc]
        rw [hplain, hplain]
        exact ⟨rfl, h.next c⟩

theorem closeAscii?_follows (h : Follows marked n m a b) (negated : Bool) (name : List Char) :
    Option.Rel (Agree marked n m) (closeAscii? negated name a)
      (closeAscii? negated name b) := by
  cases h with
  | done => exact .none
  | mark h => exact .none
  | next c h =>
      by_cases hc : c = ':'
      · subst hc
        cases h with
        | done => exact .none
        | mark h => exact .none
        | next d h =>
            by_cases hd : d = ']'
            · subst hd
              have hset : ∀ rest, closeAscii? negated name (':' :: ']' :: rest) =
                  (CharSet.ascii? (String.ofList name)).map fun set => (negated, set, rest) :=
                fun _ => rfl
              rw [hset, hset]
              cases CharSet.ascii? (String.ofList name) with
              | none => exact .none
              | some set => exact .some ⟨rfl, rfl, h.succ.succ⟩
            · have hnone : ∀ rest, closeAscii? negated name (':' :: d :: rest) = none := by
                simp [closeAscii?, hd]
              rw [hnone, hnone]
              exact .none
      · have hnone : ∀ rest, closeAscii? negated name (c :: rest) = none := by
          simp [closeAscii?, hc]
        rw [hnone, hnone]
        exact .none

/-- Up to a character that is no parenthesis, or not at all. -/
theorem Follows.span {p : Char → Bool} (hp : p ')' = true) (h : Follows marked n m a b) :
    (a.takeWhile p = b.takeWhile p ∧ Follows marked n m (a.dropWhile p) (b.dropWhile p)) ∨
      (a.dropWhile p = [] ∧ b.dropWhile p = []) := by
  induction h with
  | done => exact .inr ⟨rfl, rfl⟩
  | mark h => exact .inr ⟨rfl, by simp [hp]⟩
  | next c h ih =>
      by_cases hc : p c = true
      · rcases ih with ⟨htake, hdrop⟩ | ⟨ha, hb⟩
        · left
          simp only [List.takeWhile_cons_of_pos hc, List.dropWhile_cons_of_pos hc]
          exact ⟨congrArg (c :: ·) htake, hdrop.succ⟩
        · right
          simp only [List.dropWhile_cons_of_pos hc]
          exact ⟨ha, hb⟩
      · left
        simp only [List.takeWhile_cons_of_neg hc, List.dropWhile_cons_of_neg hc]
        exact ⟨trivial, h.next c⟩

theorem asciiItem?_follows (h : Follows marked n m a b) :
    Option.Rel (Agree marked n m) (asciiItem? a) (asciiItem? b) := by
  cases h with
  | done => exact .none
  | mark h => exact .none
  | next c h =>
      by_cases hc : c = ':'
      · subst hc
        obtain ⟨hnegated, hrest⟩ := readNegation_follows h
        rw [asciiItem?, asciiItem?]
        dsimp only
        rw [hnegated, List.span_eq_takeWhile_dropWhile, List.span_eq_takeWhile_dropWhile]
        rcases hrest.span (p := (· ≠ ':')) rfl with ⟨hname, hrest⟩ | ⟨ha, hb⟩
        · rw [hname]
          exact closeAscii?_follows hrest.succ _ _
        · rw [ha, hb]
          exact .none
      · have hnone : ∀ rest, asciiItem? (c :: rest) = none := by simp [asciiItem?, hc]
        rw [hnone, hnone]
        exact .none

theorem carries_leadingHyphens {fuel fuel' : Nat} (h : Follows marked n m a b) (hn : n < fuel)
    (hm : m < fuel') (items : List SetPart) :
    Carries (Alike marked n m) Unclosed (leadingHyphens mode items fuel a)
      (leadingHyphens mode items fuel' b) := by
  induction fuel generalizing fuel' n m a b items with
  | zero => omega
  | succ fuel ih =>
      cases fuel' with
      | zero => omega
      | succ fuel' =>
          replace h := h.skip mode
          rw [leadingHyphens, leadingHyphens]
          generalize mode.skip a = a, mode.skip b = b at h
          cases h with
          | done => exact .fault
          | mark h => exact .spent (.inr rfl)
          | next c h =>
              by_cases hc : c = '-'
              · subst hc
                exact (ih h (by omega) (by omega) _).mono (fun _ _ h => h.succ) fun _ => id
              · simp only [List.cons.injEq, hc, false_and, imp_false, not_false_eq_true, implies_true]
                exact .same ⟨rfl, h.next c⟩

theorem carries_leadingBracket (h : Follows marked n m a b) (items : List SetPart) :
    Carries (Alike marked n m) Unclosed (leadingBracket mode items a)
      (leadingBracket mode items b) := by
  cases items with
  | cons item items => exact .same ⟨rfl, h⟩
  | nil =>
      cases h with
      | done => exact .same ⟨rfl, .done⟩
      | mark h => exact .same ⟨rfl, .mark h⟩
      | @next n m a b c h =>
          by_cases hc : c = ']'
          · subst hc
            replace h := h.skip mode
            rw [leadingBracket, leadingBracket]
            generalize mode.skip a = a, mode.skip b = b at h
            cases h with
            | done => exact .fault
            | mark h => exact .spent (.inr rfl)
            | next c h => exact .same ⟨rfl, (h.next c).succ⟩
          · have hplain : ∀ rest, leadingBracket mode [] (c :: rest) = .ok ([], c :: rest) := by
              simp [leadingBracket, hc]
            rw [hplain, hplain]
            exact .same ⟨rfl, h.next c⟩

theorem leadingBracket_of_unclosed {x : List SetPart × List Char} (h : Unclosed x) :
    leadingBracket mode x.1 x.2 = .ok x := by
  obtain ⟨items, _⟩ := x
  obtain rfl | rfl := h
  · cases items <;> rfl
  · cases items <;> rfl

theorem carries_openSet (h : Follows marked n m a b) :
    Carries (Agree marked n m) (fun y => Unclosed y.2)
      (openSet mode a) (openSet mode b) := by
  obtain ⟨hnegated, hrest⟩ := readNegation_follows (h.skip mode)
  rw [openSet, openSet]
  dsimp only
  rw [hnegated]
  generalize (readNegation (mode.skip a)).2 = a, (readNegation (mode.skip b)).2 = b at hrest
  obtain ⟨htight, hn, hm⟩ := hrest.tight
  refine (carries_leadingHyphens htight (Nat.lt_succ_self _) (Nat.lt_succ_self _) []).bind ?_ ?_
  · rintro ⟨items, a⟩ ⟨_, b⟩ ⟨rfl, h⟩
    refine (carries_leadingBracket (h.mono hn hm) items).bind ?_ ?_
    · rintro ⟨items, a⟩ ⟨_, b⟩ ⟨rfl, h⟩
      exact .same ⟨rfl, rfl, h⟩
    · rintro ⟨items, rest⟩ fault h
      exact .spent h
  · rintro x fault h
    rw [leadingBracket_of_unclosed h]
    exact .spent h

theorem operator?_follows (h : Follows marked n m a b) (c : Char) :
    Option.Rel (Alike marked n m) (operator? (c :: a)) (operator? (c :: b)) := by
  cases h with
  | done => exact .none
  | mark h =>
      have hnone : operator? [c, ')'] = none := by
        rw [operator?]
        split
        · next hc =>
            rw [hc]
            rfl
        · rfl
      rw [hnone]
      exact .none
  | next d h =>
      rw [operator?, operator?]
      split
      · cases SetOperation.ofSign? c with
        | none => exact .none
        | some op => exact .some ⟨rfl, h.succ⟩
      · exact .none

/-- A parenthesis is an item of a set that is not closed behind it. -/
theorem readSetRange_paren : readSetRange mode [')'] = .error .setUnclosed := by
  change readItemEnd mode (.char ')') (mode.skip []) = .error .setUnclosed
  rw [Mode.skip_nil, readItemEnd]

/-- At the end of the text no set is closed. -/
theorem readSetItems_of_unclosed {rest : List Char} (h : rest = [] ∨ rest = [')']) (fuel : Nat)
    (negated : Bool) (left : Option (SetOperation × SetPart)) (items : List SetPart) :
    readSetItems mode fuel negated left items rest = .error .setUnclosed := by
  cases fuel with
  | zero => rfl
  | succ fuel =>
      rcases h with rfl | rfl
      · rw [readSetItems, Mode.skip_nil]
      · have hskip : mode.skip [')'] = [')'] := by
          rw [Mode.skip]
          split <;> rfl
        rw [readSetItems, hskip]
        change (readSetRange mode [')'] >>= fun x => _) = _
        rw [readSetRange_paren]
        rfl

theorem keeps_readSetItems {fuel fuel' : Nat} (h : Follows marked n m a b) (hn : n < fuel)
    (hm : m < fuel') (negated : Bool) (left : Option (SetOperation × SetPart))
    (items : List SetPart) :
    Keeps marked n m (readSetItems mode fuel negated left items a)
      (readSetItems mode fuel' negated left items b) := by
  induction fuel generalizing fuel' n m a b negated left items with
  | zero => omega
  | succ fuel ih =>
      cases fuel' with
      | zero => omega
      | succ fuel' =>
          replace h := h.skip mode
          rw [readSetItems, readSetItems]
          generalize mode.skip a = a, mode.skip b = b at h
          cases h with
          | done => exact .fault
          | mark h =>
              change Keeps _ _ _ (.error .setUnclosed) (readSetRange mode [')'] >>= fun x => _)
              rw [readSetRange_paren]
              exact .fault
          | @next n m a b c h =>
              -- what follows is read with less fuel, and there is less text
              have hbehind : ∀ {a b : List Char}, Follows marked n m a b →
                  ∀ negated left items, Keeps marked n m
                    (readSetItems mode fuel negated left items a)
                    (readSetItems mode fuel' negated left items b) :=
                fun h => ih h (Nat.lt_of_succ_lt_succ hn) (Nat.lt_of_succ_lt_succ hm)
              by_cases hopen : c = '['
              · subst hopen
                refine Keeps.widen ?_ (Nat.le_succ n) (Nat.le_succ m)
                simp only []
                have hascii := asciiItem?_follows h
                generalize asciiItem? a = x, asciiItem? b = y at hascii
                cases hascii with
                | none =>
                    refine (carries_openSet h).bind ?_ ?_
                    · rintro ⟨inner, items', a⟩ ⟨_, _, b⟩ ⟨rfl, rfl, h⟩
                      refine (hbehind h inner none items').bind_kept ?_
                      rintro ⟨part, a⟩ ⟨_, b⟩ ⟨rfl, h⟩
                      exact hbehind h _ _ _
                    · rintro ⟨inner, items', rest⟩ fault hrest
                      dsimp only
                      rw [readSetItems_of_unclosed hrest]
                      exact .fault
                | @some x y h =>
                    obtain ⟨without, set, a⟩ := x
                    obtain ⟨_, _, b⟩ := y
                    obtain ⟨rfl, rfl, h⟩ := h
                    exact .bind_same _ fun set => hbehind h _ _ _
              · by_cases hclose : c = ']'
                · subst hclose
                  exact .bind_same _ fun set => .same ⟨rfl, h.succ⟩
                · simp only [List.cons.injEq, hopen, hclose, false_and, imp_false, not_false_eq_true,
                    implies_true]
                  refine Keeps.widen ?_ (Nat.le_succ n) (Nat.le_succ m)
                  have hoperator := operator?_follows h c
                  generalize operator? (c :: a) = x, operator? (c :: b) = y at hoperator
                  cases hoperator with
                  | none =>
                      refine (carries_readSetRange h c).bind ?_ ?_
                      · rintro ⟨set, a⟩ ⟨_, b⟩ ⟨rfl, h⟩
                        exact hbehind h _ _ _
                      · rintro ⟨set, rest⟩ fault hrest
                        dsimp only
                        rw [readSetItems_of_unclosed hrest]
                        exact .fault
                  | @some x y h =>
                      obtain ⟨op, a⟩ := x
                      obtain ⟨_, b⟩ := y
                      obtain ⟨rfl, h⟩ := h
                      exact hbehind h _ _ _

/-- A set is read with room for all that is left. -/
theorem keeps_setItems (h : Follows marked n m a b) (negated : Bool) (items : List SetPart) :
    Keeps marked n m (readSetItems mode (a.length + 1) negated none items a)
      (readSetItems mode (b.length + 1) negated none items b) := by
  obtain ⟨htight, hn, hm⟩ := h.tight
  exact (keeps_readSetItems htight (Nat.lt_succ_self _) (Nat.lt_succ_self _) negated none
    items).widen hn hm

/-! ### Counts -/

theorem countDigits_follows (mode : Mode) {fuel fuel' : Nat} (h : Follows marked n m a b)
    (hn : n < fuel) (hm : m < fuel') :
    (countDigits mode fuel a).1 = (countDigits mode fuel' b).1 ∧
      Follows marked n m (countDigits mode fuel a).2 (countDigits mode fuel' b).2 := by
  induction fuel generalizing fuel' n m a b with
  | zero => omega
  | succ fuel ih =>
      cases fuel' with
      | zero => omega
      | succ fuel' =>
          cases h with
          | done => exact ⟨rfl, .done⟩
          | mark h => exact ⟨rfl, .mark h⟩
          | next c h =>
              rw [countDigits, countDigits]
              dsimp only
              split
              · obtain ⟨hdigits, hrest⟩ := ih (h.skip mode) (Nat.lt_of_succ_lt_succ hn)
                  (Nat.lt_of_succ_lt_succ hm)
                exact ⟨congrArg (c :: ·) hdigits, hrest.succ⟩
              · exact ⟨rfl, h.next c⟩

theorem keeps_readCount (h : Follows marked n m a b) :
    Keeps marked n m (readCount mode a) (readCount mode b) := by
  have hblank : Text.isBlank ')' = false := by decide
  obtain ⟨htight, hn, hm⟩ := h.tight
  obtain ⟨hdigits, hrest⟩ := countDigits_follows mode (htight.dropWhile hblank)
    (Nat.lt_succ_self _) (Nat.lt_succ_self _)
  rw [readCount, readCount]
  generalize countDigits mode (a.length + 1) _ = x, countDigits mode (b.length + 1) _ = y
    at hdigits hrest
  obtain ⟨digits, a'⟩ := x
  obtain ⟨_, b'⟩ := y
  dsimp only at hdigits hrest
  subst hdigits
  cases digits with
  | nil => exact .fault
  | cons d digits =>
      exact .ite (fun _ => .same ⟨rfl, (hrest.dropWhile hblank).mono hn hm⟩) fun _ => .fault

theorem keeps_readMost (h : Follows marked n m a b) (least : Nat) :
    Keeps marked n m (readMost mode least a) (readMost mode least b) := by
  cases h with
  | done => exact .same ⟨rfl, .done⟩
  | mark h => exact .same ⟨rfl, .mark h⟩
  | @next n m a b c h =>
      by_cases hcomma : c = ','
      · subst hcomma
        replace h := h.skip mode
        rw [readMost, readMost]
        generalize mode.skip a = a, mode.skip b = b at h
        cases h with
        | done => exact .fault
        | mark h => exact .fault
        | next d h =>
            by_cases hbrace : d = '}'
            · subst hbrace
              exact .same ⟨rfl, (h.next _).succ⟩
            · simp only [List.cons.injEq, hbrace, false_and, imp_false, not_false_eq_true,
                implies_true]
              refine (keeps_readCount (h.next d)).bind_kept ?_
              rintro ⟨most, a⟩ ⟨_, b⟩ ⟨rfl, h⟩
              exact .same ⟨rfl, h.succ⟩
      · have hplain : ∀ rest, readMost mode least (c :: rest) = .ok (some least, c :: rest) := by
          simp [readMost, hcomma]
        rw [hplain, hplain]
        exact .same ⟨rfl, h.next c⟩

theorem skipReluctance_follows (h : Follows marked n m a b) :
    Follows marked n m (skipReluctance a) (skipReluctance b) := by
  cases h with
  | done => exact .done
  | mark h => exact .mark h
  | next c h =>
      by_cases hc : c = '?'
      · subst hc
        exact h.succ
      · have hplain : ∀ rest, skipReluctance (c :: rest) = c :: rest := by
          simp [skipReluctance, hc]
        rw [hplain, hplain]
        exact h.next c

theorem closeCounts_follows (h : Follows marked n m a b) (least : Nat) (most : Option Nat) :
    Carries (Follows marked n m) (fun _ => False) (closeCounts mode least most a)
      (closeCounts mode least most b) := by
  cases h with
  | done => exact .fault
  | mark h => exact .fault
  | next c h =>
      by_cases hc : c = '}'
      · subst hc
        exact .ite (fun _ => .fault) fun _ => .same (skipReluctance_follows (h.skip mode)).succ
      · have hfault : ∀ rest, closeCounts mode least most (c :: rest) = .error .countUnclosed := by
          simp [closeCounts, hc]
        rw [hfault, hfault]
        exact .fault

theorem carries_readCounts (h : Follows marked n m a b) :
    Carries (Agree marked n m) (fun _ => False)
      (readCounts mode a) (readCounts mode b) := by
  refine (keeps_readCount (h.skip mode)).bind_kept ?_
  rintro ⟨least, a⟩ ⟨_, b⟩ ⟨rfl, h⟩
  refine (keeps_readMost h least).bind_kept ?_
  rintro ⟨most, a⟩ ⟨_, b⟩ ⟨rfl, h⟩
  refine (closeCounts_follows h least most).bind_kept ?_
  exact fun a b h => .same ⟨rfl, rfl, h⟩

end Pattern

end Conform
