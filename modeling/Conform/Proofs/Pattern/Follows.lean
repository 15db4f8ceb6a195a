/-
**Reading with a parenthesis behind.**

A text that is put into a group has a closing parenthesis behind it.  This module says what it means
that readers read a text with the parenthesis as they read it without: they yield the same and leave
the same, with the parenthesis behind what is left.

There are two obstructions.  A comment that reaches to the end takes the parenthesis, so that nothing
is left in either case.  And where the text ends too early, the parenthesis may be taken for what is
missing, as in an escape; then there was a fault without it, and nothing is left with it.  The
relation between results has a case for each.

The relation is stated with a switch: without the parenthesis it says that the two texts are the
same.  What is proved of readers then says that their fuel does not matter, as long as there is more
of it than text.

Main definitions:

* `Pattern.Follows` — a text, and the same with a parenthesis behind;
* `Pattern.Carries` — how a result changes by the parenthesis;
* `Pattern.Keeps`, `Pattern.Takes` — readers that never take it, and such that end with it.

Main results:

* `Pattern.Follows.skip` — blanks and comments are skipped in the same way;
* `Pattern.Carries.bind` — a reader behind another.
-/

import Conform.Pattern.Reader
import Mathlib

set_option relaxedAutoImplicit false
set_option autoImplicit false

namespace Conform

namespace Pattern

/-! ### Texts with a parenthesis behind -/

/-- The second text is the first one, if `marked` perhaps with a closing parenthesis behind it.  They
have at most `n` and `m` characters. -/
inductive Follows (marked : Bool) : Nat → Nat → List Char → List Char → Prop
  /-- the texts end together: there was no parenthesis, or a comment has taken it -/
  | done {n m : Nat} : Follows marked n m [] []
  /-- only the parenthesis is left -/
  | mark {n m : Nat} (h : marked = true) : Follows marked n (m + 1) [] [')']
  | next {n m : Nat} {a b : List Char} (c : Char) (h : Follows marked n m a b) :
      Follows marked (n + 1) (m + 1) (c :: a) (c :: b)

namespace Follows

variable {marked : Bool} {n m n' m' : Nat} {a b : List Char}

theorem mono (h : Follows marked n m a b) (hn : n ≤ n') (hm : m ≤ m') :
    Follows marked n' m' a b := by
  induction h generalizing n' m' with
  | done => exact .done
  | mark h =>
      obtain ⟨m', rfl⟩ : ∃ k, m' = k + 1 := ⟨m' - 1, by omega⟩
      exact .mark h
  | next c h ih =>
      obtain ⟨n', rfl⟩ : ∃ k, n' = k + 1 := ⟨n' - 1, by omega⟩
      obtain ⟨m', rfl⟩ : ∃ k, m' = k + 1 := ⟨m' - 1, by omega⟩
      exact .next c (ih (by omega) (by omega))

theorem succ (h : Follows marked n m a b) : Follows marked (n + 1) (m + 1) a b :=
  h.mono (Nat.le_succ n) (Nat.le_succ m)

/-- The lengths are bounds themselves. -/
theorem tight (h : Follows marked n m a b) :
    Follows marked a.length b.length a b ∧ a.length ≤ n ∧ b.length ≤ m := by
  induction h with
  | done => exact ⟨.done, Nat.zero_le _, Nat.zero_le _⟩
  | mark h => exact ⟨.mark h, Nat.zero_le _, Nat.succ_le_succ (Nat.zero_le _)⟩
  | next c h ih => exact ⟨.next c ih.1, Nat.succ_le_succ ih.2.1, Nat.succ_le_succ ih.2.2⟩

theorem refl (a : List Char) : Follows false a.length a.length a a := by
  induction a with
  | nil => exact .done
  | cons c a ih => exact .next c ih

theorem append (a : List Char) : Follows true a.length (a.length + 1) a (a ++ [')']) := by
  induction a with
  | nil => exact .mark rfl
  | cons c a ih => exact .next c ih

theorem eq_of_unmarked (h : Follows false n m a b) : a = b := by
  induction h with
  | done => rfl
  | mark h => cases h
  | next c h ih => rw [ih]

theorem eq_nil_or_mark (h : Follows marked n m [] b) : b = [] ∨ b = [')'] := by
  cases h with
  | done => exact .inl rfl
  | mark => exact .inr rfl

/-- Leaving out characters that are no parentheses keeps the parenthesis in place. -/
theorem dropWhile {p : Char → Bool} (hp : p ')' = false) (h : Follows marked n m a b) :
    Follows marked n m (a.dropWhile p) (b.dropWhile p) := by
  induction h with
  | done => exact .done
  | mark h =>
      rw [List.dropWhile_cons_of_neg (by simp [hp])]
      exact .mark h
  | next c h ih =>
      rw [List.dropWhile_cons, List.dropWhile_cons]
      split
      · exact ih.succ
      · exact .next c h

theorem head?_eq_some {c : Char} (hc : c ≠ ')') (h : Follows marked n m a b) :
    a.head? = some c ↔ b.head? = some c := by
  cases h with
  | done => rfl
  | mark h => simp [hc.symm]
  | next d h => rfl

theorem tail (h : Follows marked n m a b) : Follows marked n m a.tail b.tail := by
  cases h with
  | done => exact .done
  | mark h => exact .done
  | next c h => exact h.succ

/-- Only a comment that nothing ends takes the parenthesis. -/
theorem skipComments (h : Follows marked n m a b) (inComment : Bool) :
    Follows marked n m (skipComments inComment a) (skipComments inComment b) := by
  induction h generalizing inComment with
  | done => exact .done
  | mark h =>
      cases inComment with
      | true => exact .done
      | false => exact .mark h
  | next c h ih =>
      rw [Pattern.skipComments, Pattern.skipComments]
      split
      · exact (ih _).succ
      · split
        · exact (ih _).succ
        · split
          · exact (ih _).succ
          · exact .next c h

theorem skip (h : Follows marked n m a b) (mode : Mode) :
    Follows marked n m (mode.skip a) (mode.skip b) := by
  rw [Mode.skip, Mode.skip]
  split
  · exact h.skipComments false
  · exact h

/-- The parenthesis does not decide what a hyphen means. -/
theorem peek_eq_some (h : Follows marked n m a b) (mode : Mode) {c : Char} (hc : c ≠ ')') :
    mode.peek a = some c ↔ mode.peek b = some c := by
  have hblank : Text.isBlank ')' = false := by decide
  rw [Mode.peek, Mode.peek]
  split
  · have hdrop := h.dropWhile hblank
    generalize a.dropWhile Text.isBlank = a at hdrop
    generalize b.dropWhile Text.isBlank = b at hdrop
    cases hdrop with
    | done => rfl
    | mark h => simp [hc.symm]
    | next d hdrop =>
        by_cases hd : d = '#'
        · subst hd
          exact (hdrop.dropWhile hblank).head?_eq_some hc
        · simp [hd]
  · exact h.head?_eq_some hc

end Follows

/-! ### Readers -/

/-- How a reader's result changes by the parenthesis: to one that is alike, or from a fault to what
has taken the parenthesis, or from a fault to a fault. -/
inductive Carries {α : Type} (Same : α → α → Prop) (Spent : α → Prop) :
    Except PatternFault α → Except PatternFault α → Prop
  | same {x y : α} (h : Same x y) : Carries Same Spent (.ok x) (.ok y)
  | spent {fault : PatternFault} {y : α} (h : Spent y) : Carries Same Spent (.error fault) (.ok y)
  | fault {fault fault' : PatternFault} : Carries Same Spent (.error fault) (.error fault')

namespace Carries

variable {α β : Type} {Same Same₂ : α → α → Prop} {Spent Spent₂ : α → Prop}
variable {SameB : β → β → Prop} {SpentB : β → Prop}
variable {r r' : Except PatternFault α}

theorem mono (h : Carries Same Spent r r') (hsame : ∀ x y, Same x y → Same₂ x y)
    (hspent : ∀ y, Spent y → Spent₂ y) : Carries Same₂ Spent₂ r r' := by
  cases h with
  | same h => exact .same (hsame _ _ h)
  | spent h => exact .spent (hspent _ h)
  | fault => exact .fault

theorem exists_of_ok {x : α} (h : Carries Same Spent (.ok x) r') : ∃ y, r' = .ok y ∧ Same x y := by
  cases h with
  | same h => exact ⟨_, rfl, h⟩

theorem spent_of_error {fault : PatternFault} (h : Carries Same Spent (.error fault) r') {y : α}
    (hr : r' = .ok y) : Spent y := by
  subst hr
  cases h with
  | spent h => exact h

/-- Reading goes on in the same way, or behind the parenthesis. -/
theorem bind {f g : α → Except PatternFault β} (h : Carries Same Spent r r')
    (hsame : ∀ x y, Same x y → Carries SameB SpentB (f x) (g y))
    (hspent : ∀ y fault, Spent y → Carries SameB SpentB (.error fault) (g y)) :
    Carries SameB SpentB (r >>= f) (r' >>= g) := by
  cases h with
  | same h => exact hsame _ _ h
  | spent h => exact hspent _ _ h
  | fault => exact .fault

/-- A reader that never takes the parenthesis. -/
theorem bind_kept {f g : α → Except PatternFault β} (h : Carries Same (fun _ => False) r r')
    (hsame : ∀ x y, Same x y → Carries SameB SpentB (f x) (g y)) :
    Carries SameB SpentB (r >>= f) (r' >>= g) :=
  h.bind hsame fun _ _ => False.elim

/-- What does not look at the text is read in the same way. -/
theorem bind_same {f g : α → Except PatternFault β} (r : Except PatternFault α)
    (h : ∀ x, Carries SameB SpentB (f x) (g x)) : Carries SameB SpentB (r >>= f) (r >>= g) := by
  cases r with
  | error fault => exact .fault
  | ok x => exact h x

/-- Behind the parenthesis there is no more to read. -/
theorem of_error {f : α → Except PatternFault β} {fault : PatternFault}
    (h : ∀ x, r = .ok x → Carries SameB SpentB (.error fault) (f x)) :
    Carries SameB SpentB (.error fault) (r >>= f) := by
  cases r with
  | error fault => exact .fault
  | ok x => exact h x rfl

theorem of_spent {fault : PatternFault} (h : ∀ x, r = .ok x → Spent x) :
    Carries Same Spent (.error fault) r := by
  cases r with
  | error fault => exact .fault
  | ok x => exact .spent (h x rfl)

/-- What is asked before does not look at the text. -/
theorem ite_congr {p q : Prop} [Decidable p] [Decidable q] {s s' : Except PatternFault α}
    (hpq : p ↔ q) (h : p → Carries Same Spent r r') (h' : ¬p → Carries Same Spent s s') :
    Carries Same Spent (if p then r else s) (if q then r' else s') := by
  by_cases hp : p
  · rw [if_pos hp, if_pos (hpq.1 hp)]
    exact h hp
  · rw [if_neg hp, if_neg (mt hpq.2 hp)]
    exact h' hp

theorem ite {p : Prop} [Decidable p] {s s' : Except PatternFault α}
    (h : p → Carries Same Spent r r') (h' : ¬p → Carries Same Spent s s') :
    Carries Same Spent (if p then r else s) (if p then r' else s') := ite_congr Iff.rfl h h'

end Carries

/-- The same with the parenthesis behind the rest. -/
def Alike {α : Type} (marked : Bool) (n m : Nat) (x y : α × List Char) : Prop :=
  x.1 = y.1 ∧ Follows marked n m x.2 y.2

/-- The same for results of two parts. -/
def Agree {α β : Type} (marked : Bool) (n m : Nat) (x y : α × β × List Char) : Prop :=
  x.1 = y.1 ∧ Alike marked n m x.2 y.2

/-- Nothing is left. -/
def Ended {α : Type} (x : α × List Char) : Prop := x.2 = []

/-- A reader that never takes the parenthesis. -/
abbrev Keeps {α : Type} (marked : Bool) (n m : Nat) :
    Except PatternFault (α × List Char) → Except PatternFault (α × List Char) → Prop :=
  Carries (Alike marked n m) fun _ => False

/-- A reader that ends with the parenthesis where it takes it. -/
abbrev Takes {α : Type} (marked : Bool) (n m : Nat) :
    Except PatternFault (α × List Char) → Except PatternFault (α × List Char) → Prop :=
  Carries (Alike marked n m) Ended

theorem Keeps.takes {α : Type} {marked : Bool} {n m : Nat}
    {r r' : Except PatternFault (α × List Char)} (h : Keeps marked n m r r') :
    Takes marked n m r r' :=
  h.mono (fun _ _ => id) fun _ => False.elim

theorem Keeps.widen {α : Type} {marked : Bool} {n m n' m' : Nat}
    {r r' : Except PatternFault (α × List Char)} (h : Keeps marked n m r r') (hn : n ≤ n')
    (hm : m ≤ m') : Keeps marked n' m' r r' :=
  h.mono (fun _ _ halike => ⟨halike.1, halike.2.mono hn hm⟩) fun _ => id

variable {marked : Bool} {n m : Nat} {a b : List Char} {mode : Mode}

theorem Carries.succ {α β : Type} {Spent : α × β × List Char → Prop}
    {r r' : Except PatternFault (α × β × List Char)} (h : Carries (Agree marked n m) Spent r r') :
    Carries (Agree marked (n + 1) (m + 1)) Spent r r' :=
  h.mono (fun _ _ h => ⟨h.1, h.2.1, h.2.2.succ⟩) fun _ => id

theorem Alike.succ {α : Type} {x y : α × List Char} (h : Alike marked n m x y) :
    Alike marked (n + 1) (m + 1) x y := ⟨h.1, h.2.succ⟩

@[simp] theorem Mode.skip_nil (mode : Mode) : mode.skip [] = [] := by
  rw [Mode.skip]
  split <;> rfl

end Pattern

end Conform
