/-
**What a rule means, and what it asks.**

The meaning of a combination is a Boolean function of the verdicts of its leaves: "all" is conjunction,
"any" is disjunction, and "none" is the negation of disjunction.  The evaluation computes it, but asks
the leaves from left to right and stops within a combination behind the first part that decides it.  So
the leaves that are asked are a selection of the leaves, in their order, and the verdict depends on the
verdicts of no others.

All this holds for leaves that have a verdict and besides may do anything when they are asked.

Main definitions:

* `RuleTree.holds` — the meaning;
* `RuleTree.leaves`, `RuleTree.asked` — all leaves, and those that are asked;
* `RuleTree.tests` — the rule whose leaves do something and have a verdict on an item;
* `RuleTree.Combines` — parts, and the verdict on a part that decides.

Main results:

* `RuleTree.evaluate_eq` — **the evaluation asks the leaves that are asked and yields the meaning**;
* `RuleTree.asked_sublist_leaves` — no leaf is asked out of turn, nor more often than it occurs;
* `RuleTree.asked_congr` — a leaf that is not asked may have any verdict;
* `RuleTree.Combines.asked_eq` — where the evaluation stops;
* `RuleTree.check_tests` — **how a rule is checked**.
-/

import Conform.Proofs.Effectless
import Mathlib

set_option relaxedAutoImplicit false
set_option autoImplicit false

namespace Conform

namespace RuleTree

variable {τ υ : Type} {verdict other : τ → Bool}

/-- Induction over a combination and its parts. -/
@[elab_as_elim, induction_eliminator]
theorem induct {motive : RuleTree τ → Prop} (leaf : ∀ a, motive (leaf a))
    (all : ∀ parts, (∀ part ∈ parts, motive part) → motive (all parts))
    (any : ∀ parts, (∀ part ∈ parts, motive part) → motive (any parts))
    (none : ∀ parts, (∀ part ∈ parts, motive part) → motive (none parts))
    (tree : RuleTree τ) : motive tree := by
  refine RuleTree.rec (motive_2 := fun parts => ∀ part ∈ parts, motive part) leaf all any none ?_ ?_ tree
  · exact List.forall_mem_nil _
  · exact fun _ _ head tail => List.forall_mem_cons.2 ⟨head, tail⟩

/-! ### Meaning -/

mutual

/-- The Boolean value of a combination, of the verdicts of all its leaves. -/
def holds (verdict : τ → Bool) : RuleTree τ → Bool
  | leaf a => verdict a
  | all parts => holdsAll verdict parts
  | any parts => holdsAny verdict parts
  | none parts => !holdsAny verdict parts

/-- The conjunction of the values of parts. -/
def holdsAll (verdict : τ → Bool) : List (RuleTree τ) → Bool
  | [] => true
  | part :: rest => holds verdict part && holdsAll verdict rest

/-- The disjunction of the values of parts. -/
def holdsAny (verdict : τ → Bool) : List (RuleTree τ) → Bool
  | [] => false
  | part :: rest => holds verdict part || holdsAny verdict rest

end

mutual

/-- The leaves, from left to right. -/
def leaves : RuleTree τ → List τ
  | leaf a => [a]
  | all parts | any parts | none parts => leavesOf parts

/-- The leaves of parts, from left to right. -/
def leavesOf : List (RuleTree τ) → List τ
  | [] => []
  | part :: rest => leaves part ++ leavesOf rest

end

mutual

/-- The leaves that are asked, in the order in which they are. -/
def asked (verdict : τ → Bool) : RuleTree τ → List τ
  | leaf a => [a]
  | all parts => askedUntil verdict false parts
  | any parts | none parts => askedUntil verdict true parts

/-- The leaves that are asked in parts up to the first with the decisive verdict. -/
def askedUntil (verdict : τ → Bool) (decisive : Bool) : List (RuleTree τ) → List τ
  | [] => []
  | part :: rest =>
    asked verdict part ++
      if holds verdict part = decisive then [] else askedUntil verdict decisive rest

end

@[simp] theorem holds_all (verdict : τ → Bool) (parts : List (RuleTree τ)) :
    (all parts).holds verdict = parts.all (holds verdict) := by
  rw [holds]
  induction parts with
  | nil => rfl
  | cons part rest ih => rw [holdsAll, List.all_cons, ih]

@[simp] theorem holds_any (verdict : τ → Bool) (parts : List (RuleTree τ)) :
    (any parts).holds verdict = parts.any (holds verdict) := by
  rw [holds]
  induction parts with
  | nil => rfl
  | cons part rest ih => rw [holdsAny, List.any_cons, ih]

@[simp] theorem holds_none (verdict : τ → Bool) (parts : List (RuleTree τ)) :
    (none parts).holds verdict = !parts.any (holds verdict) := by
  rw [← holds_any, holds, holds]

theorem holds_ofLeaves (verdict : τ → Bool) (as : List τ) :
    (ofLeaves as).holds verdict = as.all verdict := by
  rw [ofLeaves, holds_all, List.all_map]
  rfl

/-- A combination, its parts, and the verdict on a part that decides it. -/
inductive Combines (parts : List (RuleTree τ)) : Bool → RuleTree τ → Prop where
  | all : Combines parts false (all parts)
  | any : Combines parts true (any parts)
  | none : Combines parts true (none parts)

/-! ### Evaluation -/

section Evaluation

variable {m : Type → Type} [Monad m] [LawfulMonad m] (effect : τ → m PUnit)

/-- The leaf is asked: it does something and yields its verdict. -/
def answer (effect : τ → m PUnit) (verdict : τ → Bool) (a : τ) : m Bool := do
  effect a
  return verdict a

theorem evaluateAll_eq {parts : List (RuleTree τ)}
    (h : ∀ part ∈ parts, part.evaluate (answer effect verdict) = do
      (part.asked verdict).forM effect
      return part.holds verdict) :
    evaluateAll (answer effect verdict) parts = do
      (askedUntil verdict false parts).forM effect
      return holdsAll verdict parts := by
  induction parts with
  | nil => simp [evaluateAll, askedUntil, holdsAll]
  | cons part rest ih =>
      obtain ⟨hpart, hrest⟩ := List.forall_mem_cons.1 h
      rw [evaluateAll, askedUntil, holdsAll, hpart, ih hrest]
      cases part.holds verdict <;> simp

theorem evaluateAny_eq {parts : List (RuleTree τ)}
    (h : ∀ part ∈ parts, part.evaluate (answer effect verdict) = do
      (part.asked verdict).forM effect
      return part.holds verdict) :
    evaluateAny (answer effect verdict) parts = do
      (askedUntil verdict true parts).forM effect
      return holdsAny verdict parts := by
  induction parts with
  | nil => simp [evaluateAny, askedUntil, holdsAny]
  | cons part rest ih =>
      obtain ⟨hpart, hrest⟩ := List.forall_mem_cons.1 h
      rw [evaluateAny, askedUntil, holdsAny, hpart, ih hrest]
      cases part.holds verdict <;> simp

/-- **The evaluation asks the leaves that are asked, one after the other, and yields the meaning.** -/
theorem evaluate_eq (tree : RuleTree τ) :
    tree.evaluate (answer effect verdict) = do
      (tree.asked verdict).forM effect
      return tree.holds verdict := by
  induction tree with
  | leaf a => simp [evaluate, asked, holds, answer]
  | all parts ih => exact evaluateAll_eq effect ih
  | any parts ih => exact evaluateAny_eq effect ih
  | none parts ih =>
      rw [evaluate, evaluateAny_eq effect ih]
      simp [asked, holds]

end Evaluation

/-! ### Leaves that are asked -/

theorem askedUntil_sublist {decisive : Bool} {parts : List (RuleTree τ)}
    (h : ∀ part ∈ parts, (part.asked verdict).Sublist part.leaves) :
    (askedUntil verdict decisive parts).Sublist (leavesOf parts) := by
  induction parts with
  | nil => exact .slnil
  | cons part rest ih =>
      obtain ⟨hpart, hrest⟩ := List.forall_mem_cons.1 h
      rw [askedUntil, leavesOf]
      split
      · exact hpart.append (List.nil_sublist _)
      · exact hpart.append (ih hrest)

/-- No leaf is asked out of turn, nor more often than it occurs. -/
theorem asked_sublist_leaves (verdict : τ → Bool) (tree : RuleTree τ) :
    (tree.asked verdict).Sublist tree.leaves := by
  induction tree with
  | leaf a => exact .refl _
  | all parts ih => exact askedUntil_sublist ih
  | any parts ih => exact askedUntil_sublist ih
  | none parts ih => exact askedUntil_sublist ih

/-- Other verdicts of leaves that are not asked change neither what is asked of the parts nor whether
one of them decides, if they change neither within a part. -/
theorem askedUntil_congr {decisive : Bool} {parts : List (RuleTree τ)}
    (h : ∀ part ∈ parts, (∀ a ∈ part.asked verdict, other a = verdict a) →
      part.asked other = part.asked verdict ∧ part.holds other = part.holds verdict)
    (hasked : ∀ a ∈ askedUntil verdict decisive parts, other a = verdict a) :
    askedUntil other decisive parts = askedUntil verdict decisive parts ∧
      parts.any (fun part => part.holds other == decisive) =
        parts.any fun part => part.holds verdict == decisive := by
  induction parts with
  | nil => exact ⟨rfl, rfl⟩
  | cons part rest ih =>
      obtain ⟨hpart, hrest⟩ := List.forall_mem_cons.1 h
      rw [askedUntil] at hasked
      obtain ⟨heq, hholds⟩ := hpart fun a ha => hasked a (List.mem_append_left _ ha)
      rw [askedUntil, askedUntil, List.any_cons, List.any_cons, heq, hholds]
      by_cases hdecides : part.holds verdict = decisive
      · simp [hdecides]
      · -- the rest is evaluated as well
        rw [if_neg hdecides] at hasked ⊢
        obtain ⟨htail, hany⟩ := ih hrest fun a ha => hasked a (List.mem_append_right _ ha)
        rw [if_neg hdecides, htail, hany]
        exact ⟨rfl, rfl⟩

/-- The conjunction of parts fails where one of them does. -/
theorem all_eq_not_any (verdict : τ → Bool) (parts : List (RuleTree τ)) :
    parts.all (holds verdict) = !parts.any fun part => part.holds verdict == false := by
  simp [List.all_eq_not_any_not]

theorem any_eq_any (verdict : τ → Bool) (parts : List (RuleTree τ)) :
    parts.any (holds verdict) = parts.any fun part => part.holds verdict == true := by
  simp

/-- **A leaf that is not asked may have any verdict.**  Neither what is asked nor the meaning changes. -/
theorem asked_congr (tree : RuleTree τ) (h : ∀ a ∈ tree.asked verdict, other a = verdict a) :
    tree.asked other = tree.asked verdict ∧ tree.holds other = tree.holds verdict := by
  induction tree with
  | leaf a => exact ⟨rfl, h a (List.mem_singleton_self a)⟩
  | all parts ih =>
      obtain ⟨hasked, hany⟩ := askedUntil_congr ih h
      exact ⟨hasked, by rw [holds_all, holds_all, all_eq_not_any, all_eq_not_any, hany]⟩
  | any parts ih =>
      obtain ⟨hasked, hany⟩ := askedUntil_congr ih h
      exact ⟨hasked, by rw [holds_any, holds_any, any_eq_any, any_eq_any, hany]⟩
  | none parts ih =>
      obtain ⟨hasked, hany⟩ := askedUntil_congr ih h
      exact ⟨hasked, by rw [holds_none, holds_none, any_eq_any, any_eq_any, hany]⟩

/-- The evaluation of parts goes past those that do not decide. -/
theorem askedUntil_append {decisive : Bool} {front : List (RuleTree τ)} (rest : List (RuleTree τ))
    (h : ∀ part ∈ front, part.holds verdict ≠ decisive) :
    askedUntil verdict decisive (front ++ rest) =
      front.flatMap (asked verdict) ++ askedUntil verdict decisive rest := by
  induction front with
  | nil => rfl
  | cons part front ih =>
      obtain ⟨hpart, hfront⟩ := List.forall_mem_cons.1 h
      rw [List.cons_append, askedUntil, if_neg hpart, ih hfront, List.flatMap_cons, List.append_assoc]

/-- **Where the evaluation stops**: behind the first part that decides, or at the end if none does. -/
theorem Combines.asked_eq {parts : List (RuleTree τ)} {decisive : Bool} {tree : RuleTree τ}
    (h : Combines parts decisive tree) :
    ((∀ part ∈ parts, part.holds verdict ≠ decisive) →
      tree.asked verdict = parts.flatMap (asked verdict)) ∧
    ∀ front part rest, parts = front ++ part :: rest →
      (∀ part ∈ front, part.holds verdict ≠ decisive) → part.holds verdict = decisive →
        tree.asked verdict = front.flatMap (asked verdict) ++ part.asked verdict := by
  have hparts : tree.asked verdict = askedUntil verdict decisive parts := by
    cases h <;> rfl
  rw [hparts]
  constructor
  · intro hnone
    have happend := askedUntil_append [] hnone
    rwa [List.append_nil, askedUntil, List.append_nil] at happend
  · rintro front part rest rfl hfront hpart
    rw [askedUntil_append _ hfront, askedUntil, if_pos hpart, List.append_nil]

/-! ### Rules -/

mutual

/-- The tree with other leaves in the places of its own. -/
def map (f : τ → υ) : RuleTree τ → RuleTree υ
  | leaf a => leaf (f a)
  | all parts => all (mapParts f parts)
  | any parts => any (mapParts f parts)
  | none parts => none (mapParts f parts)

/-- `map` on each part. -/
def mapParts (f : τ → υ) : List (RuleTree τ) → List (RuleTree υ)
  | [] => []
  | part :: rest => map f part :: mapParts f rest

end

theorem mapParts_eq_map (f : τ → υ) (parts : List (RuleTree τ)) : mapParts f parts = parts.map (map f) := by
  induction parts with
  | nil => rfl
  | cons part rest ih => rw [mapParts, ih, List.map_cons]

section Rules

variable {m : Type → Type} [Monad m] {α : Type}

theorem evaluateAll_mapParts {ask : υ → m Bool} {f : τ → υ} {parts : List (RuleTree τ)}
    (h : ∀ part ∈ parts, (part.map f).evaluate ask = part.evaluate fun a => ask (f a)) :
    evaluateAll ask (mapParts f parts) = evaluateAll (fun a => ask (f a)) parts := by
  induction parts with
  | nil => rfl
  | cons part rest ih =>
      obtain ⟨hpart, hrest⟩ := List.forall_mem_cons.1 h
      rw [mapParts, evaluateAll, evaluateAll, hpart, ih hrest]

theorem evaluateAny_mapParts {ask : υ → m Bool} {f : τ → υ} {parts : List (RuleTree τ)}
    (h : ∀ part ∈ parts, (part.map f).evaluate ask = part.evaluate fun a => ask (f a)) :
    evaluateAny ask (mapParts f parts) = evaluateAny (fun a => ask (f a)) parts := by
  induction parts with
  | nil => rfl
  | cons part rest ih =>
      obtain ⟨hpart, hrest⟩ := List.forall_mem_cons.1 h
      rw [mapParts, evaluateAny, evaluateAny, hpart, ih hrest]

/-- A leaf in the place of another is asked in its place. -/
theorem evaluate_map (ask : υ → m Bool) (f : τ → υ) (tree : RuleTree τ) :
    (tree.map f).evaluate ask = tree.evaluate fun a => ask (f a) := by
  induction tree with
  | leaf a => rfl
  | all parts ih => exact evaluateAll_mapParts ih
  | any parts ih => exact evaluateAny_mapParts ih
  | none parts ih =>
      rw [map, evaluate, evaluate, evaluateAny_mapParts ih]

/-- The rule in which a leaf does something and has a verdict on an item. -/
def tests (effect : τ → α → m PUnit) (verdict : τ → α → Bool) (tree : RuleTree τ) : Rule m α :=
  tree.map fun a item => answer (effect · item) (verdict · item) a

/-- A rule is checked by asking the leaves that are asked. -/
theorem check_tests_eq [LawfulMonad m] (effect : τ → α → m PUnit) (verdict : τ → α → Bool)
    (tree : RuleTree τ) (item : α) :
    (tree.tests effect verdict).check item = do
      (tree.asked (verdict · item)).forM (effect · item)
      return tree.holds (verdict · item) := by
  rw [Rule.check, tests, evaluate_map]
  exact evaluate_eq (effect · item) tree

end Rules

/-- The leaf is noted behind the leaves that were asked before. -/
def note {α : Type} (a : τ) (_item : α) : StateM (List τ) PUnit := modify (· ++ [a])

theorem run_forM_note {α : Type} (item : α) (as : List τ) (before : List τ) :
    (as.forM fun a => note a item).run before = (⟨⟩, before ++ as) := by
  induction as generalizing before with
  | nil => rw [List.append_nil]; rfl
  | cons a as ih =>
      show (as.forM fun a => note a item).run (before ++ [a]) = _
      rw [ih, List.append_assoc, List.singleton_append]

/-- Behind a check stand the leaves that were asked, and the verdict is the meaning. -/
theorem run_check_note {α : Type} (verdict : τ → α → Bool) (tree : RuleTree τ) (item : α)
    (before : List τ) :
    ((tree.tests note verdict).check item).run before =
      (tree.holds (verdict · item), before ++ tree.asked (verdict · item)) := by
  rw [check_tests_eq, StateT.run_bind, run_forM_note]
  rfl

/-- How a rule is checked whose leaves have these verdicts on an item. -/
structure Checks {α : Type} (tree : RuleTree τ) (verdict : τ → α → Bool) (item : α) : Prop where
  /-- whatever leaves do when they are asked, some are asked in turn and the meaning is the verdict -/
  check : ∀ {m : Type → Type} [Monad m] [LawfulMonad m] (effect : τ → α → m PUnit),
    (tree.tests effect verdict).check item = do
      (tree.asked (verdict · item)).forM (effect · item)
      return tree.holds (verdict · item)
  trace : ∀ before, ((tree.tests note verdict).check item).run before =
    (tree.holds (verdict · item), before ++ tree.asked (verdict · item))
  /-- no leaf is asked out of turn, nor more often than it occurs -/
  selection : (tree.asked (verdict · item)).Sublist tree.leaves
  /-- leaves that are not asked may have other verdicts -/
  unasked : ∀ other : τ → α → Bool,
    (∀ a ∈ tree.asked (verdict · item), other a item = verdict a item) →
      ∀ before, ((tree.tests note other).check item).run before =
        ((tree.tests note verdict).check item).run before
  /-- behind the first part that decides, no other is evaluated -/
  stops : ∀ parts decisive, Combines parts decisive tree →
    ((∀ part ∈ parts, part.holds (verdict · item) ≠ decisive) →
      tree.asked (verdict · item) = parts.flatMap (asked (verdict · item))) ∧
    ∀ front part rest, parts = front ++ part :: rest →
      (∀ part ∈ front, part.holds (verdict · item) ≠ decisive) →
        part.holds (verdict · item) = decisive →
          tree.asked (verdict · item) =
            front.flatMap (asked (verdict · item)) ++ part.asked (verdict · item)
  /-- the rule of some tests is one for all of them -/
  callback : ∀ {m : Type → Type} [Monad m] (effect : τ → α → m PUnit) (as : List τ),
    (ofLeaves as).tests effect verdict =
        Rule.callback (as.map fun a item => answer (effect · item) (verdict · item) a) ∧
      (ofLeaves as).holds (verdict · item) = as.all (verdict · item)

theorem checks {α : Type} (tree : RuleTree τ) (verdict : τ → α → Bool) (item : α) :
    tree.Checks verdict item where
  check effect := check_tests_eq effect verdict tree item
  trace := run_check_note verdict tree item
  selection := asked_sublist_leaves _ tree
  unasked other h before := by
    have hcongr : tree.asked (other · item) = tree.asked (verdict · item) ∧
        tree.holds (other · item) = tree.holds (verdict · item) := asked_congr tree h
    rw [run_check_note, run_check_note, hcongr.1, hcongr.2]
  stops parts decisive h := h.asked_eq
  callback effect as := by
    refine ⟨?_, holds_ofLeaves _ as⟩
    rw [tests, ofLeaves, map, mapParts_eq_map, List.map_map, Rule.callback, ofLeaves, List.map_map]
    rfl

/-! ### Custom checks of rules -/

/-- The custom check of a rule, in which null may be refused or replaced. -/
def custom (verdict : τ → Value → Bool) (tree : RuleTree τ) (message : String) (nullable : Bool)
    (default : Option (Provider (StateM (List τ)) Value)) : CustomProperty (StateM (List τ)) :=
  let custom := CustomProperty.ofRule (tree.tests note verdict) message
  { custom with property := { custom.property with nullable, default } }

/-- The custom check of a rule leaves a value as it is or rejects it, as the rule says. -/
theorem runFrom_custom (verdict : τ → Value → Bool) (tree : RuleTree τ) (message : String)
    (nullable : Bool) (default : Option (Provider (StateM (List τ)) Value)) {v : Value}
    (h : v ≠ .null) (before : List τ) :
    ((tree.custom verdict message nullable default).validate v).runFrom before =
      (if tree.holds (verdict · v) then .ok v else .error (Fault.rejected message),
        before ++ tree.asked (verdict · v)) := by
  have hrun : (tree.custom verdict message nullable default).validate v =
      (tree.custom verdict message nullable default).check v :=
    Property.run_of_ne_null rfl _ h rfl
  rw [hrun]
  show Outcome.runFrom (ExceptT.lift ((tree.tests note verdict).check v) >>= _) before = _
  rw [Outcome.runFrom_bind, Outcome.runFrom_lift, run_check_note]
  cases tree.holds (verdict · v) <;> rfl

/-- **How a rule is checked**, and what its custom check makes of a value that is not null. -/
theorem check_tests (tree : RuleTree τ) :
    (∀ {α : Type} (verdict : τ → α → Bool) (item : α), tree.Checks verdict item) ∧
      ∀ (verdict : τ → Value → Bool) message nullable default v, v ≠ .null → ∀ before,
        ((tree.custom verdict message nullable default).validate v).runFrom before =
          (if tree.holds (verdict · v) then .ok v else .error ⟨.callbackRejected, message, ""⟩,
            before ++ tree.asked (verdict · v)) :=
  ⟨tree.checks, fun verdict message nullable default _ h =>
    tree.runFrom_custom verdict message nullable default h⟩

/-- Members pass: the first part refuses guests, and the second refuses administrators as well. -/
def gate : RuleTree String :=
  all [any [leaf "admin", none [leaf "guest", any []]], none [leaf "guest", leaf "admin"], leaf "member"]

/-- An administrator is stopped by the second part, behind a choice that asked one leaf; a member is
asked all leaves. -/
theorem check_tests_gate :
    let verdict (name : String) (item : Value) : Bool := item.equal (.string name)
    ((gate.tests note verdict).check (.string "admin")).run [] =
        (false, ["admin", "guest", "admin"]) ∧
      ((gate.custom verdict "no entry" true Option.none).validate (.string "admin")).runFrom [] =
        (.error ⟨.callbackRejected, "no entry", ""⟩, ["admin", "guest", "admin"]) ∧
      ((gate.custom verdict "no entry" true Option.none).validate (.string "member")).runFrom [] =
        (.ok (.string "member"), ["admin", "guest", "guest", "admin", "member"]) := by
  intro verdict
  obtain ⟨hchecks, hcustom⟩ := check_tests gate
  exact ⟨(hchecks verdict (.string "admin")).trace [],
    hcustom verdict "no entry" true Option.none (.string "admin") nofun [],
    hcustom verdict "no entry" true Option.none (.string "member") nofun []⟩

end RuleTree

end Conform
