/-
**Rules.**

A rule accepts or refuses an item.  Rules are combined by "all", "any" and "none"; what is asked of an
item is asked from left to right, and no more of it than decides.

How a combination is evaluated does not depend on what stands at its leaves, only on how a leaf is
asked.  So combinations are trees over any leaves, and a rule is such a tree of tests.

Main definitions:

* `RuleTree` — combinations of leaves;
* `RuleTree.evaluate` — the verdict, if it is known how a leaf is asked;
* `Rule`, `Rule.check` — trees of tests, and their verdict on an item;
* `Rule.callback` — the rule that all of some tests accept.
-/

set_option relaxedAutoImplicit false
set_option autoImplicit false

namespace Conform

/-- A combination of leaves of type `τ`. -/
inductive RuleTree (τ : Type) where
  /-- one leaf -/
  | leaf (a : τ)
  /-- every part accepts -/
  | all (parts : List (RuleTree τ))
  /-- some part accepts -/
  | any (parts : List (RuleTree τ))
  /-- no part accepts -/
  | none (parts : List (RuleTree τ))

namespace RuleTree

variable {m : Type → Type} {τ : Type}

mutual

/-- The verdict, where a leaf is asked for its own. -/
def evaluate [Monad m] (ask : τ → m Bool) : RuleTree τ → m Bool
  | leaf a => ask a
  | all parts => evaluateAll ask parts
  | any parts => evaluateAny ask parts
  | none parts => not <$> evaluateAny ask parts

/-- Does every part accept?  The first that does not ends the evaluation. -/
def evaluateAll [Monad m] (ask : τ → m Bool) : List (RuleTree τ) → m Bool
  | [] => pure true
  | part :: rest => do if ← evaluate ask part then evaluateAll ask rest else return false

/-- Does some part accept?  The first that does ends the evaluation. -/
def evaluateAny [Monad m] (ask : τ → m Bool) : List (RuleTree τ) → m Bool
  | [] => pure false
  | part :: rest => do if ← evaluate ask part then return true else evaluateAny ask rest

end

/-- Every one of some leaves accepts. -/
def ofLeaves (leaves : List τ) : RuleTree τ := all (leaves.map leaf)

end RuleTree

/-- A rule for items of type `α`: a combination of tests, which run in a monad `m`. -/
abbrev Rule (m : Type → Type) (α : Type) := RuleTree (α → m Bool)

namespace Rule

variable {m : Type → Type} {α : Type}

/-- The rule of one test. -/
def test (verdict : α → m Bool) : Rule m α := .leaf verdict

/-- The rule that every one of some tests accepts. -/
def callback (tests : List (α → m Bool)) : Rule m α := .ofLeaves tests

/-- Does the rule accept the item? -/
def check [Monad m] (item : α) (rule : Rule m α) : m Bool := rule.evaluate fun test => test item

end Rule

end Conform
