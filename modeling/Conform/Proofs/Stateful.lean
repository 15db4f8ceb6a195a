/-
**Validators that change a state.**

A provider may count how often it is asked, or note that it was; in general it reads a state and
changes it.  Whatever a validator asks on its way, a run of it begins in a state, ends in a state, and
yields a result or a fault.  This module takes the combinators of the validators to that form.  A run
goes through a chain exactly if it goes through one link after the other, and each link begins in the
state that the one before left behind.

Main definitions:

* `Outcome.runFrom` — the result or fault of an outcome that begins in a state, and the state behind it.

Main results:

* `Outcome.runFrom_bind` — a chain, link by link;
* `Outcome.runFrom_bind_eq_ok` — **how a chain yields a result**.
-/

import Conform.Proofs.Result
import Conform.Validation.Property

set_option relaxedAutoImplicit false
set_option autoImplicit false

namespace Conform

variable {σ α β : Type}

namespace Outcome

/-- What an outcome is that begins in a state, and the state it leaves behind. -/
def runFrom (outcome : Outcome (StateM σ) α) (s : σ) : Except Fault α × σ := outcome.run.run s

variable (s : σ)

@[simp] theorem runFrom_pure (a : α) : (pure a : Outcome (StateM σ) α).runFrom s = (.ok a, s) := rfl

@[simp] theorem runFrom_throw (fault : Fault) :
    (throw fault : Outcome (StateM σ) α).runFrom s = (.error fault, s) := rfl

@[simp] theorem runFrom_of (result : Except Fault α) :
    (Outcome.of result : Outcome (StateM σ) α).runFrom s = (result, s) := rfl

@[simp] theorem runFrom_lift (action : StateM σ α) :
    runFrom (ExceptT.lift action) s = (.ok (action.run s).1, (action.run s).2) := rfl

@[simp] theorem runFrom_liftM (action : StateM σ α) :
    runFrom (liftM action) s = (.ok (action.run s).1, (action.run s).2) := rfl

@[simp] theorem runFrom_mapFault (f : Fault → Fault) (outcome : Outcome (StateM σ) α) :
    (outcome.mapFault f).runFrom s = ((outcome.runFrom s).1.mapError f, (outcome.runFrom s).2) := rfl

@[simp] theorem runFrom_map (f : α → β) (outcome : Outcome (StateM σ) α) :
    (f <$> outcome).runFrom s = (f <$> (outcome.runFrom s).1, (outcome.runFrom s).2) := by
  show (f <$> outcome).run.run s = _
  rw [ExceptT.run_map]
  rfl

/-- A chain goes on with the result of its first link, in the state that this left behind. -/
theorem runFrom_bind (outcome : Outcome (StateM σ) α) (f : α → Outcome (StateM σ) β) :
    (outcome >>= f).runFrom s =
      match outcome.runFrom s with
      | (.ok a, t) => (f a).runFrom t
      | (.error fault, t) => (.error fault, t) := by
  show (ExceptT.bindCont f (outcome.run.run s).1).run (outcome.run.run s).2 = _
  rw [runFrom]
  cases outcome.run.run s with
  | mk result t => cases result <;> rfl

variable {s}

/-- A chain yields a result if every link does. -/
theorem runFrom_bind_eq_ok {outcome : Outcome (StateM σ) α} {f : α → Outcome (StateM σ) β} {b : β}
    {u : σ} : (outcome >>= f).runFrom s = (.ok b, u) ↔
      ∃ a t, outcome.runFrom s = (.ok a, t) ∧ (f a).runFrom t = (.ok b, u) := by
  rw [runFrom_bind]
  cases outcome.runFrom s with
  | mk result t => cases result <;> simp

theorem runFrom_mapFault_eq_ok {outcome : Outcome (StateM σ) α} {f : Fault → Fault} {a : α} {t : σ} :
    (outcome.mapFault f).runFrom s = (.ok a, t) ↔ outcome.runFrom s = (.ok a, t) := by
  rw [runFrom_mapFault]
  cases outcome.runFrom s with
  | mk result u => simp

end Outcome

/-- The verdicts on some inputs that are validated one after the other. -/
def Validator.runEach (validator : Validator (StateM σ)) (inputs : List Value) :
    StateM σ (List (Except Fault Value)) :=
  inputs.mapM fun v => (validator v).run

/-- Each input is validated in the state that those before it left behind. -/
theorem Validator.runEach_cons (validator : Validator (StateM σ)) (v : Value) (rest : List Value)
    (s : σ) :
    (validator.runEach (v :: rest)).run s =
      ((((validator v).runFrom s).1 :: ((validator.runEach rest).run ((validator v).runFrom s).2).1),
        ((validator.runEach rest).run ((validator v).runFrom s).2).2) := by
  rw [runEach, List.mapM_cons]
  rfl

end Conform
