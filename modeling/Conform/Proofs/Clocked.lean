/-
**Validators at a fixed time.**

A validator runs in a monad; the registry runs it where the current time can be read and nothing
else.  Once a time is given, what is left of an outcome is a result or a fault, and what is left of a
range is a pair of bounds.  This module takes the shared steps of the validators to that form, so
that what is proved of them afterwards is about functions without effects.

Main definitions:

* `Outcome.asOf` — an outcome at a time;
* `Bounds`, `Bounds.admits` — a range whose providers have been asked;
* `Property.standIn` — the value that an input stands for.

Main results:

* `Range.admits_run` — a range admits what its bounds at that time admit;
* `Property.run_asOf` — the shared steps around a conversion and a check.
-/

import Conform.Proofs.Result
import Conform.Registry

set_option relaxedAutoImplicit false
set_option autoImplicit false

namespace Conform

/-- The instant of parts that are in range. -/
def DateTime.ofParts (seconds : Int) (nanos : Nat) (offset : Int)
    (h : (ofParts? seconds nanos offset).isSome = true) : DateTime :=
  (ofParts? seconds nanos offset).get h

/-- 1970-01-01T00:00:00Z. -/
def DateTime.epoch : DateTime := .ofParts 0 0 0 rfl

/-! ### Outcomes -/

variable {α β : Type}

namespace Outcome

/-- What an outcome is at a time. -/
def asOf (outcome : Outcome Clocked α) (now : DateTime) : Except Fault α := outcome.run now

variable (now : DateTime)

@[simp] theorem asOf_pure (a : α) : (pure a : Outcome Clocked α).asOf now = .ok a := rfl

@[simp] theorem asOf_throw (fault : Fault) :
    (throw fault : Outcome Clocked α).asOf now = .error fault := rfl

@[simp] theorem asOf_of (result : Except Fault α) :
    (Outcome.of result : Outcome Clocked α).asOf now = result := rfl

@[simp] theorem asOf_lift (action : Clocked α) :
    asOf (ExceptT.lift action) now = .ok (action.run now) := rfl

@[simp] theorem asOf_liftM (action : Clocked α) :
    asOf (liftM action) now = .ok (action.run now) := rfl

@[simp] theorem asOf_bind (outcome : Outcome Clocked α) (f : α → Outcome Clocked β) :
    (outcome >>= f).asOf now = outcome.asOf now >>= fun a => (f a).asOf now := by
  show ((ExceptT.run outcome >>= ExceptT.bindCont f : Clocked (Except Fault β)) now) = _
  show ExceptT.bindCont f (ExceptT.run outcome now) now = outcome.asOf now >>= _
  rw [show outcome.asOf now = ExceptT.run outcome now from rfl]
  cases ExceptT.run outcome now <;> rfl

@[simp] theorem asOf_map (f : α → β) (outcome : Outcome Clocked α) :
    (f <$> outcome).asOf now = f <$> outcome.asOf now := by
  rw [← bind_pure_comp, asOf_bind]
  cases outcome.asOf now <;> rfl

@[simp] theorem asOf_discard (outcome : Outcome Clocked α) :
    (discard outcome).asOf now = (fun _ => PUnit.unit) <$> outcome.asOf now :=
  asOf_map now (fun _ => PUnit.unit) outcome

@[simp] theorem asOf_mapFault (f : Fault → Fault) (outcome : Outcome Clocked α) :
    (outcome.mapFault f).asOf now = (outcome.asOf now).mapError f := rfl

theorem asOf_ite (c : Prop) [Decidable c] (a b : Outcome Clocked α) :
    (if c then a else b).asOf now = if c then a.asOf now else b.asOf now := by
  split <;> rfl

end Outcome

/-! ### Bounds -/

@[simp] theorem Provider.resolve_literal (a : α) (now : DateTime) :
    (literal a : Provider Clocked α).resolve.run now = a := rfl

@[simp] theorem Provider.resolve_thunk (action : Clocked α) (now : DateTime) :
    (thunk action : Provider Clocked α).resolve.run now = action.run now := rfl

/-- A lower and an upper bound, both inclusive and both optional. -/
structure Bounds (μ : Type) where
  min : Option μ
  max : Option μ

/-- Do the bounds admit a quantity?  Where there is none, they do. -/
def Bounds.admits {μ : Type} [Comparable μ] (bounds : Bounds μ) : Option μ → Bool
  | none => true
  | some x => bounds.min.all (Range.atLeast x) && bounds.max.all (Range.atMost x)

namespace Range

variable {μ : Type}

/-- The bounds of a range at a time. -/
def boundsAt (range : Range Clocked μ) (now : DateTime) : Bounds μ :=
  ⟨range.min.map fun bound => bound.resolve.run now,
    range.max.map fun bound => bound.resolve.run now⟩

theorem keeps_run (test : μ → μ → Bool) (x : μ) (bound : Option (Provider Clocked μ))
    (now : DateTime) :
    (keeps test x bound).run now = (bound.map fun bound => bound.resolve.run now).all (test x) := by
  cases bound <;> rfl

/-- A range admits what its bounds admit. -/
theorem admits_run [Comparable μ] (range : Range Clocked μ) (x : Option μ) (now : DateTime) :
    (range.admits x).run now = (range.boundsAt now).admits x := by
  cases x with
  | none => rfl
  | some x =>
      have hbind : (range.admits (some x)).run now =
          ((keeps atLeast x range.min).run now && (keeps atMost x range.max).run now) := by
        simp only [admits, ReaderT.run_bind]
        generalize (keeps atLeast x range.min).run now = b
        cases (b : Bool) <;> rfl
      rw [hbind, keeps_run, keeps_run]
      rfl

end Range

/-! ### The shared steps -/

namespace Property

/-- The value that an input stands for at a time: the default, if the input is null. -/
def standIn (property : Property Clocked) (now : DateTime) : Value → Value
  | .null => (property.default.map fun provider => provider.resolve.run now).getD .null
  | value => value

theorem standIn_of_ne_null {property : Property Clocked} {now : DateTime} {value : Value}
    (h : value ≠ .null) : property.standIn now value = value := by
  cases value <;> first | rfl | exact absurd rfl h

/-- Without a callback every result is final. -/
theorem finish_map {property : Property Clocked} (h : property.callback = none)
    (x : Except Fault Value) : property.finish <$> x = x := by
  cases x <;> simp [finish, h]

theorem resolve_asOf (property : Property Clocked) (value : Value) (now : DateTime) :
    (property.resolve value).asOf now =
      if (property.standIn now value).isNull && !property.nullable then .error Fault.nullValue
      else .ok (property.standIn now value) := by
  obtain ⟨accepts, nullable, default, callback⟩ := property
  cases value <;> cases default <;>
    simp [resolve, standIn, Outcome.asOf_ite, Value.isNull]

/-- The shared steps at a time. -/
theorem run_asOf (property : Property Clocked) (coerce : Value → Except Fault Value)
    (check : Value → Outcome Clocked Value) (value : Value) (now : DateTime) :
    (property.run coerce check value).asOf now =
      if (property.standIn now value).isNull then
        if property.nullable then .ok .null else .error Fault.nullValue
      else
        coerce (property.standIn now value) >>= fun value =>
          property.checkKind value >>= fun _ => property.finish <$> (check value).asOf now := by
  simp only [run, Outcome.asOf_bind, resolve_asOf]
  cases hnull : (property.standIn now value).isNull with
  | true => cases property.nullable <;> simp [hnull]
  | false => simp [hnull]

end Property

end Conform
