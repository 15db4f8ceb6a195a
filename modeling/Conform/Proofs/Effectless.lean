/-
**Validators without effects.**

What a validator does besides its result comes from the providers that it asks.  A provider of a fixed
value does nothing, so a validator in which all providers are such, those of its parts included, makes
of every value a result or a fault and leaves no trace of it.

Main definitions:

* `Outcome.Settled` — an outcome without effects;
* `Validator.Effectless` — a validator whose outcomes are such;
* `Validator.Eager` — a validator that is built without providers that have to be run.

Main results:

* `Outcome.Settled.bind` — a chain of outcomes without effects has none;
* `Validator.Eager.effectless` — **a validator without such providers has no effects**;
* `Validator.Effectless.runFrom_eq_ok` — a run of it ends in the state in which it begins.
-/

import Conform.Proofs.Stateful
import Conform.Validation.Alternative
import Conform.Validation.Composite
import Conform.Validation.Scalar

set_option relaxedAutoImplicit false
set_option autoImplicit false

namespace Conform

variable {m : Type → Type} {α β σ : Type}

/-! ### Outcomes -/

namespace Outcome

section

variable [Monad m]

/-- The outcome is a result or a fault, without effects. -/
def Settled (outcome : Outcome m α) : Prop := ∃ result, outcome = of result

theorem settled_of (result : Except Fault α) : Settled (of result : Outcome m α) := ⟨result, rfl⟩

theorem settled_pure (a : α) : Settled (pure a : Outcome m α) := ⟨.ok a, rfl⟩

theorem settled_throw (fault : Fault) : Settled (throw fault : Outcome m α) := ⟨.error fault, rfl⟩

@[simp] theorem run_of (result : Except Fault α) : (of result : Outcome m α).run = pure result := rfl

variable [LawfulMonad m]

/-- A result goes on at once. -/
theorem of_ok_bind (a : α) (f : α → Outcome m β) : (of (.ok a) >>= f) = f a := ExceptT.ext (by simp)

/-- A chain of outcomes without effects has none. -/
theorem Settled.bind {outcome : Outcome m α} {f : α → Outcome m β} (h : outcome.Settled)
    (hf : ∀ a, (f a).Settled) : (outcome >>= f).Settled := by
  obtain ⟨result, rfl⟩ := h
  cases result with
  | error fault => exact ⟨.error fault, ExceptT.ext (by simp)⟩
  | ok a =>
      obtain ⟨result, hresult⟩ := hf a
      exact ⟨result, ExceptT.ext (by simp [hresult])⟩

theorem Settled.mapFault {outcome : Outcome m α} (h : outcome.Settled) (f : Fault → Fault) :
    (outcome.mapFault f).Settled := by
  obtain ⟨result, rfl⟩ := h
  exact ⟨result.mapError f, ExceptT.ext (by simp [Outcome.mapFault])⟩

/-- An action that only yields a value is an outcome without effects. -/
theorem settled_liftM {action : m α} (h : ∃ a, action = pure a) :
    Settled (liftM action : Outcome m α) := by
  obtain ⟨a, rfl⟩ := h
  exact ⟨.ok a, ExceptT.ext (by simp)⟩

end

end Outcome

/-- The validator neither reads nor changes a state: of every value it makes a result or a fault. -/
def Validator.Effectless [Monad m] (validator : Validator m) : Prop := ∀ v, (validator v).Settled

/-- A run of a validator without effects ends where it begins, and another one yields the same. -/
theorem Validator.Effectless.runFrom_eq_ok {validator : Validator (StateM σ)}
    (h : validator.Effectless) {v w : Value} {s t : σ} :
    (validator v).runFrom s = (.ok w, t) ↔ validator v = Outcome.of (.ok w) ∧ t = s := by
  obtain ⟨result, hresult⟩ := h v
  rw [hresult, Outcome.runFrom_of]
  constructor
  · rintro ⟨⟩
    exact ⟨rfl, rfl⟩
  · rintro ⟨hof, rfl⟩
    exact congrArg (Outcome.runFrom · t) hof

/-! ### Providers of fixed values -/

variable [Monad m] {μ : Type}

/-- The provider only yields a value, as a fixed one does. -/
def Provider.Steady (provider : Provider m α) : Prop := ∃ a, provider.resolve = pure a

/-- The bounds that exist only yield values. -/
structure Range.Steady (range : Range m μ) : Prop where
  min : ∀ bound, range.min = some bound → bound.Steady
  max : ∀ bound, range.max = some bound → bound.Steady

theorem Range.steady_unbounded : (unbounded : Range m μ).Steady :=
  ⟨by rintro _ ⟨⟩, by rintro _ ⟨⟩⟩

/-- The default, if there is one, only yields a value. -/
def Property.Steady (property : Property m) : Prop :=
  ∀ provider, property.default = some provider → provider.Steady

theorem Property.steady_of (accepts : List Kind) : (of accepts : Property m).Steady := by
  rintro _ ⟨⟩

variable [LawfulMonad m]

theorem Range.exists_keeps (test : μ → μ → Bool) (x : μ) {bound : Option (Provider m μ)}
    (h : ∀ provider, bound = some provider → provider.Steady) :
    ∃ b, keeps test x bound = pure b := by
  cases bound with
  | none => exact ⟨true, rfl⟩
  | some bound =>
      obtain ⟨a, ha⟩ := h bound rfl
      exact ⟨test x a, by simp [keeps, ha]⟩

theorem Range.Steady.exists_admits [Comparable μ] {range : Range m μ} (h : range.Steady)
    (x : Option μ) : ∃ b, range.admits x = pure b := by
  cases x with
  | none => exact ⟨true, rfl⟩
  | some x =>
      obtain ⟨least, hleast⟩ := exists_keeps atLeast x h.min
      obtain ⟨greatest, hgreatest⟩ := exists_keeps atMost x h.max
      exact ⟨least && greatest, by cases least <;> simp [admits, hleast, hgreatest]⟩

namespace Property

variable {property : Property m}

theorem Steady.settled_resolve (h : property.Steady) (v : Value) : (property.resolve v).Settled := by
  have hnull : ∀ u : Value, Outcome.Settled
      (if u.isNull && !property.nullable then throw Fault.nullValue else pure u : Outcome m Value) := by
    intro u
    split
    · exact Outcome.settled_throw _
    · exact Outcome.settled_pure _
  rw [resolve.eq_def]
  split
  · next hdefault => exact (Outcome.settled_liftM (h _ hdefault)).bind hnull
  · exact (Outcome.settled_pure _).bind hnull

/-- The shared steps have no effects of their own. -/
theorem Steady.effectless_run (h : property.Steady)
    (coerce : Value → Except Fault Value) {check : Value → Outcome m Value}
    (hcheck : ∀ v, (check v).Settled) : Validator.Effectless (property.run coerce check) := by
  intro v
  rw [run]
  refine (h.settled_resolve v).bind fun value => ?_
  split
  · exact Outcome.settled_pure Value.null
  · refine (Outcome.settled_of _).bind fun value => (Outcome.settled_of _).bind fun _ => ?_
    exact (hcheck value).bind fun value => Outcome.settled_pure _

/-- Without a callback, what is of an accepted kind and not null goes to the check and is its result. -/
theorem run_of_ne_null (hcallback : property.callback = none) (check : Value → Outcome m Value)
    {v : Value} (hnull : v ≠ .null) (hkind : property.checkKind v = .ok ()) :
    property.run .ok check v = check v := by
  have hisNull : v.isNull = false := by
    cases v <;> first | rfl | exact absurd rfl hnull
  have hresolve : property.resolve v = pure v := by
    cases v <;> first | exact absurd rfl hnull | simp [resolve, Value.isNull]
  have hfinish : (fun value => pure (property.finish value) : Value → Outcome m Value) = pure := by
    funext value
    rw [finish, hcallback]
  rw [run, hresolve, pure_bind, hisNull, Outcome.of_ok_bind, hkind, Outcome.of_ok_bind, hfinish]
  exact bind_pure (check v)

end Property

/-! ### Parts -/

theorem Scalar.settled_check [Comparable μ] {scalar : Scalar m μ} (h : scalar.range.Steady)
    (v : Value) : (scalar.check v).Settled := by
  refine (Outcome.settled_liftM (h.exists_admits _)).bind fun admitted => ?_
  split
  · exact (Outcome.settled_of _).bind fun _ => Outcome.settled_pure _
  · exact Outcome.settled_throw _

namespace Schema

theorem settled_validateEach {fields : List (String × Validator m)}
    (h : ∀ field ∈ fields, field.2.Effectless) (input : Members Value) :
    (validateEach input fields).Settled := by
  induction fields with
  | nil => exact Outcome.settled_pure []
  | cons field rest ih =>
      obtain ⟨hfield, hrest⟩ := List.forall_mem_cons.1 h
      refine ((hfield _).mapFault _).bind fun value => (ih hrest).bind fun output => ?_
      exact Outcome.settled_pure _

theorem settled_validateFields {schema : Schema m} (h : ∀ field ∈ schema.fields, field.2.Effectless)
    (strict : Bool) (input : Members Value) : (schema.validateFields strict input).Settled := by
  rw [validateFields]
  split
  · exact Outcome.settled_throw _
  · exact (settled_validateEach h input).bind fun output => Outcome.settled_pure _

end Schema

theorem ArrayProperty.settled_validateFrom {validator : Validator m} (h : validator.Effectless)
    (items : List Value) : ∀ index, (validateFrom validator index items).Settled := by
  induction items with
  | nil => exact fun _ => Outcome.settled_pure []
  | cons item rest ih =>
      intro index
      exact ((h item).mapFault _).bind fun value => (ih _).bind fun values => Outcome.settled_pure _

theorem ChoiceProperty.exists_firstMatch {candidates : List (Candidate m)}
    (h : ∀ validator, .validated validator ∈ candidates → validator.Effectless) (v : Value) :
    ∃ result, firstMatch v candidates = pure result := by
  induction candidates with
  | nil => exact ⟨none, rfl⟩
  | cons candidate rest ih =>
      obtain ⟨later, hlater⟩ := ih fun validator hmem => h validator (List.mem_cons_of_mem _ hmem)
      have hattempt : ∃ result, candidate.attempt v = pure result := by
        cases candidate with
        | literal l => exact ⟨_, rfl⟩
        | validated validator =>
            obtain ⟨result, hresult⟩ := h validator (List.mem_cons_self ..) v
            exact ⟨result.toOption, by simp [Candidate.attempt, hresult]⟩
      obtain ⟨result, hresult⟩ := hattempt
      cases result with
      | none => exact ⟨later, by simp [firstMatch, hresult, hlater]⟩
      | some w => exact ⟨some w, by simp [firstMatch, hresult]⟩

/-! ### Validators -/

/-- The validator is built without providers that do more than to yield a value: every default and every
bound in it is such, and a check of one's own has no effects. -/
inductive Validator.Eager : Validator m → Prop where
  | property {property : Property m} (hproperty : property.Steady) : Eager property.validate
  | scalar {μ : Type} [Comparable μ] {scalar : Scalar m μ} (hproperty : scalar.property.Steady)
      (hrange : scalar.range.Steady) : Eager scalar.validate
  | schema {schema : Schema m} (hfields : ∀ field ∈ schema.fields, Eager field.2) :
      Eager schema.validate
  | object {object : ObjectProperty m} (hproperty : object.property.Steady)
      (hfields : ∀ field ∈ object.schema.fields, Eager field.2) : Eager object.validate
  | array {array : ArrayProperty m} (hitems : Eager array.items) (hlength : array.length.Steady) :
      Eager array.validate
  | choice {choice : ChoiceProperty m} (hproperty : choice.property.Steady)
      (hcandidates : ∀ validator, .validated validator ∈ choice.candidates → Eager validator) :
      Eager choice.validate
  | custom {custom : CustomProperty m} (hproperty : custom.property.Steady)
      (hcheck : ∀ v, (custom.check v).Settled) : Eager custom.validate

/-- **A validator without such providers has no effects.** -/
theorem Validator.Eager.effectless {validator : Validator m} (h : validator.Eager) :
    validator.Effectless := by
  -- along the parts of the validator
  induction h with
  | property hproperty => exact hproperty.effectless_run .ok Outcome.settled_pure
  | scalar hproperty hrange => exact hproperty.effectless_run _ (Scalar.settled_check hrange)
  | schema _ ih =>
      intro v
      rw [Schema.validate]
      split
      · exact Outcome.settled_throw _
      · exact (Outcome.settled_of _).bind (Schema.settled_validateFields ih _)
  | object hproperty _ ih =>
      exact hproperty.effectless_run .ok fun v =>
        (Outcome.settled_of _).bind (Schema.settled_validateFields ih _)
  | @array array _ hlength ih =>
      -- an empty array stands in for null, by an action that only yields it
      have hproperty : array.property.Steady := by
        rintro _ ⟨⟩
        exact ⟨_, rfl⟩
      refine hproperty.effectless_run .ok fun v => (Outcome.settled_of _).bind fun items => ?_
      refine (Outcome.settled_liftM (hlength.exists_admits _)).bind fun admitted => ?_
      split
      · exact (ArrayProperty.settled_validateFrom ih _ _).bind fun _ => Outcome.settled_pure _
      · exact Outcome.settled_throw _
  | choice hproperty _ ih =>
      refine hproperty.effectless_run .ok fun v => ?_
      refine (Outcome.settled_liftM (ChoiceProperty.exists_firstMatch ih v)).bind fun result => ?_
      split
      · exact Outcome.settled_pure _
      · exact Outcome.settled_throw _
  | custom hproperty hcheck => exact hproperty.effectless_run .ok hcheck

/-- A scalar without settings has no effects. -/
theorem Scalar.effectless_of [Comparable μ] (kind : ScalarKind μ) :
    Validator.Effectless (of kind : Scalar m μ).validate :=
  (Validator.Eager.scalar (Property.steady_of _) Range.steady_unbounded).effectless

end Conform
