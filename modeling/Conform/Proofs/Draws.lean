/-
**How often providers are asked.**

A default stands in for null and is asked for nothing else.  The bounds are asked about a value that is
converted and of an accepted kind: the lower one about every such value, the upper one about those that
the lower one admits.  This module counts how often each of the three is asked, while a scalar validates
one value after the other.

A provider may give another value each time.  Its values are a sequence, from which it draws the next
one each time that it is asked.  What a scalar did to an input is told by the values that it drew for
it: they determine its verdict, and behind one another they are the beginning of the sequence.

Main definitions:

* `Part`, `Tally` — the parts that may be asked, and how often each was;
* `Origin`, `Origin.provider` — where a part has its values from, and the provider that counts;
* `Scalar.SuppliedBy` — a scalar whose parts have their values from some origins;
* `Visit`, `Scalar.Explains` — what a scalar did to an input, and why;
* `Scalar.Accounts` — what it did to one input after the other, and how often it asked.

Main results:

* `Scalar.SuppliedBy.exists_adjust` — which scalars these are;
* `Scalar.SuppliedBy.exists_visit` — one validation;
* `Scalar.SuppliedBy.accounts` — **one validation after the other**.
-/

import Conform.Proofs.Effectless
import Conform.Proofs.Settings
import Mathlib

set_option relaxedAutoImplicit false
set_option autoImplicit false

namespace Conform

variable {α μ : Type}

/-! ### Origins -/

/-- A part of a scalar that may have to be asked. -/
inductive Part where
  | default
  | min
  | max
deriving DecidableEq

/-- How often each part was asked. -/
abbrev Tally := Part → Nat

/-- Where a part has its values from. -/
inductive Origin (α : Type) where
  /-- always this value, and nothing is counted -/
  | fixed (a : α)
  /-- the values of a sequence, another one each time -/
  | drawn (values : Nat → α)

namespace Origin

/-- The provider of a part, which counts the values that it draws. -/
def provider (part : Part) : Origin α → Provider (StateM Tally) α
  | fixed a => .literal a
  | drawn values => .thunk do
    let tally ← get
    set (Function.update tally part (tally part + 1))
    return values (tally part)

/-- The value that a part has, if it has an origin, and the tally behind that. -/
def draw (part : Part) (tally : Tally) : Option (Origin α) → Option α × Tally
  | none => (none, tally)
  | some (fixed a) => (some a, tally)
  | some (drawn values) =>
    (some (values (tally part)), Function.update tally part (tally part + 1))

/-- These are the values of an origin, while the number of its draws grows from `before` to `after`:
those of the sequence in their order. -/
def Yields (before : Nat) (used : List α) (after : Nat) : Option (Origin α) → Prop
  | none => used = [] ∧ after = before
  | some (fixed a) => (∀ b ∈ used, b = a) ∧ after = before
  | some (drawn values) =>
    used = (List.range' before used.length).map values ∧ after = before + used.length

variable {origin : Option (Origin α)} {before between after : Nat} {part : Part} {tally : Tally}

theorem Yields.nil : Yields before [] before origin := by
  rcases origin with _ | a | values <;> simp [Yields]

theorem Yields.append {used more : List α} (h : Yields before used between origin)
    (hmore : Yields between more after origin) : Yields before (used ++ more) after origin := by
  rcases origin with _ | a | values
  · obtain ⟨rfl, rfl⟩ := h
    exact hmore
  · exact ⟨List.forall_mem_append.2 ⟨h.1, hmore.1⟩, hmore.2.trans h.2⟩
  · obtain ⟨hused, rfl⟩ := h
    obtain ⟨hmore, rfl⟩ := hmore
    refine ⟨?_, by rw [List.length_append, Nat.add_assoc]⟩
    rw [List.length_append, ← List.range'_append_1, List.map_append, ← hused, ← hmore]

theorem isSome_draw : (draw part tally origin).1.isSome = origin.isSome := by
  rcases origin with _ | a | values <;> rfl

theorem yields_draw :
    Yields (tally part) (draw part tally origin).1.toList ((draw part tally origin).2 part) origin := by
  rcases origin with _ | a | values <;> simp [draw, Yields]

/-- The other parts are not asked. -/
theorem draw_of_ne {other : Part} (h : other ≠ part) :
    (draw part tally origin).2 other = tally other := by
  rcases origin with _ | a | values
  · rfl
  · rfl
  · exact Function.update_of_ne h _ _

end Origin

/-! ### Scalars that ask -/

/-- Where the parts of a scalar have their values from; a part without an origin is absent. -/
structure Supply (μ : Type) where
  default : Option (Origin Value)
  min : Option (Origin μ)
  max : Option (Origin μ)

/-- The parts of the scalar have their values from these origins. -/
structure Scalar.SuppliedBy (scalar : Scalar (StateM Tally) μ) (supply : Supply μ) : Prop where
  accepts : scalar.property.accepts = scalar.kind.accepts
  default : scalar.property.default = supply.default.map (Origin.provider .default)
  min : scalar.range.min = supply.min.map (Origin.provider .min)
  max : scalar.range.max = supply.max.map (Origin.provider .max)

namespace Scalar

/-- What is set has its values from some origin. -/
def Setting.IsSupplied : Setting (StateM Tally) μ → Prop
  | .min bound => ∃ origin : Origin μ, bound = origin.provider .min
  | .max bound => ∃ origin : Origin μ, bound = origin.provider .max
  | .default value => ∃ origin : Origin Value, value = origin.provider .default
  | .format _ | .stripHyphens _ | .nullable _ | .callback _ => True

theorem SuppliedBy.exists_set {scalar : Scalar (StateM Tally) μ} {supply : Supply μ}
    (h : scalar.SuppliedBy supply) {setting : Setting (StateM Tally) μ} (hsetting : setting.IsSupplied) :
    ∃ other, (scalar.set setting).SuppliedBy other := by
  cases setting with
  | min bound =>
      obtain ⟨origin, rfl⟩ := hsetting
      exact ⟨{ supply with min := some origin }, { h with min := rfl }⟩
  | max bound =>
      obtain ⟨origin, rfl⟩ := hsetting
      exact ⟨{ supply with max := some origin }, { h with max := rfl }⟩
  | default value =>
      obtain ⟨origin, rfl⟩ := hsetting
      exact ⟨{ supply with default := some origin }, { h with default := rfl }⟩
  | format format => exact ⟨supply, { h with }⟩
  | stripHyphens strip => exact ⟨supply, { h with }⟩
  | nullable nullable => exact ⟨supply, { h with }⟩
  | callback callback => exact ⟨supply, { h with }⟩

/-- Whatever is set of a scalar, its parts have their values from some origins if what is set does. -/
theorem SuppliedBy.exists_adjust {settings : List (Setting (StateM Tally) μ)} :
    ∀ {scalar : Scalar (StateM Tally) μ} {supply : Supply μ}, scalar.SuppliedBy supply →
      (∀ setting ∈ settings, setting.IsSupplied) →
        ∃ other, (scalar.adjust settings).SuppliedBy other := by
  induction settings with
  | nil => exact fun h _ => ⟨_, h⟩
  | cons setting rest ih =>
      intro scalar supply h hsettings
      obtain ⟨hsetting, hrest⟩ := List.forall_mem_cons.1 hsettings
      obtain ⟨other, hother⟩ := h.exists_set hsetting
      exact ih hother hrest

/-- The scalars from which others are made have no parts that could be asked. -/
theorem Base.suppliedBy {base : Scalar (StateM Tally) μ} (h : base.Base) :
    base.SuppliedBy ⟨none, none, none⟩ := by
  cases h with
  | of _ => exact ⟨rfl, rfl, rfl, rfl⟩
  | regex h =>
      obtain ⟨format, -, rfl⟩ := map_eq_ok.1 h
      exact ⟨rfl, rfl, rfl, rfl⟩
  | email | uuid => exact ⟨rfl, rfl, rfl, rfl⟩

end Scalar

/-- Every value that passes the kind can be bounded. -/
def ScalarKind.Measured (kind : ScalarKind μ) : Prop :=
  ∀ u, Kind.expect kind.accepts u = .ok () → ∃ x, kind.measure? u = some x

/-- Truth values cannot be bounded; what any other kind of scalars accepts can be. -/
theorem ScalarKind.Standard.measured_or {kind : ScalarKind μ} (h : kind.Standard) :
    kind.Measured ∨ ∀ u, kind.measure? u = none := by
  cases h with
  | bool => exact .inr fun _ => rfl
  | int | float | number | text | date | datetime =>
      refine .inl fun u hu => ?_
      have hmem := (Kind.expect_eq_ok.1 hu).resolve_left (List.cons_ne_nil _ _)
      cases u <;> first | exact ⟨_, rfl⟩ | simp [ScalarKind.int, ScalarKind.float, ScalarKind.number,
        ScalarKind.text, ScalarKind.date, ScalarKind.datetime, Value.kind] at hmem

/-- The value converted, if it is of an accepted kind then. -/
def ScalarKind.convert (kind : ScalarKind μ) (value : Value) : Except Fault Value := do
  let u ← kind.coerce value
  Kind.expect kind.accepts u
  .ok u

/-- What the bounds are asked about: a value other than null, converted. -/
def ScalarKind.candidate? (kind : ScalarKind μ) (value : Value) : Option Value :=
  if value.isNull then none else (kind.convert value).toOption

namespace ScalarKind

variable {kind : ScalarKind μ} {v u : Value} {fault : Fault}

theorem candidate?_eq_some : kind.candidate? v = some u ↔ v.isNull = false ∧ kind.convert v = .ok u := by
  rw [candidate?]
  cases v.isNull with
  | true => simp
  | false => cases kind.convert v <;> simp [Except.toOption]

theorem candidate?_of_error (h : kind.convert v = .error fault) : kind.candidate? v = none := by
  simp [candidate?, h, Except.toOption]

/-- What is converted can be bounded, where every value that passes the kind can. -/
theorem Measured.exists_measure (hkind : kind.Measured) (h : kind.convert v = .ok u) :
    ∃ x, kind.measure? u = some x := by
  obtain ⟨w, -, h⟩ := bind_eq_ok.1 h
  obtain ⟨_, hexpect, hw⟩ := bind_eq_ok.1 h
  cases hw
  exact hkind u hexpect

/-- The answer is found behind the conversion. -/
theorem answer_eq [Comparable μ] (kind : ScalarKind μ) (bounds : Bounds μ) (format : Option Format)
    (stripHyphens : Bool) (v : Value) :
    kind.answer bounds format stripHyphens v = (do
      let u ← kind.convert v
      if bounds.admits (kind.measure? u) then
        Scalar.checkFormat format u
        .ok (Scalar.strip stripHyphens u)
      else .error (Fault.outOfRange u.text)) := by
  rw [answer, convert]
  cases kind.coerce v with
  | error fault => rfl
  | ok u => cases hexpect : Kind.expect kind.accepts u <;> simp [hexpect]

end ScalarKind

/-- What a scalar did to an input: the default that it used, if it was asked, the bounds that were
asked, and the verdict. -/
structure Visit (μ : Type) where
  input : Value
  default : Option Value
  bounds : Bounds μ
  verdict : Except Fault Value

/-- The default, if it was asked, and otherwise the input. -/
def Visit.standIn (visit : Visit μ) : Value := visit.default.getD visit.input

variable [Comparable μ] {scalar : Scalar (StateM Tally) μ} {supply : Supply μ}

namespace Scalar

/-- Why a scalar asked what it asked about an input, and what the verdict comes from. -/
structure Explains (scalar : Scalar (StateM Tally) μ) (supply : Supply μ) (visit : Visit μ) : Prop where
  /-- the default is asked for null -/
  default : visit.default.isSome = (supply.default.isSome && visit.input.isNull)
  /-- the lower bound is asked about every candidate -/
  min : visit.bounds.min.isSome =
    (supply.min.isSome && (scalar.kind.candidate? visit.standIn).isSome)
  /-- the upper bound is asked about every candidate that the lower one admits -/
  max : visit.bounds.max.isSome =
    (supply.max.isSome && (scalar.kind.candidate? visit.standIn).any fun u =>
      (Bounds.mk visit.bounds.min none).admits (scalar.kind.measure? u))
  /-- the verdict is that of the values that were used -/
  verdict : visit.verdict =
    if visit.standIn.isNull then
      if scalar.property.nullable then .ok .null else .error Fault.nullValue
    else scalar.property.finish <$>
      scalar.kind.answer visit.bounds scalar.format scalar.stripHyphens visit.standIn

end Scalar

/-! ### One validation -/

/-- The values that bounds were asked for are those of their origins, and nothing else was asked. -/
structure Supply.Asked (supply : Supply μ) (before : Tally) (bounds : Bounds μ) (after : Tally) : Prop where
  default : after .default = before .default
  min : Origin.Yields (before .min) bounds.min.toList (after .min) supply.min
  max : Origin.Yields (before .max) bounds.max.toList (after .max) supply.max

omit [Comparable μ] in
theorem Supply.asked_nothing (supply : Supply μ) (before : Tally) :
    supply.Asked before ⟨none, none⟩ before := ⟨rfl, .nil, .nil⟩

omit [Comparable μ] in
theorem Range.run_keeps (test : μ → μ → Bool) (x : μ) (origin : Option (Origin μ)) (part : Part)
    (before : Tally) :
    (keeps test x (origin.map (Origin.provider part))).run before =
      ((Origin.draw part before origin).1.all (test x), (Origin.draw part before origin).2) := by
  rcases origin with _ | a | values <;> rfl

/-- The values that were used for some inputs are those of their origins. -/
structure Supply.Covers (supply : Supply μ) (before : Tally) (visits : List (Visit μ)) (after : Tally) :
    Prop where
  default : Origin.Yields (before .default) (visits.filterMap (·.default)) (after .default)
    supply.default
  min : Origin.Yields (before .min) (visits.filterMap (·.bounds.min)) (after .min) supply.min
  max : Origin.Yields (before .max) (visits.filterMap (·.bounds.max)) (after .max) supply.max

omit [Comparable μ] in
/-- The values that were used for one input. -/
theorem Supply.Asked.covers {before between after : Tally} {used : Option Value} {bounds : Bounds μ}
    (h : supply.Asked between bounds after)
    (hdefault : Origin.Yields (before .default) used.toList (between .default) supply.default)
    (hmin : between .min = before .min) (hmax : between .max = before .max) (v : Value)
    (verdict : Except Fault Value) : supply.Covers before [⟨v, used, bounds, verdict⟩] after := by
  have hlist : ∀ {β : Type} (f : Visit μ → Option β) (visit : Visit μ),
      [visit].filterMap f = (f visit).toList := by
    intro β f visit
    cases hvisit : f visit <;> simp [hvisit]
  refine ⟨?_, ?_, ?_⟩
  · rw [hlist, h.default]
    exact hdefault
  · rw [hlist, ← hmin]
    exact h.min
  · rw [hlist, ← hmax]
    exact h.max

namespace Scalar.SuppliedBy

/-- The lower bound is asked, and the upper one if the lower one admits the quantity. -/
theorem run_admits (h : scalar.SuppliedBy supply) (x : μ) (before : Tally) :
    let lower := Origin.draw .min before supply.min
    let upper := Origin.draw .max lower.2 supply.max
    (scalar.range.admits (some x)).run before =
      if lower.1.all (Range.atLeast x) then (upper.1.all (Range.atMost x), upper.2)
      else (false, lower.2) := by
  intro lower upper
  rw [Range.admits, h.min, h.max, StateT.run_bind, Range.run_keeps]
  show StateT.run (if lower.1.all (Range.atLeast x) then _ else _) lower.2 = _
  split
  · exact Range.run_keeps _ x supply.max .max lower.2
  · rfl

/-- What the range admits is what the bounds admit that were asked. -/
theorem exists_admits (h : scalar.SuppliedBy supply) {x : Option μ}
    (hx : (∃ y, x = some y) ∨ supply.min = none ∧ supply.max = none) (before : Tally) :
    ∃ bounds after, (scalar.range.admits x).run before = (bounds.admits x, after) ∧
      bounds.min.isSome = supply.min.isSome ∧
      bounds.max.isSome = (supply.max.isSome && (Bounds.mk bounds.min none).admits x) ∧
      supply.Asked before bounds after := by
  rcases x with _ | x
  · obtain ⟨hmin, hmax⟩ := hx.resolve_left nofun
    exact ⟨⟨none, none⟩, before, rfl, by rw [hmin]; rfl, by rw [hmax]; rfl, supply.asked_nothing before⟩
  have hrun := h.run_admits x before
  let lower := Origin.draw .min before supply.min
  let upper := Origin.draw .max lower.2 supply.max
  have hsome : lower.1.isSome = supply.min.isSome := Origin.isSome_draw
  have hmin : Origin.Yields (before .min) lower.1.toList (lower.2 .min) supply.min :=
    Origin.yields_draw
  have hmax : Origin.Yields (lower.2 .max) upper.1.toList (upper.2 .max) supply.max :=
    Origin.yields_draw
  -- each bound changes its own count only
  have hlower : lower.2 .default = before .default ∧ lower.2 .max = before .max :=
    ⟨Origin.draw_of_ne (by decide), Origin.draw_of_ne (by decide)⟩
  have hupper : upper.2 .default = lower.2 .default ∧ upper.2 .min = lower.2 .min :=
    ⟨Origin.draw_of_ne (by decide), Origin.draw_of_ne (by decide)⟩
  cases hadmits : lower.1.all (Range.atLeast x) with
  | true =>
      refine ⟨⟨lower.1, upper.1⟩, upper.2, ?_, hsome, ?_, hupper.1.trans hlower.1, ?_, ?_⟩
      · rw [hrun, if_pos hadmits, Bounds.admits, hadmits, Bool.true_and]
      · simp [Bounds.admits, hadmits, upper, Origin.isSome_draw]
      · rwa [hupper.2]
      · rwa [← hlower.2]
  | false =>
      refine ⟨⟨lower.1, none⟩, lower.2, ?_, hsome, ?_, hlower.1, hmin, ?_⟩
      · rw [hrun, if_neg (ne_true_of_eq_false hadmits), Bounds.admits, hadmits, Bool.false_and]
      · simp [Bounds.admits, hadmits]
      · rw [hlower.2]
        exact .nil

omit [Comparable μ] in
/-- The default is asked for null, and what stands in for the input is its value, if there is one. -/
theorem exists_resolve (h : scalar.SuppliedBy supply) (v : Value) (before : Tally) :
    ∃ (used : Option Value) (after : Tally), (scalar.property.resolve v).runFrom before =
        (if (used.getD v).isNull && !scalar.property.nullable then .error Fault.nullValue
          else .ok (used.getD v), after) ∧
      used.isSome = (supply.default.isSome && v.isNull) ∧
      Origin.Yields (before .default) used.toList (after .default) supply.default ∧
      after .min = before .min ∧ after .max = before .max := by
  have hresult : ∀ (u : Value) (tally : Tally), Outcome.runFrom
      (if u.isNull && !scalar.property.nullable then throw Fault.nullValue else pure u) tally =
        (if u.isNull && !scalar.property.nullable then .error Fault.nullValue else .ok u, tally) := by
    intro u tally
    split <;> rfl
  by_cases hv : v = .null
  · subst hv
    let drawn := Origin.draw .default before supply.default
    refine ⟨drawn.1, drawn.2, ?_, ?_, Origin.yields_draw, Origin.draw_of_ne (by decide),
      Origin.draw_of_ne (by decide)⟩
    · rw [Property.resolve.eq_def, h.default, ← hresult]
      simp only [drawn]
      rcases supply.default with _ | a | values <;> rfl
    · exact Origin.isSome_draw.trans (Bool.and_true _).symm
  · refine ⟨none, before, ?_, ?_, .nil, rfl, rfl⟩
    · rw [← hresult]
      cases v <;> first | exact absurd rfl hv | rfl
    · cases v <;> first | exact absurd rfl hv | exact (Bool.and_false _).symm

/-- What stands in for the input and is not null is converted and checked. -/
theorem runFrom_validate (h : scalar.SuppliedBy supply) {v u : Value} {before between : Tally}
    (hresolve : (scalar.property.resolve v).runFrom before = (.ok u, between))
    (hu : u.isNull = false) :
    (scalar.validate v).runFrom before =
      ((Outcome.of (scalar.kind.convert u) >>= fun w =>
        scalar.property.finish <$> scalar.check w).runFrom between) := by
  have hkind : ∀ w, scalar.property.checkKind w = Kind.expect scalar.kind.accepts w := by
    intro w
    rw [← h.accepts]
    rfl
  rw [validate, Property.run, Outcome.runFrom_bind, hresolve]
  simp only [hu, hkind, ScalarKind.convert, Outcome.runFrom_bind, Outcome.runFrom_of]
  cases scalar.kind.coerce u with
  | error fault => rfl
  | ok w => cases hexpect : Kind.expect scalar.kind.accepts w <;> simp [Outcome.runFrom_bind, hexpect]

/-- The bounds are asked about a candidate, and nothing is asked about what is none. -/
theorem exists_bounds (h : scalar.SuppliedBy supply)
    (hmeasured : scalar.kind.Measured ∨ supply.min = none ∧ supply.max = none) {u : Value}
    (hu : u.isNull = false) (before : Tally) :
    ∃ bounds after,
      ((Outcome.of (scalar.kind.convert u) >>= fun w =>
        scalar.property.finish <$> scalar.check w).runFrom before) =
          (scalar.property.finish <$> scalar.kind.answer bounds scalar.format scalar.stripHyphens u,
            after) ∧
      bounds.min.isSome = (supply.min.isSome && (scalar.kind.candidate? u).isSome) ∧
      bounds.max.isSome = (supply.max.isSome && (scalar.kind.candidate? u).any fun w =>
        (Bounds.mk bounds.min none).admits (scalar.kind.measure? w)) ∧
      supply.Asked before bounds after := by
  cases hconvert : scalar.kind.convert u with
  | error fault =>
      have hnone := ScalarKind.candidate?_of_error hconvert
      refine ⟨⟨none, none⟩, before, ?_, ?_, ?_, supply.asked_nothing before⟩
      · rw [ScalarKind.answer_eq, hconvert]
        rfl
      · simp [hnone]
      · simp [hnone]
  | ok w =>
      have hsome := ScalarKind.candidate?_eq_some.2 ⟨hu, hconvert⟩
      have hx := hmeasured.imp_left fun hmeasured => hmeasured.exists_measure hconvert
      obtain ⟨bounds, after, hrun, hmin, hmax, hasked⟩ := h.exists_admits hx before
      refine ⟨bounds, after, ?_, ?_, ?_, hasked⟩
      · rw [ScalarKind.answer_eq, hconvert, Outcome.of_ok_bind, Outcome.runFrom_map, check,
          Outcome.runFrom_bind, Outcome.runFrom_liftM, hrun]
        cases hadmits : bounds.admits (scalar.kind.measure? w) with
        | false => simp [hadmits]
        | true => cases hformat : checkFormat scalar.format w <;> simp [hadmits, hformat]
      · rw [hsome, hmin, Option.isSome_some, Bool.and_true]
      · rw [hsome, hmax]
        rfl

/-- **One validation.**  The parts that the scalar has to ask are asked, once each, and their values
determine the verdict. -/
theorem exists_visit (h : scalar.SuppliedBy supply)
    (hmeasured : scalar.kind.Measured ∨ supply.min = none ∧ supply.max = none) (v : Value)
    (before : Tally) :
    ∃ visit after, visit.input = v ∧ (scalar.validate v).runFrom before = (visit.verdict, after) ∧
      scalar.Explains supply visit ∧ supply.Covers before [visit] after := by
  obtain ⟨used, between, hresolve, hused, hdefault, hmin, hmax⟩ := h.exists_resolve v before
  cases hnull : (used.getD v).isNull with
  | true =>
      -- nothing is asked about null
      have hnone : scalar.kind.candidate? (used.getD v) = none := by
        rw [ScalarKind.candidate?, if_pos hnull]
      refine ⟨⟨v, used, ⟨none, none⟩, if scalar.property.nullable then .ok .null else
        .error Fault.nullValue⟩, between, rfl, ?_, ⟨hused, ?_, ?_, ?_⟩,
        (supply.asked_nothing between).covers hdefault hmin hmax _ _⟩
      · rw [validate, Property.run, Outcome.runFrom_bind, hresolve, hnull]
        cases scalar.property.nullable with
        | true => simp [hnull]
        | false => simp
      · simp [Visit.standIn, hnone]
      · simp [Visit.standIn, hnone]
      · simp [Visit.standIn, hnull]
  | false =>
      obtain ⟨bounds, after, hrun, hasksMin, hasksMax, hasked⟩ :=
        h.exists_bounds hmeasured hnull between
      refine ⟨⟨v, used, bounds, scalar.property.finish <$>
        scalar.kind.answer bounds scalar.format scalar.stripHyphens (used.getD v)⟩, after, rfl, ?_,
        ⟨hused, hasksMin, hasksMax, ?_⟩, hasked.covers hdefault hmin hmax _ _⟩
      · rw [hnull, Bool.false_and] at hresolve
        exact (h.runFrom_validate hresolve hnull).trans hrun
      · simp [Visit.standIn, hnull]

end Scalar.SuppliedBy

/-! ### One validation after the other -/

namespace Supply

variable {before between after : Tally} {visits later : List (Visit μ)}

omit [Comparable μ] in
theorem covers_nil (supply : Supply μ) (before : Tally) : supply.Covers before [] before :=
  ⟨.nil, .nil, .nil⟩

omit [Comparable μ] in
theorem Covers.append (h : supply.Covers before visits between)
    (hlater : supply.Covers between later after) : supply.Covers before (visits ++ later) after where
  default := by
    rw [List.filterMap_append]
    exact h.default.append hlater.default
  min := by
    rw [List.filterMap_append]
    exact h.min.append hlater.min
  max := by
    rw [List.filterMap_append]
    exact h.max.append hlater.max

end Supply

/-- The values of a sequence that were used are as many as the visits for which one was asked. -/
theorem Origin.Yields.eq_add_countP {β : Type} {visits : List β} {f : β → Option α} {asks : β → Bool}
    {before after : Nat} {values : Nat → α}
    (h : Origin.Yields before (visits.filterMap f) after (some (.drawn values)))
    (hasks : ∀ visit ∈ visits, (f visit).isSome = asks visit) :
    after = before + visits.countP asks := by
  rw [h.2, List.length_filterMap_eq_countP]
  exact congrArg _ (List.countP_congr fun visit hvisit => by rw [hasks visit hvisit])

namespace Scalar

/-- What a scalar did to some inputs, one after the other, which verdicts it gave, and how often it
asked. -/
structure Accounts (scalar : Scalar (StateM Tally) μ) (supply : Supply μ) (inputs : List Value)
    (before : Tally) (verdicts : List (Except Fault Value)) (after : Tally)
    (visits : List (Visit μ)) : Prop where
  visited : visits.map (·.input) = inputs
  judged : visits.map (·.verdict) = verdicts
  /-- every verdict is that of the values that were used for the input -/
  explained : ∀ visit ∈ visits, scalar.Explains supply visit
  /-- and these are the next values of their sequence -/
  covered : supply.Covers before visits after
  /-- the default is asked once for each null -/
  default : ∀ values, supply.default = some (.drawn values) →
    after .default = before .default + inputs.countP Value.isNull
  /-- the lower bound is asked once about each candidate -/
  min : ∀ values, supply.min = some (.drawn values) →
    after .min = before .min +
      visits.countP fun visit => (scalar.kind.candidate? visit.standIn).isSome
  /-- the upper bound is asked once about each candidate that the lower one admitted -/
  max : ∀ values, supply.max = some (.drawn values) →
    after .max = before .max +
      visits.countP fun visit => (scalar.kind.candidate? visit.standIn).any fun u =>
        (Bounds.mk visit.bounds.min none).admits (scalar.kind.measure? u)
  /-- no bound is asked about null, nor where the fault is one of the kind or of the conversion -/
  unasked : ∀ visit ∈ visits, (visit.standIn = .null ∨
      (visit.verdict = .ok .null ∧ scalar.property.callback = none) ∨
      ∃ fault, visit.verdict = .error fault ∧
        fault.kind ∈ [.nullViolation, .typeMismatch, .parseFailure]) →
    visit.bounds = ⟨none, none⟩

/-- Where there is no candidate, no bound is asked. -/
theorem Explains.bounds_eq {visit : Visit μ} (h : scalar.Explains supply visit)
    (hnone : scalar.kind.candidate? visit.standIn = none) : visit.bounds = ⟨none, none⟩ := by
  have hmin := h.min
  have hmax := h.max
  rw [hnone, Option.isSome_none, Bool.and_false, Option.isSome_eq_false_iff, Option.isNone_iff_eq_none]
    at hmin
  rw [hnone, Option.any_none, Bool.and_false, Option.isSome_eq_false_iff, Option.isNone_iff_eq_none]
    at hmax
  exact congrArg₂ Bounds.mk hmin hmax

omit [Comparable μ] in
theorem failsOnly_checkFormat (format : Option Format) (v : Value) :
    FailsOnly (fun fault : Fault => fault.kind = .patternViolation) (checkFormat format v) := by
  unfold checkFormat
  split
  · split
    · exact .ok ()
    · exact .error rfl
  · exact .ok ()

/-- A candidate is refused by the bounds or by the format, or yields something other than null. -/
theorem Explains.of_candidate {visit : Visit μ} (h : scalar.Explains supply visit)
    (hkind : scalar.kind.Standard) {u : Value} (hu : scalar.kind.candidate? visit.standIn = some u) :
    (∃ w, w ≠ .null ∧ visit.verdict = .ok (scalar.property.finish w)) ∨
      ∃ fault, visit.verdict = .error fault ∧ fault.kind ∈ [.rangeViolation, .patternViolation] := by
  obtain ⟨hnull, hconvert⟩ := ScalarKind.candidate?_eq_some.1 hu
  rw [h.verdict, if_neg (ne_true_of_eq_false hnull)]
  cases hanswer : scalar.kind.answer visit.bounds scalar.format scalar.stripHyphens visit.standIn with
  | ok w => exact .inl ⟨w, (hkind.answer_again hanswer).1, rfl⟩
  | error fault =>
      refine .inr ⟨fault, rfl, ?_⟩
      rw [ScalarKind.answer_eq, hconvert, ok_bind] at hanswer
      split at hanswer
      · have hformat := failsOnly_checkFormat scalar.format u fault
          ((bind_eq_error.1 hanswer).resolve_right (by simp))
        simp [hformat]
      · obtain rfl := Except.error.inj hanswer
        exact List.mem_cons_self ..

/-- No bound is asked about null, nor where the fault is one of the kind or of the conversion. -/
theorem Explains.unasked {visit : Visit μ} (h : scalar.Explains supply visit)
    (hkind : scalar.kind.Standard) (hcase : visit.standIn = .null ∨
      (visit.verdict = .ok .null ∧ scalar.property.callback = none) ∨
      ∃ fault, visit.verdict = .error fault ∧
        fault.kind ∈ [.nullViolation, .typeMismatch, .parseFailure]) :
    visit.bounds = ⟨none, none⟩ := by
  refine h.bounds_eq (Option.eq_none_iff_forall_ne_some.2 fun u hu => ?_)
  have hcandidate := h.of_candidate hkind hu
  rcases hcase with hnull | ⟨hverdict, hcallback⟩ | ⟨fault, hverdict, hfault⟩
  · have hne := (ScalarKind.candidate?_eq_some.1 hu).1
    rw [hnull] at hne
    cases hne
  · rcases hcandidate with ⟨w, hne, hw⟩ | ⟨fault, hw, -⟩
    · rw [hverdict, Property.finish, hcallback] at hw
      exact hne (Except.ok.inj hw).symm
    · cases hverdict.symm.trans hw
  · rcases hcandidate with ⟨w, -, hw⟩ | ⟨other, hw, hother⟩
    · cases hverdict.symm.trans hw
    · obtain rfl := Except.error.inj (hverdict.symm.trans hw)
      simp only [List.mem_cons, List.not_mem_nil, or_false] at hfault hother
      rcases hother with h | h <;> simp [h] at hfault

/-- From one validation to all of them. -/
theorem SuppliedBy.exists_visits (h : scalar.SuppliedBy supply)
    (hmeasured : scalar.kind.Measured ∨ supply.min = none ∧ supply.max = none) (inputs : List Value)
    (before : Tally) :
    ∃ visits, visits.map (·.input) = inputs ∧
      visits.map (·.verdict) = ((Validator.runEach scalar.validate inputs).run before).1 ∧
      (∀ visit ∈ visits, scalar.Explains supply visit) ∧
      supply.Covers before visits ((Validator.runEach scalar.validate inputs).run before).2 := by
  induction inputs generalizing before with
  | nil => exact ⟨[], rfl, rfl, List.forall_mem_nil _, supply.covers_nil before⟩
  | cons v rest ih =>
      obtain ⟨visit, between, hinput, hrun, hexplains, hcovers⟩ := h.exists_visit hmeasured v before
      obtain ⟨visits, hinputs, hverdicts, hall, hrest⟩ := ih between
      refine ⟨visit :: visits, ?_, ?_, List.forall_mem_cons.2 ⟨hexplains, hall⟩, ?_⟩
      · rw [List.map_cons, hinput, hinputs]
      · rw [Validator.runEach_cons, hrun, List.map_cons, hverdicts]
      · rw [Validator.runEach_cons, hrun]
        exact hcovers.append hrest

/-- **One validation after the other.**  Whatever the inputs and the tally before, it can be told what a
scalar asked about each of them, if it has no bounds where nothing can be bounded. -/
theorem SuppliedBy.accounts (h : scalar.SuppliedBy supply) (hkind : scalar.kind.Standard)
    (hbounds : (∀ u, scalar.kind.measure? u = none) → supply.min = none ∧ supply.max = none)
    (inputs : List Value) (before : Tally) :
    let run := (Validator.runEach scalar.validate inputs).run before
    ∃ visits, scalar.Accounts supply inputs before run.1 run.2 visits := by
  intro run
  obtain ⟨visits, hinputs, hverdicts, hall, hcovers⟩ :=
    h.exists_visits (hkind.measured_or.imp_right hbounds) inputs before
  refine ⟨visits, hinputs, hverdicts, hall, hcovers, fun values hvalues => ?_, fun values hvalues => ?_,
    fun values hvalues => ?_, fun visit hvisit => (hall visit hvisit).unasked hkind⟩
  · have hdefault := hcovers.default
    rw [hvalues] at hdefault
    rw [← hinputs, List.countP_map]
    refine hdefault.eq_add_countP fun visit hvisit => ?_
    rw [(hall visit hvisit).default, hvalues]
    rfl
  · have hmin := hcovers.min
    rw [hvalues] at hmin
    refine hmin.eq_add_countP fun visit hvisit => ?_
    rw [(hall visit hvisit).min, hvalues]
    rfl
  · have hmax := hcovers.max
    rw [hvalues] at hmax
    refine hmax.eq_add_countP fun visit hvisit => ?_
    rw [(hall visit hvisit).max, hvalues]
    rfl

/-- Integers from a least one on up to nine; the least one and the default grow each time that they
are asked. -/
def growing : Scalar (StateM Tally) Numeric :=
  (of .int).adjust [.default (Origin.provider .default (.drawn fun n => .int (Int64.ofNat n))),
    .min (Origin.provider .min (.drawn fun n => .int (Int64.ofNat n))),
    .max (Origin.provider .max (.drawn fun _ => .int 9))]

/-- The text asks no bound.  The second default is one, which is less than the third lower bound, so it
is refused before the upper bound is asked. -/
theorem accounts_growing :
    let supply : Supply Numeric := ⟨some (.drawn fun n => .int (Int64.ofNat n)),
      some (.drawn fun n => .int (Int64.ofNat n)), some (.drawn fun _ => .int 9)⟩
    let inputs : List Value := [.null, .string "5", .int 5, .null]
    let run := (Validator.runEach growing.validate inputs).run fun _ => 0
    run.1 = [.ok (.int 0), .error (Fault.typeMismatch "int" "string"), .ok (.int 5),
        .error (Fault.outOfRange "1")] ∧
      (run.2 .default, run.2 .min, run.2 .max) = (2, 3, 2) ∧
      ∃ visits, growing.Accounts supply inputs (fun _ => 0) run.1 run.2 visits := by
  intro supply inputs run
  have hbounds : ¬ ∀ u, growing.kind.measure? u = none := fun h => by cases h (.int 0)
  exact ⟨by rfl, by rfl,
    SuppliedBy.accounts ⟨rfl, rfl, rfl, rfl⟩ .int (fun h => absurd h hbounds) inputs _⟩

end Scalar

end Conform
