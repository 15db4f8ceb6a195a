/-
**Validators compute answers.**

A definition is built into a validator: a graph of properties, schemas and candidates that runs in a
monad.  This module shows that the graph does what the definition says: if building succeeds, then
the validator yields at every time what the definition answers.  It also says when building succeeds,
by a condition on each definition within the one that is built.

Main definitions:

* `LeafType.Sound`, `Definition.Sound` — the definitions that have a validator.

Main results:

* `Definition.asOf_of_validator` — **a validator that was built yields the answer of its
  definition**;
* `Definition.validator_eq_ok_iff` — **a definition has a validator exactly if it is sound**.
-/

import Conform.Proofs.Definition.Answer

set_option relaxedAutoImplicit false
set_option autoImplicit false

namespace Conform

variable {start now : DateTime}

/-! ### Options -/

namespace Options

variable {options : Options}

theorem configure_standIn (kinds : List Kind) (v : Value) :
    (options.configure (Property.of kinds : Property Clocked)).standIn now v = options.standIn v := by
  cases v with
  | null => cases h : options.default <;> simp [configure, Property.of, Property.standIn, standIn, h]
  | _ => rfl

/-- The shared steps of a property without callback are those of options that treat null alike. -/
theorem run_asOf {property : Property Clocked}
    (hstand : ∀ v, property.standIn now v = options.standIn v)
    (hnullable : property.nullable = options.nullable) (hcallback : property.callback = none)
    (coerce : Value → Except Fault Value) (check : Value → Outcome Clocked Value) (v : Value) :
    (property.run coerce check v).asOf now =
      options.answer (fun u => coerce u >>= fun u => Kind.expect property.accepts u >>= fun _ =>
        (check u).asOf now) v := by
  rw [Property.run_asOf, hstand, hnullable, answer]
  simp only [Property.finish_map hcallback]
  rfl

/-- The shared steps of a configured property are those of its options. -/
theorem configure_run_asOf (kinds : List Kind) (coerce : Value → Except Fault Value)
    (check : Value → Outcome Clocked Value) (v : Value) :
    ((options.configure (Property.of kinds)).run coerce check v).asOf now =
      options.answer (fun u => coerce u >>= fun u => Kind.expect kinds u >>= fun _ =>
        (check u).asOf now) v :=
  run_asOf (configure_standIn kinds) rfl rfl coerce check v

/-- A validator passes the check of its default if it accepts null, or there is no default. -/
theorem checkDefault_asOf {validator f : Validator Clocked} :
    (options.checkDefault validator).asOf start = .ok f ↔
      f = validator ∧ (options.default ≠ none → ∃ w, (validator .null).asOf start = .ok w) := by
  cases h : options.default with
  | none => simp [checkDefault, h, eq_comm]
  | some j =>
      cases hv : (validator .null).asOf start <;>
        simp [checkDefault, h, hv, eq_comm]

end Options

/-! ### Leaves -/

namespace TimeBound

variable {α : Type} {parse : String → Except Fault α} {shift? : DateTime → Int → Option α}

/-- A bound can be resolved at a time: it is the text of one, or leads to a supported date. -/
def Resolves (parse : String → Except Fault α) (shift? : DateTime → Int → Option α)
    (start : DateTime) : TimeBound → Prop
  | literal text => ∃ a, parse text = .ok a
  | relative days => ∃ a, shift? start days.toInt = some a

/-- A bound has a provider exactly if it can be resolved at the time. -/
theorem provider_asOf_iff {fallback : α} {bound : TimeBound} :
    (∃ p, (provider parse shift? fallback bound).asOf start = .ok p) ↔
      bound.Resolves parse shift? start := by
  cases bound with
  | literal text => cases h : parse text <;> simp [provider, Resolves, h, Except.mapError, Except.map]
  | relative days =>
      have hread : (readThe DateTime : Clocked DateTime).run start = start := rfl
      cases h : shift? start days.toInt <;> simp [provider, Resolves, h, hread]

/-- Whenever it is asked, the provider yields the bound at that time. -/
theorem resolve_of_provider {fallback : α} {bound : TimeBound} {p : Provider Clocked α}
    (h : (provider parse shift? fallback bound).asOf start = .ok p) :
    bound.resolve parse shift? fallback now = .ok (p.resolve.run now) := by
  cases bound with
  | literal text =>
      cases hp : parse text with
      | error fault => simp [provider, hp, Except.mapError, Except.map] at h
      | ok a =>
          simp only [provider, hp, Except.mapError, Except.map, Outcome.asOf_of,
            Except.ok.injEq] at h
          subst h
          simp [resolve, hp]
  | relative days =>
      have hread : (readThe DateTime : Clocked DateTime).run start = start := rfl
      cases hp : shift? start days.toInt with
      | none => simp [provider, hp, hread] at h
      | some a =>
          simp only [provider, Outcome.asOf_bind, Outcome.asOf_lift, hread, ok_bind, hp,
            Outcome.asOf_pure, Except.ok.injEq] at h
          subst h
          rfl

theorem mapM_asOf {γ δ : Type} (f : γ → Outcome Clocked δ) (c : Option γ) :
    (c.mapM f).asOf start = c.mapM fun c => (f c).asOf start := by
  cases c with
  | none => rfl
  | some c => simp [Option.mapM]

/-- A side of a range has a provider exactly if its bound, if there is one, can be resolved. -/
theorem mapM_provider_iff (fallback : α) (side : Option TimeBound) :
    (∃ p, (side.mapM (provider parse shift? fallback : _ → Outcome Clocked _)).asOf start = .ok p) ↔
      ∀ bound, side = some bound → bound.Resolves parse shift? start := by
  cases side with
  | none => simp [Option.mapM]
  | some bound =>
      have hp : (∃ p, (provider parse shift? fallback bound).asOf start = .ok p) ↔
          bound.Resolves parse shift? start := provider_asOf_iff
      simp [Option.mapM, map_eq_ok, ← hp]

/-- Whenever it is asked, the provider of a side yields its bound at that time. -/
theorem mapM_resolve_of_provider {fallback : α} {side : Option TimeBound}
    {p : Option (Provider Clocked α)}
    (h : (side.mapM (provider parse shift? fallback : _ → Outcome Clocked _)).asOf start = .ok p) :
    side.mapM (resolve parse shift? fallback now) = .ok (p.map fun p => p.resolve.run now) := by
  rw [mapM_asOf] at h
  cases side with
  | none =>
      cases h
      rfl
  | some bound =>
      obtain ⟨p, hbound, rfl⟩ := map_eq_ok.1 h
      simp [Option.mapM, resolve_of_provider hbound]

/-- A range is built exactly if its bounds can be resolved. -/
theorem range_asOf_iff (first last : α) {min max : Option TimeBound} :
    (∃ r, (range parse shift? first last min max).asOf start = .ok r) ↔
      (∀ bound, min = some bound → bound.Resolves parse shift? start) ∧
        ∀ bound, max = some bound → bound.Resolves parse shift? start := by
  -- a lower bound that leads out of the supported dates is the last of them, an upper one the first
  rw [← mapM_provider_iff last min, ← mapM_provider_iff first max]
  simp only [range, Outcome.asOf_bind, bind_eq_ok, Outcome.asOf_pure]
  constructor
  · rintro ⟨r, p, hp, q, hq, -⟩
    exact ⟨⟨p, hp⟩, ⟨q, hq⟩⟩
  · rintro ⟨⟨p, hp⟩, ⟨q, hq⟩⟩
    exact ⟨⟨p, q⟩, p, hp, q, hq, rfl⟩

/-- Whenever it is asked, a range has the bounds at that time. -/
theorem bounds_of_range {first last : α} {min max : Option TimeBound} {r : Range Clocked α}
    (h : (range parse shift? first last min max).asOf start = .ok r) :
    bounds parse shift? first last now min max = .ok (r.boundsAt now) := by
  simp only [range, Outcome.asOf_bind, bind_eq_ok, Outcome.asOf_pure] at h
  obtain ⟨p, hp, q, hq, hr⟩ := h
  cases hr
  simp only [bounds, mapM_resolve_of_provider hp, mapM_resolve_of_provider hq, ok_bind]
  rfl

end TimeBound

theorem Range.literals_boundsAt {μ : Type} (min max : Option μ) :
    (Range.literals min max : Range Clocked μ).boundsAt now = ⟨min, max⟩ := by
  cases min <;> cases max <;> rfl

theorem Scalar.check_asOf {μ : Type} [Comparable μ] (scalar : Scalar Clocked μ) (v : Value) :
    (scalar.check v).asOf now =
      if (scalar.range.boundsAt now).admits (scalar.kind.measure? v) then
        checkFormat scalar.format v >>= fun _ => .ok (strip scalar.stripHyphens v)
      else .error (Fault.outOfRange v.text) := by
  simp only [check, Outcome.asOf_bind, Outcome.asOf_liftM, ok_bind, ← Range.admits_run]
  generalize (scalar.range.admits (scalar.kind.measure? v)).run now = admitted
  cases (admitted : Bool) with
  | true => simp only [if_true, Outcome.asOf_bind, Outcome.asOf_of, Outcome.asOf_pure]
  | false => rfl

namespace LeafType

/-- A scalar with options yields the answer of its kind to what it stands for. -/
theorem scalar_asOf {μ : Type} [Comparable μ] (kind : ScalarKind μ) (options : Options)
    (range : Range Clocked μ) (format : Option Format) (stripHyphens : Bool) (v : Value) :
    (scalar kind options range format stripHyphens v).asOf now =
      options.answer (kind.answer (range.boundsAt now) format stripHyphens) v := by
  rw [scalar, Scalar.validate, Options.configure_run_asOf]
  simp only [Scalar.check_asOf]
  rfl

/-- A leaf is sound if its kinds are known, its pattern is one, and its bounds can be resolved. -/
def Sound (start : DateTime) : LeafType → Prop
  | any kinds => ∃ known, kindsOf kinds = .ok known
  | regex pattern _ => ∃ format, Format.compile pattern = .ok format
  | date min max =>
    (∀ bound, min = some bound → bound.Resolves Date.parse DateTime.shiftDate? start) ∧
      ∀ bound, max = some bound → bound.Resolves Date.parse DateTime.shiftDate? start
  | datetime min max =>
    (∀ bound, min = some bound → bound.Resolves DateTime.parse DateTime.addDays? start) ∧
      ∀ bound, max = some bound → bound.Resolves DateTime.parse DateTime.addDays? start
  | int _ _ | float _ _ | number _ _ | bool | string _ | email _ | uuid _ => True

variable {options : Options}

/-- A leaf has a validator, but for its default, exactly if it is sound. -/
theorem bare_asOf_iff {type : LeafType} :
    (∃ f, (type.bare options).asOf start = .ok f) ↔ type.Sound start := by
  cases type with
  | any kinds => cases h : kindsOf kinds <;> simp [bare, Sound, h]
  | regex pattern length => cases h : Format.compile pattern <;> simp [bare, Sound, h]
  | date min max =>
      rw [Sound, ← TimeBound.range_asOf_iff Date.first Date.last]
      simp only [bare, Outcome.asOf_bind, bind_eq_ok, Outcome.asOf_pure]
      exact ⟨fun ⟨_, r, hr, _⟩ => ⟨r, hr⟩, fun ⟨r, hr⟩ => ⟨_, r, hr, rfl⟩⟩
  | datetime min max =>
      rw [Sound, ← TimeBound.range_asOf_iff DateTime.first DateTime.last]
      simp only [bare, Outcome.asOf_bind, bind_eq_ok, Outcome.asOf_pure]
      exact ⟨fun ⟨_, r, hr, _⟩ => ⟨r, hr⟩, fun ⟨r, hr⟩ => ⟨_, r, hr, rfl⟩⟩
  | _ => simp [bare, Sound]

/-- The validator of a leaf yields the answer of the leaf. -/
theorem asOf_of_bare {type : LeafType} {f : Validator Clocked}
    (h : (type.bare options).asOf start = .ok f) (v : Value) :
    (f v).asOf now = options.answer (type.answer now) v := by
  cases type with
  | any kinds =>
      simp only [bare, Outcome.asOf_bind, Outcome.asOf_of, Outcome.asOf_pure] at h
      obtain ⟨known, hknown, hf⟩ := bind_eq_ok.1 h
      cases hf
      rw [Property.validate, Options.configure_run_asOf]
      refine congrArg₂ _ (funext fun u => ?_) rfl
      simp [answer, hknown]
  | regex pattern length =>
      simp only [bare, Outcome.asOf_bind, Outcome.asOf_of, Outcome.asOf_pure] at h
      obtain ⟨format, hformat, hf⟩ := bind_eq_ok.1 h
      cases hf
      rw [scalar_asOf]
      refine congrArg₂ _ (funext fun u => ?_) rfl
      rw [LengthBounds.range, Range.literals_boundsAt]
      simp [answer, hformat, LengthBounds.bounds]
  | date min max =>
      simp only [bare, Outcome.asOf_bind, Outcome.asOf_pure] at h
      obtain ⟨range, hrange, hf⟩ := bind_eq_ok.1 h
      cases hf
      rw [scalar_asOf]
      refine congrArg₂ _ (funext fun u => ?_) rfl
      simp [answer, TimeBound.bounds_of_range hrange]
  | datetime min max =>
      simp only [bare, Outcome.asOf_bind, Outcome.asOf_pure] at h
      obtain ⟨range, hrange, hf⟩ := bind_eq_ok.1 h
      cases hf
      rw [scalar_asOf]
      refine congrArg₂ _ (funext fun u => ?_) rfl
      simp [answer, TimeBound.bounds_of_range hrange]
  | _ =>
      cases h
      rw [scalar_asOf]
      first
        | rfl
        | rw [Range.literals_boundsAt]; rfl
        | rw [LengthBounds.range, Range.literals_boundsAt]; rfl

end LeafType

/-! ### Objects -/

theorem Schema.declare_of_not_mem {name : String} {f : Validator Clocked} :
    ∀ {fields : List (String × Validator Clocked)}, name ∉ fields.map Prod.fst →
      declare name f fields = fields ++ [(name, f)]
  | [], _ => rfl
  | (k, g) :: rest, h => by
      simp only [List.map_cons, List.mem_cons, not_or] at h
      rw [declare, if_neg (Ne.symm h.1), declare_of_not_mem h.2]
      rfl

namespace Definition

/-- The schema of sorted fields holds for each field the validator of its definition. -/
theorem addFields_asOf_iff {fields : List (String × Definition)} :
    ∀ {schema schema' : Schema Clocked}, Members.Sorted fields →
      (∀ field ∈ fields, field.1 ∉ schema.names) →
      ((addFields schema fields).asOf start = .ok schema' ↔
        ∃ built, List.Forall₂ (fun field part => part.1 = field.1 ∧
            (validator field.1 field.2).asOf start = .ok part.2) fields built ∧
          schema' = { schema with fields := schema.fields ++ built }) := by
  induction fields with
  | nil =>
      intro schema schema' _ _
      simp [addFields, eq_comm (a := schema)]
  | cons field rest ih =>
      intro schema schema' hsorted hnew
      -- sorted fields have different names, so no field replaces another
      obtain ⟨name, d⟩ := field
      obtain ⟨hlt, hrest⟩ := List.pairwise_cons.1 hsorted
      have hfield : ∀ f, schema.field name f =
          { schema with fields := schema.fields ++ [(name, f)] } := fun f => by
        rw [Schema.field, Schema.declare_of_not_mem (hnew (name, d) (List.mem_cons_self ..))]
      have hnew' : ∀ f, ∀ field ∈ rest, field.1 ∉ (schema.field name f).names := by
        intro f field hmem
        have hne : field.1 ≠ name := (String.ne_of_lt (hlt field hmem)).symm
        have hold : field.1 ∉ schema.names := hnew field (List.mem_cons_of_mem _ hmem)
        simpa [hfield, Schema.names, hne] using hold
      simp only [addFields, Outcome.asOf_bind, Outcome.asOf_mapFault, bind_eq_ok, mapError_eq_ok]
      constructor
      · rintro ⟨f, hf, hadd⟩
        obtain ⟨built, hbuilt, rfl⟩ := (ih hrest (hnew' f)).1 hadd
        exact ⟨(name, f) :: built, .cons ⟨rfl, hf⟩ hbuilt, by simp [hfield]⟩
      · rintro ⟨built, hbuilt, rfl⟩
        obtain ⟨⟨k, f⟩, built, ⟨hk, hf⟩, hrestBuilt, rfl⟩ := List.forall₂_cons_left_iff.1 hbuilt
        cases hk
        exact ⟨f, hf, (ih hrest (hnew' f)).2 ⟨built, hrestBuilt, by simp [hfield]⟩⟩

/-- Validators that yield the answers of sorted fields yield together the answer of all. -/
theorem validateEach_asOf {fields : List (String × Definition)}
    {built : List (String × Validator Clocked)} (hsorted : Members.Sorted fields)
    (h : List.Forall₂ (fun field part => part.1 = field.1 ∧
      ∀ v, (part.2 v).asOf now = answer now field.2 v) fields built) (members : Members Value) :
    (Schema.validateEach members built).asOf now = answerFields now fields members := by
  induction h with
  | nil => rfl
  | @cons field part rest built hhead _ ih =>
      obtain ⟨name, d⟩ := field
      obtain ⟨k, f⟩ := part
      obtain ⟨rfl, hf⟩ := hhead
      obtain ⟨hlt, hrest⟩ := List.pairwise_cons.1 hsorted
      simp only [Schema.validateEach, answerFields, Outcome.asOf_bind, Outcome.asOf_mapFault,
        Outcome.asOf_pure, hf, ih hrest]
      refine congrArg _ (funext fun value => ?_)
      cases hout : answerFields now rest members with
      | error fault => rfl
      | ok out =>
          have hnames : ∀ key ∈ Members.names out, k < key := by
            rw [names_of_answerFields hout]
            intro key hkey
            obtain ⟨field, hmem, rfl⟩ := List.mem_map.1 hkey
            exact hlt field hmem
          simp [Members.insert_eq_cons hnames]

/-- A schema whose validators yield the answers of the fields yields the answer of an object. -/
theorem validateFields_asOf {fields : List (String × Definition)} {schema : Schema Clocked}
    (hsorted : Members.Sorted fields)
    (h : List.Forall₂ (fun field part => part.1 = field.1 ∧
      ∀ v, (part.2 v).asOf now = answer now field.2 v) fields schema.fields)
    (strict : Bool) (members : Members Value) :
    (schema.validateFields strict members).asOf now =
      expectDeclared strict fields members >>= fun _ =>
        Value.object <$> answerFields now fields members := by
  have hnames : schema.names = Members.names fields := Members.names_of_forall₂ h
  have hfind : schema.undeclared? members =
      (Members.names members).find? fun name => !(Members.names fields).contains name := by
    rw [Schema.undeclared?, hnames]
    rfl
  rw [Schema.validateFields, hfind, expectDeclared]
  cases (Members.names members).find? fun name => !(Members.names fields).contains name <;>
    cases strict <;> simp [validateEach_asOf hsorted h]

/-! ### Arrays and choices -/

theorem validateFrom_asOf {f : Validator Clocked} {answer : Value → Except Fault Value}
    (h : ∀ v, (f v).asOf now = answer v) (items : List Value) :
    ∀ index, (ArrayProperty.validateFrom f index items).asOf now = answerItems answer index items := by
  induction items with
  | nil => exact fun _ => rfl
  | cons item rest ih =>
      intro index
      simp only [ArrayProperty.validateFrom, answerItems, Outcome.asOf_bind, Outcome.asOf_mapFault,
        Outcome.asOf_pure, h, ih]

/-- A candidate stands for an entry: the same literal, or a validator in the relation `R`. -/
def CandidateOf (R : Definition → Validator Clocked → Prop) :
    ChoiceEntry Definition → Candidate Clocked → Prop
  | .literal j, .literal v => v = Value.ofJson j
  | .property d, .validated f => R d f
  | .literal _, .validated _ | .property _, .literal _ => False

/-- The candidates of a choice are those of its entries. -/
theorem candidatesOf_asOf_iff {name : String} {entries : List (ChoiceEntry Definition)} :
    ∀ {candidates : List (Candidate Clocked)},
      (candidatesOf name entries).asOf start = .ok candidates ↔
        List.Forall₂ (CandidateOf fun d f => (validator name d).asOf start = .ok f)
          entries candidates := by
  induction entries with
  | nil => simp [candidatesOf, eq_comm]
  | cons entry rest ih =>
      intro candidates
      cases entry with
      | literal j =>
          simp only [candidatesOf, Outcome.asOf_bind, Outcome.asOf_pure, bind_eq_ok, ih]
          constructor
          · rintro ⟨others, hothers, h⟩
            cases h
            exact .cons rfl hothers
          · intro h
            obtain ⟨candidate, others, hc, hothers, rfl⟩ := List.forall₂_cons_left_iff.1 h
            cases candidate with
            | literal v => exact ⟨others, hothers, by rw [show v = _ from hc]⟩
            | validated f => exact hc.elim
      | property d =>
          simp only [candidatesOf, Outcome.asOf_bind, Outcome.asOf_pure, bind_eq_ok, ih]
          constructor
          · rintro ⟨f, hf, others, hothers, h⟩
            cases h
            exact .cons hf hothers
          · intro h
            obtain ⟨candidate, others, hc, hothers, rfl⟩ := List.forall₂_cons_left_iff.1 h
            cases candidate with
            | literal v => exact hc.elim
            | validated f => exact ⟨f, hc, others, hothers, rfl⟩

/-- What a candidate makes of a value counts before what those behind it make of it. -/
theorem firstMatch_cons_run (candidate : Candidate Clocked) (rest : List (Candidate Clocked))
    (v : Value) : (ChoiceProperty.firstMatch v (candidate :: rest)).run now =
      ((candidate.attempt v).run now).or ((ChoiceProperty.firstMatch v rest).run now) := by
  have hbind : ∀ (action : Clocked (Option Value)) (next : Option Value → Clocked (Option Value)),
      (action >>= next).run now = (next (action.run now)).run now := fun _ _ => rfl
  rw [ChoiceProperty.firstMatch, hbind]
  cases (candidate.attempt v).run now <;> rfl

/-- Candidates that yield the answers of the entries yield together the answer of all. -/
theorem firstMatch_run {entries : List (ChoiceEntry Definition)}
    {candidates : List (Candidate Clocked)}
    (h : List.Forall₂ (CandidateOf fun d f => ∀ v, (f v).asOf now = answer now d v)
      entries candidates) (v : Value) :
    (ChoiceProperty.firstMatch v candidates).run now = answerEntries now entries v := by
  induction h with
  | nil => rfl
  | @cons entry candidate rest others hhead _ ih =>
      rw [firstMatch_cons_run, ih]
      cases entry with
      | literal j =>
          cases candidate with
          | literal l =>
              have hattempt : ((Candidate.literal l).attempt v : Clocked _).run now =
                  if l.equal v then some v else none := rfl
              rw [hattempt, answerEntries, show l = _ from hhead]
              split <;> rfl
          | validated f => exact hhead.elim
      | property d =>
          cases candidate with
          | literal l => exact hhead.elim
          | validated f =>
              have hattempt : ((Candidate.validated f).attempt v).run now =
                  ((f v).asOf now).toOption := rfl
              have hanswer : (f v).asOf now = answer now d v := hhead v
              rw [hattempt, answerEntries, hanswer]
              cases answer now d v <;> rfl

/-! ### Building -/

theorem expect_object (v : Value) :
    Kind.expect [.object] v = (Schema.membersOf v).map fun _ => () := by
  cases v <;> rfl

theorem objectProperty_asOf {fields : List (String × Definition)} {schema : Schema Clocked}
    {strict : Bool} {options : Options} (hsorted : Members.Sorted fields)
    (hstrict : schema.strict = strict)
    (h : List.Forall₂ (fun field part => part.1 = field.1 ∧
      ∀ v, (part.2 v).asOf now = answer now field.2 v) fields schema.fields) (v : Value) :
    (ObjectProperty.validate ⟨options.configure (Property.of [.object]), schema, false⟩ v).asOf now =
      answer now (object fields strict options) v := by
  rw [ObjectProperty.validate, Options.configure_run_asOf, answer]
  refine congrArg₂ _ (funext fun u => ?_) rfl
  simp only [expect_object, Outcome.asOf_bind, Outcome.asOf_of, validateFields_asOf hsorted h,
    ObjectProperty.isStrict, hstrict, Bool.false_or]
  cases u <;> rfl

/-- The check of an array, whose items yield the answers of a definition. -/
theorem check_asOf {f : Validator Clocked} {answer : Value → Except Fault Value}
    (h : ∀ v, (f v).asOf now = answer v) (length : LengthBounds)
    (callback : Option (Value → Value)) (values : List Value) :
    (ArrayProperty.check ⟨f, length.range, callback⟩ (.array values)).asOf now =
      if length.bounds.admits (some values.length) then
        Value.array <$> answerItems answer 0 values
      else .error (Fault.outOfRange ("array of length " ++ Fault.number values.length)) := by
  have hlength : length.bounds.admits (some values.length) =
      ((length.range : Range Clocked Nat).admits (some values.length)).run now := by
    rw [Range.admits_run, LengthBounds.range, Range.literals_boundsAt, LengthBounds.bounds]
  rw [hlength]
  simp only [ArrayProperty.check, ArrayProperty.itemsOf, Outcome.asOf_bind, Outcome.asOf_of,
    Outcome.asOf_liftM, ok_bind]
  generalize ((length.range : Range Clocked Nat).admits (some values.length)).run now = admitted
  cases (admitted : Bool) with
  | true => simp [validateFrom_asOf h]
  | false => rfl

theorem arrayProperty_asOf {items : Definition} {length : LengthBounds} {options : Options}
    {f : Validator Clocked} (h : ∀ v, (f v).asOf now = answer now items v) (v : Value) :
    (ArrayProperty.validate ⟨f, length.range, none⟩ v).asOf now =
      answer now (array items length options) v := by
  have hstand : ∀ u, (ArrayProperty.property ⟨f, length.range, none⟩).standIn now u =
      arrayOptions.standIn u := by
    intro u
    cases u <;> rfl
  rw [ArrayProperty.validate, Options.run_asOf hstand rfl rfl, answer]
  refine congrArg₂ _ (funext fun u => ?_) rfl
  cases u with
  | array values => exact check_asOf h length none values
  | _ => rfl

theorem choiceProperty_asOf {entries : List (ChoiceEntry Definition)} {options : Options}
    {candidates : List (Candidate Clocked)}
    (h : List.Forall₂ (CandidateOf fun d f => ∀ v, (f v).asOf now = answer now d v)
      entries candidates) (v : Value) :
    (ChoiceProperty.validate ⟨options.configure Property.any, candidates⟩ v).asOf now =
      answer now (choice entries options) v := by
  rw [ChoiceProperty.validate, Property.any, Options.configure_run_asOf, answer]
  refine congrArg₂ _ (funext fun u => ?_) rfl
  have hany : Kind.expect [] u = .ok () := Kind.expect_eq_ok.2 (.inl rfl)
  simp only [ok_bind, hany, Outcome.asOf_bind, Outcome.asOf_lift, firstMatch_run h]
  cases answerEntries now entries u <;> rfl

/-- If the validator of each field yields its answers, so do those that are built of the fields. -/
theorem answers_of_fields {fields : List (String × Definition)}
    {built : List (String × Validator Clocked)}
    (hyields : ∀ field ∈ fields, ∀ f, (validator field.1 field.2).asOf start = .ok f →
      ∀ v, (f v).asOf now = answer now field.2 v)
    (hbuilt : List.Forall₂ (fun field part => part.1 = field.1 ∧
      (validator field.1 field.2).asOf start = .ok part.2) fields built) :
    List.Forall₂ (fun field part => part.1 = field.1 ∧
      ∀ v, (part.2 v).asOf now = answer now field.2 v) fields built := by
  have hboth := (List.forall₂_and_left fields built).2 ⟨hyields, hbuilt⟩
  exact hboth.imp fun field part h => ⟨h.2.1, h.1 part.2 h.2.2⟩

/-- If the validator of each definition among the entries yields its answers, so do the candidates
that are built of the entries. -/
theorem answers_of_entries {name : String} {entries : List (ChoiceEntry Definition)}
    {candidates : List (Candidate Clocked)}
    (hyields : ∀ d, .property d ∈ entries → ∀ f, (validator name d).asOf start = .ok f →
      ∀ v, (f v).asOf now = answer now d v)
    (hbuilt : List.Forall₂ (CandidateOf fun d f => (validator name d).asOf start = .ok f)
      entries candidates) :
    List.Forall₂ (CandidateOf fun d f => ∀ v, (f v).asOf now = answer now d v)
      entries candidates := by
  have hentry : ∀ entry ∈ entries, ∀ d, entry = .property d →
      ∀ f, (validator name d).asOf start = .ok f → ∀ v, (f v).asOf now = answer now d v := by
    rintro entry hmem d rfl
    exact hyields d hmem
  have hboth := (List.forall₂_and_left entries candidates).2 ⟨hentry, hbuilt⟩
  refine hboth.imp fun entry candidate h => ?_
  match entry, candidate, h with
  | .literal j, .literal l, h => exact h.2
  | .property d, .validated f, h => exact h.1 d rfl f h.2

/-- **A validator that was built yields the answer of its definition**, at every time. -/
theorem asOf_of_validator {d : Definition} (hd : d.WellFormed) :
    ∀ {name : String} {f : Validator Clocked}, (d.validator name).asOf start = .ok f →
      ∀ v, (f v).asOf now = d.answer now v := by
  induction d with
  | leaf type options =>
      intro name f hf v
      obtain ⟨bare, hbare, hdefault⟩ := bind_eq_ok.1 (by simpa [validator, LeafType.validator] using hf)
      obtain ⟨rfl, -⟩ := Options.checkDefault_asOf.1 hdefault
      exact LeafType.asOf_of_bare hbare v
  | object fields strict options ih =>
      intro name f hf v
      obtain ⟨hsorted, hfields⟩ := everywhere_object.1 hd
      rw [validator, Outcome.asOf_bind] at hf
      obtain ⟨schema, hschema, hdefault⟩ := bind_eq_ok.1 hf
      obtain ⟨rfl, -⟩ := Options.checkDefault_asOf.1 hdefault
      have hnew : ∀ field ∈ fields, field.1 ∉ (Schema.empty name strict : Schema Clocked).names := by
        simp [Schema.names, Schema.empty]
      obtain ⟨built, hbuilt, rfl⟩ := (addFields_asOf_iff hsorted hnew).1 hschema
      have hyields : ∀ field ∈ fields, ∀ f, (validator field.1 field.2).asOf start = .ok f →
          ∀ v, (f v).asOf now = answer now field.2 v :=
        fun field hmem f => ih field hmem (hfields field hmem)
      exact objectProperty_asOf hsorted rfl (answers_of_fields hyields hbuilt) v
  | array items length options ih =>
      intro name f hf v
      rw [validator] at hf
      split at hf
      · cases hf
      · obtain ⟨inner, hinner, hf⟩ := bind_eq_ok.1 ((Outcome.asOf_bind ..).symm.trans hf)
        cases hf
        exact arrayProperty_asOf (ih hd.2 hinner) v
  | choice entries options ih =>
      intro name f hf v
      obtain ⟨-, hentries⟩ := everywhere_choice.1 hd
      rw [validator, Outcome.asOf_bind] at hf
      obtain ⟨candidates, hcandidates, hdefault⟩ := bind_eq_ok.1 hf
      obtain ⟨rfl, -⟩ := Options.checkDefault_asOf.1 hdefault
      have hyields : ∀ d, .property d ∈ entries → ∀ f, (validator name d).asOf start = .ok f →
          ∀ v, (f v).asOf now = answer now d v := fun d hmem f => ih d hmem (hentries d hmem)
      exact choiceProperty_asOf
        (answers_of_entries hyields (candidatesOf_asOf_iff.1 hcandidates)) v

/-! ### Sound definitions -/

/-- The default of a definition, if there is one, is accepted by the definition. -/
def AcceptsDefault (start : DateTime) (d : Definition) : Prop :=
  d.options.default ≠ none → ∃ w, d.answer start .null = .ok w

/-- What a definition has to fulfil besides the definitions within it. -/
def SoundHere (start : DateTime) : Definition → Prop
  | leaf type options => type.Sound start ∧ AcceptsDefault start (leaf type options)
  | array _ _ options => options.default = none
  | object fields strict options => AcceptsDefault start (object fields strict options)
  | choice entries options => AcceptsDefault start (choice entries options)

/-- The definition and all definitions within it fulfil their conditions. -/
abbrev Sound (start : DateTime) (d : Definition) : Prop := d.Everywhere (SoundHere start)

/-- Candidates can be built exactly if every definition among the entries can. -/
theorem exists_forall₂_candidateOf {R : Definition → Validator Clocked → Prop}
    {entries : List (ChoiceEntry Definition)} :
    (∃ candidates, List.Forall₂ (CandidateOf R) entries candidates) ↔
      ∀ d, .property d ∈ entries → ∃ f, R d f := by
  induction entries with
  | nil => simp
  | cons entry rest ih =>
      constructor
      · rintro ⟨_, h⟩ d hmem
        cases h with
        | @cons _ candidate _ others hhead hrest =>
            rcases List.mem_cons.1 hmem with rfl | hmem
            · cases candidate with
              | literal v => exact hhead.elim
              | validated f => exact ⟨f, hhead⟩
            · exact ih.1 ⟨others, hrest⟩ d hmem
      · intro h
        obtain ⟨others, hothers⟩ := ih.2 fun d hmem => h d (List.mem_cons_of_mem _ hmem)
        cases entry with
        | literal j => exact ⟨.literal (Value.ofJson j) :: others, .cons rfl hothers⟩
        | property d =>
            obtain ⟨f, hf⟩ := h d (List.mem_cons_self ..)
            exact ⟨.validated f :: others, .cons hf hothers⟩

/-- Fields can be built exactly if each of them can. -/
theorem exists_forall₂_fields {R : String × Definition → Validator Clocked → Prop}
    {fields : List (String × Definition)} :
    (∃ built : List (String × Validator Clocked),
      List.Forall₂ (fun field part => part.1 = field.1 ∧ R field part.2) fields built) ↔
      ∀ field ∈ fields, ∃ f, R field f := by
  induction fields with
  | nil => simp
  | cons field rest ih =>
      rw [List.forall_mem_cons, ← ih]
      constructor
      · rintro ⟨_, h⟩
        cases h with
        | @cons _ part _ built hhead hrest => exact ⟨⟨part.2, hhead.2⟩, built, hrest⟩
      · rintro ⟨⟨f, hf⟩, built, hbuilt⟩
        exact ⟨(field.1, f) :: built, .cons ⟨rfl, hf⟩ hbuilt⟩

/-- What is built passes the check of the default exactly if the definition accepts its default. -/
theorem exists_checkDefault_iff {γ : Type} (start : DateTime) (d : Definition)
    (part : Outcome Clocked γ) (validatorOf : γ → Validator Clocked)
    (h : ∀ c, part.asOf start = .ok c → (validatorOf c .null).asOf start = d.answer start .null) :
    (∃ f, (part >>= fun c => d.options.checkDefault (validatorOf c)).asOf start = .ok f) ↔
      (∃ c, part.asOf start = .ok c) ∧ AcceptsDefault start d := by
  simp only [Outcome.asOf_bind, bind_eq_ok, Options.checkDefault_asOf]
  constructor
  · rintro ⟨_, c, hc, rfl, hdefault⟩
    refine ⟨⟨c, hc⟩, fun hne => ?_⟩
    rw [← h c hc]
    exact hdefault hne
  · rintro ⟨⟨c, hc⟩, hdefault⟩
    refine ⟨_, c, hc, rfl, fun hne => ?_⟩
    rw [h c hc]
    exact hdefault hne

/-- **A definition has a validator exactly if it is sound**, under whatever name it stands. -/
theorem validator_eq_ok_iff {d : Definition} (hd : d.WellFormed) :
    ∀ {name : String}, (∃ f, (d.validator name).asOf start = .ok f) ↔ d.Sound start := by
  induction d with
  | leaf type options =>
      intro name
      rw [validator, LeafType.validator, Sound, everywhere_leaf, SoundHere,
        ← LeafType.bare_asOf_iff]
      exact exists_checkDefault_iff start (leaf type options) (type.bare options) id
        fun f hf => LeafType.asOf_of_bare hf _
  | object fields strict options ih =>
      intro name
      have hsorted : Members.Sorted fields := hd.1
      have hfields := (everywhere_object.1 hd).2
      have hnew : ∀ field ∈ fields, field.1 ∉ (Schema.empty name strict : Schema Clocked).names := by
        simp [Schema.names, Schema.empty]
      have hbuild := exists_checkDefault_iff start (object fields strict options)
        (addFields (Schema.empty name strict) fields) fun schema =>
          ObjectProperty.validate ⟨options.configure (Property.of [.object]), schema, false⟩
      rw [validator, Sound, everywhere_object]
      refine (hbuild fun schema hschema => ?_).trans (and_comm.trans (and_congr_right fun _ => ?_))
      · obtain ⟨built, hbuilt, rfl⟩ := (addFields_asOf_iff hsorted hnew).1 hschema
        have hyields : ∀ field ∈ fields, ∀ f, (validator field.1 field.2).asOf start = .ok f →
            ∀ v, (f v).asOf start = answer start field.2 v :=
          fun field hmem f => asOf_of_validator (hfields field hmem)
        exact objectProperty_asOf hsorted rfl (answers_of_fields hyields hbuilt) _
      · have hparts : (∀ field ∈ fields, ∃ f, (validator field.1 field.2).asOf start = .ok f) ↔
            ∀ field ∈ fields, field.2.Sound start :=
          forall₂_congr fun field hmem => ih field hmem (hfields field hmem)
        rw [← hparts, ← exists_forall₂_fields]
        simp only [addFields_asOf_iff hsorted hnew]
        exact ⟨fun ⟨_, built, hbuilt, _⟩ => ⟨built, hbuilt⟩,
          fun ⟨built, hbuilt⟩ => ⟨_, built, hbuilt, rfl⟩⟩
  | array items length options ih =>
      intro name
      rw [validator, Sound, everywhere_array, SoundHere]
      cases hdefault : options.default with
      | some j => simp
      | none =>
          simp only [Option.isSome_none, Bool.false_eq_true, if_false, Outcome.asOf_bind,
            bind_eq_ok, Outcome.asOf_pure, true_and]
          have hitems : (∃ f, (validator name items).asOf start = .ok f) ↔
              Everywhere (SoundHere start) items := ih hd.2
          rw [← hitems]
          exact ⟨fun ⟨_, f, hf, _⟩ => ⟨f, hf⟩, fun ⟨f, hf⟩ => ⟨_, f, hf, rfl⟩⟩
  | choice entries options ih =>
      intro name
      have hentries := (everywhere_choice.1 hd).2
      have hbuild := exists_checkDefault_iff start (choice entries options)
        (candidatesOf name entries) fun candidates =>
          ChoiceProperty.validate ⟨options.configure Property.any, candidates⟩
      rw [validator, Sound, everywhere_choice]
      refine (hbuild fun candidates hcandidates => ?_).trans
        (and_comm.trans (and_congr_right fun _ => ?_))
      · have hyields : ∀ d, .property d ∈ entries → ∀ f, (validator name d).asOf start = .ok f →
            ∀ v, (f v).asOf start = answer start d v :=
          fun d hmem f => asOf_of_validator (hentries d hmem)
        exact choiceProperty_asOf
          (answers_of_entries hyields (candidatesOf_asOf_iff.1 hcandidates)) _
      · have hparts : (∀ d, .property d ∈ entries → ∃ f, (validator name d).asOf start = .ok f) ↔
            ∀ d, .property d ∈ entries → d.Sound start :=
          forall₂_congr fun d hmem => ih d hmem (hentries d hmem)
        rw [← hparts, ← exists_forall₂_candidateOf]
        simp only [candidatesOf_asOf_iff]

end Definition

end Conform
