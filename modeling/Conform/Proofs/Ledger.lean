/-
**Calls and their counters.**

Calls give inputs to the schemas of a registry.  They share a ledger: counters, if there are any, and
the journal.  What a call returns is decided by three stages, of which the first that fails counts: its
schema is looked up, its limits are checked, the schema validates its input.  Each stage has faults of
its own kinds, so that a fault tells the stage, and the ledger has no influence.

From one call, which adds to at most one counter, follows what the counters are after any number of
them.

Main definitions:

* `Registry.Call`, `Registry.Ledger` — calls, and what they share;
* `Registry.serve`, `Registry.serveAll` — one call and several;
* `Registry.answer` — what the three stages make of a call;
* `Registry.Judged` — the verdict on a call, with the stages behind it;
* `Registry.Accounts` — what calls return and what their counters are.

Main results:

* `Registry.judged` — the verdict on a call is that of the stage that decides;
* `Registry.metrics_serve`, `Registry.metrics_serveAll` — **what calls add to the counters**;
* `Registry.accounts_of_valid` — **the counters tell how many calls ended in which way**.
-/

import Conform.Proofs.Definition.Violation
import Conform.Proofs.Json.Finite
import Conform.Proofs.Limits
import Conform.Proofs.Registry
import Conform.Verdict

set_option relaxedAutoImplicit false
set_option autoImplicit false

namespace Conform

namespace Registry

variable {registry : Registry} {id version : String} {fault : Fault}

/-! ### The faults of looking up -/

theorem has_eq_true : registry.has id version = true ↔
    ∃ entry, registry.resolve id version = .ok entry := by
  rw [has, Option.isSome_iff_exists]
  exact exists_congr fun entry => resolve_eq_ok.symm

theorem kind_of_resolve (h : registry.resolve id version = .error fault) :
    registry.has id version = false ∧
      (fault.kind = .unknownSchema ∨ fault.kind = .unknownSchemaVersion) := by
  have hnone : registry.has id version = false := by
    rw [Bool.eq_false_iff]
    rintro hhas
    obtain ⟨entry, hentry⟩ := has_eq_true.1 hhas
    cases hentry.symm.trans h
  rw [resolve] at h
  split at h
  · cases h
  · split at h
    · cases h
      exact ⟨hnone, .inr rfl⟩
    · cases h
      exact ⟨hnone, .inl rfl⟩

/-! ### Calls -/

/-- An input for a schema, when it comes, and the limits for it. -/
structure Call where
  now : DateTime
  limits : Limits
  id : String
  version : String
  input : Json

/-- What calls share: counters, if there are any, and the journal. -/
structure Ledger where
  metrics : Option Metrics
  journal : Journal

/-- Judges the input of a call; the verdict is counted and noted. -/
def serve (registry : Registry) (ledger : Ledger) (call : Call) : Except Fault Value × Ledger :=
  let verdict := registry.judge call.limits call.now call.id call.version call.input
  (verdict.result,
    ⟨ledger.metrics.map verdict.count,
      ledger.journal.recordAll (verdict.entries call.id call.version)⟩)

/-- Serves one call after another. -/
def serveAll (registry : Registry) (ledger : Ledger) : List Call → List (Except Fault Value) × Ledger
  | [] => ([], ledger)
  | call :: rest =>
    let (result, ledger) := registry.serve ledger call
    let (results, ledger) := serveAll registry ledger rest
    (result :: results, ledger)

/-- What a call is answered: its schema is looked up, its limits are checked, and the schema validates
its input. -/
def answer (registry : Registry) (call : Call) : Except Fault Value := do
  let entry ← registry.resolve call.id call.version
  call.limits.check call.input
  (entry.schema.validate (Value.ofJson call.input)).asOf call.now

/-- Is there a schema for the call? -/
def isRegistered (registry : Registry) (call : Call) : Bool := registry.has call.id call.version

/-- The verdict on a call, with the stages that led to it. -/
inductive Judged (registry : Registry) (call : Call) : Verdict → Prop
  | unresolved (fault : Fault) (hresolve : registry.resolve call.id call.version = .error fault) :
      Judged registry call (.unresolved fault)
  | beyondLimits (entry : Registered) (fault : Fault)
      (hresolve : registry.resolve call.id call.version = .ok entry)
      (hlimits : call.limits.check call.input = .error fault) :
      Judged registry call (.beyondLimits fault)
  | rejected (entry : Registered) (fault : Fault)
      (hresolve : registry.resolve call.id call.version = .ok entry)
      (hlimits : call.limits.check call.input = .ok ())
      (hschema : (entry.schema.validate (Value.ofJson call.input)).asOf call.now = .error fault) :
      Judged registry call (.rejected fault)
  | passed (entry : Registered) (value : Value)
      (hresolve : registry.resolve call.id call.version = .ok entry)
      (hlimits : call.limits.check call.input = .ok ())
      (hschema : (entry.schema.validate (Value.ofJson call.input)).asOf call.now = .ok value) :
      Judged registry call (.passed value)

/-- The verdict on a call is that of the first stage that fails. -/
theorem judged (registry : Registry) (call : Call) : Judged registry call
    (registry.judge call.limits call.now call.id call.version call.input) := by
  rw [judge]
  cases hresolve : registry.resolve call.id call.version with
  | error fault => exact .unresolved fault hresolve
  | ok entry =>
      simp only
      cases hlimits : call.limits.check call.input with
      | error fault => exact .beyondLimits entry fault hresolve hlimits
      | ok _ =>
          simp only
          cases hschema : (entry.schema.validate (Value.ofJson call.input)).run call.now with
          | error fault => exact .rejected entry fault hresolve hlimits hschema
          | ok value => exact .passed entry value hresolve hlimits hschema

/-- The result of the verdict is what the stages make of the call. -/
theorem Judged.result_eq {call : Call} {verdict : Verdict} (h : Judged registry call verdict) :
    verdict.result = registry.answer call := by
  cases h with
  | unresolved fault hresolve => simp [answer, hresolve, Verdict.result]
  | beyondLimits entry fault hresolve hlimits => simp [answer, hresolve, hlimits, Verdict.result]
  | rejected entry fault hresolve hlimits hschema =>
      simp [answer, hresolve, hlimits, hschema, Verdict.result]
  | passed entry value hresolve hlimits hschema =>
      simp [answer, hresolve, hlimits, hschema, Verdict.result]

/-- Each call has a verdict, and the result of this is what the call is answered. -/
theorem exists_judged (registry : Registry) (call : Call) : ∃ verdict,
    registry.judge call.limits call.now call.id call.version call.input = verdict ∧
      Judged registry call verdict ∧ verdict.result = registry.answer call :=
  ⟨_, rfl, registry.judged call, (registry.judged call).result_eq⟩

/-- The schemas of a valid registry find fault with inputs only. -/
theorem Valid.judges (h : registry.Valid) {entry : Registered}
    (hresolve : registry.resolve id version = .ok entry) : Validator.Judges entry.schema.validate := by
  obtain ⟨t, ht⟩ := h.compiled entry (key_of_get? (resolve_eq_ok.1 hresolve)).1
  exact Document.violating_schema ht

/-! ### Counters -/

/-- The kind of fault that a call ended with, if it did. -/
def failure? : Except Fault Value → Option Fault.Class
  | .ok _ => none
  | .error fault => some fault.kind

/-- The call has a result. -/
def passes (registry : Registry) (call : Call) : Bool := failure? (registry.answer call) = none

/-- The call fails over a limit. -/
def exceeds (registry : Registry) (call : Call) : Bool :=
  failure? (registry.answer call) = some .limitExceeded

/-- There is a schema for the call, and it fails otherwise than over a limit. -/
def rejects (registry : Registry) (call : Call) : Bool :=
  registry.isRegistered call && !registry.passes call && !registry.exceeds call

/-- What a verdict adds to the counters is told by the result of the call. -/
theorem Judged.count_eq {call : Call} {verdict : Verdict} (hvalid : registry.Valid)
    (h : Judged registry call verdict) (metrics : Metrics) :
    verdict.count metrics =
      ⟨metrics.passed + UInt64.ofNat (registry.passes call).toNat,
        metrics.rejected + UInt64.ofNat (registry.rejects call).toNat,
        metrics.beyondLimits + UInt64.ofNat (registry.exceeds call).toNat, metrics.loaded⟩ := by
  have hanswer := h.result_eq
  cases h with
  | unresolved fault hresolve =>
      obtain ⟨hnone, hkind⟩ := kind_of_resolve hresolve
      have hlimit : fault.kind ≠ .limitExceeded := by
        rintro h
        rw [h] at hkind
        simp at hkind
      simp [Verdict.count, passes, rejects, exceeds, isRegistered, failure?, ← hanswer, hnone, hlimit,
        Verdict.result]
  | beyondLimits entry fault hresolve hlimits =>
      have hkind := Limits.kind_of_check hlimits
      simp [Verdict.count, Metrics.countBeyondLimits, passes, rejects, exceeds, failure?, ← hanswer,
        hkind, Verdict.result]
  | rejected entry fault hresolve hlimits hschema =>
      have hhas := has_eq_true.2 ⟨entry, hresolve⟩
      have hkind := (Fault.isViolation_iff.1 (hvalid.judges hresolve _ _ fault hschema)).2
      simp [Verdict.count, Metrics.countRejected, passes, rejects, exceeds, isRegistered, failure?,
        ← hanswer, hhas, hkind, Verdict.result]
  | passed entry value hresolve hlimits hschema =>
      simp [Verdict.count, Metrics.countPassed, passes, rejects, exceeds, failure?, ← hanswer,
        Verdict.result]

/-- **What a call adds to the counters.** -/
theorem metrics_serve (hvalid : registry.Valid) (ledger : Ledger) (call : Call) :
    (registry.serve ledger call).2.metrics = ledger.metrics.map fun metrics =>
      ⟨metrics.passed + UInt64.ofNat (registry.passes call).toNat,
        metrics.rejected + UInt64.ofNat (registry.rejects call).toNat,
        metrics.beyondLimits + UInt64.ofNat (registry.exceeds call).toNat, metrics.loaded⟩ :=
  congrArg ledger.metrics.map (funext ((registry.judged call).count_eq hvalid))

/-- **What several calls add to the counters.** -/
theorem metrics_serveAll (hvalid : registry.Valid) (calls : List Call) : ∀ ledger : Ledger,
    (registry.serveAll ledger calls).2.metrics = ledger.metrics.map fun metrics =>
      ⟨metrics.passed + UInt64.ofNat (calls.countP registry.passes),
        metrics.rejected + UInt64.ofNat (calls.countP registry.rejects),
        metrics.beyondLimits + UInt64.ofNat (calls.countP registry.exceeds), metrics.loaded⟩ := by
  induction calls with
  | nil =>
      intro ledger
      simp [serveAll]
  | cons call rest ih =>
      intro ledger
      have hcount : ∀ p : Call → Bool, ∀ n : UInt64,
          n + UInt64.ofNat (p call).toNat + UInt64.ofNat (rest.countP p) =
            n + UInt64.ofNat ((call :: rest).countP p) := by
        intro p n
        rw [UInt64.add_assoc, ← UInt64.ofNat_add, List.countP_cons, Nat.add_comm (rest.countP p)]
        cases p call <;> rfl
      rw [serveAll, ih, metrics_serve hvalid, Option.map_map]
      refine congrArg ledger.metrics.map (funext fun metrics => ?_)
      simp only [Function.comp_apply, hcount]

/-- What calls return does not depend on the ledger. -/
theorem results_serveAll (registry : Registry) (calls : List Call) : ∀ ledger : Ledger,
    (registry.serveAll ledger calls).1 = calls.map registry.answer := by
  induction calls with
  | nil => exact fun ledger => rfl
  | cons call rest ih =>
      intro ledger
      rw [serveAll, List.map_cons, ← (registry.judged call).result_eq, ← ih]
      rfl

/-! ### The stage that fails -/

theorem isRegistered_eq_true {call : Call} : registry.isRegistered call = true ↔
    ∃ entry, registry.resolve call.id call.version = .ok entry := has_eq_true

/-- A call fails over a limit exactly if there is a schema for it and its limits are not kept. -/
theorem exceeds_iff (hvalid : registry.Valid) {call : Call} : registry.exceeds call = true ↔
    registry.isRegistered call = true ∧ ∃ fault, call.limits.check call.input = .error fault := by
  rw [isRegistered_eq_true, exceeds, decide_eq_true_eq]
  obtain ⟨verdict, -, h, hanswer⟩ := registry.exists_judged call
  rw [← hanswer]
  cases h with
  | unresolved fault hresolve =>
      obtain ⟨-, hkind | hkind⟩ := kind_of_resolve hresolve <;>
        simp [Verdict.result, failure?, hkind, hresolve]
  | beyondLimits entry fault hresolve hlimits =>
      simp [Verdict.result, failure?, Limits.kind_of_check hlimits, hresolve, hlimits]
  | rejected entry fault hresolve hlimits hschema =>
      have hkind := (Fault.isViolation_iff.1 (hvalid.judges hresolve _ _ fault hschema)).2
      simp [Verdict.result, failure?, hkind, hlimits]
  | passed entry value hresolve hlimits hschema =>
      simp [Verdict.result, failure?, hlimits]

/-- A call fails in the registry exactly if there is no schema for it. -/
theorem failure?_eq_unknown_iff (hvalid : registry.Valid) {call : Call} :
    (failure? (registry.answer call) = some .unknownSchema ∨
      failure? (registry.answer call) = some .unknownSchemaVersion) ↔
        registry.isRegistered call = false := by
  rw [← Bool.not_eq_true, isRegistered_eq_true]
  obtain ⟨verdict, -, h, hanswer⟩ := registry.exists_judged call
  rw [← hanswer]
  cases h with
  | unresolved fault hresolve =>
      simpa [Verdict.result, failure?, hresolve] using (kind_of_resolve hresolve).2
  | beyondLimits entry fault hresolve hlimits =>
      simp [Verdict.result, failure?, Limits.kind_of_check hlimits, hresolve]
  | rejected entry fault hresolve hlimits hschema =>
      have hkind := (Fault.isViolation_iff.1 (hvalid.judges hresolve _ _ fault hschema)).1
      have hknown : ∀ kind : Fault.Class, kind.blamesInput = false → fault.kind ≠ kind := by
        rintro kind hblame rfl
        cases hkind.symm.trans hblame
      simpa [Verdict.result, failure?, hresolve] using ⟨hknown _ rfl, hknown _ rfl⟩
  | passed entry value hresolve hlimits hschema =>
      simp [Verdict.result, failure?, hresolve]

/-- A call that has a result has a schema. -/
theorem isRegistered_of_passes {call : Call} (h : registry.passes call = true) :
    registry.isRegistered call = true := by
  rw [passes, decide_eq_true_eq] at h
  cases hanswer : registry.answer call with
  | error fault =>
      rw [hanswer] at h
      cases h
  | ok value =>
      obtain ⟨entry, hentry, -⟩ := bind_eq_ok.1 hanswer
      exact isRegistered_eq_true.2 ⟨entry, hentry⟩

/-- A call for which there is a schema ends in just one of the three ways that are counted. -/
theorem toNat_isRegistered (hvalid : registry.Valid) (call : Call) :
    (registry.passes call).toNat + (registry.rejects call).toNat + (registry.exceeds call).toNat =
      (registry.isRegistered call).toNat := by
  have hpasses := @isRegistered_of_passes registry call
  have hexceeds : registry.exceeds call = true → registry.isRegistered call = true :=
    fun h => ((exceeds_iff hvalid).1 h).1
  have hone : registry.passes call = true → registry.exceeds call = false := by
    simp only [passes, exceeds, decide_eq_true_eq, decide_eq_false_iff_not]
    intro h
    simp [h]
  rw [rejects]
  revert hpasses hexceeds hone
  cases registry.passes call <;> cases registry.exceeds call <;>
    cases registry.isRegistered call <;> simp

theorem countP_isRegistered (hvalid : registry.Valid) (calls : List Call) :
    calls.countP registry.passes + calls.countP registry.rejects + calls.countP registry.exceeds =
      calls.countP registry.isRegistered := by
  induction calls with
  | nil => rfl
  | cons call rest ih =>
      have hcount : ∀ p : Call → Bool, (call :: rest).countP p = rest.countP p + (p call).toNat := by
        intro p
        rw [List.countP_cons]
        cases p call <;> rfl
      have hcall := toNat_isRegistered hvalid call
      simp only [hcount]
      omega

/-! ### Accounts -/

/-- What calls that share a ledger return, and what their counters are. -/
structure Accounts (registry : Registry) (calls : List Call) : Prop where
  /-- each call returns what the three stages make of it, whatever the ledger is, with or without
  counters, and whatever came before -/
  results : ∀ ledger, (registry.serveAll ledger calls).1 = calls.map registry.answer
  /-- from zero on, the counters tell how many calls had a result, failed over a limit, or failed in
  another way though there was a schema for them; together, for how many there was one -/
  counters : calls.length < 2 ^ 64 → ∀ loaded journal, ∃ after,
    (registry.serveAll ⟨some (Metrics.zero.addLoaded loaded), journal⟩ calls).2.metrics = some after ∧
      after.passed.toNat = calls.countP registry.passes ∧
      after.beyondLimits.toNat = calls.countP registry.exceeds ∧
      after.rejected.toNat = calls.countP registry.rejects ∧
      after.total.toNat = calls.countP registry.isRegistered ∧
      after.loaded = loaded
  /-- a call for which there is no schema changes nothing -/
  unregistered : ∀ call, registry.isRegistered call = false →
    ∀ ledger, (registry.serve ledger call).2 = ledger
  /-- a call fails in the registry exactly if there is no schema for it -/
  unknown_iff : ∀ call, (failure? (registry.answer call) = some .unknownSchema ∨
    failure? (registry.answer call) = some .unknownSchemaVersion) ↔
      registry.isRegistered call = false
  /-- a call fails over a limit exactly if there is a schema for it and its limits are not kept -/
  exceeds_iff : ∀ call, failure? (registry.answer call) = some .limitExceeded ↔
    registry.isRegistered call = true ∧ ∃ fault, call.limits.check call.input = .error fault
  /-- a schema blames the input, whatever that is, and knows no limits -/
  schema : ∀ id version entry, registry.resolve id version = .ok entry →
    ∀ v now fault, (entry.schema.validate v).asOf now = .error fault →
      fault.kind.blamesInput = true ∧ fault.kind ≠ .limitExceeded

/-- Less than 2^64 calls do not wrap a counter around. -/
theorem toNat_ofNat_countP {calls : List Call} (hlength : calls.length < 2 ^ 64) (p : Call → Bool) :
    (UInt64.ofNat (calls.countP p)).toNat = calls.countP p := by
  rw [UInt64.toNat_ofNat']
  exact Nat.mod_eq_of_lt (calls.countP_le_length.trans_lt hlength)

/-- **The counters tell how many calls ended in which way**, and what a call returns is decided by its
schema, its limits and its input alone. -/
theorem accounts_of_valid (hvalid : registry.Valid) (calls : List Call) : Accounts registry calls where
  results := registry.results_serveAll calls
  counters := by
    intro hlength loaded journal
    refine ⟨_, metrics_serveAll hvalid calls _, ?_⟩
    have htotal := countP_isRegistered hvalid calls
    have hle : calls.countP registry.isRegistered ≤ calls.length := calls.countP_le_length
    simp only [Metrics.total, Metrics.zero, Metrics.addLoaded, UInt64.zero_add, UInt64.toNat_add,
      toNat_ofNat_countP hlength, true_and, and_true]
    omega
  unregistered := by
    intro call hnone ledger
    rw [← Bool.not_eq_true, isRegistered_eq_true] at hnone
    obtain ⟨verdict, hverdict, h, -⟩ := registry.exists_judged call
    rw [serve, hverdict]
    cases h with
    | unresolved fault hresolve =>
        show (⟨ledger.metrics.map fun metrics => metrics, ledger.journal⟩ : Ledger) = ledger
        rw [Option.map_id']
    | beyondLimits entry _ hresolve => exact absurd ⟨entry, hresolve⟩ hnone
    | rejected entry _ hresolve => exact absurd ⟨entry, hresolve⟩ hnone
    | passed entry _ hresolve => exact absurd ⟨entry, hresolve⟩ hnone
  unknown_iff := fun call => failure?_eq_unknown_iff hvalid
  exceeds_iff := fun call => by
    rw [← Registry.exceeds_iff hvalid, exceeds, decide_eq_true_eq]
  schema := fun _ _ _ hresolve v now fault hfault =>
    Fault.isViolation_iff.1 (hvalid.judges hresolve v now fault hfault)

/-- A registry with one document, which declares no fields. -/
def counter : Registry := (run "schemas" ⟨empty, (⟨[], []⟩ : Files), .empty⟩
  [.operation .epoch (.register ⟨"order", "1", none, false, []⟩)]).registry

theorem valid_counter : counter.Valid :=
  (grows_run "schemas" _ ⟨empty, (⟨[], []⟩ : Files), .empty⟩).valid valid_empty

/-- Four calls: one has a result, one an input of another kind, one too many values, one no schema. -/
def visits : List Call :=
  [⟨.epoch, .standard, "order", "1", .obj []⟩, ⟨.epoch, .standard, "order", "1", .bool true⟩,
    ⟨.epoch, ⟨32, 0⟩, "order", "1", .obj []⟩, ⟨.epoch, .standard, "order", "2", .obj []⟩]

theorem accounts_of_valid_counter : counter.Valid ∧ Accounts counter visits ∧
    ∃ after, (counter.serveAll ⟨some .zero, .empty⟩ visits).2.metrics = some after ∧
      after.passed.toNat = 1 ∧ after.rejected.toNat = 1 ∧ after.beyondLimits.toNat = 1 ∧
      after.total.toNat = 3 := by
  have haccounts := accounts_of_valid valid_counter visits
  obtain ⟨after, hafter, hpassed, hexceeds, hrejected, htotal, -⟩ :=
    haccounts.counters (by decide) 0 .empty
  exact ⟨valid_counter, haccounts, after, hafter, hpassed, hrejected, hexceeds, htotal⟩

end Registry

end Conform
