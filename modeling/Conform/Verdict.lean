/-
**Verdicts.**

An input is judged against a registered schema in three stages: the schema is looked up, the limits
are checked, and the schema validates the input.  The first stage that fails decides.  What was judged
is counted and noted; an input for a schema that is not registered is neither.

Main definitions:

* `Verdict` — how far an input came, and with what result;
* `Registry.judge` — the verdict on an input;
* `Verdict.result`, `Verdict.count`, `Verdict.entries` — its result, its count and its entry.
-/

import Conform.Limits
import Conform.Metrics
import Conform.Registry

set_option relaxedAutoImplicit false
set_option autoImplicit false

namespace Conform

/-- How far an input came. -/
inductive Verdict where
  /-- there is no such schema -/
  | unresolved (fault : Fault)
  /-- the input is too deep or too large -/
  | beyondLimits (fault : Fault)
  /-- the schema rejects the input -/
  | rejected (fault : Fault)
  /-- the schema accepts the input -/
  | passed (value : Value)

/-- The verdict on an input, whose tree is canonical. -/
def Registry.judge (registry : Registry) (limits : Limits) (now : DateTime) (id version : String)
    (input : Json) : Verdict :=
  match registry.resolve id version with
  | .error fault => .unresolved fault
  | .ok entry =>
    match limits.check input with
    | .error fault => .beyondLimits fault
    | .ok () =>
      match (entry.schema.validate (Value.ofJson input)).run now with
      | .error fault => .rejected fault
      | .ok value => .passed value

namespace Verdict

/-- The validated value, or the fault of the stage that decided. -/
def result : Verdict → Except Fault Value
  | unresolved fault | beyondLimits fault | rejected fault => .error fault
  | passed value => .ok value

/-- The counters behind the verdict. -/
def count (metrics : Metrics) : Verdict → Metrics
  | unresolved _ => metrics
  | beyondLimits _ => metrics.countBeyondLimits
  | rejected _ => metrics.countRejected
  | passed _ => metrics.countPassed

/-- What is noted of the verdict on an input for a schema. -/
def entries (id version : String) : Verdict → List Entry
  | unresolved _ => []
  | beyondLimits fault => [Entry.ofDetail .limitRejected
      [("schema_id", id), ("schema_version", version), ("message", fault.message)]]
  | rejected fault => [Entry.ofDetail .validationRejected
      [("schema_id", id), ("schema_version", version), ("code", fault.kind.code),
        ("path", fault.path)]]
  | passed _ => [Entry.ofDetail .validationPassed
      [("schema_id", id), ("schema_version", version)]]

end Verdict

end Conform
