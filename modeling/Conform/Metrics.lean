/-
**Counters.**

Four counters tell how many inputs were accepted, rejected by a schema, or rejected by a limit, and
how many documents were loaded.  They wrap around at 64 bits.

Main definitions:

* `Metrics` — the counters;
* `Metrics.toJson` — the counters written out.
-/

import Conform.Definition.Basic

set_option relaxedAutoImplicit false
set_option autoImplicit false

namespace Conform

/-- The counters. -/
structure Metrics where
  passed : UInt64
  rejected : UInt64
  beyondLimits : UInt64
  loaded : UInt64
deriving DecidableEq

namespace Metrics

/-- All counters at zero. -/
def zero : Metrics := ⟨0, 0, 0, 0⟩

/-- One more input was accepted. -/
def countPassed (metrics : Metrics) : Metrics := { metrics with passed := metrics.passed + 1 }

/-- One more input was rejected by a schema. -/
def countRejected (metrics : Metrics) : Metrics := { metrics with rejected := metrics.rejected + 1 }

/-- One more input was rejected by a limit. -/
def countBeyondLimits (metrics : Metrics) : Metrics :=
  { metrics with beyondLimits := metrics.beyondLimits + 1 }

/-- More documents were loaded. -/
def addLoaded (metrics : Metrics) (count : UInt64) : Metrics :=
  { metrics with loaded := metrics.loaded + count }

/-- How many inputs were judged. -/
def total (metrics : Metrics) : UInt64 := metrics.passed + metrics.rejected + metrics.beyondLimits

/-- The counters written out. -/
def toJson (metrics : Metrics) : Json :=
  .obj [("limit_rejections", Json.ofUInt64 metrics.beyondLimits),
    ("schemas_loaded", Json.ofUInt64 metrics.loaded),
    ("validations_passed", Json.ofUInt64 metrics.passed),
    ("validations_rejected", Json.ofUInt64 metrics.rejected)]

end Metrics

end Conform
