/-
**The journal.**

What happens is noted in a journal, one line to an entry.  An entry has a severity, the name of an
event, and fields; a journal takes the entries of its level and above.  A line is an object: the
event, the severity, and the fields sorted by their keys.

Main definitions:

* `Severity` — the five severities;
* `Event` — the events of this library;
* `Entry`, `Entry.line` — an entry and its line;
* `Journal`, `Journal.record` — the entries taken so far.
-/

import Conform.Json.Writer

set_option relaxedAutoImplicit false
set_option autoImplicit false

namespace Conform

/-! ### Severities -/

/-- How grave an entry is. -/
inductive Severity where
  /-- details of single calls -/
  | trace
  /-- normal operation -/
  | info
  /-- trouble that was overcome -/
  | warn
  /-- an operation that failed -/
  | error
  /-- a failure that ends the program -/
  | fatal
deriving DecidableEq

namespace Severity

/-- The rank; graver is higher. -/
def rank : Severity → Nat
  | trace => 0
  | info => 1
  | warn => 2
  | error => 3
  | fatal => 4

/-- The name. -/
def name : Severity → String
  | trace => "TRACE"
  | info => "INFO"
  | warn => "WARN"
  | error => "ERROR"
  | fatal => "FATAL"

/-- The severity of a name, in letters of any case; `warning` is another name of `warn`. -/
def ofName? (name : String) : Option Severity :=
  let lower := String.ofList (name.toList.map Char.toLower)
  if lower = "trace" then some trace
  else if lower = "info" then some info
  else if lower = "warn" ∨ lower = "warning" then some warn
  else if lower = "error" then some error
  else if lower = "fatal" then some fatal
  else none

end Severity

/-! ### Events -/

/-- What can happen. -/
inductive Event where
  | configLoaded
  | schemaLoaded
  | schemasLoaded
  | schemaLoadFailed
  | validationPassed
  | validationRejected
  | limitRejected
deriving DecidableEq

namespace Event

/-- The name in the journal. -/
def name : Event → String
  | configLoaded => "CONFIG_LOADED"
  | schemaLoaded => "SCHEMA_LOADED"
  | schemasLoaded => "SCHEMAS_LOADED"
  | schemaLoadFailed => "SCHEMA_LOAD_FAILED"
  | validationPassed => "VALIDATION_PASSED"
  | validationRejected => "VALIDATION_REJECTED"
  | limitRejected => "VALIDATION_LIMIT_REJECTED"

/-- Does the program end with it? -/
def isFatal (event : Event) : Bool := event = schemaLoadFailed

/-- The severity of an event in the life of the program. -/
def severity (event : Event) : Severity := if event.isFatal then .fatal else .info

end Event

/-! ### Entries -/

/-- Something to note. -/
structure Entry where
  severity : Severity
  event : String
  fields : List (String × String)
deriving DecidableEq

namespace Entry

/-- The entry of an event in the life of the program. -/
def ofEvent (event : Event) (fields : List (String × String)) : Entry :=
  ⟨event.severity, event.name, fields⟩

/-- The entry of an event within a single call. -/
def ofDetail (event : Event) (fields : List (String × String)) : Entry :=
  ⟨.trace, event.name, fields⟩

/-- The fields, sorted by their keys; fields of one key keep their order. -/
def sortedFields (entry : Entry) : List (String × String) :=
  entry.fields.mergeSort fun a b => decide (a.1 ≤ b.1)

/-- The entry as an object. -/
def toJson (entry : Entry) : Json :=
  .obj (("event", .str entry.event) :: ("severity", .str entry.severity.name) ::
    entry.sortedFields.map fun field => (field.1, .str field.2))

/-- The line of an entry, without its end. -/
def text (entry : Entry) : String := entry.toJson.compact

/-- The line of an entry. -/
def line (entry : Entry) : String := entry.text ++ "\n"

end Entry

/-! ### Journals -/

/-- The least severity that is noted, and the entries taken so far. -/
structure Journal where
  level : Severity
  entries : List Entry
deriving DecidableEq

namespace Journal

/-- A journal that takes what is normal or graver, still empty. -/
def empty : Journal := ⟨.info, []⟩

/-- Are entries of the severity taken? -/
def takes (journal : Journal) (severity : Severity) : Bool :=
  decide (journal.level.rank ≤ severity.rank)

/-- The journal with the entry, if it is taken. -/
def record (journal : Journal) (entry : Entry) : Journal :=
  if journal.takes entry.severity then { journal with entries := journal.entries ++ [entry] }
  else journal

/-- The journal with several entries, in their order. -/
def recordAll (journal : Journal) (entries : List Entry) : Journal := entries.foldl record journal

end Journal

end Conform
