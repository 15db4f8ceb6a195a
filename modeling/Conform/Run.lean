/-
**Running commands.**

A command loads the configuration, sets the level of the journal, and loads all schema documents.
Then `validate` reads its input and judges it, and `check` reports what is registered.  The first
stage that fails ends the command.  The answer is one line: an object with the data, or with the code,
the message and perhaps the path of the fault.

Main definitions:

* `CommandFault` — why a command fails;
* `Command.boot` — what all commands begin with;
* `Command.run` — the answer to a command;
* `Answer.line` — the answer as a line;
* `Command.respond` — what a command writes, and whether it succeeds.
-/

import Conform.Arguments
import Conform.Config
import Conform.Text.Blank
import Conform.Verdict

set_option relaxedAutoImplicit false
set_option autoImplicit false

namespace Conform

/-! ### Faults -/

/-- Why a command fails. -/
inductive CommandFault where
  | config (fault : ConfigFault)
  /-- the input cannot be read -/
  | unreadable (fault : FileFault)
  /-- the input is no document -/
  | unparsable
  /-- the input holds nothing but blanks -/
  | emptyInput
  | schema (fault : Fault)
deriving DecidableEq

namespace CommandFault

/-- The code of a fault. -/
def code : CommandFault → String
  | config _ => "CLI_CONFIG_ERROR"
  | unreadable _ => "CLI_IO_ERROR"
  | unparsable | emptyInput => "CLI_INVALID_INPUT"
  | schema fault => fault.kind.code

/-- The fault in words, without its place. -/
def message : CommandFault → String
  | config fault => fault.message
  | unreadable fault => "I/O error: " ++ fault.message
  | unparsable => "invalid JSON input: not a JSON document"
  | emptyInput => "empty input"
  | schema fault => fault.message

/-- The place of a fault in the input. -/
def path : CommandFault → String
  | schema fault => fault.path
  | config _ | unreadable _ | unparsable | emptyInput => ""

/-- The fault on one line. -/
def text : CommandFault → String
  | schema fault => fault.text
  | fault => fault.message

end CommandFault

/-! ### Answers -/

/-- The answer to a command. -/
abbrev Answer := Except CommandFault Json

namespace Answer

/-- The answer as an object, its members sorted by name. -/
def toJson : Answer → Json
  | .ok data => .obj [("data", data), ("status", .str "ok")]
  | .error fault =>
    .obj ([("code", .str fault.code), ("message", .str fault.message)]
      ++ (if fault.path = "" then [] else [("path", .str fault.path)])
      ++ [("status", .str "error")])

/-- The answer as a line, without its end. -/
def text (answer : Answer) : String := (toJson answer).compact

/-- The answer as a line. -/
def line (answer : Answer) : String := text answer ++ "\n"

end Answer

/-! ### Inputs -/

/-- The document of a text, canonical. -/
def inputOfText (text : String) : Except CommandFault Json :=
  if Text.isBlankText text then .error .emptyInput
  else match Json.read? text with
    | some j => .ok j.canonical
    | none => .error .unparsable

/-- The document of bytes. -/
def inputOfBytes (bytes : Except FileFault ByteArray) : Except CommandFault Json :=
  match bytes >>= textOfBytes with
  | .error fault => .error (.unreadable fault)
  | .ok text => inputOfText text

/-! ### Commands -/

/-- What a command works with. -/
structure Session where
  config : Config
  registry : Registry
  metrics : Metrics

namespace Session

/-- The report on one document. -/
def describe (document : Document) : Json :=
  .obj [("fields", .arr (document.fields.map fun field => .str field.1)),
    ("schema_id", .str document.id), ("schema_version", .str document.version),
    ("strict", .bool document.strict)]

/-- The report on all documents. -/
def report (session : Session) : Json :=
  let schemas := session.registry.keys.filterMap fun key =>
    (session.registry.get? key.1 key.2).map fun entry => describe entry.document
  .obj [("count", .int (Int64.ofNat schemas.length)), ("metrics", session.metrics.toJson),
    ("schema_dir", .str session.config.directory), ("schemas", .arr schemas)]

end Session

namespace Command

variable {m : Type → Type} [Monad m] [FileSystem m] [MonadReaderOf DateTime m]
  [MonadStateOf Journal m]

/-- The configuration of a file, and its level for the journal. -/
def configure (path : String) : m (Except CommandFault Config) := do
  match ← Config.load path with
  | .error fault => return .error (.config fault)
  | .ok config =>
    match config.severity with
    | .error fault => return .error (.config fault)
    | .ok severity =>
      modifyThe Journal ({ · with level := severity })
      Registry.note (Entry.ofEvent .configLoaded [("schema_dir", config.directory)])
      return .ok config

/-- The configuration and the registry that all commands begin with. -/
def boot (path : String) : m (Except CommandFault Session) := do
  match ← configure path with
  | .error fault => return .error fault
  | .ok config =>
    match ← Registry.empty.loadAll config.directory with
    | (_, .error fault) => return .error (.schema fault)
    | (registry, .ok count) =>
      return .ok ⟨config, registry, Metrics.zero.addLoaded (UInt64.ofNat count)⟩

/-- Judges an input, and notes the verdict. -/
def judge (session : Session) (schema version : String) (input : Json) :
    m (Except CommandFault Json) := do
  let now ← readThe DateTime
  let verdict := session.registry.judge session.config.limits now schema version input
  modifyThe Journal (·.recordAll (verdict.entries schema version))
  match verdict.result with
  | .error fault => return .error (.schema fault)
  | .ok value => return .ok value.toJson

/-- The answer to a command, where `standardInput` reads the input if it is not in a file. -/
def run (standardInput : m (Except FileFault ByteArray)) : Command → m Answer
  | validate config schema version input => do
    match ← boot config with
    | .error fault => return .error fault
    | .ok session =>
      let bytes ← match input with
        | some path => FileSystem.read path
        | none => standardInput
      match inputOfBytes bytes with
      | .error fault => return .error fault
      | .ok input => judge session schema version input
  | check config => do
    match ← boot config with
    | .error fault => return .error fault
    | .ok session => return .ok session.report

/-- Writes the answer to a command behind what stands on standard output, and succeeds if the command
does. -/
def respond (standardInput : m (Except FileFault ByteArray)) (command : Command) :
    StateT String m (Except CommandFault Unit) := do
  let answer ← (command.run standardInput : m Answer)
  modify (· ++ Answer.line answer)
  return answer.map fun _ => ()

end Command

end Conform
