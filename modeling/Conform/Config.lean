/-
**Configuration.**

A configuration names the directory of the schema documents, and may set the limits on inputs and the
level of the journal.  It is read from an object, or from an array of its members in their order, of
which the last ones may be missing.  A relative directory lies where the configuration itself lies.

Main definitions:

* `Config` — the settings;
* `ConfigFault`, `ConfigFault.message` — why there is no configuration;
* `Config.parse`, `Config.load` — the configuration of a text and of a file.
-/

import Conform.Definition.Reader
import Conform.Files.Basic
import Conform.Journal
import Conform.Limits

set_option relaxedAutoImplicit false
set_option autoImplicit false

namespace Conform

/-- The settings. -/
structure Config where
  /-- where the schema documents lie -/
  directory : String
  maxDepth : UInt64
  maxNodes : UInt64
  /-- the name of the level of the journal -/
  logLevel : String
deriving DecidableEq

/-- Why there is no configuration. -/
inductive ConfigFault where
  /-- the file cannot be read -/
  | unreadable (path : String) (fault : FileFault)
  /-- the text is no configuration -/
  | unparsable
  | emptyDirectory
  | noDepth
  | noNodes
  | unknownLevel (name : String)
deriving DecidableEq

/-- The fault in words. -/
def ConfigFault.message : ConfigFault → String
  | unreadable path fault => "failed to read config " ++ path ++ ": " ++ fault.message
  | unparsable => "invalid config JSON: not a configuration"
  | emptyDirectory => "invalid config: schema_dir must not be empty"
  | noDepth => "invalid config: max_depth must be > 0"
  | noNodes => "invalid config: max_nodes must be > 0"
  | unknownLevel name => "invalid config: unknown log_level '" ++ name ++ "'"

namespace Config

/-- The depth where none is set. -/
def standardDepth : UInt64 := 32

/-- The number of values where none is set. -/
def standardNodes : UInt64 := 10000

/-- The level where none is set. -/
def standardLevel : String := "info"

/-- The members of a configuration, in their order. -/
def members : List String := ["schema_dir", "max_depth", "max_nodes", "log_level"]

/-- A member of an array, or what stands for it where the array has ended. -/
def memberAt? {α : Type} (read : Json → Option α) (fallback : α) : List Json → Nat → Option α :=
  fun items index =>
    match items[index]? with
    | some j => read j
    | none => some fallback

/-- The configuration of a tree. -/
def ofJson? : Json → Option Config
  | .obj members => do
    some ⟨← Json.required? Json.asString? members "schema_dir",
      ← Json.withDefault? Json.asUInt64? standardDepth members "max_depth",
      ← Json.withDefault? Json.asUInt64? standardNodes members "max_nodes",
      ← Json.withDefault? Json.asString? standardLevel members "log_level"⟩
  | .arr (directory :: rest) =>
    if rest.length ≤ 3 then do
      some ⟨← directory.asString?, ← memberAt? Json.asUInt64? standardDepth rest 0,
        ← memberAt? Json.asUInt64? standardNodes rest 1,
        ← memberAt? Json.asString? standardLevel rest 2⟩
    else none
  | _ => none

/-- A configuration written out. -/
def toJson (config : Config) : Json :=
  .obj [("schema_dir", .str config.directory), ("max_depth", Json.ofUInt64 config.maxDepth),
    ("max_nodes", Json.ofUInt64 config.maxNodes), ("log_level", .str config.logLevel)]

/-- The level of the journal. -/
def severity (config : Config) : Except ConfigFault Severity :=
  match Severity.ofName? config.logLevel with
  | some severity => .ok severity
  | none => .error (.unknownLevel config.logLevel)

/-- The limits on inputs. -/
def limits (config : Config) : Limits := ⟨config.maxDepth.toNat, config.maxNodes.toNat⟩

/-- The configuration, if its settings make sense. -/
def validated (config : Config) : Except ConfigFault Config :=
  if config.directory = "" then .error .emptyDirectory
  else if config.maxDepth = 0 then .error .noDepth
  else if config.maxNodes = 0 then .error .noNodes
  else config.severity.map fun _ => config

/-- The configuration of a text. -/
def parse (text : String) : Except ConfigFault Config :=
  match Json.readRecord? members text >>= ofJson? with
  | some config => config.validated
  | none => .error .unparsable

/-- The configuration with its directory seen from where the path of its file begins. -/
def located (path : String) (config : Config) : Config :=
  if Path.isAbsolute config.directory then config
  else match Path.parent? path with
    | some parent => { config with directory := Path.join parent config.directory }
    | none => config

/-- The configuration of the bytes at a path. -/
def ofBytes (path : String) (bytes : Except FileFault ByteArray) : Except ConfigFault Config :=
  match bytes >>= textOfBytes with
  | .error fault => .error (.unreadable path fault)
  | .ok text => (parse text).map (located path)

/-- The configuration of a file. -/
def load {m : Type → Type} [Monad m] [FileSystem m] (path : String) :
    m (Except ConfigFault Config) := do
  return ofBytes path (← FileSystem.read path)

end Config

end Conform
