/-
**Command lines.**

There are two commands.  `validate` needs a schema and a version, and may be told where the
configuration and the input are; `check` may be told where the configuration is.  An option takes one
value, behind a space or an equals sign, and may be given once.  What begins with a hyphen is no value
behind a space.

Arguments are read from left to right.  An option is settled when the next one begins or the line
ends; only then does it count whether it has a value and was given before.

Main definitions:

* `Command` — the commands;
* `UsageFault` — why a command line is none, and the requests for help;
* `Command.ofArguments` — the command of a command line.
-/

set_option relaxedAutoImplicit false
set_option autoImplicit false

namespace Conform

/-- What the program can be asked to do. -/
inductive Command where
  /-- validate one document against a registered schema -/
  | validate (config schema version : String) (input : Option String)
  /-- load all schema documents and report them -/
  | check (config : String)
deriving DecidableEq

/-- Why a command line yields no command. -/
inductive UsageFault where
  | help
  | version
  /-- nothing was asked -/
  | nothingGiven
  | unknownCommand
  | unknownArgument
  /-- an option without a value -/
  | missingValue
  /-- a value for a switch that takes none -/
  | unexpectedValue
  /-- an option given twice -/
  | repeated
  /-- an option that is required is not given -/
  | missingRequired
deriving DecidableEq

/-- An option of a command. -/
inductive Setting where
  | config
  | schema
  | version
  | input
deriving DecidableEq

namespace Setting

/-- The name of an option, behind two hyphens. -/
def name : Setting → String
  | config => "config"
  | schema => "schema"
  | version => "version"
  | input => "input"

/-- Is the value a path?  Paths are not empty. -/
def isPath : Setting → Bool
  | config | input => true
  | schema | version => false

end Setting

namespace Command

/-- Where the configuration lies if nothing else is said. -/
def standardConfig : String := "./schemata.json"

/-! ### Options -/

/-- Options read so far: the settled ones, and one that may still wait for its value. -/
structure Settings where
  settled : List (Setting × String)
  pending : Option (Setting × Option String)

namespace Settings

/-- The options with one more that has its value. -/
def add (settings : Settings) (setting : Setting) (value : String) : Except UsageFault Settings :=
  if (settings.settled.lookup setting).isSome then .error .repeated
  else if setting.isPath ∧ value = "" then .error .missingValue
  else .ok { settings with settled := (setting, value) :: settings.settled }

/-- The options with the pending one settled. -/
def settle (settings : Settings) : Except UsageFault Settings :=
  match settings.pending with
  | none => .ok settings
  | some (_, none) => .error .missingValue
  | some (setting, some value) => { settings with pending := none }.add setting value

/-- The value of an option. -/
def value? (settings : Settings) (setting : Setting) : Option String :=
  settings.settled.lookup setting

end Settings

/-- A word of a command line. -/
inductive Word where
  /-- two hyphens alone: no options follow -/
  | stop
  /-- two hyphens, a name, and perhaps a value behind an equals sign -/
  | long (name : String) (value : Option String)
  /-- a hyphen and a letter -/
  | short (letter : Char)
  | plain (text : String)

/-- The kind of a word. -/
def Word.of (text : String) : Word :=
  match text.toList with
  | ['-', '-'] => stop
  | '-' :: '-' :: rest =>
    match rest.span (· ≠ '=') with
    | (name, []) => long (String.ofList name) none
    | (name, _ :: value) => long (String.ofList name) (some (String.ofList value))
  | '-' :: letter :: _ => short letter
  | _ => plain text

/-- Reads the options of a command, of which `known` are admitted. -/
def readSettings (known : List Setting) (settings : Settings) :
    List String → Except UsageFault Settings
  | [] => settings.settle
  | text :: rest =>
    match Word.of text with
    | .stop =>
      match rest with
      | [] => settings.settle
      | _ :: _ => .error .unknownArgument
    | .long name value =>
      if name = "help" then
        if value.isSome then .error .unexpectedValue
        else do
          discard settings.settle
          .error .help
      else match known.find? fun setting => setting.name = name with
        | none => .error .unknownArgument
        | some setting => do
          let settings ← settings.settle
          match value with
          | none => readSettings known ⟨settings.settled, some (setting, none)⟩ rest
          | some value =>
            let settings ← Settings.add ⟨settings.settled, none⟩ setting value
            readSettings known settings rest
    | .short letter =>
      if letter = 'h' then do
        discard settings.settle
        .error .help
      else .error .unknownArgument
    | .plain value =>
      match settings.pending with
      | some (setting, none) => readSettings known ⟨settings.settled, some (setting, some value)⟩ rest
      | _ => .error .unknownArgument

/-! ### Commands -/

/-- The options of a command line behind the name of the command. -/
def settingsOf (known : List Setting) (arguments : List String) : Except UsageFault Settings :=
  readSettings known ⟨[], none⟩ arguments

/-- The value of an option that is required. -/
def required (settings : Settings) (setting : Setting) : Except UsageFault String :=
  match settings.value? setting with
  | some value => .ok value
  | none => .error .missingRequired

/-- Where the configuration lies. -/
def configOf (settings : Settings) : String := (settings.value? .config).getD standardConfig

/-- The names of commands about which help can be asked. -/
def topics : List String := ["validate", "check", "help"]

/-- The command of a command line. -/
def ofArguments : List String → Except UsageFault Command
  | [] => .error .nothingGiven
  | text :: rest =>
    match Word.of text with
    | .stop =>
      match rest with
      | [] => .error .nothingGiven
      | name :: _ => .error (if topics.contains name then .unknownArgument else .unknownCommand)
    | .long name value =>
      if name = "help" ∨ name = "version" then
        .error (if value.isSome then .unexpectedValue else if name = "help" then .help else .version)
      else .error .unknownArgument
    | .short letter =>
      .error (if letter = 'h' then .help else if letter = 'V' then .version else .unknownArgument)
    | .plain name =>
      if name = "validate" then do
        let settings ← settingsOf [.config, .schema, .version, .input] rest
        let schema ← required settings .schema
        let version ← required settings .version
        .ok (validate (configOf settings) schema version (settings.value? .input))
      else if name = "check" then do
        let settings ← settingsOf [.config] rest
        .ok (check (configOf settings))
      else if name = "help" then
        match rest with
        | [] => .error .help
        | [topic] => .error (if topics.contains topic then .help else .unknownCommand)
        | _ => .error .unknownCommand
      else .error .unknownCommand

end Command

end Conform
