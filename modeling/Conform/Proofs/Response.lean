/-
**What a command writes.**

A command writes one line, the object of its answer.  Which answer this is, is decided by the stages
that it goes through: the configuration is loaded, and then all schema documents in its directory; the
input is read; its schema is looked up, its limits are checked, and the schema validates it.  The first
stage that fails gives the answer, and the stages behind it are never reached.

What a command does is a function of the files, of the input and of the time; the journal and what was
written before have no influence.

Main definitions:

* `Command.Booted` — how the stages end that all commands begin with;
* `Command.Answered` — the answer of the stage that decides;
* `Answer.Written` — the object of an answer;
* `Command.Responds` — what a command writes, and how it ends.

Main results:

* `Command.Answered.result_run` — the answer to a command is that of the stage that decides;
* `Command.exists_legible` — every answer can be read;
* `Command.responds` — **a command writes its answer on one line**.
-/

import Conform.Proofs.Json.Line
import Conform.Proofs.Ledger
import Conform.Proofs.Loading

set_option relaxedAutoImplicit false
set_option autoImplicit false

namespace Conform

/-! ### The configuration -/

namespace Config

variable {config : Config} {path : String} {bytes : Except FileFault ByteArray}

@[simp] theorem severity_located : (located path config).severity = config.severity := by
  unfold located
  split
  · rfl
  · split <;> rfl

theorem exists_severity_of_validated {valid : Config} (h : config.validated = .ok valid) :
    ∃ severity, valid.severity = .ok severity := by
  unfold validated at h
  split_ifs at h
  obtain ⟨severity, hseverity, rfl⟩ := map_eq_ok.1 h
  exact ⟨severity, hseverity⟩

/-- A configuration has been checked: it has a level for the journal. -/
theorem exists_severity_of_ofBytes (h : ofBytes path bytes = .ok config) :
    ∃ severity, config.severity = .ok severity := by
  unfold ofBytes at h
  split at h
  · cases h
  · obtain ⟨settings, hparse, rfl⟩ := map_eq_ok.1 h
    rw [severity_located]
    unfold parse at hparse
    split at hparse
    · exact exists_severity_of_validated hparse
    · cases hparse

end Config

/-! ### The input -/

/-- An input is taken if it is read, is a text and more than blanks, and holds a document. -/
theorem inputOfBytes_eq_ok {bytes : Except FileFault ByteArray} {document : Json} :
    inputOfBytes bytes = .ok document ↔ ∃ content text j, bytes = .ok content ∧
      String.fromUTF8? content = some text ∧ Text.isBlankText text = false ∧
      Json.read? text = some j ∧ j.canonical = document := by
  cases bytes with
  | error fault => simp [inputOfBytes]
  | ok content =>
      rw [inputOfBytes, ok_bind, textOfBytes]
      cases htext : String.fromUTF8? content with
      | none => simp [htext]
      | some text =>
          cases hblank : Text.isBlankText text <;> cases hread : Json.read? text <;>
            simp [inputOfText, htext, hblank, hread]

/-! ### What all commands begin with -/

namespace Command

variable {path : String} {now : DateTime} {files later : Files} {journal : Journal}
  {stdin : Except FileFault ByteArray} {command : Command} {reply : Answer}

/-- The file of the configuration. -/
def configPath : Command → String
  | validate config _ _ _ => config
  | check config => config

/-- What becomes of an empty registry, and of the files, when a directory is loaded. -/
def loading (directory : String) (now : DateTime) (files : Files) :
    Workspace.Trace Files (Registry × Except Fault Nat) :=
  Workspace.perform (Registry.empty.loadAll directory) now .empty files

/-- How the stages end that all commands begin with, and the files then: the configuration is loaded,
and then all schema documents in its directory. -/
inductive Booted (path : String) (now : DateTime) (files : Files) :
    Except CommandFault Session → Files → Prop
  | config (fault : ConfigFault) (hconfig : Config.ofBytes path (files.read path) = .error fault) :
      Booted path now files (.error (.config fault)) files
  | schemas (config : Config) (registry : Registry) (fault : Fault)
      (hconfig : Config.ofBytes path (files.read path) = .ok config)
      (hload : (loading config.directory now files).result = (registry, .error fault)) :
      Booted path now files (.error (.schema fault)) (loading config.directory now files).files
  | loaded (config : Config) (registry : Registry) (count : Nat)
      (hconfig : Config.ofBytes path (files.read path) = .ok config)
      (hload : (loading config.directory now files).result = (registry, .ok count)) :
      Booted path now files (.ok ⟨config, registry, Metrics.zero.addLoaded (UInt64.ofNat count)⟩)
        (loading config.directory now files).files

theorem exists_booted (path : String) (now : DateTime) (files : Files) :
    ∃ outcome later, Booted path now files outcome later := by
  cases hconfig : Config.ofBytes path (files.read path) with
  | error fault => exact ⟨_, _, .config fault hconfig⟩
  | ok config =>
      rcases hload : (loading config.directory now files).result with ⟨registry, outcome⟩
      cases outcome with
      | error fault => exact ⟨_, _, .schemas config registry fault hconfig hload⟩
      | ok count => exact ⟨_, _, .loaded config registry count hconfig hload⟩

/-- The level of the journal has been checked with the rest of the configuration. -/
theorem result_configure (path : String) (now : DateTime) (journal : Journal) (files : Files) :
    (Workspace.perform (configure path) now journal files).result =
      (Config.ofBytes path (files.read path)).mapError .config := by
  rw [configure, Config.load]
  simp only [Workspace.perform_bind, Workspace.perform_read, Workspace.perform_pure]
  cases hconfig : Config.ofBytes path (files.read path) with
  | error fault => rfl
  | ok config =>
      obtain ⟨severity, hseverity⟩ := Config.exists_severity_of_ofBytes hconfig
      simp only [hseverity]
      rfl

/-- The journal has no influence on loading. -/
theorem loadAll_eq_loading (directory : String) (now : DateTime) (journal : Journal) (files : Files) :
    (Workspace.perform (Registry.empty.loadAll directory) now journal files).result =
        (loading directory now files).result ∧
      (Workspace.perform (Registry.empty.loadAll directory) now journal files).files =
        (loading directory now files).files := by
  rw [loading, Registry.perform_loadAll, Registry.perform_loadAll]
  cases files.pathExists directory with
  | false => cases files.createDirectories directory <;> exact ⟨rfl, rfl⟩
  | true =>
      cases files.list directory with
      | error fault => exact ⟨rfl, rfl⟩
      | ok names =>
          simp only [if_true]
          cases (Registry.registerFiles now .empty (files.documents directory names)).outcome <;>
            exact ⟨rfl, rfl⟩

/-- Behind a configuration comes loading. -/
theorem boot_of_config {config : Config} (hconfig : Config.ofBytes path (files.read path) = .ok config)
    (journal : Journal) :
    (Workspace.perform (boot path) now journal files).result =
        (match (loading config.directory now files).result with
        | (_, .error fault) => .error (.schema fault)
        | (registry, .ok count) =>
          .ok ⟨config, registry, Metrics.zero.addLoaded (UInt64.ofNat count)⟩) ∧
      (Workspace.perform (boot path) now journal files).files =
        (loading config.directory now files).files := by
  obtain ⟨hresult, hfiles⟩ := loadAll_eq_loading config.directory now
    (Workspace.perform (configure path) now journal files).journal files
  rw [boot, Workspace.perform_bind, result_configure, Registry.files_configure, hconfig, mapError_ok]
  simp only
  rw [Workspace.perform_bind, hresult, ← hfiles]
  rcases (loading config.directory now files).result with ⟨registry, _ | count⟩ <;> exact ⟨rfl, rfl⟩

theorem Booted.boot_eq {outcome : Except CommandFault Session} (h : Booted path now files outcome later)
    (journal : Journal) :
    (Workspace.perform (boot path) now journal files).result = outcome ∧
      (Workspace.perform (boot path) now journal files).files = later := by
  cases h with
  | config fault hconfig =>
      rw [boot, Workspace.perform_bind, result_configure, Registry.files_configure, hconfig]
      exact ⟨rfl, rfl⟩
  | schemas config registry fault hconfig hload =>
      obtain ⟨hresult, hfiles⟩ := boot_of_config hconfig journal
      rw [hload] at hresult
      exact ⟨hresult, hfiles⟩
  | loaded config registry count hconfig hload =>
      obtain ⟨hresult, hfiles⟩ := boot_of_config hconfig journal
      rw [hload] at hresult
      exact ⟨hresult, hfiles⟩

/-! ### Answers -/

/-- What an input is read from: its file, or standard input. -/
def given (stdin : Except FileFault ByteArray) (files : Files) :
    Option String → Except FileFault ByteArray
  | some path => files.read path
  | none => stdin

/-- What a verdict is answered. -/
def answerOf (verdict : Verdict) : Answer := (verdict.result.mapError .schema).map Value.toJson

/-- The answer to a command is that of the stage that decides. -/
inductive Answered (stdin : Except FileFault ByteArray) (now : DateTime) (files : Files) :
    Command → Answer → Prop
  | halted (command : Command) (fault : CommandFault) (later : Files)
      (hboot : Booted command.configPath now files (.error fault) later) :
      Answered stdin now files command (.error fault)
  | checked (path : String) (session : Session) (later : Files)
      (hboot : Booted path now files (.ok session) later) :
      Answered stdin now files (check path) (.ok session.report)
  | unread (path schema version : String) (input : Option String) (session : Session) (later : Files)
      (fault : CommandFault) (hboot : Booted path now files (.ok session) later)
      (hinput : inputOfBytes (given stdin later input) = .error fault) :
      Answered stdin now files (validate path schema version input) (.error fault)
  | judged (path schema version : String) (input : Option String) (session : Session) (later : Files)
      (document : Json) (verdict : Verdict) (hboot : Booted path now files (.ok session) later)
      (hinput : inputOfBytes (given stdin later input) = .ok document)
      (hverdict : session.registry.Judged
        ⟨now, session.config.limits, schema, version, document⟩ verdict) :
      Answered stdin now files (validate path schema version input) (answerOf verdict)

theorem exists_answered (command : Command) (stdin : Except FileFault ByteArray) (now : DateTime)
    (files : Files) : ∃ reply, Answered stdin now files command reply := by
  obtain ⟨outcome, later, hboot⟩ := exists_booted command.configPath now files
  cases outcome with
  | error fault => exact ⟨_, .halted command fault later hboot⟩
  | ok session =>
      cases command with
      | check path => exact ⟨_, .checked path session later hboot⟩
      | validate path schema version input =>
          cases hinput : inputOfBytes (given stdin later input) with
          | error fault =>
              exact ⟨_, .unread path schema version input session later fault hboot hinput⟩
          | ok document =>
              have hverdict := session.registry.judged
                ⟨now, session.config.limits, schema, version, document⟩
              exact ⟨_, .judged path schema version input session later document _ hboot hinput
                hverdict⟩

theorem result_judge (session : Session) (schema version : String) (document : Json) :
    (Workspace.perform (judge session schema version document) now journal files).result =
      answerOf (session.registry.judge session.config.limits now schema version document) := by
  rw [judge, answerOf]
  simp only [Workspace.perform_bind, Workspace.perform_now, Workspace.perform_modify]
  cases (session.registry.judge session.config.limits now schema version document).result <;> rfl

/-- Where all that commands begin with is done, the input decides, and then the schema. -/
theorem result_validate {session : Session} {schema version : String} {input : Option String}
    (hboot : Booted path now files (.ok session) later) (journal : Journal) :
    (Workspace.perform (run (pure stdin) (validate path schema version input)) now journal
      files).result =
      match inputOfBytes (given stdin later input) with
      | .error fault => .error fault
      | .ok document =>
        answerOf (session.registry.judge session.config.limits now schema version document) := by
  obtain ⟨hresult, hfiles⟩ := hboot.boot_eq journal
  have hinput : ∀ bytes journal, (Workspace.perform (match inputOfBytes bytes with
      | .error fault => pure (.error fault)
      | .ok document => judge session schema version document) now journal later).result =
        match inputOfBytes bytes with
        | .error fault => .error fault
        | .ok document =>
          answerOf (session.registry.judge session.config.limits now schema version document) := by
    intro bytes journal
    cases inputOfBytes bytes with
    | error fault => rfl
    | ok document => exact result_judge session schema version document
  rw [run, Workspace.perform_bind, hresult, hfiles]
  cases input with
  | none => exact hinput stdin _
  | some path => exact hinput (later.read path) _

/-- **The answer to a command is that of the stage that decides**, whatever the journal is. -/
theorem Answered.result_run (h : Answered stdin now files command reply) (journal : Journal) :
    (Workspace.perform (command.run (pure stdin)) now journal files).result = reply := by
  cases h with
  | halted command fault later hboot =>
      obtain ⟨hresult, -⟩ := hboot.boot_eq journal
      cases command with
      | validate path schema version input =>
          rw [configPath] at hresult
          rw [run, Workspace.perform_bind, hresult]
          rfl
      | check path =>
          rw [configPath] at hresult
          rw [run, Workspace.perform_bind, hresult]
          rfl
  | checked path session later hboot =>
      obtain ⟨hresult, -⟩ := hboot.boot_eq journal
      rw [run, Workspace.perform_bind, hresult]
      rfl
  | unread path schema version input session later fault hboot hinput =>
      rw [result_validate hboot, hinput]
  | judged path schema version input session later document verdict hboot hinput hverdict =>
      have hresult : (session.registry.judge session.config.limits now schema version document).result =
          verdict.result := (session.registry.judged _).result_eq.trans hverdict.result_eq.symm
      rw [result_validate hboot, hinput]
      simp only
      rw [answerOf, hresult, answerOf]

/-- The answer to a command, where the journal is empty. -/
def answer (command : Command) (stdin : Except FileFault ByteArray) (now : DateTime) (files : Files) :
    Answer :=
  (Workspace.perform (command.run (pure stdin)) now .empty files).result

theorem answered_iff : Answered stdin now files command reply ↔
    command.answer stdin now files = reply := by
  constructor
  · exact fun h => h.result_run .empty
  · rintro rfl
    obtain ⟨reply, h⟩ := exists_answered command stdin now files
    rwa [Command.answer, h.result_run]

/-- The journal has no influence on the answer. -/
theorem result_run (command : Command) (journal : Journal) :
    (Workspace.perform (command.run (pure stdin)) now journal files).result =
      command.answer stdin now files :=
  (answered_iff.2 rfl).result_run journal

/-- A command writes its answer behind what was written before, and ends as its answer does. -/
theorem result_respond (command : Command) (journal : Journal) (before : String) :
    (Workspace.perform ((command.respond (pure stdin)).run before) now journal files).result =
      ((command.answer stdin now files).map fun _ => (),
        before ++ Answer.line (command.answer stdin now files)) := by
  rw [← result_run command journal]
  rfl

end Command

/-! ### Answers can be read -/

/-- The document of a value can be read: its numbers are those of the reader. -/
theorem Value.legible_toJson (v : Value) : ∀ {depth : ℕ}, v.toJson.depth ≤ depth →
    v.toJson.Legible depth := by
  induction v with
  | float x =>
      intro depth _
      rw [toJson]
      split
      · next hfinite => exact hfinite
      · trivial
  | array items ih =>
      intro depth h
      rw [toJson, toJsonItems_eq_map] at h ⊢
      obtain ⟨below, rfl, hitems⟩ := Json.le_of_depth_arr h
      refine Json.legible_arr.2 ⟨below, rfl, List.forall_mem_map.2 fun v hv => ?_⟩
      exact ih v hv (hitems _ (List.mem_map_of_mem hv))
  | object members ih =>
      intro depth h
      rw [toJson, toJsonMembers_eq_map] at h ⊢
      obtain ⟨below, rfl, hmembers⟩ := Json.le_of_depth_obj h
      refine Json.legible_obj.2 ⟨below, rfl, List.forall_mem_map.2 fun member hmember => ?_⟩
      exact ih member hmember (hmembers _ (List.mem_map_of_mem hmember))
  | _ => exact fun _ => trivial

theorem Metrics.legible_toJson (metrics : Metrics) (depth : ℕ) :
    metrics.toJson.Legible (depth + 1) := by
  have hcounter : ∀ n, (Json.ofUInt64 n).Legible depth :=
    fun n => Json.legible_of_isNumber depth (Json.isNumber_ofUInt64 n)
  refine Json.legible_obj.2 ⟨depth, rfl, ?_⟩
  simp [hcounter]

namespace Session

theorem legible_describe (document : Document) : (describe document).Legible 2 := by
  have hfields : (Json.arr (document.fields.map fun field => .str field.1)).Legible 1 :=
    Json.legible_arr.2 ⟨0, rfl, List.forall_mem_map.2 fun _ _ => trivial⟩
  refine Json.legible_obj.2 ⟨1, rfl, ?_⟩
  simp only [List.forall_mem_cons]
  exact ⟨hfields, trivial, trivial, trivial, List.forall_mem_nil _⟩

theorem legible_report (session : Session) : session.report.Legible 4 := by
  have hschemas : (Json.arr (session.registry.keys.filterMap fun key =>
      (session.registry.get? key.1 key.2).map fun entry => describe entry.document)).Legible 3 := by
    refine Json.legible_arr.2 ⟨2, rfl, fun j hj => ?_⟩
    obtain ⟨key, -, hdescribed⟩ := List.mem_filterMap.1 hj
    obtain ⟨entry, -, rfl⟩ := Option.map_eq_some_iff.1 hdescribed
    exact legible_describe entry.document
  refine Json.legible_obj.2 ⟨3, rfl, ?_⟩
  simp only [List.forall_mem_cons]
  exact ⟨trivial, session.metrics.legible_toJson 2, trivial, hschemas, List.forall_mem_nil _⟩

end Session

namespace Answer

/-- The object of an answer: the data, or the code and the message of the fault, and its path if there
is one. -/
inductive Written : Answer → Json → Prop
  | data (data : Json) : Written (.ok data) (.obj [("data", data), ("status", .str "ok")])
  | fault (fault : CommandFault) (hpath : fault.path = "") :
      Written (.error fault) (.obj [("code", .str fault.code), ("message", .str fault.message),
        ("status", .str "error")])
  | located (fault : CommandFault) (hpath : fault.path ≠ "") :
      Written (.error fault) (.obj [("code", .str fault.code), ("message", .str fault.message),
        ("path", .str fault.path), ("status", .str "error")])

theorem written_toJson (answer : Answer) : Written answer (toJson answer) := by
  cases answer with
  | ok data => exact .data data
  | error fault =>
      rw [toJson]
      split
      · next hpath => exact .fault fault hpath
      · next hpath => exact .located fault hpath

theorem legible_fault (fault : CommandFault) : (toJson (.error fault)).Legible 1 := by
  refine Json.legible_obj.2 ⟨0, rfl, ?_⟩
  split <;> simp [Json.Legible]

theorem legible_data {data : Json} {depth : ℕ} (h : data.Legible depth) :
    (toJson (.ok data)).Legible (depth + 1) := by
  refine Json.legible_obj.2 ⟨depth, rfl, ?_⟩
  simp [h, Json.Legible]

end Answer

namespace Command

variable {path : String} {now : DateTime} {files later : Files} {journal : Journal}
  {stdin : Except FileFault ByteArray} {command : Command} {reply : Answer}

/-- Every answer can be read, if the reader goes deep enough. -/
theorem exists_legible (h : Answered stdin now files command reply) :
    ∃ depth, (Answer.toJson reply).Legible depth := by
  cases h with
  | halted _ fault | unread _ _ _ _ _ _ fault => exact ⟨1, Answer.legible_fault fault⟩
  | checked _ session => exact ⟨5, Answer.legible_data session.legible_report⟩
  | judged _ _ _ _ _ _ _ verdict =>
      rw [answerOf]
      cases verdict.result with
      | error fault => exact ⟨1, Answer.legible_fault (.schema fault)⟩
      | ok value => exact ⟨_, Answer.legible_data (value.legible_toJson le_rfl)⟩

/-! ### Responses -/

/-- What a command writes, and how it ends. -/
structure Responds (command : Command) (stdin : Except FileFault ByteArray) (now : DateTime)
    (files : Files) : Prop where
  /-- it writes one line, behind what was written before, that reads as the object of its answer, and
  it succeeds if this is data and fails with its fault otherwise -/
  line : ∃ text object depth, '\n' ∉ text.toList ∧
    Source.read? text >>= Source.toJson? depth = some object ∧
    Answer.Written (command.answer stdin now files) object ∧
    ∀ journal before,
      (Workspace.perform ((command.respond (pure stdin)).run before) now journal files).result =
        ((command.answer stdin now files).map fun _ => (), before ++ text ++ "\n")
  /-- its answer is that of the first stage that fails, or of the last stage -/
  decided : ∀ reply, Answered stdin now files command reply ↔ command.answer stdin now files = reply
  /-- to validate yields data exactly if the configuration and all schema documents load, the input is
  read and is a document, there is a schema for it, it keeps the limits, and the schema accepts it; the
  data are the value that the schema yields -/
  accepts : ∀ path schema version input, command = .validate path schema version input → ∀ data,
    command.answer stdin now files = .ok data ↔
      ∃ config registry count content text written entry value,
        Config.ofBytes path (files.read path) = .ok config ∧
        (loading config.directory now files).result = (registry, .ok count) ∧
        given stdin (loading config.directory now files).files input = .ok content ∧
        String.fromUTF8? content = some text ∧ Text.isBlankText text = false ∧
        Json.read? text = some written ∧
        registry.get? schema version = some entry ∧
        config.limits.check written.canonical = .ok () ∧
        (entry.schema.validate (Value.ofJson written.canonical)).asOf now = .ok value ∧
        value.toJson = data

theorem answerOf_eq_ok {verdict : Verdict} {data : Json} : answerOf verdict = .ok data ↔
    ∃ value, verdict.result = .ok value ∧ value.toJson = data := by
  rw [answerOf]
  cases verdict.result <;> simp [Except.map]

/-- **A command writes its answer on one line**, and the answer is that of the stage that decides. -/
theorem responds (command : Command) (stdin : Except FileFault ByteArray) (now : DateTime)
    (files : Files) : Responds command stdin now files where
  line := by
    obtain ⟨depth, hlegible⟩ := exists_legible (answered_iff.2 (rfl : command.answer stdin now files = _))
    refine ⟨Answer.text (command.answer stdin now files), _, depth, Json.newline_not_mem_compact _, ?_,
      Answer.written_toJson _, fun journal before => ?_⟩
    · rw [Answer.text, Json.source_compact hlegible]
      exact Json.toJson?_toSource hlegible
    · rw [result_respond, Answer.line, String.append_assoc]
  decided _ := answered_iff
  accepts := by
    rintro path schema version input rfl data
    rw [← answered_iff]
    constructor
    · intro h
      generalize hreply : (Except.ok data : Answer) = reply at h
      cases h with
      | halted | unread => cases hreply
      | judged _ _ _ _ session later document verdict hboot hinput hverdict =>
          obtain ⟨value, hvalue, rfl⟩ := answerOf_eq_ok.1 hreply.symm
          obtain ⟨content, text, written, hread, htext, hblank, hwritten, rfl⟩ :=
            inputOfBytes_eq_ok.1 hinput
          cases hboot with
          | loaded config registry count hconfig hload =>
              cases hverdict with
              | unresolved | beyondLimits | rejected => cases hvalue
              | passed entry value hresolve hlimits hschema =>
                  cases hvalue
                  exact ⟨config, registry, count, content, text, written, entry, value, hconfig, hload,
                    hread, htext, hblank, hwritten, Registry.resolve_eq_ok.1 hresolve, hlimits, hschema,
                    rfl⟩
    · rintro ⟨config, registry, count, content, text, written, entry, value, hconfig, hload, hread,
        htext, hblank, hwritten, hentry, hlimits, hschema, rfl⟩
      have hinput := inputOfBytes_eq_ok.2 ⟨content, text, written, hread, htext, hblank, hwritten, rfl⟩
      exact .judged path schema version input _ _ _ (.passed value)
        (.loaded config registry count hconfig hload) hinput
        (.passed entry value (Registry.resolve_eq_ok.2 hentry) hlimits hschema)

end Command

end Conform
