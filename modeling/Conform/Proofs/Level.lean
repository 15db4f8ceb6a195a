/-
**The level of the journal.**

The level is part of the configuration, and decides which entries are taken.  Nothing is noted before it
is set, and nothing that is done depends on it: two runs with configurations that differ in the level
only give the same answer and change the files in the same way, and of the entries noted at the one
level those that the other takes are noted at the other.

The configuration lies in a file, and to differ in the level is to differ in its bytes.  They are read
once; if the file is read again, as the input or as a document, the bytes may well have an influence.

Main definitions:

* `Command.pursue` — what a command does once its configuration is loaded;
* `Workspace.Steady` — what is done does not depend on the journal and on the bytes of one file;
* `Command.Rereads` — a command reads the file at a place, apart from its configuration.

Main results:

* `Journal.entries_recordAll` — which entries are taken;
* `Workspace.Steady.bind` — steady operations follow one another;
* `Command.perform_configure` — **the level is set before anything is noted**;
* `Command.respond_at_levels` — **a level only filters the journal**.
-/

import Conform.Proofs.Replacement
import Conform.Proofs.Response

set_option relaxedAutoImplicit false
set_option autoImplicit false

namespace Conform

/-! ### Entries and levels -/

namespace Journal

variable {journal : Journal}

/-- The journal at another level. -/
def atLevel (journal : Journal) (level : Severity) : Journal := { journal with level := level }

theorem recordAll_eq (entries : List Entry) : ∀ journal : Journal, journal.recordAll entries =
    ⟨journal.level, journal.entries ++ entries.filter fun entry => journal.takes entry.severity⟩ := by
  induction entries with
  | nil => exact fun journal => by rw [List.filter_nil, List.append_nil]; rfl
  | cons entry rest ih =>
      intro journal
      rw [recordAll, List.foldl_cons, ← recordAll, ih, record]
      by_cases htaken : journal.takes entry.severity = true
      · rw [if_pos htaken, List.filter_cons, if_pos htaken]
        exact congrArg (Journal.mk journal.level) (List.append_assoc ..)
      · rw [if_neg htaken, List.filter_cons, if_neg htaken]

theorem recordAll_append (journal : Journal) (front rest : List Entry) :
    journal.recordAll (front ++ rest) = (journal.recordAll front).recordAll rest :=
  List.foldl_append ..

/-- **Which entries are taken.** -/
theorem entries_recordAll (journal : Journal) (level : Severity) (entries : List Entry) :
    ((journal.atLevel level).recordAll entries).entries =
      journal.entries ++ entries.filter fun entry => decide (level.rank ≤ entry.severity.rank) := by
  rw [recordAll_eq]
  rfl

end Journal

/-! ### Steady operations -/

namespace Workspace

variable {α β : Type} {now : DateTime} {files : Files} {place : List String} {bytes : ByteArray}
  {action : Workspace α}

/-- What an operation does does not depend on the journal, in which it notes entries, and on the bytes of
the file at a place, which it leaves as they are. -/
def Steady (place : List String) (bytes : ByteArray) (action : Workspace α) (now : DateTime)
    (files : Files) : Prop :=
  ∃ result entries later, Files.Extends files later ∧ ∀ journal,
    perform action now journal files = ⟨result, journal.recordAll entries, later⟩ ∧
    perform action now journal (files.adding place (.file bytes)) =
      ⟨result, journal.recordAll entries, later.adding place (.file bytes)⟩

theorem steady_pure (a : α) : Steady place bytes (pure a) now files :=
  ⟨a, [], files, .refl files, fun _ => ⟨rfl, rfl⟩⟩

theorem steady_record (entries : List Entry) :
    Steady place bytes (modifyThe Journal (·.recordAll entries)) now files :=
  ⟨(), entries, files, .refl files, fun _ => ⟨rfl, rfl⟩⟩

theorem steady_now : Steady place bytes (readThe DateTime) now files :=
  ⟨now, [], files, .refl files, fun _ => ⟨rfl, rfl⟩⟩

/-- To read another file is steady. -/
theorem steady_read {path : String} (hfile : files.HasFile place)
    (hpath : files.place path ≠ .ok place) :
    Steady place bytes (FileSystem.read path) now files := by
  refine ⟨files.read path, [], files, .refl files, fun journal => ⟨rfl, ?_⟩⟩
  rw [perform_read, Files.store_read, Files.read_replaced hfile bytes hpath]
  rfl

/-- **Steady operations follow one another.** -/
theorem Steady.bind {next : α → Workspace β} (h : Steady place bytes action now files)
    (hnext : ∀ result later, Files.Extends files later →
      (perform action now .empty files).result = result →
      (perform action now .empty files).files = later →
      Steady place bytes (next result) now later) :
    Steady place bytes (action >>= next) now files := by
  obtain ⟨result, entries, later, hkeeps, hperform⟩ := h
  have hempty := (hperform .empty).1
  obtain ⟨result', entries', later', hkeeps', hperform'⟩ :=
    hnext result later hkeeps (by rw [hempty]) (by rw [hempty])
  refine ⟨result', entries ++ entries', later', hkeeps.trans hkeeps', fun journal => ?_⟩
  obtain ⟨hfirst, hfirst'⟩ := hperform journal
  obtain ⟨hsecond, hsecond'⟩ := hperform' (journal.recordAll entries)
  rw [perform_bind, perform_bind, hfirst, hfirst', Journal.recordAll_append]
  exact ⟨hsecond, hsecond'⟩

end Workspace

namespace Registry

variable {now : DateTime} {files : Files} {place : List String} {directory : String}
  {bytes : ByteArray}

/-- Where no document is replaced, the documents are the same. -/
theorem documents_replaced {names : List String} (hfile : files.HasFile place) (bytes : ByteArray)
    (hapart : ∀ name ∈ names, Path.hasJsonExtension name = true →
      files.place (Path.join directory name) ≠ .ok place) :
    (files.adding place (.file bytes)).documents directory names = files.documents directory names := by
  rw [Files.documents, Files.documents]
  have hisFile : (files.adding place (.file bytes)).isFile = files.isFile :=
    funext (Files.isFile_replaced hfile bytes)
  rw [hisFile]
  refine List.map_congr_left fun path hpath => ?_
  obtain ⟨name, hname, rfl⟩ := List.mem_map.1 (List.mem_filter.1 hpath).1
  obtain ⟨hname, hjson⟩ := List.mem_filter.1 (List.mem_mergeSort.1 hname)
  rw [Files.read_replaced hfile bytes (hapart name hname hjson)]

/-- **To load a directory is steady**, if the file is none of the documents. -/
theorem steady_loadAll (registry : Registry) (hfile : files.HasFile place)
    (hapart : ∀ names name, files.list directory = .ok names → name ∈ names →
      Path.hasJsonExtension name = true → files.place (Path.join directory name) ≠ .ok place) :
    Workspace.Steady place bytes (registry.loadAll directory) now files := by
  rw [Workspace.Steady]
  simp only [perform_loadAll, Files.pathExists_replaced hfile, Files.list_replaced hfile,
    Files.createDirectories_replaced hfile, Files.afterCreating_replaced hfile]
  cases files.pathExists directory with
  | true =>
      simp only [if_true]
      cases hlist : files.list directory with
      | error fault => exact ⟨_, [], files, .refl files, fun journal => ⟨rfl, rfl⟩⟩
      | ok names =>
          simp only [documents_replaced hfile bytes fun name => hapart names name hlist]
          cases (registerFiles now registry (files.documents directory names)).outcome with
          | error fault => exact ⟨_, _, files, .refl files, fun journal => ⟨rfl, rfl⟩⟩
          | ok _ =>
              let documents := files.documents directory names
              let progress := registerFiles now registry documents
              let loaded := Entry.ofEvent .schemasLoaded
                [("count", Fault.number documents.length), ("schema_dir", directory)]
              refine ⟨(progress.registry, .ok documents.length), progress.entries ++ [loaded], files,
                .refl files, fun journal => ?_⟩
              rw [Journal.recordAll_append]
              exact ⟨rfl, rfl⟩
  | false =>
      simp only [Bool.false_eq_true, if_false]
      have hkeeps := Files.extends_afterCreating directory files
      cases hmade : files.createDirectories directory with
      | error fault => exact ⟨_, [], _, hkeeps, fun journal => ⟨rfl, rfl⟩⟩
      | ok made =>
          rw [Files.afterCreating_of_ok hmade] at hkeeps
          exact ⟨_, [], made, hkeeps, fun journal => ⟨rfl, rfl⟩⟩

end Registry

/-! ### Configurations -/

namespace Config

/-- A configuration is read as it is written. -/
theorem ofJson?_toJson (config : Config) : ofJson? config.toJson = some config := by
  have hnames : (Members.names [("schema_dir", Json.str config.directory),
      ("max_depth", Json.ofUInt64 config.maxDepth), ("max_nodes", Json.ofUInt64 config.maxNodes),
      ("log_level", .str config.logLevel)]).Nodup := by
    simp [Members.names]
  rw [toJson, ofJson?, Json.required?_eq hnames rfl, Json.withDefault?_eq hnames rfl,
    Json.withDefault?_eq hnames rfl, Json.withDefault?_eq hnames rfl]
  simp [Json.asUInt64?_ofUInt64, Json.asString?]

theorem legible_toJson (config : Config) : config.toJson.Legible Json.nestingLimit := by
  have hnumber : ∀ n depth, (Json.ofUInt64 n).Legible depth :=
    fun n depth => Json.legible_of_isNumber depth (Json.isNumber_ofUInt64 n)
  refine Json.legible_obj.2 ⟨126, rfl, ?_⟩
  simp [hnumber, Json.Legible]

theorem ofBytes_written {config : Config} (h : config.validated = .ok config) (path : String) :
    ofBytes path (.ok config.toJson.indented.toUTF8) = .ok (config.located path) := by
  have hread : Json.readRecord? members config.toJson.indented = some config.toJson :=
    Json.readRecord?_indented config.legible_toJson (by simp [members])
  have hparse : parse config.toJson.indented = .ok config := by
    rw [parse, hread, Option.bind_eq_bind, Option.bind_some, ofJson?_toJson]
    exact h
  rw [ofBytes, ok_bind, textOfBytes, Registry.fromUTF8?_toUTF8]
  simp only [hparse]
  rfl

end Config

namespace Command

open Workspace

variable {now : DateTime} {files : Files} {place : List String} {bytes : ByteArray}
  {stdin : Except FileFault ByteArray} {config : Config} {command : Command} {journal : Journal}

/-! ### Commands -/

theorem steady_judge (session : Session) (schema version : String) (input : Json) :
    Steady place bytes (judge session schema version input) now files := by
  refine steady_now.bind fun time later _ _ _ => ?_
  refine (steady_record _).bind fun _ later _ _ _ => ?_
  split <;> exact steady_pure _

/-- What a command does once its configuration is loaded. -/
def pursue (stdin : Except FileFault ByteArray) (command : Command) (config : Config) :
    Workspace Answer := do
  match ← Registry.empty.loadAll config.directory with
  | (_, .error fault) => return .error (.schema fault)
  | (registry, .ok count) =>
    let session : Session := ⟨config, registry, Metrics.zero.addLoaded (UInt64.ofNat count)⟩
    match command with
    | validate _ schema version input =>
      let bytes ← match input with
        | some path => FileSystem.read path
        | none => pure stdin
      match inputOfBytes bytes with
      | .error fault => return .error fault
      | .ok input => judge session schema version input
    | check _ => return .ok session.report

/-- The level of the configuration is not asked for any more. -/
theorem pursue_level (stdin : Except FileFault ByteArray) (command : Command) (config : Config)
    (level : String) : pursue stdin command { config with logLevel := level } =
      pursue stdin command config := rfl

/-- **The level is set before anything is noted.** -/
theorem perform_configure {path : String} {severity : Severity}
    (hconfig : Config.ofBytes path (files.read path) = .ok config)
    (hseverity : config.severity = .ok severity) :
    Workspace.perform (configure path) now journal files =
      ⟨.ok config, (journal.atLevel severity).record
        (Entry.ofEvent .configLoaded [("schema_dir", config.directory)]), files⟩ := by
  rw [configure, Config.load]
  simp only [perform_bind, perform_read, Files.store_read, perform_pure, hconfig, hseverity]
  rfl

/-- Behind its configuration, a command goes on with the journal at its level. -/
theorem perform_run {severity : Severity}
    (hconfig : Config.ofBytes command.configPath (files.read command.configPath) = .ok config)
    (hseverity : config.severity = .ok severity) :
    Workspace.perform (command.run (pure stdin)) now journal files =
      Workspace.perform (pursue stdin command config) now ((journal.atLevel severity).record
        (Entry.ofEvent .configLoaded [("schema_dir", config.directory)])) files := by
  have hconfigure : Workspace.perform (configure command.configPath) now journal files = _ :=
    perform_configure hconfig hseverity
  generalize (journal.atLevel severity).record _ = later at hconfigure ⊢
  rw [pursue, perform_bind]
  cases command with
  | check path =>
      rw [configPath] at hconfigure
      rw [run, boot, bind_assoc, perform_bind, hconfigure]
      simp only
      rw [bind_assoc, perform_bind]
      rcases (Workspace.perform (Registry.empty.loadAll config.directory) now later files).result with
        ⟨registry, fault | count⟩ <;> rfl
  | validate path schema version input =>
      rw [configPath] at hconfigure
      rw [run, boot, bind_assoc, perform_bind, hconfigure]
      simp only
      rw [bind_assoc, perform_bind]
      rcases (Workspace.perform (Registry.empty.loadAll config.directory) now later files).result with
        ⟨registry, fault | count⟩ <;> rfl

/-! ### Two levels -/

/-- A command reads the file at a place, apart from its configuration: as a schema document in a
directory, or as the input. -/
inductive Rereads (now : DateTime) (files : Files) (directory : String) (place : List String) :
    Command → Prop
  | document {command : Command} {names : List String} {name : String} :
      files.list directory = .ok names → name ∈ names → Path.hasJsonExtension name = true →
      files.place (Path.join directory name) = .ok place → Rereads now files directory place command
  /-- directories that have been created may lead to the input -/
  | input {config schema version path : String} :
      (loading directory now files).files.place path = .ok place →
      Rereads now files directory place (validate config schema version (some path))

/-- A command that has its configuration is steady, if it does not read this file again. -/
theorem steady_pursue (hfile : files.HasFile place)
    (hapart : ¬ Rereads now files config.directory place command) :
    Steady place bytes (pursue stdin command config) now files := by
  have hdocuments : ∀ names name, files.list config.directory = .ok names → name ∈ names →
      Path.hasJsonExtension name = true →
        files.place (Path.join config.directory name) ≠ .ok place :=
    fun names name hlist hname hjson hplace => hapart (.document hlist hname hjson hplace)
  refine (Registry.steady_loadAll .empty hfile hdocuments).bind
    fun loaded later hkeeps _ hlater => ?_
  obtain ⟨registry, fault | count⟩ := loaded
  · exact steady_pure _
  cases command with
  | check path => exact steady_pure _
  | validate path schema version input =>
      let session : Session := ⟨config, registry, Metrics.zero.addLoaded (UInt64.ofNat count)⟩
      have hjudge : ∀ (content : Except FileFault ByteArray) (files : Files),
          Steady place bytes (match inputOfBytes content with
            | .error fault => pure (.error fault)
            | .ok input => judge session schema version input : Workspace Answer) now files := by
        intro content files
        cases inputOfBytes content with
        | error fault => exact steady_pure _
        | ok document => exact steady_judge session schema version document
      cases input with
      | none => exact (steady_pure stdin).bind fun content later _ _ _ => hjudge content later
      | some path =>
          have hother : later.place path ≠ .ok place := by
            rw [← hlater]
            exact fun hplace => hapart (.input hplace)
          exact (steady_read (hfile.extends hkeeps) hother).bind
            fun content later _ _ _ => hjudge content later

/-- The configuration lies in a file. -/
theorem hasFile_of_config {path : String} (hplace : files.place path = .ok place)
    (hconfig : Config.ofBytes path (files.read path) = .ok config) : files.HasFile place := by
  cases hread : files.read path with
  | error fault =>
      rw [hread] at hconfig
      cases hconfig
  | ok bytes =>
      rw [Files.read, Files.find, hplace] at hread
      simp only at hread
      cases hnode : files.at? place with
      | none => simp [hnode] at hread
      | some node =>
          cases node with
          | file bytes => exact ⟨bytes, hnode⟩
          | directory => simp [hnode] at hread

/-- A command writes its answer, and does nothing else besides. -/
theorem perform_respond {answer : Answer} {journal' : Journal} {later : Files}
    (h : Workspace.perform (command.run (pure stdin)) now journal files = ⟨answer, journal', later⟩)
    (before : String) :
    Workspace.perform ((command.respond (pure stdin)).run before) now journal files =
      ⟨(answer.map fun _ => (), before ++ Answer.line answer), journal', later⟩ := by
  have hrespond : Workspace.perform ((command.respond (pure stdin)).run before) now journal files =
      let trace := Workspace.perform (command.run (pure stdin)) now journal files
      ⟨(trace.result.map fun _ => (), before ++ Answer.line trace.result), trace.journal,
        trace.files⟩ := rfl
  rw [hrespond, h]

/-- **A level only filters the journal.**  Where the configuration is read from a file that is not read
again, a command at a higher level gives the same answer, leaves the same files, and of what is noted at
a lower level it notes what is as grave as its own. -/
theorem respond_at_levels {files' : Files} {text : String} {config' : Config}
    {level level' : Severity} (hplace : files.place command.configPath = .ok place)
    (hwrite : files.write command.configPath text = .ok files')
    (hconfig : Config.ofBytes command.configPath (files.read command.configPath) = .ok config)
    (hconfig' : Config.ofBytes command.configPath (files'.read command.configPath) = .ok config')
    (hsame : config' = { config with logLevel := config'.logLevel })
    (hlevel : config.severity = .ok level) (hlevel' : config'.severity = .ok level')
    (hle : level.rank ≤ level'.rank)
    (hapart : ¬ Rereads now files config.directory place command) (stdin : Except FileFault ByteArray)
    (journal : Journal) (before : String) :
    let lower := Workspace.perform ((command.respond (pure stdin)).run before) now journal files
    let higher := Workspace.perform ((command.respond (pure stdin)).run before) now journal files'
    higher.result = lower.result ∧
      lower.files.write command.configPath text = .ok higher.files ∧
      ∃ noted, lower.journal.entries = journal.entries ++ noted ∧
        higher.journal.entries = journal.entries ++
          noted.filter fun entry => decide (level'.rank ≤ entry.severity.rank) := by
  intro lower higher
  have hfile := hasFile_of_config hplace hconfig
  obtain ⟨written, hwritten, -, rfl⟩ := Files.write_eq_ok.1 hwrite
  obtain rfl : written = place := Except.ok.inj (hwritten.symm.trans hplace)
  obtain ⟨answer, entries, later, hkeeps, hperform⟩ :=
    @steady_pursue now files written text.toUTF8 stdin config command hfile hapart
  let first := Entry.ofEvent .configLoaded [("schema_dir", config.directory)]
  have hlower : lower = ⟨(answer.map fun _ => (), before ++ Answer.line answer),
      (journal.atLevel level).recordAll (first :: entries), later⟩ :=
    perform_respond ((perform_run hconfig hlevel).trans (hperform _).1) before
  have hpursue : pursue stdin command config' = pursue stdin command config := by
    rw [hsame, pursue_level]
  have hdirectory : config'.directory = config.directory := by rw [hsame]
  have hhigher : higher = ⟨(answer.map fun _ => (), before ++ Answer.line answer),
      (journal.atLevel level').recordAll (first :: entries),
      later.adding written (.file text.toUTF8)⟩ := by
    refine perform_respond ?_ before
    rw [perform_run hconfig' hlevel', hpursue, hdirectory]
    exact (hperform _).2
  rw [hlower, hhigher]
  refine ⟨rfl, ?_, _, journal.entries_recordAll level _, ?_⟩
  · obtain ⟨bytes, hbytes⟩ := hfile.extends hkeeps
    exact Files.write_eq_ok.2 ⟨written, hkeeps.place_eq hplace, by simp [hbytes], rfl⟩
  · refine (journal.entries_recordAll level' _).trans (congrArg _ ?_)
    rw [List.filter_filter]
    refine List.filter_congr fun entry _ => ?_
    rw [Bool.eq_iff_iff, Bool.and_eq_true, decide_eq_true_eq, decide_eq_true_eq]
    exact ⟨fun h => ⟨h, hle.trans h⟩, And.left⟩

/-! ### A configuration as input -/

/-- A configuration with a level. -/
def plain (level : String) : Config := ⟨"/schemas", 9, 9, level⟩

/-- A document for configurations, of which it keeps the level. -/
def form : Document := ⟨"settings", "1", none, false, [("log_level", .leaf (.any []) .standard)]⟩

/-- A configuration, and a directory with the document for it. -/
def office (level : String) : Files where
  nodes := [(["config.json"], .file (plain level).toJson.indented.toUTF8), (["schemas"], .directory),
    (["schemas", "settings.json"], .file (Registry.fileText form).toUTF8)]
  here := []

theorem config_office {level : String} (h : (plain level).validated = .ok (plain level)) :
    Config.ofBytes "config.json" ((office level).read "config.json") = .ok (plain level) := by
  have hlocated : (plain level).located "config.json" = plain level := by
    have habsolute : Path.isAbsolute "/schemas" = true := by decide
    exact if_pos habsolute
  have hread : (office level).read "config.json" = .ok (plain level).toJson.indented.toUTF8 := rfl
  rw [hread, Config.ofBytes_written h, hlocated]

theorem faithful_form : form.root.Faithful :=
  Definition.everywhere_object.2 ⟨⟨List.pairwise_singleton .., nofun⟩,
    List.forall_mem_singleton.2 (Definition.everywhere_leaf.2 ⟨trivial, nofun⟩)⟩

theorem read?_form : Document.read? (Registry.fileText form) = some form := by
  have htree : (Definition.leaf (.any []) .standard).toJson =
      .obj [("type", .str "any"), ("nullable", .bool true)] := rfl
  have hleaf : (Definition.leaf (.any []) .standard).toJson.Legible 125 :=
    htree ▸ Json.legible_obj.2 ⟨124, rfl, by simp [Json.Legible]⟩
  exact Document.read?_of_faithful faithful_form (Document.legible_toJson
    (Json.legible_obj.2 ⟨125, rfl, List.forall_mem_singleton.2 hleaf⟩))

/-- The object of a configuration with a level, its members sorted. -/
def plainInput (level : String) : Json :=
  .obj [("log_level", .str level), ("max_depth", .int 9), ("max_nodes", .int 9),
    ("schema_dir", .str "/schemas")]

theorem input_office (level : String) :
    inputOfBytes ((office level).read "config.json") = .ok (plainInput level) := by
  have hcanonical : (plain level).toJson.canonical = plainInput level := by cbv
  have hblank : Text.isBlankText (plain level).toJson.indented = false := by
    rw [Text.isBlankText, Json.indented, String.toList_ofList]
    rfl
  exact inputOfBytes_eq_ok.2 ⟨_, _, _, rfl, Registry.fromUTF8?_toUTF8 _, hblank,
    Json.read?_indented (plain level).legible_toJson, hcanonical⟩

/-- Judged by the document for it, a configuration shows its level. -/
theorem answer_office {level : String} (h : (plain level).validated = .ok (plain level)) :
    answer (validate "config.json" "settings" "1" (some "config.json")) (.error .notFound) .epoch
      (office level) = .ok (.obj [("log_level", .str level)]) := by
  rw [← answered_iff]
  have hlist : (office level).list "/schemas" = .ok ["settings.json"] := rfl
  obtain ⟨schema, hschema⟩ : ∃ schema,
      (form.schema : Outcome Clocked (Schema Clocked)).asOf .epoch = .ok schema := ⟨_, rfl⟩
  have hcontents : ((office level).jsonFiles "/schemas" ["settings.json"]).map (office level).read =
      [.ok (Registry.fileText form).toUTF8] := rfl
  have hholds : Registry.HoldsAll .epoch (((office level).jsonFiles "/schemas" ["settings.json"]).map
      (office level).read) [⟨form, schema⟩] := by
    rw [hcontents]
    exact .cons (Registry.holds_of_read? read?_form rfl hschema) .nil
  obtain ⟨registry, count, hload⟩ :=
    Registry.exists_loadAll_of_holdsAll .empty hlist hholds (Registry.apart_singleton _)
  obtain ⟨entries, hentries, -, hperm, rfl⟩ := Registry.holdsAll_of_loadAll hlist hload
  obtain rfl := Registry.holdsAll_unique hholds hentries
  have hget : registry.get? "settings" "1" = some ⟨form, schema⟩ :=
    (Registry.get?_of_perm (by simp) (Registry.apart_singleton _) hperm).2
      (.inr ⟨List.mem_singleton_self _, rfl⟩)
  have hvalue : Value.ofJson (plainInput level) = .object [("log_level", .string level),
      ("max_depth", .int 9), ("max_nodes", .int 9), ("schema_dir", .string "/schemas")] := by cbv
  have hpassed : (schema.validate (.ofJson (plainInput level))).asOf .epoch =
      .ok (.object [("log_level", .string level)]) := by
    rw [Document.validate_asOf (Document.wellFormed_of_read? read?_form) hschema, hvalue]
    rfl
  have hlimits : (plain level).limits.check (plainInput level) = .ok () := rfl
  have hfiles : (loading (plain level).directory .epoch (office level)).files = office level :=
    Registry.files_loadAll .epoch .empty (office level) (Files.pathExists_of_list hlist) .empty
  have hinput : inputOfBytes (given (.error .notFound)
      (loading (plain level).directory .epoch (office level)).files (some "config.json")) =
        .ok (plainInput level) := by
    rw [hfiles]
    exact input_office level
  exact .judged "config.json" "settings" "1" (some "config.json") _ _ _ _
    (.loaded (plain level) registry _ (config_office h) hload) hinput
    (.passed _ _ (Registry.resolve_eq_ok.2 hget) hlimits hpassed)

theorem not_rereads_office : ¬ Rereads .epoch (office "info") "/schemas" ["config.json"]
    (validate "config.json" "settings" "1" none) := by
  have hlist : (office "info").list "/schemas" = .ok ["settings.json"] := rfl
  rintro (@⟨_, names, name, hnames, hname, -, hplace⟩)
  obtain rfl := Except.ok.inj (hlist.symm.trans hnames)
  obtain rfl := List.mem_singleton.1 hname
  have hdocument : (office "info").place (Path.join "/schemas" "settings.json") =
      .ok ["schemas", "settings.json"] := rfl
  rw [hdocument] at hplace
  simp at hplace

theorem respond_at_levels_office :
    ((office "info").place "config.json" = .ok ["config.json"] ∧
      (office "info").write "config.json" (plain "warn").toJson.indented = .ok (office "warn") ∧
      (plain "info").severity = .ok .info ∧ (plain "warn").severity = .ok .warn ∧
      ¬ Rereads .epoch (office "info") "/schemas" ["config.json"]
        (validate "config.json" "settings" "1" none)) ∧
    let respond := (validate "config.json" "settings" "1" none).respond (pure (.ok "".toUTF8))
    let lower := Workspace.perform (respond.run "") .epoch .empty (office "info")
    let higher := Workspace.perform (respond.run "") .epoch .empty (office "warn")
    higher.result = lower.result ∧
      lower.files.write "config.json" (plain "warn").toJson.indented = .ok higher.files ∧
      ∃ noted, lower.journal.entries = Journal.empty.entries ++ noted ∧
        higher.journal.entries = Journal.empty.entries ++
          noted.filter fun entry => decide (Severity.warn.rank ≤ entry.severity.rank) := by
  refine ⟨⟨rfl, rfl, rfl, rfl, not_rereads_office⟩, ?_⟩
  exact @respond_at_levels .epoch (office "info") ["config.json"] (plain "info")
    (validate "config.json" "settings" "1" none) (office "warn") (plain "warn").toJson.indented
    (plain "warn") .info .warn rfl rfl (config_office rfl) (config_office rfl) rfl rfl rfl (by decide)
    not_rereads_office (.ok "".toUTF8) .empty ""

/-- As its own input, a configuration shows its level. -/
theorem respond_at_own_level :
    let command := validate "config.json" "settings" "1" (some "config.json")
    let respond := fun files =>
      Workspace.perform ((command.respond (pure (.error .notFound))).run "") .epoch .empty files
    (office "info").write "config.json" (plain "warn").toJson.indented = .ok (office "warn") ∧
      Config.ofBytes "config.json" ((office "info").read "config.json") = .ok (plain "info") ∧
      Config.ofBytes "config.json" ((office "warn").read "config.json") = .ok (plain "warn") ∧
      (plain "info").severity = .ok .info ∧ (plain "warn").severity = .ok .warn ∧
      (respond (office "warn")).result ≠ (respond (office "info")).result := by
  intro command respond
  refine ⟨rfl, config_office rfl, config_office rfl, rfl, rfl, ?_⟩
  have hresult : ∀ {level}, (plain level).validated = .ok (plain level) →
      (respond (office level)).result =
        (.ok (), "" ++ Answer.line (.ok (.obj [("log_level", .str level)]))) := by
    intro level h
    have hresponse := @result_respond .epoch (office level) (.error .notFound) command .empty ""
    rw [answer_office h] at hresponse
    exact hresponse
  rw [hresult rfl, hresult rfl]
  decide

end Command

end Conform
