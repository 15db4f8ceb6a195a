/-
**Loading takes a directory as a set of documents.**

Loading goes through the files in the order of their names and ends with the first that cannot be
registered.  Whether it gets through can be said without any order: each file has to hold a document
that can be registered by itself, and the keys of all documents have to be new and differ from each
other.  So neither the names of the files nor their order matter, and neither does it for the registry
that results, seen by its keys.

Main definitions:

* `Registry.Holds` — the entry that a file's bytes hold, taken by themselves;
* `Registry.Apart` — entries with keys that are new and differ from each other;
* `Files.jsonFiles` — the files of a directory whose names end in `.json`;
* `Registry.LoadsAsSet` — what loading a directory means.

Main results:

* `Registry.registerFiles_eq_ok` — which files are registered, one after another;
* `Registry.loadAll_eq_ok` — **when loading succeeds, and with which registry**;
* `Registry.loadsAsSet_of_list` — **loading takes a directory as a set of documents**.
-/

import Conform.Proofs.DocumentText
import Conform.Proofs.Directories
import Conform.Proofs.Registry
import Conform.Run

set_option relaxedAutoImplicit false
set_option autoImplicit false

namespace Conform

namespace Registry

variable {registry later : Registry} {now : DateTime} {path : String}
  {bytes : Except FileFault ByteArray} {document : Document} {entry : Registered}
  {entries : List Registered} {id version : String}

/-! ### Keys -/

theorem mem_keys {key : String × String} :
    key ∈ registry.keys ↔ key ∈ registry.entries.map fun entry => entry.document.key :=
  List.mem_mergeSort

@[simp] theorem keys_empty : empty.keys = [] := by simp [keys, empty]

theorem keyLE_trans {a b c : String × String} (hab : keyLE a b = true) (hbc : keyLE b c = true) :
    keyLE a c = true := by
  simp only [keyLE, Bool.or_eq_true, Bool.and_eq_true, decide_eq_true_eq, beq_iff_eq] at hab hbc ⊢
  rcases hab with hab | ⟨hab, hab'⟩ <;> rcases hbc with hbc | ⟨hbc, hbc'⟩
  · exact .inl (String.lt_trans hab hbc)
  · exact .inl (hbc ▸ hab)
  · exact .inl (hab ▸ hbc)
  · exact .inr ⟨hab.trans hbc, String.le_trans hab' hbc'⟩

theorem keyLE_total (a b : String × String) : (keyLE a b || keyLE b a) = true := by
  simp only [keyLE, Bool.or_eq_true, Bool.and_eq_true, decide_eq_true_eq, beq_iff_eq]
  rcases lt_trichotomy a.1 b.1 with h | h | h
  · exact .inl (.inl h)
  · exact (le_total a.2 b.2).imp (fun hle => .inr ⟨h, hle⟩) fun hle => .inr ⟨h.symm, hle⟩
  · exact .inr (.inl h)

theorem keyLE_antisymm {a b : String × String} (hab : keyLE a b = true) (hba : keyLE b a = true) :
    a = b := by
  simp only [keyLE, Bool.or_eq_true, Bool.and_eq_true, decide_eq_true_eq, beq_iff_eq] at hab hba
  rcases hab with hab | ⟨hab, hab'⟩
  · rcases hba with hba | ⟨hba, -⟩
    · exact absurd hba (lt_asymm hab)
    · exact absurd hba.symm (ne_of_lt hab)
  · rcases hba with hba | ⟨-, hba'⟩
    · exact absurd hab.symm (ne_of_lt hba)
    · exact Prod.ext hab (String.le_antisymm hab' hba')

/-- A key that is not greater than another one is equal to it or less. -/
theorem lex_of_keyLE {a b : String × String} (hle : keyLE a b = true) (hne : a ≠ b) :
    Prod.Lex (· < ·) (· < ·) a b := by
  simp only [keyLE, Bool.or_eq_true, Bool.and_eq_true, decide_eq_true_eq, beq_iff_eq] at hle
  rw [Prod.lex_def]
  rcases hle with hlt | ⟨heq, hle⟩
  · exact .inl hlt
  · exact .inr ⟨heq, lt_of_le_of_ne hle fun h => hne (Prod.ext heq h)⟩

theorem pairwise_keyLE (registry : Registry) :
    registry.keys.Pairwise fun a b => keyLE a b = true := by
  unfold keys
  exact @List.pairwise_mergeSort _ keyLE (fun _ _ _ => keyLE_trans) keyLE_total _

/-- Keys that differ from each other ascend strictly. -/
theorem keys_ascend (h : registry.keys.Nodup) :
    registry.keys.Pairwise (Prod.Lex (· < ·) (· < ·)) :=
  registry.pairwise_keyLE.imp₂ (fun _ _ => lex_of_keyLE) h

/-- Registries with the same entries in another order list the same keys. -/
theorem keys_of_perm (h : registry.entries.Perm later.entries) : registry.keys = later.keys := by
  have hperm : registry.keys.Perm later.keys :=
    (List.mergeSort_perm _ _).trans ((h.map _).trans (List.mergeSort_perm _ _).symm)
  exact hperm.eq_of_pairwise (fun _ _ _ _ => keyLE_antisymm) registry.pairwise_keyLE
    later.pairwise_keyLE

/-- Where keys differ from each other, an entry is found under its key. -/
theorem get?_eq_some_iff (h : registry.keys.Nodup) : registry.get? id version = some entry ↔
    entry ∈ registry.entries ∧ entry.document.key = (id, version) := by
  constructor
  · exact key_of_get?
  · rintro ⟨hmem, hkey⟩
    have hfound : (registry.get? id version).isSome := by
      rw [Option.isSome_iff_exists, ← mem_keys_iff, mem_keys, ← hkey]
      exact List.mem_map_of_mem hmem
    obtain ⟨other, hother⟩ := Option.isSome_iff_exists.1 hfound
    obtain ⟨hmem', hkey'⟩ := key_of_get? hother
    have hnodup : (registry.entries.map fun entry => entry.document.key).Nodup :=
      (List.mergeSort_perm _ _).nodup_iff.1 h
    rw [hother, List.inj_on_of_nodup_map hnodup hmem' hmem (hkey'.trans hkey.symm)]

/-! ### What a file holds -/

/-- What a file holds, if it can be registered by itself: a sound document and its schema. -/
structure Holds (now : DateTime) (bytes : Except FileFault ByteArray) (entry : Registered) : Prop where
  text : ∃ content text, bytes = .ok content ∧ String.fromUTF8? content = some text ∧
    Document.read? text = some entry.document
  sound : entry.document.defect? = none
  compiled : (entry.document.schema : Outcome Clocked (Schema Clocked)).asOf now = .ok entry.schema

theorem documentOf_eq_ok : documentOf path bytes = .ok document ↔
    ∃ content text, bytes = .ok content ∧ String.fromUTF8? content = some text ∧
      Document.read? text = some document := by
  cases bytes with
  | error fault => simp [documentOf]
  | ok content =>
      rw [documentOf, ok_bind, textOfBytes]
      cases htext : String.fromUTF8? content with
      | none => simp [htext]
      | some text => cases hread : Document.read? text <;> simp [htext, hread]

theorem fromUTF8?_toUTF8 (text : String) : String.fromUTF8? text.toUTF8 = some text :=
  dif_pos text.isValidUTF8

/-- What the text of a document holds. -/
theorem holds_of_read? {text : String} {schema : Schema Clocked}
    (hread : Document.read? text = some document) (hsound : document.defect? = none)
    (hschema : (document.schema : Outcome Clocked (Schema Clocked)).asOf now = .ok schema) :
    Holds now (.ok text.toUTF8) ⟨document, schema⟩ :=
  ⟨⟨text.toUTF8, text, rfl, fromUTF8?_toUTF8 text, hread⟩, hsound, hschema⟩

/-- A file is registered exactly if it holds an entry whose key is free. -/
theorem register_documentOf_eq_ok {result : Registry × Entry} :
    (documentOf path bytes >>= registry.register now path) = .ok result ↔
      ∃ entry, Holds now bytes entry ∧
        registry.get? entry.document.id entry.document.version = none ∧
          (⟨registry.entries ++ [entry]⟩, loadedEntry path entry.document) = result := by
  rw [bind_eq_ok]
  constructor
  · rintro ⟨document, hdocument, hregister⟩
    obtain ⟨entry, hentry, heq⟩ := register_eq_ok.1 hregister
    obtain ⟨hdefect, hfree, schema, hschema, rfl⟩ := enroll_eq_ok.1 hentry
    exact ⟨⟨document, schema⟩, ⟨documentOf_eq_ok.1 hdocument, hdefect, hschema⟩, hfree, heq⟩
  · rintro ⟨⟨document, schema⟩, ⟨htext, hdefect, hschema⟩, hfree, heq⟩
    refine ⟨document, documentOf_eq_ok.2 htext, register_eq_ok.2 ⟨⟨document, schema⟩, ?_, heq⟩⟩
    exact enroll_eq_ok.2 ⟨hdefect, hfree, schema, hschema, rfl⟩

/-! ### Several files -/

/-- The keys of the entries are new to the registry and differ from each other. -/
structure Apart (registry : Registry) (entries : List Registered) : Prop where
  distinct : (entries.map fun entry => entry.document.key).Nodup
  free : ∀ entry ∈ entries, entry.document.key ∉ registry.keys

/-- A first entry and others are apart, if the first one is, and the others are from the registry with
it. -/
theorem apart_cons : Apart registry (entry :: entries) ↔
    registry.get? entry.document.id entry.document.version = none ∧
      Apart ⟨registry.entries ++ [entry]⟩ entries := by
  have hfree : registry.get? entry.document.id entry.document.version = none ↔
      entry.document.key ∉ registry.keys := get?_eq_none_iff
  have hlater : ∀ key, key ∉ keys ⟨registry.entries ++ [entry]⟩ ↔
      key ∉ registry.keys ∧ key ≠ entry.document.key := by
    intro key
    rw [mem_keys, mem_keys, List.map_append, List.mem_append, not_or, List.map_singleton,
      List.mem_singleton]
  rw [hfree]
  constructor
  · rintro ⟨hdistinct, hnew⟩
    obtain ⟨hentry, hrest⟩ := List.forall_mem_cons.1 hnew
    obtain ⟨hother, hdistinct⟩ := List.nodup_cons.1 hdistinct
    refine ⟨hentry, hdistinct, fun e he => (hlater _).2 ⟨hrest e he, fun heq => hother ?_⟩⟩
    exact List.mem_map.2 ⟨e, he, heq⟩
  · rintro ⟨hentry, hdistinct, hnew⟩
    refine ⟨List.nodup_cons.2 ⟨fun hmem => ?_, hdistinct⟩, List.forall_mem_cons.2 ⟨hentry, ?_⟩⟩
    · obtain ⟨e, he, heq⟩ := List.mem_map.1 hmem
      exact ((hlater _).1 (hnew e he)).2 heq
    · exact fun e he => ((hlater _).1 (hnew e he)).1

/-- **Files are registered exactly if they hold entries that are apart**, and then all of these are
appended. -/
theorem registerFiles_eq_ok {files : List (String × Except FileFault ByteArray)} :
    ∀ {registry : Registry},
      ((registerFiles now registry files).outcome = .ok () ∧
        (registerFiles now registry files).registry = later) ↔
          ∃ entries, List.Forall₂ (fun file entry => Holds now file.2 entry) files entries ∧
            Apart registry entries ∧ ⟨registry.entries ++ entries⟩ = later := by
  induction files with
  | nil =>
      intro registry
      simp only [registerFiles, List.forall₂_nil_left_iff, exists_eq_left, List.append_nil, true_and]
      exact (and_iff_right ⟨List.nodup_nil, List.forall_mem_nil _⟩).symm
  | cons file rest ih =>
      intro registry
      obtain ⟨path, bytes⟩ := file
      rw [registerFiles]
      constructor
      · cases h : documentOf path bytes >>= registry.register now path with
        | error fault =>
            rintro ⟨hok, -⟩
            cases hok
        | ok done =>
            intro hresult
            obtain ⟨entry, hholds, hfree, rfl⟩ := register_documentOf_eq_ok.1 h
            obtain ⟨others, hothers, hapart, rfl⟩ := ih.1 hresult
            refine ⟨entry :: others, .cons hholds hothers, apart_cons.2 ⟨hfree, hapart⟩, ?_⟩
            rw [List.append_assoc, List.singleton_append]
      · rintro ⟨_, hall, hapart, rfl⟩
        cases hall with
        | @cons _ entry _ others hholds hothers =>
            obtain ⟨hfree, hapart⟩ := apart_cons.1 hapart
            rw [register_documentOf_eq_ok.2 ⟨entry, hholds, hfree, rfl⟩]
            refine ih.2 ⟨others, hothers, hapart, ?_⟩
            rw [List.append_assoc, List.singleton_append]

/-- In which order entries are named does not matter for whether they are apart. -/
theorem Apart.perm {others : List Registered} (h : Apart registry entries) (hperm : entries.Perm others) :
    Apart registry others :=
  ⟨(hperm.map _).nodup_iff.1 h.distinct, fun entry hentry => h.free entry (hperm.mem_iff.2 hentry)⟩

end Registry

/-! ### Directories -/

/-- The files of a directory whose names end in `.json`, as they are listed. -/
def Files.jsonFiles (files : Files) (directory : String) (names : List String) : List String :=
  ((names.filter Path.hasJsonExtension).map (Path.join directory)).filter files.isFile

theorem Files.documents_perm (files : Files) (directory : String) (names : List String) :
    (files.documents directory names).Perm
      ((files.jsonFiles directory names).map fun path => (path, files.read path)) :=
  ((((List.mergeSort_perm _ _).map _).filter _).map _)

namespace Registry

variable {registry later : Registry} {now : DateTime} {journal : Journal} {files : Files}
  {directory : String} {names : List String} {entries : List Registered} {count : ℕ}

/-- What the files of a directory hold, each by itself, in the order in which they are listed. -/
def HoldsAll (now : DateTime) (contents : List (Except FileFault ByteArray))
    (entries : List Registered) : Prop := List.Forall₂ (Holds now) contents entries

/-- **Loading a directory succeeds exactly if its files hold entries that are apart**, and then all of
these are registered. -/
theorem loadAll_eq_ok (hlist : files.list directory = .ok names) :
    (Workspace.perform (registry.loadAll directory) now journal files).result = (later, .ok count) ↔
      (∃ entries, List.Forall₂ (fun file entry => Holds now file.2 entry)
        (files.documents directory names) entries ∧ Apart registry entries ∧
          ⟨registry.entries ++ entries⟩ = later) ∧ (files.documents directory names).length = count := by
  rw [← registerFiles_eq_ok, perform_loadAll, if_pos (Files.pathExists_of_list hlist), hlist]
  simp only
  cases (registerFiles now registry (files.documents directory names)).outcome with
  | error fault => simp
  | ok _ => simp

/-- What bytes hold is determined. -/
theorem Holds.unique {bytes : Except FileFault ByteArray} {entry other : Registered}
    (h : Holds now bytes entry) (h' : Holds now bytes other) : entry = other := by
  obtain ⟨document, schema⟩ := entry
  obtain ⟨document', schema'⟩ := other
  obtain ⟨content, text, rfl, htext, hread⟩ := h.text
  obtain ⟨_, _, heq, htext', hread'⟩ := h'.text
  cases heq
  cases htext.symm.trans htext'
  obtain rfl : document = document' := Option.some.inj (hread.symm.trans hread')
  obtain rfl : schema = schema' := Except.ok.inj (h.compiled.symm.trans h'.compiled)
  rfl

/-- What loading a directory means. -/
structure LoadsAsSet (registry : Registry) (directory : String) (now : DateTime) (files : Files)
    (names : List String) : Prop where
  /-- it succeeds exactly if each file holds a document that can be registered by itself, and the keys
  of these are new and differ from each other -/
  success_iff : ∀ journal,
    (∃ later count, (Workspace.perform (registry.loadAll directory) now journal files).result =
      (later, .ok count)) ↔
        ∃ entries, HoldsAll now ((files.jsonFiles directory names).map files.read) entries ∧
          Apart registry entries
  /-- then these documents are registered, and nothing else changes -/
  loaded : ∀ journal later count,
    (Workspace.perform (registry.loadAll directory) now journal files).result = (later, .ok count) →
      ∃ entries, HoldsAll now ((files.jsonFiles directory names).map files.read) entries ∧
        count = (files.jsonFiles directory names).length ∧
        later.entries.Perm (registry.entries ++ entries) ∧
        later.count = registry.count + count ∧
        ∀ id version entry, later.get? id version = some entry ↔
          registry.get? id version = some entry ∨
            entry ∈ entries ∧ entry.document.key = (id, version)
  /-- the keys then are those of the registered documents, in strictly ascending order -/
  keys : ∀ journal later count,
    (Workspace.perform (registry.loadAll directory) now journal files).result = (later, .ok count) →
      later.keys.Pairwise (Prod.Lex (· < ·) (· < ·)) ∧
        ∀ id version, (id, version) ∈ later.keys ↔ ∃ entry, later.get? id version = some entry
  /-- a directory whose files have the same contents, under whatever names, is loaded as this one -/
  renamed : ∀ (files' : Files) directory' names' journal journal', files'.list directory' = .ok names' →
    ((files'.jsonFiles directory' names').map files'.read).Perm
        ((files.jsonFiles directory names).map files.read) →
      ((∃ later count,
        (Workspace.perform (registry.loadAll directory') now journal' files').result =
          (later, .ok count)) ↔
        ∃ later count, (Workspace.perform (registry.loadAll directory) now journal files).result =
          (later, .ok count)) ∧
      ∀ later count later' count',
        (Workspace.perform (registry.loadAll directory) now journal files).result =
            (later, .ok count) →
          (Workspace.perform (registry.loadAll directory') now journal' files').result =
              (later', .ok count') →
            count' = count ∧ later'.keys = later.keys ∧
              ∀ id version, later'.get? id version = later.get? id version
  /-- the report of a command that loads the directory first of all counts what was loaded -/
  report : registry = empty → ∀ path settings standardInput journal journal' later count,
    (Workspace.perform (Command.configure path) now journal files).result = .ok settings →
      settings.directory = directory →
        (Workspace.perform (registry.loadAll directory) now journal' files).result =
            (later, .ok count) →
          ∃ schemas metrics,
            (Workspace.perform (Command.run standardInput (.check path)) now journal files).result =
              .ok (.obj [("count", .int (Int64.ofNat count)), ("metrics", Metrics.toJson metrics),
                ("schema_dir", .str directory), ("schemas", .arr schemas)]) ∧
            schemas.length = count ∧ metrics.loaded = UInt64.ofNat count ∧
            (count < 2 ^ 63 →
              metrics.toJson.member? "schemas_loaded" = some (.int (Int64.ofNat count)))

/-! ### The report -/

/-- To find the configuration, files are only read. -/
theorem files_configure (path : String) (now : DateTime) (journal : Journal) (files : Files) :
    (Workspace.perform (Command.configure path) now journal files).files = files := by
  rw [Command.configure, Config.load]
  simp only [Workspace.perform_bind, Workspace.perform_read, Workspace.perform_pure]
  cases Config.ofBytes path (files.read path) with
  | error fault => rfl
  | ok config =>
      simp only
      cases config.severity <;> rfl

/-- A command that checks begins with the configuration, loads all documents, and reports on them. -/
theorem perform_check {path : String} {settings : Config}
    {standardInput : Workspace (Except FileFault ByteArray)}
    (hsettings : (Workspace.perform (Command.configure path) now journal files).result = .ok settings)
    (hload : ∀ journal, (Workspace.perform (empty.loadAll settings.directory) now journal files).result =
      (later, .ok count)) :
    (Workspace.perform (Command.run standardInput (.check path)) now journal files).result =
      .ok (Session.report ⟨settings, later, Metrics.zero.addLoaded (UInt64.ofNat count)⟩) := by
  rw [Command.run, Command.boot]
  simp only [Workspace.perform_bind, hsettings, files_configure, hload, Workspace.perform_pure]

/-- The report lists a document for each key. -/
theorem length_report (registry : Registry) : (registry.keys.filterMap fun key =>
    (registry.get? key.1 key.2).map fun entry => Session.describe entry.document).length =
      registry.count := by
  have hfound : ∀ key ∈ registry.keys, (((registry.get? key.1 key.2).map fun entry =>
      Session.describe entry.document).isSome) := by
    intro key hkey
    obtain ⟨entry, hentry⟩ := mem_keys_iff.1 hkey
    rw [hentry]
    rfl
  have hlength : registry.keys.length = registry.count := by
    rw [keys, List.length_mergeSort, List.length_map, count]
  rw [← hlength]
  exact List.filterMap_length_eq_length.2 hfound

/-- The counter of loaded documents, where it does not wrap around. -/
theorem loaded_toJson (count : ℕ) :
    (Metrics.zero.addLoaded (UInt64.ofNat count)).loaded = UInt64.ofNat count ∧
      (count < 2 ^ 63 → (Metrics.zero.addLoaded (UInt64.ofNat count)).toJson.member? "schemas_loaded" =
        some (.int (Int64.ofNat count))) := by
  have hloaded : (Metrics.zero.addLoaded (UInt64.ofNat count)).loaded = UInt64.ofNat count :=
    UInt64.zero_add _
  refine ⟨hloaded, fun hcount => ?_⟩
  have hmember : (Metrics.zero.addLoaded (UInt64.ofNat count)).toJson.member? "schemas_loaded" =
      some (Json.ofUInt64 (Metrics.zero.addLoaded (UInt64.ofNat count)).loaded) := rfl
  have hsmall : (UInt64.ofNat count).toNat < 0x8000000000000000 := by
    rw [UInt64.toNat_ofNat']
    omega
  rw [hmember, hloaded, Json.ofUInt64, if_pos hsmall]
  rfl

/-! ### Loading a directory -/

theorem nodup_of_apart (h : registry.keys.Nodup) (hapart : Apart registry entries) :
    (keys ⟨registry.entries ++ entries⟩).Nodup := by
  have hold : (registry.entries.map fun entry => entry.document.key).Nodup :=
    (List.mergeSort_perm _ _).nodup_iff.1 h
  refine (List.mergeSort_perm _ _).nodup_iff.2 ?_
  rw [List.map_append]
  refine List.nodup_append.2 ⟨hold, hapart.distinct, fun key hkey other hother => ?_⟩
  rintro rfl
  obtain ⟨entry, hentry, rfl⟩ := List.mem_map.1 hother
  exact hapart.free entry hentry (mem_keys.2 hkey)

/-- What is found after loading, whatever the order in which the entries came. -/
theorem get?_of_perm (h : registry.keys.Nodup) (hapart : Apart registry entries)
    (hperm : later.entries.Perm (registry.entries ++ entries)) {id version : String}
    {entry : Registered} : later.get? id version = some entry ↔
      registry.get? id version = some entry ∨
        entry ∈ entries ∧ entry.document.key = (id, version) := by
  have hkeys : later.keys = keys ⟨registry.entries ++ entries⟩ := keys_of_perm hperm
  have hlater : later.keys.Nodup := hkeys ▸ nodup_of_apart h hapart
  rw [get?_eq_some_iff hlater, get?_eq_some_iff h, hperm.mem_iff, List.mem_append, or_and_right]

theorem contents_perm (files : Files) (directory : String) (names : List String) :
    ((files.documents directory names).map (·.2)).Perm
      ((files.jsonFiles directory names).map files.read) := by
  refine ((files.documents_perm directory names).map (·.2)).trans ?_
  rw [List.map_map]
  exact .refl _

/-- What is registered is what the files hold, in some order. -/
theorem holdsAll_of_loadAll (hlist : files.list directory = .ok names)
    (hload : (Workspace.perform (registry.loadAll directory) now journal files).result =
      (later, .ok count)) :
    ∃ entries, HoldsAll now ((files.jsonFiles directory names).map files.read) entries ∧
      Apart registry entries ∧ later.entries.Perm (registry.entries ++ entries) ∧
        (files.jsonFiles directory names).length = count := by
  obtain ⟨⟨sorted, hholds, hapart, rfl⟩, hcount⟩ := (loadAll_eq_ok hlist).1 hload
  have hcontents : HoldsAll now ((files.documents directory names).map (·.2)) sorted :=
    List.forall₂_map_left_iff.2 hholds
  obtain ⟨entries, hentries, hperm⟩ := exists_forall₂_of_perm
    (contents_perm files directory names).symm hcontents
  refine ⟨entries, hentries, hapart.perm hperm.symm, hperm.symm.append_left _, ?_⟩
  rw [← hcount, (files.documents_perm directory names).length_eq, List.length_map]

/-- Files that hold entries which are apart are loaded. -/
theorem exists_loadAll_of_holdsAll (journal : Journal) (hlist : files.list directory = .ok names)
    (hholds : HoldsAll now ((files.jsonFiles directory names).map files.read) entries)
    (hapart : Apart registry entries) :
    ∃ later count, (Workspace.perform (registry.loadAll directory) now journal files).result =
      (later, .ok count) := by
  obtain ⟨sorted, hsorted, hperm⟩ := exists_forall₂_of_perm
    (contents_perm files directory names) hholds
  exact ⟨_, _, (loadAll_eq_ok hlist).2
    ⟨⟨sorted, List.forall₂_map_left_iff.1 hsorted, hapart.perm hperm.symm, rfl⟩, rfl⟩⟩

theorem holdsAll_unique {contents : List (Except FileFault ByteArray)} {others : List Registered}
    (h : HoldsAll now contents entries) (h' : HoldsAll now contents others) : entries = others :=
  List.right_unique_forall₂' (fun _ _ _ hentry hother => hentry.unique hother) h h'

/-! ### A directory to load -/

/-- A document without fields. -/
def blank (id version : String) : Document := ⟨id, version, none, false, []⟩

theorem read?_blank (id version : String) :
    Document.read? (fileText (blank id version)) = some (blank id version) := by
  refine Document.read?_of_faithful ?_ ?_
  · exact Definition.everywhere_object.2 ⟨⟨List.Pairwise.nil, nofun⟩, List.forall_mem_nil _⟩
  · exact Document.legible_toJson (Json.legible_obj.2 ⟨125, rfl, List.forall_mem_nil _⟩)

/-- A directory with one such document, and with a file that holds none. -/
def drawer : Files :=
  ⟨[(["schemas"], .directory), (["schemas", "any.json"], .file (fileText (blank "receipt" "1")).toUTF8),
    (["schemas", "notes.txt"], .file "".toUTF8)], []⟩

theorem list_drawer : drawer.list "schemas" = .ok ["any.json", "notes.txt"] := rfl

theorem exists_holdsAll_drawer : ∃ schema, HoldsAll .epoch
    ((drawer.jsonFiles "schemas" ["any.json", "notes.txt"]).map drawer.read)
      [⟨blank "receipt" "1", schema⟩] := by
  obtain ⟨schema, hschema⟩ : ∃ schema,
      ((blank "receipt" "1").schema : Outcome Clocked (Schema Clocked)).asOf .epoch = .ok schema :=
    ⟨_, rfl⟩
  exact ⟨schema, .cons (holds_of_read? (read?_blank "receipt" "1") rfl hschema) .nil⟩

theorem apart_singleton (entry : Registered) : Apart empty [entry] :=
  ⟨List.nodup_singleton entry.document.key, fun _ _ => by simp⟩

/-! ### A directory as a set -/

/-- **Loading takes a directory as a set of documents**, whatever is registered already. -/
theorem loadsAsSet_of_list (registry : Registry) (hdistinct : registry.keys.Nodup) (directory : String)
    (now : DateTime) (files : Files) (names : List String)
    (hlist : files.list directory = .ok names) : LoadsAsSet registry directory now files names where
  success_iff := by
    intro journal
    constructor
    · rintro ⟨later, count, hload⟩
      obtain ⟨entries, hholds, hapart, -⟩ := holdsAll_of_loadAll hlist hload
      exact ⟨entries, hholds, hapart⟩
    · rintro ⟨entries, hholds, hapart⟩
      exact exists_loadAll_of_holdsAll journal hlist hholds hapart
  loaded := by
    intro journal later count hload
    obtain ⟨entries, hholds, hapart, hperm, hcount⟩ := holdsAll_of_loadAll hlist hload
    refine ⟨entries, hholds, hcount.symm, hperm, ?_, fun id version entry =>
      get?_of_perm hdistinct hapart hperm⟩
    have hlength := hholds.length_eq
    rw [List.length_map, hcount] at hlength
    rw [Registry.count, hperm.length_eq, List.length_append, ← hlength, Registry.count]
  keys := by
    intro journal later count hload
    obtain ⟨entries, -, hapart, hperm, -⟩ := holdsAll_of_loadAll hlist hload
    refine ⟨keys_ascend ?_, fun id version => mem_keys_iff⟩
    rw [keys_of_perm hperm]
    exact nodup_of_apart hdistinct hapart
  renamed := by
    intro files' directory' names' journal journal' hlist' hperm
    constructor
    · constructor
      · rintro ⟨later, count, hload⟩
        obtain ⟨entries, hholds, hapart, -⟩ := holdsAll_of_loadAll hlist' hload
        obtain ⟨others, hothers, hsame⟩ := exists_forall₂_of_perm hperm.symm hholds
        exact exists_loadAll_of_holdsAll journal hlist hothers (hapart.perm hsame.symm)
      · rintro ⟨later, count, hload⟩
        obtain ⟨entries, hholds, hapart, -⟩ := holdsAll_of_loadAll hlist hload
        obtain ⟨others, hothers, hsame⟩ := exists_forall₂_of_perm hperm hholds
        exact exists_loadAll_of_holdsAll journal' hlist' hothers (hapart.perm hsame.symm)
    · intro later count later' count' hload hload'
      obtain ⟨entries, hholds, hapart, hlater, hcount⟩ := holdsAll_of_loadAll hlist hload
      obtain ⟨entries', hholds', hapart', hlater', hcount'⟩ := holdsAll_of_loadAll hlist' hload'
      -- the same contents hold the same entries
      obtain ⟨others, hothers, hsame⟩ := exists_forall₂_of_perm hperm hholds
      obtain rfl := holdsAll_unique hholds' hothers
      have hentries : later'.entries.Perm later.entries :=
        hlater'.trans ((hsame.append_left _).trans hlater.symm)
      refine ⟨?_, keys_of_perm hentries, fun id version => Option.ext fun entry => ?_⟩
      · have hlength := hperm.length_eq
        rwa [List.length_map, List.length_map, hcount, hcount'] at hlength
      · rw [get?_of_perm hdistinct hapart hlater,
          get?_of_perm hdistinct hapart (hlater'.trans (hsame.append_left _))]
  report := by
    rintro rfl path settings standardInput journal journal' later count hsettings rfl hload
    obtain ⟨entries, hholds, -, hperm, hcount⟩ := holdsAll_of_loadAll hlist hload
    have hlength : later.count = count := by
      have hlength := hholds.length_eq
      rw [List.length_map, hcount] at hlength
      rw [Registry.count, hperm.length_eq, hlength]
      rfl
    -- the journal has no influence on what is loaded
    have hany : ∀ journal, (Workspace.perform (empty.loadAll settings.directory) now journal
        files).result = (later, .ok count) := fun journal =>
      (loadAll_eq_ok hlist).2 ((loadAll_eq_ok hlist).1 hload)
    have hreport := later.length_report.trans hlength
    refine ⟨_, _, (perform_check hsettings hany).trans ?_, hreport, loaded_toJson count⟩
    rw [Session.report]
    simp only [hreport]

theorem loadsAsSet_of_list_drawer :
    (empty.keys.Nodup ∧ drawer.list "schemas" = .ok ["any.json", "notes.txt"]) ∧
      LoadsAsSet empty "schemas" .epoch drawer ["any.json", "notes.txt"] ∧
      ∃ later, (Workspace.perform (empty.loadAll "schemas") .epoch .empty drawer).result =
        (later, .ok 1) := by
  have hdistinct : empty.keys.Nodup := by simp
  have hset := loadsAsSet_of_list empty hdistinct "schemas" .epoch drawer _ list_drawer
  refine ⟨⟨hdistinct, list_drawer⟩, hset, ?_⟩
  obtain ⟨schema, hholds⟩ := exists_holdsAll_drawer
  obtain ⟨later, count, hload⟩ := (hset.success_iff .empty).2 ⟨_, hholds, apart_singleton _⟩
  obtain ⟨-, -, hcount, -⟩ := hset.loaded _ _ _ hload
  have hone : (drawer.jsonFiles "schemas" ["any.json", "notes.txt"]).length = 1 := rfl
  exact ⟨later, (hcount.trans hone) ▸ hload⟩

end Registry

end Conform
