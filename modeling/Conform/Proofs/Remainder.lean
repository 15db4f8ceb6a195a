/-
**What a load that fails leaves behind.**

Loading a directory registers its documents as it goes.  If it fails over a file, the documents of the
files before it stay registered; only where the directory itself cannot be read or created does the
registry stay as it was.  So the load cannot simply be repeated once the file has been mended: it then
fails over the first document that is registered already, unless none of the documents that were left
behind is in the directory any more.

Main definitions:

* `Registry.Halts` — how loading fails, and which documents it leaves behind.

Main results:

* `Registry.registerFiles_eq_error` — where registering files one after another ends;
* `Registry.loadAll_eq_error` — when loading fails, and with which registry;
* `Registry.reload_mended` — the load of a mended directory, repeated;
* `Registry.remainder_of_loadAll` — **what a load that fails leaves behind**.
-/

import Conform.Proofs.Reloading

set_option relaxedAutoImplicit false
set_option autoImplicit false

namespace Conform

namespace Registry

variable {registry later : Registry} {now : DateTime} {journal : Journal} {files : Files}
  {directory : String} {names : List String} {fault : Fault} {left others : List Registered}

/-! ### The file that cannot be registered -/

/-- **Registering files ends with the first that cannot be registered**; the files before it hold
entries that are apart, and these have been appended. -/
theorem registerFiles_eq_error {loads : List (String × Except FileFault ByteArray)} :
    ∀ {registry : Registry},
      ((registerFiles now registry loads).outcome = .error fault ∧
        (registerFiles now registry loads).registry = later) ↔
          ∃ before path bytes after left, loads = before ++ (path, bytes) :: after ∧
            List.Forall₂ (fun file entry => Holds now file.2 entry) before left ∧
            Apart registry left ∧ later = ⟨registry.entries ++ left⟩ ∧
            (documentOf path bytes >>= later.register now path) = .error fault := by
  induction loads with
  | nil =>
      intro registry
      constructor
      · rintro ⟨hfault, -⟩
        cases hfault
      · rintro ⟨before, path, bytes, after, left, heq, -⟩
        simp at heq
  | cons file rest ih =>
      intro registry
      obtain ⟨path, bytes⟩ := file
      rw [registerFiles]
      constructor
      · cases h : documentOf path bytes >>= registry.register now path with
        | error cause =>
            rintro ⟨hfault, rfl⟩
            obtain rfl : cause = fault := Except.error.inj hfault
            exact ⟨[], path, bytes, rest, [], rfl, .nil, ⟨List.nodup_nil, List.forall_mem_nil _⟩,
              congrArg Registry.mk (List.append_nil _).symm, h⟩
        | ok done =>
            intro hresult
            obtain ⟨entry, hholds, hfree, rfl⟩ := register_documentOf_eq_ok.1 h
            obtain ⟨before, path', bytes', after, left, rfl, hbefore, hapart, rfl, hstop⟩ :=
              ih.1 hresult
            refine ⟨(path, bytes) :: before, path', bytes', after, entry :: left, rfl,
              .cons hholds hbefore, apart_cons.2 ⟨hfree, hapart⟩, ?_, hstop⟩
            rw [List.append_assoc, List.singleton_append]
      · rintro ⟨before, path', bytes', after, left, heq, hbefore, hapart, rfl, hstop⟩
        cases hbefore with
        | nil =>
            obtain ⟨hfile, rfl⟩ := List.cons.inj heq
            cases hfile
            rw [List.append_nil] at hstop ⊢
            rw [hstop]
            exact ⟨rfl, rfl⟩
        | @cons _ entry before left hholds hbefore =>
            obtain ⟨rfl, rfl⟩ := List.cons.inj heq
            obtain ⟨hfree, hapart⟩ := apart_cons.1 hapart
            rw [register_documentOf_eq_ok.2 ⟨entry, hholds, hfree, rfl⟩]
            refine ih.2 ⟨before, path', bytes', after, left, rfl, hbefore, hapart, ?_, hstop⟩
            rw [List.append_assoc, List.singleton_append]

/-! ### The load that fails -/

/-- How loading a directory fails: the fault, and the entries that it leaves behind. -/
inductive Halts (registry : Registry) (directory : String) (now : DateTime) (files : Files) :
    Fault → List Registered → Prop
  /-- the directory is missing, and it cannot be created -/
  | uncreated (cause : FileFault) (hmissing : files.pathExists directory = false)
      (hcreate : files.createDirectories directory = .error cause) :
      Halts registry directory now files
        (directoryFault directory "Failed to create schema directory" cause) []
  /-- the directory cannot be read -/
  | unlisted (cause : FileFault) (hexists : files.pathExists directory = true)
      (hlist : files.list directory = .error cause) :
      Halts registry directory now files
        (directoryFault directory "Failed to read schema directory" cause) []
  /-- a file cannot be registered behind those before it in the order of their names, which stay
  registered -/
  | stopped (names : List String) (before after : List (String × Except FileFault ByteArray))
      (path : String) (bytes : Except FileFault ByteArray) (fault : Fault) (left : List Registered)
      (hlist : files.list directory = .ok names)
      (hfiles : files.documents directory names = before ++ (path, bytes) :: after)
      (hbefore : List.Forall₂ (fun file entry => Holds now file.2 entry) before left)
      (hapart : Apart registry left)
      (hstop : (documentOf path bytes >>= register ⟨registry.entries ++ left⟩ now path) =
        .error fault) :
      Halts registry directory now files fault left

/-- **When loading a directory fails, and with which registry.** -/
theorem loadAll_eq_error :
    (Workspace.perform (registry.loadAll directory) now journal files).result =
        (later, .error fault) ↔
      ∃ left, Halts registry directory now files fault left ∧ later = ⟨registry.entries ++ left⟩ := by
  have hnone : (⟨registry.entries ++ []⟩ : Registry) = registry :=
    congrArg Registry.mk (List.append_nil _)
  rw [perform_loadAll]
  constructor
  · cases hexists : files.pathExists directory with
    | false =>
        cases hcreate : files.createDirectories directory with
        | error cause =>
            rintro ⟨⟩
            exact ⟨[], .uncreated cause hexists hcreate, hnone.symm⟩
        | ok changed => rintro ⟨⟩
    | true =>
        cases hlist : files.list directory with
        | error cause =>
            rintro ⟨⟩
            exact ⟨[], .unlisted cause hexists hlist, hnone.symm⟩
        | ok names =>
            cases hfault : (registerFiles now registry (files.documents directory names)).outcome with
            | ok _ => simp [hfault]
            | error cause =>
                intro hresult
                simp only [if_true, hfault, Prod.mk.injEq, Except.error.injEq] at hresult
                obtain ⟨hlater, rfl⟩ := hresult
                obtain ⟨before, path, bytes, after, left, hfiles, hbefore, hapart, rfl, hstop⟩ :=
                  registerFiles_eq_error.1 ⟨hfault, hlater⟩
                exact ⟨left, .stopped names before after path bytes cause left hlist hfiles hbefore
                  hapart hstop, rfl⟩
  · rintro ⟨left, hhalts, rfl⟩
    cases hhalts with
    | uncreated cause hmissing hcreate => simp [hmissing, hcreate]
    | unlisted cause hexists hlist => simp [hexists, hlist]
    | stopped names before after path bytes fault left hlist hfiles hbefore hapart hstop =>
        obtain ⟨hfault, hlater⟩ := registerFiles_eq_error.2
          ⟨before, path, bytes, after, left, hfiles, hbefore, hapart, rfl, hstop⟩
        rw [if_pos (Files.pathExists_of_list hlist), hlist]
        simp only [hfault, hlater]

/-! ### The load repeated -/

/-- A directory that would have been loaded, but for documents left behind by a load that failed: it is
loaded if none of these is in it, and otherwise loading fails over one of them. -/
theorem reload_mended (hlist : files.list directory = .ok names)
    (hholds : HoldsAll now ((files.jsonFiles directory names).map files.read) others)
    (hapart : Apart registry others) (left : List Registered) (journal : Journal) :
    let reload := Workspace.perform (loadAll ⟨registry.entries ++ left⟩ directory) now journal files
    ((∀ entry ∈ others, entry.document.key ∉ left.map fun e => e.document.key) →
      ∃ last, reload.result = (last, .ok others.length)) ∧
    ((∃ entry ∈ others, entry.document.key ∈ left.map fun e => e.document.key) →
      ∃ last entry, entry ∈ others ∧ entry.document.key ∈ left.map (fun e => e.document.key) ∧
        reload.result =
          (last, .error (Fault.schemaImmutable entry.document.id entry.document.version))) := by
  intro reload
  have hkeys : ∀ key, key ∈ keys ⟨registry.entries ++ left⟩ ↔
      key ∈ registry.keys ∨ key ∈ left.map fun e => e.document.key := by
    intro key
    rw [mem_keys, mem_keys, List.map_append, List.mem_append]
  constructor
  · intro hnew
    have hapart' : Apart ⟨registry.entries ++ left⟩ others := ⟨hapart.distinct, fun entry hentry =>
      (hkeys _).not.2 (not_or.2 ⟨hapart.free entry hentry, hnew entry hentry⟩)⟩
    obtain ⟨last, count, hload⟩ := exists_loadAll_of_holdsAll journal hlist hholds hapart'
    obtain ⟨entries, hentries, -, -, rfl⟩ := holdsAll_of_loadAll hlist hload
    have hlength := hholds.length_eq
    rw [List.length_map] at hlength
    exact ⟨last, hlength ▸ hload⟩
  · rintro ⟨taken, htaken, hleft⟩
    obtain ⟨sorted, hsorted, hperm⟩ := exists_forall₂_of_perm (contents_perm files directory names)
      hholds
    have hloads := List.forall₂_map_left_iff.1 hsorted
    have happly := perform_loadAll now journal files ⟨registry.entries ++ left⟩ directory
    rw [if_pos (Files.pathExists_of_list hlist), hlist] at happly
    obtain hok | ⟨before, entry, after, heq, hfault, hkey⟩ :=
      registerFiles_of_holds ⟨registry.entries ++ left⟩ hloads
    · -- the files cannot all be registered: a key would be registered twice
      obtain ⟨entries, hentries, hapart', -⟩ := registerFiles_eq_ok.1 ⟨hok, rfl⟩
      obtain rfl := holdsAll_unique hsorted (List.forall₂_map_left_iff.2 hentries)
      exact absurd ((hkeys _).2 (.inr hleft)) (hapart'.free taken (hperm.mem_iff.2 htaken))
    · have hsplit : Apart registry (before ++ entry :: after) := heq ▸ hapart.perm hperm.symm
      have hbefore : entry.document.key ∉ before.map fun e => e.document.key := by
        have hdistinct := hsplit.distinct
        rw [List.map_append, List.map_cons] at hdistinct
        exact fun hmem => (List.nodup_append.1 hdistinct).2.2 _ hmem _ (List.mem_cons_self ..) rfl
      have hentry : entry ∈ before ++ entry :: after := by simp
      have hleft' : entry.document.key ∈ left.map fun e => e.document.key :=
        ((hkeys _).1 (hkey.resolve_right hbefore)).resolve_left (hsplit.free entry hentry)
      obtain ⟨last, hlast⟩ : ∃ last, reload.result =
          (last, .error (Fault.schemaImmutable entry.document.id entry.document.version)) := by
        simp only [reload, happly, hfault]
        exact ⟨_, rfl⟩
      exact ⟨last, entry, hperm.mem_iff.1 (heq ▸ hentry), hleft', hlast⟩

/-! ### A directory to mend -/

/-- A directory with a document and, behind it, another one. -/
def shelf (last : Document) : Files :=
  ⟨[(["schemas"], .directory),
    (["schemas", "a.json"], .file (fileText (blank "receipt" "1")).toUTF8),
    (["schemas", "b.json"], .file (fileText last).toUTF8)], []⟩

theorem list_shelf (last : Document) : (shelf last).list "schemas" = .ok ["a.json", "b.json"] := rfl

theorem documents_shelf (last : Document) : (shelf last).documents "schemas" ["a.json", "b.json"] =
    [("schemas/a.json", .ok (fileText (blank "receipt" "1")).toUTF8),
      ("schemas/b.json", .ok (fileText last).toUTF8)] := by
  have hsorted : (["a.json", "b.json"].filter Path.hasJsonExtension).mergeSort
      (fun a b => decide (a ≤ b)) = ["a.json", "b.json"] :=
    List.mergeSort_of_pairwise (by decide)
  rw [Files.documents, hsorted]
  rfl

/-- What the text of a blank document holds. -/
theorem exists_holds_blank {id version : String} (hsound : (blank id version).defect? = none) :
    ∃ schema, Holds .epoch (.ok (fileText (blank id version)).toUTF8) ⟨blank id version, schema⟩ := by
  obtain ⟨schema, hschema⟩ : ∃ schema,
      ((blank id version).schema : Outcome Clocked (Schema Clocked)).asOf .epoch = .ok schema :=
    ⟨_, rfl⟩
  exact ⟨schema, holds_of_read? (read?_blank id version) hsound hschema⟩

/-- Behind the first document, the loading of the shelf fails over one without an identifier. -/
theorem exists_failed_shelf : ∃ schema,
    Holds .epoch (.ok (fileText (blank "receipt" "1")).toUTF8) ⟨blank "receipt" "1", schema⟩ ∧
    (Workspace.perform (empty.loadAll "schemas") .epoch .empty (shelf (blank "" "1"))).result =
      (⟨[⟨blank "receipt" "1", schema⟩]⟩,
        .error (Fault.malformedSchema "schemas/b.json" DocumentDefect.emptyId.message)) := by
  obtain ⟨schema, hholds⟩ : ∃ schema, Holds .epoch _ ⟨blank "receipt" "1", schema⟩ :=
    exists_holds_blank rfl
  refine ⟨schema, hholds, loadAll_eq_error.2 ⟨[_], ?_, rfl⟩⟩
  refine .stopped _ [("schemas/a.json", _)] [] "schemas/b.json" (.ok (fileText (blank "" "1")).toUTF8)
    _ _ (list_shelf _) (documents_shelf _) (.cons hholds .nil) (apart_singleton _) ?_
  have hdocument : documentOf "schemas/b.json" (.ok (fileText (blank "" "1")).toUTF8) =
      .ok (blank "" "1") :=
    documentOf_eq_ok.2 ⟨_, _, rfl, fromUTF8?_toUTF8 _, read?_blank "" "1"⟩
  rw [hdocument]
  rfl

/-- Two documents lie on the shelf once the last one has an identifier. -/
theorem exists_holdsAll_shelf {schema : Schema Clocked}
    (h : Holds .epoch (.ok (fileText (blank "receipt" "1")).toUTF8) ⟨blank "receipt" "1", schema⟩) :
    ∃ other, HoldsAll .epoch (((shelf (blank "order" "1")).jsonFiles "schemas"
        ["a.json", "b.json"]).map (shelf (blank "order" "1")).read)
      [⟨blank "receipt" "1", schema⟩, ⟨blank "order" "1", other⟩] ∧
      Apart empty [⟨blank "receipt" "1", schema⟩, ⟨blank "order" "1", other⟩] := by
  obtain ⟨other, hother⟩ : ∃ other, Holds .epoch _ ⟨blank "order" "1", other⟩ :=
    exists_holds_blank rfl
  refine ⟨other, .cons h (.cons hother .nil), ?_, fun _ _ => by simp⟩
  show [("receipt", "1"), ("order", "1")].Nodup
  decide

theorem immutable_of_mem_receipt {entry : Registered} {schema : Schema Clocked}
    (h : entry.document.key ∈
      [(⟨blank "receipt" "1", schema⟩ : Registered)].map fun e => e.document.key) :
    Fault.schemaImmutable entry.document.id entry.document.version =
      Fault.schemaImmutable "receipt" "1" := by
  have hkey : entry.document.key = ("receipt", "1") := List.mem_singleton.1 h
  have hid : entry.document.id = "receipt" := congrArg Prod.fst hkey
  have hversion : entry.document.version = "1" := congrArg Prod.snd hkey
  rw [hid, hversion]

/-! ### What is left behind -/

/-- **What a load that fails leaves behind**: the registry as it was where the directory could not be
read or created, and otherwise the documents of the files before the one that failed as well.  Once
the directory has been mended, so that the registry would have loaded it, it is loaded again exactly if
none of the documents left behind is in it; otherwise the load fails over one of them. -/
theorem remainder_of_loadAll
    (hfail : (Workspace.perform (registry.loadAll directory) now journal files).result =
      (later, .error fault)) :
    ∃ left, Halts registry directory now files fault left ∧
      later.entries = registry.entries ++ left ∧
      ∀ (now' : DateTime) (journal' : Journal) (mended : Files) (names : List String)
        (others : List Registered), mended.list directory = .ok names →
        HoldsAll now' ((mended.jsonFiles directory names).map mended.read) others →
        Apart registry others →
          let reload := Workspace.perform (later.loadAll directory) now' journal' mended
          ((∃ last count, reload.result = (last, .ok count)) ↔
            ∀ entry ∈ others, entry.document.key ∉ left.map fun e => e.document.key) ∧
          ∀ last cause, reload.result = (last, .error cause) →
            ∃ entry ∈ others, entry.document.key ∈ left.map (fun e => e.document.key) ∧
              cause = Fault.schemaImmutable entry.document.id entry.document.version := by
  obtain ⟨left, hhalts, rfl⟩ := loadAll_eq_error.1 hfail
  refine ⟨left, hhalts, rfl, fun now' journal' mended names others hlist hholds hapart => ?_⟩
  obtain ⟨hloaded, hrefused⟩ := reload_mended hlist hholds hapart left journal'
  intro reload
  by_cases hnew : ∀ entry ∈ others, entry.document.key ∉ left.map fun e => e.document.key
  · obtain ⟨last, hlast⟩ := hloaded hnew
    refine ⟨iff_of_true ⟨last, _, hlast⟩ hnew, fun last' cause hcause => ?_⟩
    cases hlast.symm.trans hcause
  · have htaken : ∃ entry ∈ others, entry.document.key ∈ left.map fun e => e.document.key := by
      simpa using hnew
    obtain ⟨last, entry, hentry, hmem, hlast⟩ := hrefused htaken
    refine ⟨iff_of_false ?_ hnew, fun last' cause hcause => ⟨entry, hentry, hmem, ?_⟩⟩
    · rintro ⟨last', count, hok⟩
      cases hlast.symm.trans hok
    · cases hlast.symm.trans hcause
      rfl

theorem remainder_of_loadAll_shelf : ∃ later fault left,
    (Workspace.perform (empty.loadAll "schemas") .epoch .empty (shelf (blank "" "1"))).result =
      (later, .error fault) ∧
    Halts empty "schemas" .epoch (shelf (blank "" "1")) fault left ∧
    later.entries = empty.entries ++ left ∧
    (¬∃ last count, (Workspace.perform (later.loadAll "schemas") .epoch .empty
      (shelf (blank "order" "1"))).result = (last, .ok count)) ∧
    ∃ last, (Workspace.perform (later.loadAll "schemas") .epoch .empty
      (shelf (blank "order" "1"))).result =
        (last, .error (Fault.schemaImmutable "receipt" "1")) := by
  obtain ⟨schema, hholds, hfail⟩ := exists_failed_shelf
  obtain ⟨other, hholdsAll, hapart⟩ := exists_holdsAll_shelf hholds
  obtain ⟨left, hhalts, hlater, hreload⟩ := remainder_of_loadAll hfail
  obtain rfl : [⟨blank "receipt" "1", schema⟩] = left := hlater
  obtain ⟨hloaded, hrefused⟩ := hreload .epoch .empty _ _ _ (list_shelf _) hholdsAll hapart
  have hnot := hloaded.not.2 fun hnew => hnew _ (List.mem_cons_self ..) (List.mem_cons_self ..)
  refine ⟨_, _, _, hfail, hhalts, rfl, hnot, ?_⟩
  rcases hresult : (Workspace.perform (loadAll ⟨[⟨blank "receipt" "1", schema⟩]⟩ "schemas") .epoch
    .empty (shelf (blank "order" "1"))).result with ⟨last, cause | count⟩
  · obtain ⟨entry, -, hmem, rfl⟩ := hrefused last cause hresult
    exact ⟨last, by rw [immutable_of_mem_receipt hmem]⟩
  · exact absurd ⟨last, count, hresult⟩ hnot

/-- A load fails over one document and leaves the other behind; when the first has been mended, the
directory can be loaded, but not by the registry that tried before. -/
theorem unrepeatable_load : ∃ later fault,
    (Workspace.perform (empty.loadAll "schemas") .epoch .empty (shelf (blank "" "1"))).result =
      (later, .error fault) ∧
    empty.keys = [] ∧ later.keys = [("receipt", "1")] ∧
    (∃ last count, (Workspace.perform (empty.loadAll "schemas") .epoch .empty
      (shelf (blank "order" "1"))).result = (last, .ok count)) ∧
    ∃ last, (Workspace.perform (later.loadAll "schemas") .epoch .empty
      (shelf (blank "order" "1"))).result =
        (last, .error (Fault.schemaImmutable "receipt" "1")) := by
  obtain ⟨schema, hholds, hfail⟩ := exists_failed_shelf
  obtain ⟨other, hholdsAll, hapart⟩ := exists_holdsAll_shelf hholds
  refine ⟨_, _, hfail, keys_empty, List.mergeSort_singleton _, ?_, ?_⟩
  · exact exists_loadAll_of_holdsAll .empty (list_shelf _) hholdsAll hapart
  · obtain ⟨last, entry, hentry, hmem, hlast⟩ := (reload_mended (list_shelf _) hholdsAll hapart
      [⟨blank "receipt" "1", schema⟩] .empty).2 ⟨_, List.mem_cons_self .., List.mem_cons_self ..⟩
    rw [immutable_of_mem_receipt hmem] at hlast
    exact ⟨last, hlast⟩

end Registry

end Conform
