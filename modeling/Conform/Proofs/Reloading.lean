/-
**A directory loaded again after a save.**

A document is saved under a name that is free, but its key may be taken: a file of any name can hold a
document of this key.  The directory then has two such files, and it is not loaded any more; the fault
names the key.  Where the key is free, the directory is loaded with the documents it had and the one
that was saved.

Main results:

* `Registry.registerFiles_of_holds` — files that hold documents fail to be registered only over keys;
* `Registry.holdsAll_of_save` — what the files hold after a save;
* `Registry.reload_of_free`, `Registry.reload_of_taken` — loading again, by whether the key was free;
* `Registry.load_after_save` — **what is loaded after a save**.
-/

import Conform.Proofs.Saving

set_option relaxedAutoImplicit false
set_option autoImplicit false

namespace Conform

namespace Registry

variable {registry later : Registry} {now : DateTime} {journal : Journal} {files written : Files}
  {directory : String} {names : List String} {document : Document} {count : ℕ}

/-- Files that hold documents are registered, unless a key is taken: by the registry, or by a document
before. -/
theorem registerFiles_of_holds {loads : List (String × Except FileFault ByteArray)}
    {entries : List Registered} (registry : Registry)
    (h : List.Forall₂ (fun file entry => Holds now file.2 entry) loads entries) :
    (registerFiles now registry loads).outcome = .ok () ∨
      ∃ (before : List Registered) (entry : Registered) (after : List Registered),
        entries = before ++ entry :: after ∧
        (registerFiles now registry loads).outcome =
          .error (Fault.schemaImmutable entry.document.id entry.document.version) ∧
        (entry.document.key ∈ registry.keys ∨
          entry.document.key ∈ before.map fun e => e.document.key) := by
  induction h generalizing registry with
  | nil => exact .inl rfl
  | @cons file entry rest others hholds hrest ih =>
      obtain ⟨path, bytes⟩ := file
      rw [registerFiles]
      cases hfree : registry.get? entry.document.id entry.document.version with
      | none =>
          rw [register_documentOf_eq_ok.2 ⟨entry, hholds, hfree, rfl⟩]
          refine (ih _).imp_right ?_
          rintro ⟨before, e, after, rfl, hfault, hkey⟩
          refine ⟨entry :: before, e, after, rfl, hfault, ?_⟩
          rw [List.map_cons, List.mem_cons]
          rcases hkey with hkey | hkey
          · rw [mem_keys, List.map_append, List.mem_append, ← mem_keys] at hkey
            exact hkey.imp_right fun hlast => .inl (List.mem_singleton.1 hlast)
          · exact .inr (.inr hkey)
      | some taken =>
          have hdocument : documentOf path bytes = .ok entry.document :=
            documentOf_eq_ok.2 hholds.text
          have hrefused : registry.register now path entry.document =
              .error (Fault.schemaImmutable entry.document.id entry.document.version) := by
            rw [register, enroll, hholds.sound]
            simp only [has, hfree, Option.isSome_some, if_true]
            rfl
          refine .inr ⟨[], entry, others, rfl, ?_, .inl (mem_keys_iff.2 ⟨taken, hfree⟩)⟩
          rw [hdocument, ok_bind, hrefused]

/-- If there is one more file that is loaded, and the others are as they were, then there is one more
content. -/
theorem contents_append {name : String} {content : ByteArray}
    (hsame : ∀ other ∈ names, written.find (Path.join directory other) =
      files.find (Path.join directory other))
    (hname : Path.hasJsonExtension name = true)
    (hfind : written.find (Path.join directory name) = .ok (.file content)) :
    (written.jsonFiles directory (names ++ [name])).map written.read =
      (files.jsonFiles directory names).map files.read ++ [.ok content] := by
  have hold : ((names.filter Path.hasJsonExtension).map (Path.join directory)).filter
      written.isFile = files.jsonFiles directory names := by
    refine List.filter_congr fun path hpath => ?_
    obtain ⟨other, hother, rfl⟩ := List.mem_map.1 hpath
    rw [Files.isFile, Files.isFile, hsame other (List.mem_of_mem_filter hother)]
  have hlast : ([name].filter Path.hasJsonExtension).map (Path.join directory) =
      [Path.join directory name] := by
    rw [List.filter_singleton, hname]
    rfl
  have hisFile : [Path.join directory name].filter written.isFile = [Path.join directory name] := by
    rw [List.filter_singleton, Files.isFile_iff.2 ⟨content, hfind⟩]
    rfl
  have hjson : written.jsonFiles directory (names ++ [name]) =
      files.jsonFiles directory names ++ [Path.join directory name] := by
    rw [Files.jsonFiles, List.filter_append, List.map_append, List.filter_append, hold, hlast, hisFile]
  have hread : ∀ path ∈ files.jsonFiles directory names, written.read path = files.read path := by
    intro path hpath
    obtain ⟨other, hother, rfl⟩ := List.mem_map.1 (List.mem_of_mem_filter hpath)
    rw [Files.read, Files.read, hsame other (List.mem_of_mem_filter hother)]
  have hcontent : written.read (Path.join directory name) = .ok content := by
    rw [Files.read, hfind]
    rfl
  rw [hjson, List.map_append, List.map_congr_left hread, List.map_singleton, hcontent]

/-- What a save that succeeds adds to a directory: one file that is loaded, with the text of the
document. -/
theorem contents_of_save {path : String} (hlist : files.list directory = .ok names)
    (hnames : ∀ name ∈ names, Path.IsName name)
    (hsave : (Workspace.perform (save directory document) now journal files).result = .ok path) :
    ∃ written, (Workspace.perform (save directory document) now journal files).files = written ∧
      savable now document = .ok () ∧
      written.list directory = .ok (names ++ [fileName document]) ∧
      (written.jsonFiles directory (names ++ [fileName document])).map written.read =
        (files.jsonFiles directory names).map files.read ++ [.ok (fileText document).toUTF8] := by
  have hsavable : savable now document = .ok () := by
    cases hsavable : savable now document with
    | ok _ => rfl
    | error fault =>
        rw [perform_save, hsavable] at hsave
        cases hsave
  have hname := isName_fileName (savable_eq_ok.1 hsavable).1
  rw [perform_save_of_list hlist hsavable] at hsave ⊢
  by_cases hfits : Files.misfit? directory (fileName document) = none
  · by_cases htaken : fileName document ∈ names
    · rw [if_pos ⟨htaken, hfits⟩] at hsave
      cases hsave
    · rw [if_neg fun htaken' => htaken htaken'.1]
      obtain ⟨written, hwritten, hlist', hfind, hothers⟩ :=
        Files.write_new hlist hname htaken hfits (fileText document)
      -- under the other names nothing has changed
      have hsame : ∀ name ∈ names, written.find (Path.join directory name) =
          files.find (Path.join directory name) := by
        intro name hmem
        refine hothers name (hnames name hmem) ?_
        rintro rfl
        exact htaken hmem
      refine ⟨written, ?_, hsavable, hlist',
        contents_append hsame (hasJsonExtension_fileName document) hfind⟩
      rw [hwritten]
  · obtain ⟨fault, hfault⟩ := Option.ne_none_iff_exists'.1 hfits
    rw [if_neg fun htaken => hfits htaken.2] at hsave
    simp only [Files.write_misfit hlist hname hfault] at hsave
    cases hsave

/-- Where files hold documents, after a save they hold the saved document as well. -/
theorem holdsAll_of_save {path : String} {entries : List Registered}
    (hlist : files.list directory = .ok names) (hnames : ∀ name ∈ names, Path.IsName name)
    (hread : ∃ text, Document.read? text = some document)
    (hsave : (Workspace.perform (save directory document) now journal files).result = .ok path)
    (hholds : HoldsAll now ((files.jsonFiles directory names).map files.read) entries) :
    ∃ written schema names',
      (Workspace.perform (save directory document) now journal files).files = written ∧
      written.list directory = .ok names' ∧
      HoldsAll now ((written.jsonFiles directory names').map written.read)
        (entries ++ [⟨document, schema⟩]) := by
  obtain ⟨written, hwritten, hsavable, hlist', hcontents⟩ := contents_of_save hlist hnames hsave
  obtain ⟨hsound, schema, hschema⟩ := savable_eq_ok.1 hsavable
  obtain ⟨text, htext⟩ := hread
  refine ⟨written, schema, _, hwritten, hlist', ?_⟩
  have hentry : Holds now (.ok (fileText document).toUTF8) ⟨document, schema⟩ :=
    holds_of_read? (Document.read?_indented htext) hsound hschema
  rw [hcontents]
  exact List.rel_append hholds (.cons hentry .nil)

/-- With a document of another key, entries that are apart still are. -/
theorem apart_append {entries : List Registered} {entry : Registered} (h : Apart empty entries)
    (hnew : entry.document.key ∉ entries.map fun e => e.document.key) :
    Apart empty (entries ++ [entry]) := by
  refine ⟨?_, fun _ _ => by simp⟩
  rw [List.map_append, List.map_singleton]
  exact h.distinct.append (List.nodup_singleton _) (List.disjoint_singleton.2 hnew)

/-- A key that occurs twice among distinct keys and one more is this one. -/
theorem eq_of_duplicate {α : Type} [DecidableEq α] {keys before after : List α} {key last : α}
    (hdistinct : keys.Nodup) (hperm : (before ++ key :: after).Perm (keys ++ [last]))
    (hmem : key ∈ before) : key = last := by
  by_contra hne
  have htwice : 2 ≤ (before ++ key :: after).count key := by
    have hbefore : 0 < before.count key := List.count_pos_iff.2 hmem
    rw [List.count_append, List.count_cons_self]
    omega
  have honce : (keys ++ [last]).count key ≤ 1 := by
    rw [List.count_append, List.count_singleton, if_neg (by simpa using Ne.symm hne)]
    exact List.nodup_iff_count_le_one.1 hdistinct key
  rw [hperm.count_eq] at htwice
  omega

section Reload

variable {schema : Schema Clocked} {entries : List Registered}

/-- Where the key of the one more document is free, the directory is loaded with it. -/
theorem reload_of_free (hlist : written.list directory = .ok names)
    (hholds : HoldsAll now ((written.jsonFiles directory names).map written.read)
      (entries ++ [⟨document, schema⟩])) (hapart : Apart empty entries)
    (hfree : document.key ∉ entries.map fun e => e.document.key) (journal : Journal) :
    ∃ later, (Workspace.perform (empty.loadAll directory) now journal written).result =
        (later, .ok (entries.length + 1)) ∧
      ∀ id version entry, later.get? id version = some entry ↔
        entry ∈ entries ++ [⟨document, schema⟩] ∧ entry.document.key = (id, version) := by
  have hdistinct : empty.keys.Nodup := by simp
  have hapart' : Apart empty (entries ++ [⟨document, schema⟩]) := apart_append hapart hfree
  obtain ⟨later, count, hload⟩ := exists_loadAll_of_holdsAll journal hlist hholds hapart'
  obtain ⟨others, hothers, -, hperm, hcount⟩ := holdsAll_of_loadAll hlist hload
  obtain rfl := holdsAll_unique hholds hothers
  have hlength := hholds.length_eq
  rw [List.length_map, hcount, List.length_append, List.length_singleton] at hlength
  refine ⟨later, hlength ▸ hload, fun id version entry => ?_⟩
  rw [get?_of_perm hdistinct hapart' hperm]
  simp [get?, empty]

/-- Where the key is taken, loading fails over this key. -/
theorem reload_of_taken (hlist : written.list directory = .ok names)
    (hholds : HoldsAll now ((written.jsonFiles directory names).map written.read)
      (entries ++ [⟨document, schema⟩])) (hapart : Apart empty entries)
    (htaken : document.key ∈ entries.map fun e => e.document.key) (journal : Journal) :
    ∃ later, (Workspace.perform (empty.loadAll directory) now journal written).result =
      (later, .error (Fault.schemaImmutable document.id document.version)) := by
  obtain ⟨sorted, hsorted, hperm⟩ := exists_forall₂_of_perm (contents_perm written directory names)
    hholds
  have hkeys := hperm.map fun entry => entry.document.key
  rw [List.map_append, List.map_singleton] at hkeys
  have hloads := List.forall₂_map_left_iff.1 hsorted
  rw [perform_loadAll, if_pos (Files.pathExists_of_list hlist), hlist]
  simp only
  obtain hok | ⟨before, entry, after, rfl, hfault, hkey⟩ := registerFiles_of_holds empty hloads
  · -- the files cannot all be registered: the key would be registered twice
    obtain ⟨others, hothers, hapart', -⟩ := registerFiles_eq_ok.1 ⟨hok, rfl⟩
    obtain rfl := holdsAll_unique hsorted (List.forall₂_map_left_iff.2 hothers)
    have hdistinct := hkeys.nodup_iff.1 hapart'.distinct
    exact absurd htaken (List.disjoint_singleton.1 (List.disjoint_of_nodup_append hdistinct))
  · have hmem : entry.document.key ∈ before.map fun e => e.document.key :=
      hkey.resolve_left (by simp)
    rw [List.map_append, List.map_cons] at hkeys
    have hsame : entry.document.key = document.key := eq_of_duplicate hapart.distinct hkeys hmem
    have hid : entry.document.id = document.id := congrArg Prod.fst hsame
    have hversion : entry.document.version = document.version := congrArg Prod.snd hsame
    rw [hfault, hid, hversion]
    exact ⟨_, rfl⟩

end Reload

/-- **What is loaded after a save** in a directory that was loaded before: if no document of the key was
found then, the same documents and the saved one; otherwise loading fails over the key.  That the saved
document comes back rests on numbers being read exactly (`Source.numeral`). -/
theorem load_after_save {path : String} (hlist : files.list directory = .ok names)
    (hnames : ∀ name ∈ names, Path.IsName name)
    (hload : (Workspace.perform (empty.loadAll directory) now journal files).result =
      (registry, .ok count))
    (hread : ∃ text, Document.read? text = some document)
    (hsave : (Workspace.perform (save directory document) now journal files).result = .ok path)
    (after : Journal) :
    let saved := Workspace.perform (save directory document) now journal files
    let reload := Workspace.perform (empty.loadAll directory) now after saved.files
    (registry.get? document.id document.version = none →
      ∃ later schema, reload.result = (later, .ok (count + 1)) ∧
        ∀ id version entry, later.get? id version = some entry ↔
          registry.get? id version = some entry ∨
            entry = ⟨document, schema⟩ ∧ document.key = (id, version)) ∧
    ((registry.get? document.id document.version).isSome →
      ∃ later, reload.result =
        (later, .error (Fault.schemaImmutable document.id document.version))) := by
  intro saved reload
  have hdistinct : empty.keys.Nodup := by simp
  obtain ⟨entries, hholds, hapart, hperm, hcount⟩ := holdsAll_of_loadAll hlist hload
  obtain ⟨written, schema, names', hwritten, hlist', hholds'⟩ :=
    holdsAll_of_save hlist hnames hread hsave hholds
  have hreload : reload = Workspace.perform (empty.loadAll directory) now after written :=
    congrArg (Workspace.perform (empty.loadAll directory) now after) hwritten
  have hget : ∀ {id version entry}, registry.get? id version = some entry ↔
      entry ∈ entries ∧ entry.document.key = (id, version) := by
    intro id version entry
    rw [get?_of_perm hdistinct hapart hperm]
    simp [get?, empty]
  have htaken : (registry.get? document.id document.version).isSome ↔
      document.key ∈ entries.map fun entry => entry.document.key := by
    rw [Option.isSome_iff_exists, List.mem_map]
    exact exists_congr fun entry => hget
  rw [hreload]
  constructor
  · intro hnone
    have hfree : document.key ∉ entries.map fun entry => entry.document.key := by
      rw [← htaken, hnone]
      exact Bool.false_ne_true
    obtain ⟨later, hlater, hfound⟩ := reload_of_free hlist' hholds' hapart hfree after
    have hlength := hholds.length_eq
    rw [List.length_map, hcount] at hlength
    refine ⟨later, schema, hlength ▸ hlater, fun id version entry => ?_⟩
    rw [hfound, hget, List.mem_append, List.mem_singleton, or_and_right]
    refine or_congr_right (and_congr_right ?_)
    rintro rfl
    exact Iff.rfl
  · intro hsome
    exact reload_of_taken hlist' hholds' hapart (htaken.1 hsome) after

/-- The drawer is loaded with the one document that it holds. -/
theorem exists_loaded_drawer : ∃ registry,
    (Workspace.perform (empty.loadAll "schemas") .epoch .empty drawer).result = (registry, .ok 1) ∧
      ∀ id version, (registry.get? id version).isSome ↔ ("receipt", "1") = (id, version) := by
  have hdistinct : empty.keys.Nodup := by simp
  obtain ⟨schema, hholds⟩ := exists_holdsAll_drawer
  have hapart := apart_singleton ⟨blank "receipt" "1", schema⟩
  obtain ⟨registry, count, hload⟩ :=
    exists_loadAll_of_holdsAll .empty list_drawer hholds hapart
  obtain ⟨entries, hentries, -, hperm, rfl⟩ := holdsAll_of_loadAll list_drawer hload
  obtain rfl := holdsAll_unique hholds hentries
  refine ⟨registry, hload, fun id version => ?_⟩
  rw [Option.isSome_iff_exists]
  simp only [get?_of_perm hdistinct hapart hperm]
  simp [get?, empty, blank, Document.key]

/-- What is saved in the drawer is written there. -/
theorem exists_saved_drawer {id version : String}
    (hsavable : savable .epoch (blank id version) = .ok ())
    (hnew : fileName (blank id version) ∉ ["any.json", "notes.txt"])
    (hfits : Files.misfit? "schemas" (fileName (blank id version)) = none) :
    ∃ path, (Workspace.perform (save "schemas" (blank id version)) .epoch .empty drawer).result =
      .ok path := by
  have hname := isName_fileName (savable_eq_ok.1 hsavable).1
  obtain ⟨written, hwritten, -⟩ := Files.write_new list_drawer hname hnew hfits
    (fileText (blank id version))
  rw [perform_save_of_list list_drawer hsavable, if_neg fun htaken => hnew htaken.1, hwritten]
  exact ⟨_, rfl⟩

theorem isName_drawer : ∀ name ∈ ["any.json", "notes.txt"], Path.IsName name :=
  List.forall_mem_cons.2 ⟨⟨by decide, by decide, by decide, by decide⟩,
    List.forall_mem_singleton.2 ⟨by decide, by decide, by decide, by decide⟩⟩

theorem load_after_save_drawer :
    let saved := Workspace.perform (save "schemas" (blank "order" "1")) .epoch .empty drawer
    ∃ registry path,
      drawer.list "schemas" = .ok ["any.json", "notes.txt"] ∧
      (∀ name ∈ ["any.json", "notes.txt"], Path.IsName name) ∧
      (Workspace.perform (empty.loadAll "schemas") .epoch .empty drawer).result =
        (registry, .ok 1) ∧
      (∃ text, Document.read? text = some (blank "order" "1")) ∧
      saved.result = .ok path ∧
      ∃ later, (Workspace.perform (empty.loadAll "schemas") .epoch .empty saved.files).result =
        (later, .ok 2) := by
  intro saved
  obtain ⟨registry, hload, hfound⟩ := exists_loaded_drawer
  obtain ⟨path, hsave⟩ : ∃ path, saved.result = .ok path :=
    exists_saved_drawer rfl (by decide) rfl
  have hread : ∃ text, Document.read? text = some (blank "order" "1") := ⟨_, read?_blank _ _⟩
  have hnone : registry.get? "order" "1" = none := by
    rw [← Option.not_isSome_iff_eq_none, hfound]
    decide
  obtain ⟨later, schema, hreload, -⟩ :=
    (load_after_save list_drawer isName_drawer hload hread hsave .empty).1 hnone
  exact ⟨registry, path, list_drawer, isName_drawer, hload, hread, hsave, later, hreload⟩

/-- The drawer is loaded, a document is saved in it, and then it is not loaded any more. -/
theorem unloadable_after_save :
    let saved := Workspace.perform (save "schemas" (blank "receipt" "1")) .epoch .empty drawer
    (∃ registry, (Workspace.perform (empty.loadAll "schemas") .epoch .empty drawer).result =
      (registry, .ok 1)) ∧
    (∃ path, saved.result = .ok path) ∧
    ∃ later, (Workspace.perform (empty.loadAll "schemas") .epoch .empty saved.files).result =
      (later, .error (Fault.schemaImmutable "receipt" "1")) := by
  intro saved
  obtain ⟨registry, hload, -⟩ := exists_loaded_drawer
  obtain ⟨path, hsave⟩ : ∃ path, saved.result = .ok path :=
    exists_saved_drawer rfl (by decide) rfl
  refine ⟨⟨registry, hload⟩, ⟨path, hsave⟩, ?_⟩
  obtain ⟨schema, hholds⟩ := exists_holdsAll_drawer
  obtain ⟨written, other, names', hwritten, hlist', hholds'⟩ :=
    holdsAll_of_save list_drawer isName_drawer ⟨_, read?_blank _ _⟩ hsave hholds
  obtain ⟨later, hreload⟩ := reload_of_taken hlist' hholds' (apart_singleton _)
    (List.mem_singleton_self _) .empty
  have hfiles : saved.files = written := hwritten
  rw [hfiles]
  exact ⟨later, hreload⟩

end Registry

end Conform
