/-
**Documents saved one after another.**

A document is saved under the name made of its identifier and its version, and is refused if there is a
file of this name already.  In a directory that held nothing at first there are only the files of the
documents saved before: each under its name, and with its text.  So a document that could be saved by
itself is refused exactly if one of the same name was saved before.  The name does not tell where the
identifier ends; it tells documents apart only where no identifier has an underscore.

When such a directory is loaded, each file is read as the document that was saved in it.

Main definitions:

* `Registry.Keeps` — in a directory there are the files of the saved documents, and nothing else;
* `Registry.saved` — the documents that were saved, among those that were to be.

Main results:

* `Registry.save_of_keeps` — what saving one more document does;
* `Registry.stage_saves` — **what several saves leave in a directory that held nothing**;
* `Registry.save_refused_iff` — **when a document is refused**;
* `Registry.loadAll_saved` — **what was saved is what is loaded**.
-/

import Conform.Proofs.Loading

set_option relaxedAutoImplicit false
set_option autoImplicit false

namespace Conform

namespace Document

/-- No slash stands in what may stand in a file name. -/
theorem noSlash_of_leadsOut {text : String} (h : leadsOut text = false) : '/' ∉ text.toList := by
  rw [leadsOut, Bool.or_eq_false_iff] at h
  intro hmem
  have hany := List.any_eq_false.1 h.1 '/' hmem
  simp at hany

/-- Identifier and version of a sound document may stand in a file name. -/
theorem noSlash_of_sound {document : Document} (h : document.defect? = none) :
    '/' ∉ document.id.toList ∧ '/' ∉ document.version.toList := by
  unfold defect? at h
  split at h
  · cases h
  · split at h
    · cases h
    · split at h
      · cases h
      · next hid =>
          split at h
          · cases h
          · next hversion =>
              exact ⟨noSlash_of_leadsOut (by simpa using hid), noSlash_of_leadsOut (by simpa using hversion)⟩

end Document

namespace Registry

variable {now : DateTime} {journal : Journal} {files : Files} {directory : String}
  {names : List String} {document other : Document} {documents before : List Document}

/-! ### File names -/

theorem toList_fileName (document : Document) : (fileName document).toList =
    "schema_".toList ++ ((document.id ++ "_" ++ document.version).toList ++ ".json".toList) := by
  simp [fileName]

theorem isName_fileName (h : document.defect? = none) : Path.IsName (fileName document) := by
  obtain ⟨hid, hversion⟩ := Document.noSlash_of_sound h
  have hslash : '/' ∉ (fileName document).toList := by
    rw [toList_fileName]
    simp [hid, hversion]
  -- it begins with a letter
  have hhead : ∀ text : String, text.toList.head? ≠ some 's' → fileName document ≠ text := by
    rintro text htext rfl
    exact htext (by rw [toList_fileName]; rfl)
  exact ⟨hslash, hhead "" (by decide), hhead "." (by decide), hhead ".." (by decide)⟩

theorem hasJsonExtension_fileName (document : Document) :
    Path.hasJsonExtension (fileName document) = true := by
  rw [Path.hasJsonExtension, toList_fileName]
  simp

/-- File names are the same exactly if identifier and version are, joined by an underscore. -/
theorem fileName_inj : fileName document = fileName other ↔
    document.id ++ "_" ++ document.version = other.id ++ "_" ++ other.version := by
  rw [← String.toList_inj, toList_fileName, toList_fileName, List.append_cancel_left_eq,
    List.append_cancel_right_eq, String.toList_inj]

theorem fileName_of_key (h : document.key = other.key) : fileName document = fileName other := by
  have hid : document.id = other.id := congrArg Prod.fst h
  have hversion : document.version = other.version := congrArg Prod.snd h
  rw [fileName, fileName, hid, hversion]

/-- Documents whose identifiers have no underscore have the same file name only if they have the same
key. -/
theorem key_eq_of_fileName (hdocument : '_' ∉ document.id.toList) (hother : '_' ∉ other.id.toList)
    (h : fileName document = fileName other) : document.key = other.key := by
  have hfront : ∀ {d : Document}, '_' ∉ d.id.toList →
      (d.id ++ "_" ++ d.version).toList.takeWhile (· ≠ '_') = d.id.toList := by
    intro d hd
    have hall : ∀ c ∈ d.id.toList, (decide (c ≠ '_')) = true := by
      intro c hc
      simp only [decide_eq_true_eq]
      rintro rfl
      exact hd hc
    rw [String.toList_append, String.toList_append, List.append_assoc,
      List.takeWhile_append_of_pos hall]
    simp
  have hjoined := fileName_inj.1 h
  have hid : document.id = other.id := by
    rw [← String.toList_inj, ← hfront hdocument, ← hfront hother, hjoined]
  have hversion : document.version = other.version := by
    have hchars := congrArg String.toList hjoined
    rw [← String.toList_inj]
    simpa [hid] using hchars
  exact Prod.ext hid hversion

/-! ### Saving one document -/

theorem savable_eq_ok : savable now document = .ok () ↔ document.defect? = none ∧
    ∃ schema, (document.schema : Outcome Clocked (Schema Clocked)).asOf now = .ok schema := by
  have hcompiled : ((document.schema : Outcome Clocked (Schema Clocked)).run now).map
      (fun _ => ()) = .ok () ↔
        ∃ schema, (document.schema : Outcome Clocked (Schema Clocked)).asOf now = .ok schema :=
    Iff.trans map_eq_ok (exists_congr fun schema => and_iff_left rfl)
  rw [savable]
  cases document.defect? with
  | some defect => simp
  | none => simpa using hcompiled

/-- The path under which a document is saved. -/
abbrev pathOf (directory : String) (document : Document) : String :=
  Path.join directory (fileName document)

/-- What the save of a document does in a directory that is there. -/
theorem perform_save_of_list (hlist : files.list directory = .ok names)
    (hsavable : savable now document = .ok ()) :
    Workspace.perform (save directory document) now journal files =
      if fileName document ∈ names ∧ Files.misfit? directory (fileName document) = none then
        ⟨.error (Fault.schemaImmutable document.id document.version), journal, files⟩
      else
        match files.write (pathOf directory document) (fileText document) with
        | .error fault =>
          ⟨.error (directoryFault (pathOf directory document) "Failed to write file" fault), journal,
            files⟩
        | .ok written => ⟨.ok (pathOf directory document), journal, written⟩ := by
  have hname := isName_fileName (savable_eq_ok.1 hsavable).1
  have hexists := Files.pathExists_join hlist hname
  have hmade := Files.createDirectories_of_isDirectory (Files.isDirectory_of_list hlist)
  rw [perform_save, hsavable]
  by_cases htaken : fileName document ∈ names ∧ Files.misfit? directory (fileName document) = none
  · simp only [hexists.2 htaken, if_true]
    rw [if_pos htaken]
  · have hfree : files.pathExists (pathOf directory document) = false := by
      rw [← Bool.not_eq_true, hexists]
      exact htaken
    rw [if_neg htaken]
    cases hwrite : files.write (pathOf directory document) (fileText document) with
    | error fault => simp only [hfree, hmade, hwrite, Bool.false_eq_true, if_false]
    | ok written => simp only [hfree, hmade, hwrite, Bool.false_eq_true, if_false]

/-- In a vacant directory a document is saved as in the directory once it has been created. -/
theorem perform_save_of_made {made : Files} (hmade : files.createDirectories directory = .ok made)
    (hlist : made.list directory = .ok []) (hsavable : savable now document = .ok ()) :
    Workspace.perform (save directory document) now journal files =
      Workspace.perform (save directory document) now journal made := by
  have hname := isName_fileName (savable_eq_ok.1 hsavable).1
  have hnothing : made.pathExists (pathOf directory document) = false := by
    rw [← Bool.not_eq_true, Files.pathExists_join hlist hname]
    simp
  have hnothing' : files.pathExists (pathOf directory document) = false := by
    rw [← Bool.not_eq_true]
    intro hexists
    rw [(Files.extends_of_createDirectories hmade).pathExists hexists] at hnothing
    cases hnothing
  have hmade' := Files.createDirectories_of_isDirectory (Files.isDirectory_of_list hlist)
  rw [perform_save, perform_save, hsavable]
  simp only [hnothing, hnothing', hmade, hmade', Bool.false_eq_true, if_false]

/-! ### Saving several documents -/

/-- In the directory there are the files of these documents, and nothing else. -/
structure Keeps (now : DateTime) (files : Files) (directory : String) (documents : List Document) :
    Prop where
  list : files.list directory = .ok (documents.map fileName)
  distinct : (documents.map fileName).Nodup
  savable : ∀ document ∈ documents, Registry.savable now document = .ok ()
  fits : ∀ document ∈ documents, Files.misfit? directory (fileName document) = none
  holds : ∀ document ∈ documents, files.find (pathOf directory document) =
    .ok (.file (fileText document).toUTF8)

theorem keeps_nil (hlist : files.list directory = .ok []) : Keeps now files directory [] :=
  ⟨hlist, List.nodup_nil, List.forall_mem_nil _, List.forall_mem_nil _, List.forall_mem_nil _⟩

/-- What a directory holds after some documents were saved in it: it may be missing as long as there are
none. -/
def Stage (now : DateTime) (files : Files) (directory : String) (documents : List Document) : Prop :=
  (documents = [] ∧ files.Vacant directory) ∨ Keeps now files directory documents

/-- What saving one more document does: it is written under a new name, or something is wrong with it,
or its name is taken. -/
inductive Saves (now : DateTime) (directory : String) (before : List Document) (document : Document) :
    Workspace.Trace Files (Except Fault String) → Prop
  | written {path : String} {journal : Journal} {files : Files} :
      Keeps now files directory (before ++ [document]) →
      Saves now directory before document ⟨.ok path, journal, files⟩
  | refused {journal : Journal} {files : Files} : fileName document ∈ before.map fileName →
      Stage now files directory before →
      Saves now directory before document
        ⟨.error (Fault.schemaImmutable document.id document.version), journal, files⟩
  | failed {fault : Fault} {journal : Journal} {files : Files} :
      Registry.savable now document ≠ .ok () ∨
        Files.misfit? directory (fileName document) ≠ none →
      Stage now files directory before →
      Saves now directory before document ⟨.error fault, journal, files⟩

theorem save_of_keeps (h : Keeps now files directory before) (journal : Journal)
    (hsavable : savable now document = .ok ()) :
    Saves now directory before document
      (Workspace.perform (save directory document) now journal files) := by
  rw [perform_save_of_list h.list hsavable]
  have hname := isName_fileName (savable_eq_ok.1 hsavable).1
  by_cases hfits : Files.misfit? directory (fileName document) = none
  · by_cases htaken : fileName document ∈ before.map fileName
    · rw [if_pos ⟨htaken, hfits⟩]
      exact .refused htaken (.inr h)
    · rw [if_neg fun htaken' => htaken htaken'.1]
      obtain ⟨written, hwritten, hlist, hfind, hothers⟩ :=
        Files.write_new h.list hname htaken hfits (fileText document)
      rw [hwritten]
      refine .written ⟨?_, ?_, ?_, ?_, ?_⟩
      · rw [List.map_append, List.map_singleton]
        exact hlist
      · rw [List.map_append, List.map_singleton]
        exact h.distinct.append (List.nodup_singleton _)
          (List.disjoint_singleton.2 htaken)
      · exact List.forall_mem_append.2 ⟨h.savable, List.forall_mem_singleton.2 hsavable⟩
      · exact List.forall_mem_append.2 ⟨h.fits, List.forall_mem_singleton.2 hfits⟩
      · refine List.forall_mem_append.2 ⟨fun d hd => ?_, List.forall_mem_singleton.2 hfind⟩
        rw [hothers _ (isName_fileName (savable_eq_ok.1 (h.savable d hd)).1) ?_, h.holds d hd]
        rintro heq
        exact htaken (heq ▸ List.mem_map_of_mem hd)
  · rw [if_neg fun htaken => hfits htaken.2]
    obtain ⟨fault, hfault⟩ := Option.ne_none_iff_exists'.1 hfits
    rw [Files.write_misfit h.list hname hfault]
    exact .failed (.inr hfits) (.inr h)

/-- **Saving one more document**, at any stage. -/
theorem saves_of_stage (h : Stage now files directory before) (journal : Journal)
    (document : Document) :
    Saves now directory before document
      (Workspace.perform (save directory document) now journal files) := by
  cases hsavable : savable now document with
  | error fault =>
      rw [perform_save, hsavable]
      exact .failed (.inl (by rw [hsavable]; simp)) h
  | ok _ =>
      obtain ⟨rfl, made, hmade, hlist⟩ | hkeeps := h
      · -- the directory may have to be created first
        rw [perform_save_of_made hmade hlist hsavable]
        exact save_of_keeps (keeps_nil hlist) journal hsavable
      · exact save_of_keeps hkeeps journal hsavable

/-- The documents that were saved, by the results of saving them. -/
def saved (documents : List Document) (results : List (Except Fault String)) : List Document :=
  (documents.zip results).filterMap fun call => call.2.toOption.map fun _ => call.1

theorem mem_saved {results : List (Except Fault String)} : document ∈ saved documents results ↔
    ∃ path, (document, Except.ok path) ∈ documents.zip results := by
  rw [saved, List.mem_filterMap]
  constructor
  · rintro ⟨⟨d, result⟩, hmem, heq⟩
    cases result with
    | error fault => cases heq
    | ok path =>
        cases heq
        exact ⟨path, hmem⟩
  · rintro ⟨path, hmem⟩
    exact ⟨_, hmem, rfl⟩

/-- The results, the journal and the files after one save and others. -/
theorem perform_saves_cons (document : Document) (documents : List Document) :
    Workspace.perform ((document :: documents).mapM (save directory)) now journal files =
      let first := Workspace.perform (save directory document) now journal files
      let others := Workspace.perform (documents.mapM (save directory)) now first.journal first.files
      ⟨first.result :: others.result, others.journal, others.files⟩ := by
  rw [List.mapM_cons]
  rfl

/-- **What several saves leave in a directory**: the files of the documents that were saved. -/
theorem stage_saves (documents : List Document) :
    ∀ {before : List Document} {journal : Journal} {files : Files}, Stage now files directory before →
      Stage now (Workspace.perform (documents.mapM (save directory)) now journal files).files directory
        (before ++ saved documents
          (Workspace.perform (documents.mapM (save directory)) now journal files).result) := by
  induction documents with
  | nil =>
      intro before journal files h
      rw [saved, List.zip_nil_left, List.filterMap_nil, List.append_nil]
      exact h
  | cons document documents ih =>
      intro before journal files h
      rw [perform_saves_cons]
      have hsaves := saves_of_stage h journal document
      generalize Workspace.perform (save directory document) now journal files = first at hsaves
      cases hsaves with
      | @written path journal files hkeeps =>
          exact List.append_assoc before [document] _ ▸ ih (.inr hkeeps)
      | refused _ hstage => exact ih hstage
      | failed _ hstage => exact ih hstage

/-- A call of saving for each document has a result. -/
theorem length_saves (documents : List Document) : ∀ {journal : Journal} {files : Files},
    (Workspace.perform (documents.mapM (save directory)) now journal files).result.length =
      documents.length := by
  induction documents with
  | nil => exact rfl
  | cons document documents ih =>
      intro journal files
      rw [perform_saves_cons]
      exact congrArg (· + 1) ih

/-- As many documents were saved as saves have succeeded. -/
theorem length_saved {results : List (Except Fault String)} :
    ∀ {documents : List Document}, results.length = documents.length →
      (saved documents results).length = results.countP fun result => result.toOption.isSome := by
  induction results with
  | nil =>
      intro documents _
      rw [saved, List.zip_nil_right]
      rfl
  | cons result results ih =>
      intro documents hlength
      cases documents with
      | nil => cases hlength
      | cons document documents =>
          have hrest := ih (Nat.succ.inj hlength)
          rw [saved] at hrest ⊢
          cases result with
          | error fault => simpa [Except.toOption] using hrest
          | ok path => simpa [Except.toOption] using hrest

/-- A document that could be saved by itself is sound, and its file name fits. -/
theorem savable_of_saved_alone (hvacant : files.Vacant directory)
    (h : ∃ path, (Workspace.perform (save directory document) now journal files).result = .ok path) :
    savable now document = .ok () ∧ Files.misfit? directory (fileName document) = none := by
  have hsaves : Saves now directory [] document _ :=
    saves_of_stage (.inl ⟨rfl, hvacant⟩) journal document
  obtain ⟨path, hpath⟩ := h
  generalize Workspace.perform (save directory document) now journal files = trace at hsaves hpath
  cases hsaves with
  | written hkeeps => exact ⟨hkeeps.savable document (by simp), hkeeps.fits document (by simp)⟩
  | refused htaken => cases htaken
  | failed => cases hpath

/-- A sound document whose file name fits is saved by itself. -/
theorem exists_saved_alone (hvacant : files.Vacant directory) (journal : Journal)
    (hsavable : savable now document = .ok ())
    (hfits : Files.misfit? directory (fileName document) = none) :
    ∃ path later written, Workspace.perform (save directory document) now journal files =
      ⟨.ok path, later, written⟩ ∧ Keeps now written directory [document] := by
  have hsaves : Saves now directory [] document _ :=
    saves_of_stage (.inl ⟨rfl, hvacant⟩) journal document
  generalize Workspace.perform (save directory document) now journal files = trace at hsaves ⊢
  cases hsaves with
  | written hkeeps => exact ⟨_, _, _, rfl, hkeeps⟩
  | refused htaken => cases htaken
  | failed hwrong =>
      rcases hwrong with hwrong | hwrong
      · exact absurd hsavable hwrong
      · exact absurd hfits hwrong

/-- A document that could be saved by itself is refused exactly if its file name is taken. -/
theorem refused_iff_of_stage (hstage : Stage now files directory before)
    (hsavable : savable now document = .ok ())
    (hfits : Files.misfit? directory (fileName document) = none) :
    (Workspace.perform (save directory document) now journal files).result =
        .error (Fault.schemaImmutable document.id document.version) ↔
      fileName document ∈ before.map fileName := by
  have hsaves := saves_of_stage hstage journal document
  generalize Workspace.perform (save directory document) now journal files = trace at hsaves
  cases hsaves with
  | written hkeeps =>
      have hnew : fileName document ∉ before.map fileName := by
        have hdistinct := hkeeps.distinct
        rw [List.map_append, List.map_singleton] at hdistinct
        exact fun hmem => (List.nodup_append.1 hdistinct).2.2 _ hmem _ (List.mem_singleton_self _) rfl
      simp [hnew]
  | refused htaken => simpa using htaken
  | failed hwrong =>
      rcases hwrong with hwrong | hwrong
      · exact absurd hsavable hwrong
      · exact absurd hfits hwrong

/-- **When a document is refused** that could be saved by itself: exactly if one was saved before it
whose identifier and version, joined by an underscore, are the same.  Where identifiers have no
underscore, these are the documents of its key. -/
theorem save_refused_iff (hvacant : files.Vacant directory)
    (halone : ∀ d ∈ document :: documents,
      ∃ path, (Workspace.perform (save directory d) now journal files).result = .ok path) :
    let earlier := Workspace.perform (documents.mapM (save directory)) now journal files
    let refused := (Workspace.perform (save directory document) now earlier.journal
      earlier.files).result = .error (Fault.schemaImmutable document.id document.version)
    (refused ↔ ∃ d path, (d, .ok path) ∈ documents.zip earlier.result ∧
      d.id ++ "_" ++ d.version = document.id ++ "_" ++ document.version) ∧
    ((∀ d ∈ document :: documents, '_' ∉ d.id.toList) →
      (refused ↔ ∃ d path, (d, .ok path) ∈ documents.zip earlier.result ∧ d.key = document.key)) := by
  intro earlier refused
  have hstage : Stage now earlier.files directory (saved documents earlier.result) :=
    stage_saves documents (.inl ⟨rfl, hvacant⟩)
  obtain ⟨hsavable, hfits⟩ := savable_of_saved_alone hvacant (halone document (List.mem_cons_self ..))
  have hrefused : refused ↔ ∃ d path, (d, .ok path) ∈ documents.zip earlier.result ∧
      fileName d = fileName document := by
    refine (refused_iff_of_stage hstage hsavable hfits).trans ?_
    rw [List.mem_map]
    constructor
    · rintro ⟨d, hd, hname⟩
      obtain ⟨path, hmem⟩ := mem_saved.1 hd
      exact ⟨d, path, hmem, hname⟩
    · rintro ⟨d, path, hmem, hname⟩
      exact ⟨d, mem_saved.2 ⟨path, hmem⟩, hname⟩
  refine ⟨hrefused.trans ?_, fun hplain => hrefused.trans ?_⟩
  · exact exists_congr fun d => exists_congr fun path => and_congr_right fun _ => fileName_inj
  · refine exists_congr fun d => exists_congr fun path => and_congr_right fun hmem => ?_
    have hd : d ∈ documents := (List.of_mem_zip hmem).1
    constructor
    · exact key_eq_of_fileName (hplain d (List.mem_cons_of_mem _ hd)) (hplain document (by simp))
    · exact fileName_of_key

/-- Two documents of different keys, with the same file name. -/
theorem alike_blank : ∀ d ∈ [blank "a" "b_c", blank "a_b" "c"],
    savable .epoch d = .ok () ∧ Files.misfit? "schemas" (fileName d) = none :=
  List.forall_mem_cons.2 ⟨⟨rfl, rfl⟩, List.forall_mem_singleton.2 ⟨rfl, rfl⟩⟩

theorem vacant_root : Files.Vacant ⟨[], []⟩ "schemas" := ⟨_, rfl, rfl⟩

theorem save_refused_iff_blank :
    (Files.Vacant ⟨[], []⟩ "schemas" ∧ ∀ d ∈ [blank "a" "b_c", blank "a_b" "c"], ∃ path,
      (Workspace.perform (save "schemas" d) .epoch .empty (⟨[], []⟩ : Files)).result = .ok path) ∧
    let earlier := Workspace.perform ([blank "a_b" "c"].mapM (save "schemas")) .epoch .empty
      (⟨[], []⟩ : Files)
    (Workspace.perform (save "schemas" (blank "a" "b_c")) .epoch earlier.journal
      earlier.files).result = .error (Fault.schemaImmutable "a" "b_c") := by
  have halone : ∀ d ∈ [blank "a" "b_c", blank "a_b" "c"], ∃ path,
      (Workspace.perform (save "schemas" d) .epoch .empty (⟨[], []⟩ : Files)).result = .ok path := by
    intro d hd
    obtain ⟨hsavable, hfits⟩ := alike_blank d hd
    obtain ⟨path, later, files, htrace, -⟩ := exists_saved_alone vacant_root .empty hsavable hfits
    exact ⟨path, congrArg Workspace.Trace.result htrace⟩
  refine ⟨⟨vacant_root, halone⟩, ?_⟩
  obtain ⟨path, hpath⟩ := halone (blank "a_b" "c") (by simp)
  refine (save_refused_iff vacant_root halone).1.2 ⟨blank "a_b" "c", path, ?_, rfl⟩
  rw [perform_saves_cons]
  simp only [hpath]
  exact List.mem_cons_self ..

/-- The second of them is refused after the first. -/
theorem exists_refused_alike : ∃ path later files,
    Workspace.perform (save "schemas" (blank "a_b" "c")) .epoch .empty (⟨[], []⟩ : Files) =
      ⟨.ok path, later, files⟩ ∧
    (Workspace.perform (save "schemas" (blank "a" "b_c")) .epoch later files).result =
      .error (Fault.schemaImmutable "a" "b_c") := by
  obtain ⟨hsavable, hfits⟩ := alike_blank (blank "a_b" "c") (by simp)
  obtain ⟨path, later, files, htrace, hkeeps⟩ := exists_saved_alone vacant_root .empty hsavable hfits
  obtain ⟨hsavable', hfits'⟩ := alike_blank (blank "a" "b_c") (by simp)
  refine ⟨path, later, files, htrace, ?_⟩
  exact (refused_iff_of_stage (.inr hkeeps) hsavable' hfits').2 (List.mem_singleton_self _)

/-- A document is refused though none of its key was saved before it. -/
theorem refused_without_key :
    let earlier := Workspace.perform ([blank "a_b" "c"].mapM (save "schemas")) .epoch .empty
      (⟨[], []⟩ : Files)
    (Workspace.perform (save "schemas" (blank "a" "b_c")) .epoch earlier.journal
        earlier.files).result = .error (Fault.schemaImmutable "a" "b_c") ∧
      ∀ d ∈ [blank "a_b" "c"], d.key ≠ (blank "a" "b_c").key := by
  obtain ⟨path, later, files, htrace, hrefused⟩ := exists_refused_alike
  refine ⟨?_, List.forall_mem_singleton.2 (by decide)⟩
  rw [perform_saves_cons, htrace]
  exact hrefused

/-! ### Loading what was saved -/

/-- The files of documents are all loaded. -/
theorem jsonFiles_of_keeps (h : Keeps now files directory documents) :
    files.jsonFiles directory (documents.map fileName) = documents.map (pathOf directory) := by
  have hnames : (documents.map fileName).filter Path.hasJsonExtension = documents.map fileName := by
    refine List.filter_eq_self.2 fun name hname => ?_
    obtain ⟨d, -, rfl⟩ := List.mem_map.1 hname
    exact hasJsonExtension_fileName d
  rw [Files.jsonFiles, hnames, List.map_map]
  refine List.filter_eq_self.2 fun path hpath => ?_
  obtain ⟨d, hd, rfl⟩ := List.mem_map.1 hpath
  exact Files.isFile_iff.2 ⟨_, h.holds d hd⟩

/-- They hold the documents. -/
theorem exists_holdsAll_of_keeps (h : Keeps now files directory documents)
    (hread : ∀ d ∈ documents, ∃ text, Document.read? text = some d) :
    ∃ entries, HoldsAll now ((files.jsonFiles directory (documents.map fileName)).map files.read)
      entries ∧ entries.map Registered.document = documents := by
  have hfiles : ∀ rest : List Document, (∀ d ∈ rest, d ∈ documents) →
      ∃ entries, HoldsAll now ((rest.map (pathOf directory)).map files.read) entries ∧
        entries.map Registered.document = rest := by
    intro rest
    induction rest with
    | nil => exact fun _ => ⟨[], .nil, rfl⟩
    | cons d rest ih =>
        intro hmem
        obtain ⟨hd, hrest⟩ := List.forall_mem_cons.1 hmem
        obtain ⟨entries, hentries, hdocuments⟩ := ih hrest
        obtain ⟨hsound, schema, hschema⟩ := savable_eq_ok.1 (h.savable d hd)
        obtain ⟨text, htext⟩ := hread d hd
        have hbytes : files.read (pathOf directory d) = .ok (fileText d).toUTF8 := by
          rw [Files.read, h.holds d hd]
          rfl
        refine ⟨⟨d, schema⟩ :: entries, .cons ?_ hentries, congrArg (d :: ·) hdocuments⟩
        rw [hbytes]
        exact holds_of_read? (Document.read?_indented htext) hsound hschema
  rw [jsonFiles_of_keeps h]
  exact hfiles documents fun _ hd => hd

/-- Documents with different file names have different keys. -/
theorem apart_of_distinct {entries : List Registered}
    (h : ((entries.map Registered.document).map fileName).Nodup) : Apart empty entries := by
  refine ⟨?_, fun _ _ => by simp⟩
  have hkeys : (entries.map fun entry => entry.document.key) =
      (entries.map Registered.document).map Document.key := by
    rw [List.map_map]
    rfl
  rw [hkeys]
  exact List.pairwise_map.2 ((List.pairwise_map.1 h).imp fun hne heq => hne (fileName_of_key heq))

/-- Where the files of documents are, a fresh registry is loaded with these. -/
theorem loadAll_of_keeps (h : Keeps now files directory documents)
    (hread : ∀ d ∈ documents, ∃ text, Document.read? text = some d) (journal : Journal) :
    ∃ registry entries,
      (Workspace.perform (empty.loadAll directory) now journal files).result =
        (registry, .ok documents.length) ∧
      registry.entries.Perm entries ∧ Apart empty entries ∧
        entries.map Registered.document = documents := by
  obtain ⟨entries, hholds, hdocuments⟩ := exists_holdsAll_of_keeps h hread
  have hapart : Apart empty entries := apart_of_distinct (hdocuments ▸ h.distinct)
  obtain ⟨registry, count, hload⟩ := exists_loadAll_of_holdsAll journal h.list hholds hapart
  obtain ⟨others, hothers, -, hperm, hcount⟩ := holdsAll_of_loadAll h.list hload
  obtain rfl := holdsAll_unique hholds hothers
  rw [jsonFiles_of_keeps h, List.length_map] at hcount
  exact ⟨registry, entries, hcount ▸ hload, hperm, hapart, hdocuments⟩

/-- From a vacant directory nothing is loaded. -/
theorem loadAll_of_vacant (h : files.Vacant directory) (journal : Journal) :
    (Workspace.perform (empty.loadAll directory) now journal files).result = (empty, .ok 0) := by
  rw [perform_loadAll]
  cases hexists : files.pathExists directory with
  | true =>
      have hlist := (Files.vacant_iff_of_pathExists hexists).1 h
      have hnone : files.documents directory [] = [] := by simp [Files.documents]
      rw [if_pos rfl, hlist]
      simp only [hnone]
      rfl
  | false =>
      obtain ⟨made, hmade, -⟩ := h
      rw [if_neg Bool.false_ne_true, hmade]

/-- **What was saved is what is loaded.**  After documents that were read have been saved in a directory
that was missing or empty, with or without success, a fresh registry is loaded with those that were
saved: as many as saves have succeeded, under their keys and no others, and each as it was.  That they
come back as they were rests on numbers being read exactly (`Source.numeral`). -/
theorem loadAll_saved (hvacant : files.Vacant directory) (documents : List Document)
    (hread : ∀ d ∈ documents, ∃ text, Document.read? text = some d) (now : DateTime)
    (journal later : Journal) :
    let saves := Workspace.perform (documents.mapM (save directory)) now journal files
    ∃ registry,
      (Workspace.perform (empty.loadAll directory) now later saves.files).result =
        (registry, .ok (saves.result.countP fun result => result.toOption.isSome)) ∧
      (∀ key, key ∈ registry.keys ↔
        ∃ d path, (d, .ok path) ∈ documents.zip saves.result ∧ d.key = key) ∧
      ∀ d path, (d, .ok path) ∈ documents.zip saves.result →
        ∃ schema, registry.get? d.id d.version = some ⟨d, schema⟩ := by
  intro saves
  have hstage : Stage now saves.files directory (saved documents saves.result) :=
    stage_saves documents (.inl ⟨rfl, hvacant⟩)
  have hcount : (saved documents saves.result).length =
      saves.result.countP fun result => result.toOption.isSome := length_saved (length_saves documents)
  rw [← hcount]
  obtain ⟨hnone, hvacant'⟩ | hkeeps := hstage
  · have hmem : ∀ d path, (d, Except.ok path) ∉ documents.zip saves.result := by
      intro d path hmem
      have hd : d ∈ saved documents saves.result := mem_saved.2 ⟨path, hmem⟩
      rw [hnone] at hd
      cases hd
    refine ⟨empty, ?_, ?_, fun d path h => absurd h (hmem d path)⟩
    · rw [hnone]
      exact loadAll_of_vacant hvacant' later
    · intro key
      simp [hmem]
  · have hread' : ∀ d ∈ saved documents saves.result, ∃ text, Document.read? text = some d := by
      intro d hd
      obtain ⟨path, hmem⟩ := mem_saved.1 hd
      exact hread d (List.of_mem_zip hmem).1
    obtain ⟨registry, entries, hload, hperm, hapart, hdocuments⟩ := loadAll_of_keeps hkeeps hread' later
    have hget : ∀ {id version entry}, registry.get? id version = some entry ↔
        entry ∈ entries ∧ entry.document.key = (id, version) := by
      intro id version entry
      have hdistinct : empty.keys.Nodup := by simp
      rw [get?_of_perm hdistinct hapart hperm]
      simp [get?, empty]
    have hfound : ∀ d path, (d, Except.ok path) ∈ documents.zip saves.result →
        ∃ schema, registry.get? d.id d.version = some ⟨d, schema⟩ := by
      intro d path hmem
      have hd : d ∈ entries.map Registered.document := hdocuments ▸ mem_saved.2 ⟨path, hmem⟩
      obtain ⟨entry, hentry, rfl⟩ := List.mem_map.1 hd
      exact ⟨entry.schema, hget.2 ⟨hentry, rfl⟩⟩
    refine ⟨registry, hload, fun key => ?_, hfound⟩
    rw [mem_keys_iff]
    constructor
    · rintro ⟨entry, hentry⟩
      obtain ⟨hmem, hkey⟩ := hget.1 hentry
      have hd : entry.document ∈ saved documents saves.result :=
        hdocuments ▸ List.mem_map_of_mem hmem
      obtain ⟨path, hpath⟩ := mem_saved.1 hd
      exact ⟨entry.document, path, hpath, hkey⟩
    · rintro ⟨d, path, hmem, rfl⟩
      obtain ⟨schema, hschema⟩ := hfound d path hmem
      exact ⟨_, hschema⟩

theorem loadAll_saved_blank :
    (Files.Vacant ⟨[], []⟩ "schemas" ∧
      ∀ d ∈ [blank "a_b" "c", blank "a" "b_c"], ∃ text, Document.read? text = some d) ∧
    let saves := Workspace.perform ([blank "a_b" "c", blank "a" "b_c"].mapM (save "schemas")) .epoch
      .empty (⟨[], []⟩ : Files)
    ∃ registry schema,
      (Workspace.perform (empty.loadAll "schemas") .epoch .empty saves.files).result =
          (registry, .ok 1) ∧
        registry.get? "a_b" "c" = some ⟨blank "a_b" "c", schema⟩ := by
  have hread : ∀ d ∈ [blank "a_b" "c", blank "a" "b_c"], ∃ text, Document.read? text = some d :=
    List.forall_mem_cons.2 ⟨⟨_, read?_blank "a_b" "c"⟩,
      List.forall_mem_singleton.2 ⟨_, read?_blank "a" "b_c"⟩⟩
  refine ⟨⟨vacant_root, hread⟩, ?_⟩
  intro saves
  obtain ⟨path, later, files, htrace, hrefused⟩ := exists_refused_alike
  have hresult : saves.result = [.ok path, .error (Fault.schemaImmutable "a" "b_c")] := by
    have hsaves : saves = _ := perform_saves_cons (blank "a_b" "c") [blank "a" "b_c"]
    rw [hsaves, htrace]
    simp only
    rw [perform_saves_cons]
    exact congrArg (fun result => [.ok path, result]) hrefused
  obtain ⟨registry, hload, -, hget⟩ := loadAll_saved vacant_root _ hread .epoch .empty .empty
  have hone : saves.result.countP (fun result => result.toOption.isSome) = 1 := by
    rw [hresult]
    rfl
  obtain ⟨schema, hschema⟩ := hget (blank "a_b" "c") path (hresult ▸ List.mem_cons_self ..)
  exact ⟨registry, schema, hone ▸ hload, hschema⟩

end Registry

end Conform
