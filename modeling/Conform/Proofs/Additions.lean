/-
**What is added to a volume.**

Whatever is done with a registry, no file is changed or removed, even if a change of the volume fails on
its way.  A document that is saved is a new file, directly in the directory of the documents, whatever
its identifier and its version are; apart from it there are at most new directories, those of the
directory's path that were missing.  Only a link of the document's name that leads to where nothing is
makes the file lie there.  A document that is not sound, cannot be compiled or is refused leaves the
volume as it is.

Whether a file of the name is there is asked before the directories are created.  The answer still holds
afterwards if nothing had to be created, as the directory was there, and also if its path never goes
back: then the directory is a new one, and nothing lies in it.

Main definitions:

* `Volume.Deposits` — a file was added to a directory;
* `Registry.Stores` — what saving a document does to a volume;
* `Registry.Additive` — what is added to a volume at a point of a run.

Main results:

* `Volume.Sited.vacant`, `Volume.Sited.written` — where a file is written, nothing was;
* `Registry.stores_save`, `Registry.paves_loadAll` — **what saving adds**, and what loading adds;
* `Registry.keeps_step`, `Registry.keeps_operate` — one operation keeps what is there, and a run does;
* `Registry.additive_run` — **what holds at every point of a run**.
-/

import Conform.Proofs.Paving
import Conform.Proofs.Saving

set_option relaxedAutoImplicit false
set_option autoImplicit false

namespace Conform

namespace Volume

variable {volume later made : Volume} {above place : List String} {directory name path : String}
  {bytes : ByteArray}

/-! ### A volume as a file system -/

theorem store_pathExists (volume : Volume) : FileStore.pathExists volume = volume.pathExists := rfl

theorem store_write (volume : Volume) : FileStore.write volume = volume.write := rfl

theorem store_createDirectories (volume : Volume) :
    FileStore.createDirectories volume = volume.createDirectories := rfl

/-! ### Writing a file -/

theorem opening_eq_ok (h : volume.opening path = .ok place) :
    volume.place path = .ok place ∧ volume.at? place ≠ some .directory := by
  obtain ⟨found, hfound, h⟩ := bind_eq_ok.1 h
  split at h
  · cases h
  · next hdirectory =>
      split at h
      · cases h
      · obtain rfl := Except.ok.inj h
        exact ⟨hfound, hdirectory⟩

/-- What writing a file does: some bytes are there, all of them if it succeeds, or the change is over. -/
theorem write_cases (volume : Volume) (path text : String) :
    (∃ fault, volume.write path text = (volume.spent, .error fault)) ∨
    ∃ place bytes outcome, volume.opening path = .ok place ∧
      volume.write path text = (volume.spent.adding place (.file bytes), outcome) ∧
        (outcome = .ok () → bytes = text.toUTF8) := by
  rw [write]
  split
  · exact .inl ⟨_, rfl⟩
  · exact .inl ⟨_, rfl⟩
  · next place _ hopening => exact .inr ⟨place, _, _, hopening, rfl, nofun⟩
  · next place _ hopening => exact .inr ⟨place, _, _, hopening, rfl, fun _ => rfl⟩

/-- A file was added to a directory, and missing directories of the directory's path were created;
nothing else has happened. -/
structure Deposits (directory name : String) (bytes : ByteArray) (above place : List String)
    (volume later : Volume) : Prop where
  /-- nothing has changed where something was -/
  keeps : Extends volume later
  /-- nothing was where the file is -/
  vacant : volume.at? place = none
  holds : later.at? place = some (.file bytes)
  /-- the file is what the path of the name leads to -/
  leads : later.place (Path.join directory name) = .ok place
  /-- the directory is what its path leads to -/
  within : later.place (Path.proper directory) = .ok above ∧ later.at? above = some .directory
  /-- the file lies directly in the directory, unless a link of its name does -/
  lies : place = above ++ [name] ∨ ∃ target, volume.at? (above ++ [name]) = some (.link target)
  /-- what else is new is a directory of the path -/
  created : ∀ other item, other ≠ place → volume.at? other = none → later.at? other = some item →
    item = .directory ∧ ∃ within, Path.Within directory within ∧ later.place within = .ok other

/-- **Where a file is written, nothing was**, if nothing was found at its path before the directories were
created. -/
theorem Sited.vacant (h : Sited directory volume) (hname : Path.IsName name)
    (hfree : volume.pathExists (Path.join directory name) = false)
    (hmade : volume.createDirectories directory = (made, .ok ()))
    (hplace : made.place (Path.join directory name) = .ok place) : volume.at? place = none := by
  rcases h.founds hmade with hback | ⟨founded, hfounded, hnone⟩
  · -- nothing was created, so something at the end of the path would have been found
    rw [Option.eq_none_iff_forall_ne_some]
    intro item hitem
    rw [pathExists_iff.2 ⟨place, item, hback.place_eq hplace, hitem⟩] at hfree
    cases hfree
  · have hkeeps := (paves_createDirectories volume directory).keeps
    rw [hmade] at hkeeps
    obtain ⟨above, habove, -, hlies⟩ := place_of_join hname hplace
    obtain ⟨-, hne, -⟩ := reach_eq_ok.1 hfounded
    rw [Path.proper, if_neg hne, hfounded] at habove
    obtain rfl := Except.ok.inj habove
    have hvacant := h.rooted.vacant_within hnone name
    obtain rfl | ⟨target, hlink⟩ := hlies
    · exact hvacant
    · rw [hkeeps.links _ _ hlink] at hvacant
      cases hvacant

/-- A file that is written in a directory where there is none of its name, once missing directories have
been created. -/
theorem Paves.deposits (h : Paves directory volume made) (hname : Path.IsName name)
    (hplace : made.place (Path.join directory name) = .ok place)
    (hvacant : volume.at? place = none) (hnothing : made.at? place = none) (bytes : ByteArray) :
    ∃ above, Deposits directory name bytes above place volume
      (made.spent.adding place (.file bytes)) := by
  obtain ⟨above, habove, hdirectory, hlies⟩ := place_of_join hname hplace
  have hkeeps : Extends made (made.spent.adding place (.file bytes)) :=
    (extends_spent made).trans (@extends_adding made.spent _ (.file bytes) hnothing fun _ => nofun)
  have hat := at?_adding made.spent (ne_nil_of_vacant hnothing) (.file bytes)
  refine ⟨above, h.keeps.trans hkeeps, hvacant, ?_, hkeeps.place_eq hplace,
    ⟨hkeeps.place_eq habove, hkeeps.keeps _ _ hdirectory⟩, ?_, fun other item hother hnone hitem => ?_⟩
  · rw [hat, if_pos rfl]
  · exact hlies.imp_right fun ⟨target, hlink⟩ => ⟨target, h.keeps.links _ _ hlink⟩
  · rw [hat, if_neg hother] at hitem
    obtain ⟨rfl, within, hwithin, hleads⟩ := h.created other item hnone hitem
    exact ⟨rfl, within, hwithin, hkeeps.place_eq hleads⟩

/-- **What writing a file does once the directories have been created**: nothing that was there is
changed, and if it succeeds the file is where nothing was. -/
theorem Sited.written (h : Sited directory volume) (hname : Path.IsName name)
    (hfree : volume.pathExists (Path.join directory name) = false)
    (hmade : volume.createDirectories directory = (made, .ok ())) (text : String) :
    ∃ later outcome, made.write (Path.join directory name) text = (later, outcome) ∧
      Extends volume later ∧ (volume.Rooted → later.Rooted) ∧
      (outcome = .ok () →
        ∃ above place, Deposits directory name text.toUTF8 above place volume later) := by
  have hpaves := paves_createDirectories volume directory
  rw [hmade] at hpaves
  obtain ⟨fault, hwritten⟩ | ⟨place, bytes, outcome, hopening, hwritten, hbytes⟩ :=
    made.write_cases (Path.join directory name) text
  · exact ⟨_, _, hwritten, hpaves.keeps.trans (extends_spent made), hpaves.rooted, nofun⟩
  · obtain ⟨hplace, hfile⟩ := opening_eq_ok hopening
    have hvacant := h.vacant hname hfree hmade hplace
    -- what was created since is a directory, and a directory is not opened to be written
    have hnothing : made.at? place = none := by
      rw [Option.eq_none_iff_forall_ne_some]
      intro item hitem
      obtain ⟨rfl, -⟩ := hpaves.created _ _ hvacant hitem
      exact hfile hitem
    obtain ⟨above, hdeposits⟩ := hpaves.deposits hname hplace hvacant hnothing bytes
    refine ⟨_, _, hwritten, hdeposits.keeps, fun hrooted => ?_, fun hok => ?_⟩
    · have hmade : made.Rooted := hpaves.rooted hrooted
      have hspent : made.spent.Rooted := hmade
      exact hspent.adding hnothing (hmade.at?_dropLast_place hplace) _
    · obtain rfl := hbytes hok
      exact ⟨above, place, hdeposits⟩

end Volume

namespace Registry

open Workspace

variable {directory path : String} {volume later : Volume} {document : Document} {now : DateTime}
  {journal : Journal} {world : World Volume} {fault : Fault}

/-! ### Saving a document -/

/-- What saving a document does to a volume. -/
inductive Stores (now : DateTime) (directory : String) (document : Document) (volume : Volume) :
    Trace Volume (Except Fault String) → Prop
  | saved {above place : List String} {journal : Journal} {later : Volume} :
      savable now document = .ok () →
      Volume.Deposits directory (fileName document) (fileText document).toUTF8 above place volume
        later →
      (volume.Rooted → later.Rooted) →
      Stores now directory document volume ⟨.ok (pathOf directory document), journal, later⟩
  /-- a document that must not be saved -/
  | refused {fault : Fault} {journal : Journal} :
      Stores now directory document volume ⟨.error fault, journal, volume⟩
  /-- a directory that cannot be created, or a file that cannot be written or not wholly -/
  | failed {fault : Fault} {journal : Journal} {later : Volume} : savable now document = .ok () →
      fault ≠ Fault.schemaImmutable document.id document.version → Volume.Extends volume later →
      (volume.Rooted → later.Rooted) →
      Stores now directory document volume ⟨.error fault, journal, later⟩

theorem Stores.keeps {trace : Trace Volume (Except Fault String)}
    (h : Stores now directory document volume trace) :
    Volume.Extends volume trace.files ∧ (volume.Rooted → trace.files.Rooted) := by
  cases h with
  | saved _ hdeposits hrooted => exact ⟨hdeposits.keeps, hrooted⟩
  | refused => exact ⟨.refl volume, id⟩
  | failed _ _ hkeeps hrooted => exact ⟨hkeeps, hrooted⟩

/-- **What saving adds**: a file where there was none, and nothing is changed if it fails. -/
theorem stores_save (h : Volume.Sited directory volume) (now : DateTime) (document : Document)
    (journal : Journal) :
    Stores now directory document volume
      (perform (save directory document) now journal volume) := by
  have hother : ∀ path reason fault, directoryFault path reason fault ≠
      Fault.schemaImmutable document.id document.version := by
    simp [directoryFault, Fault.malformedSchema, Fault.schemaImmutable, Fault.new]
  rw [perform_save_store]
  simp only [Volume.store_pathExists, Volume.store_createDirectories, Volume.store_write]
  cases hsavable : savable now document with
  | error fault => exact .refused
  | ok _ =>
      have hname := isName_fileName (savable_eq_ok.1 hsavable).1
      cases hfree : volume.pathExists (Path.join directory (fileName document)) with
      | true => exact .refused
      | false =>
          have hpaves := Volume.paves_createDirectories volume directory
          rcases hmade : volume.createDirectories directory with ⟨made, fault | _⟩
          · rw [hmade] at hpaves
            exact .failed hsavable (hother _ _ _) hpaves.keeps hpaves.rooted
          · obtain ⟨later, outcome, hwritten, hkeeps, hrooted, hdeposits⟩ :=
              h.written hname hfree hmade (fileText document)
            simp only [hwritten, Bool.false_eq_true, if_false]
            rcases outcome with fault | _
            · exact .failed hsavable (hother _ _ _) hkeeps hrooted
            · obtain ⟨above, place, hdeposits⟩ := hdeposits rfl
              exact .saved hsavable hdeposits hrooted

/-- What loading does to a volume. -/
theorem paves_loadAll (registry : Registry) (directory : String) (now : DateTime)
    (journal : Journal) (volume : Volume) :
    Volume.Paves directory volume
      (perform (registry.loadAll directory) now journal volume).files := by
  have hpaves := Volume.paves_createDirectories volume directory
  rw [perform_loadAll_store, Volume.store_createDirectories]
  split
  · split
    · exact .refl directory volume
    · simp only
      split <;> exact .refl directory volume
  · split
    · next hmade => rwa [hmade] at hpaves
    · next hmade => rwa [hmade] at hpaves

/-! ### Runs -/

/-- An operation, at a time. -/
abbrev Dated := DateTime × Operation

/-- The world after several operations, while nobody else changes the volume. -/
def operate (directory : String) (world : World Volume) (operations : List Dated) : World Volume :=
  run directory world (operations.map fun dated => .operation dated.1 dated.2)

theorem files_register (directory : String) (world : World Volume) (now : DateTime)
    (document : Document) :
    (step directory world (.operation now (.register document))).files = world.files := by
  rw [step]
  split <;> rfl

/-- One operation keeps what is there. -/
theorem keeps_step (h : Volume.Sited directory world.files) (now : DateTime)
    (operation : Operation) :
    let later := (step directory world (.operation now operation)).files
    Volume.Extends world.files later ∧ Volume.Sited directory later := by
  have hkeeps : let later := (step directory world (.operation now operation)).files
      Volume.Extends world.files later ∧ (world.files.Rooted → later.Rooted) := by
    cases operation with
    | register document =>
        rw [files_register]
        exact ⟨.refl _, id⟩
    | loadAll =>
        have hpaves := paves_loadAll world.registry directory now world.journal world.files
        exact ⟨hpaves.keeps, hpaves.rooted⟩
    | save document => exact (stores_save h now document world.journal).keeps
  exact ⟨hkeeps.1, h.extends hkeeps.1 (hkeeps.2 h.rooted)⟩

/-- **A run of operations keeps what is there.** -/
theorem keeps_operate (made : List Dated) : ∀ {world : World Volume},
    Volume.Sited directory world.files →
      Volume.Extends world.files (operate directory world made).files ∧
        Volume.Sited directory (operate directory world made).files := by
  induction made with
  | nil => exact fun {world} h => ⟨.refl world.files, h⟩
  | cons dated rest ih =>
      intro world h
      obtain ⟨now, operation⟩ := dated
      obtain ⟨hkeeps, hsited⟩ := keeps_step h now operation
      obtain ⟨hkeeps', hsited'⟩ := ih hsited
      exact ⟨hkeeps.trans hkeeps', hsited'⟩

/-- What is added to a volume at a point of a run, and from there on. -/
structure Additive (directory : String) (world : World Volume) : Prop where
  /-- whether a document can be saved or not, what is there stays -/
  kept : ∀ now document, Volume.Extends world.files
    (perform (save directory document) now world.journal world.files).files
  /-- a document that is saved is a new file, directly in the directory or behind a link of its name -/
  saved : ∀ now document path,
    (perform (save directory document) now world.journal world.files).result = .ok path →
      path = pathOf directory document ∧ Path.IsName (fileName document) ∧
      ∃ above place, Volume.Deposits directory (fileName document) (fileText document).toUTF8 above
        place world.files (perform (save directory document) now world.journal world.files).files
  /-- one that is not sound, cannot be compiled or is refused leaves the volume as it is -/
  refused : ∀ now document,
    savable now document ≠ .ok () ∨
      (perform (save directory document) now world.journal world.files).result =
        .error (Fault.schemaImmutable document.id document.version) →
    (perform (save directory document) now world.journal world.files).files = world.files
  /-- loading creates at most missing directories of the path, and nothing if there is one -/
  loaded : ∀ now,
    let later := (step directory world (.operation now .loadAll)).files
    Volume.Paves directory world.files later ∧
      (world.files.pathExists directory = true → later = world.files)
  /-- registering leaves the volume as it is -/
  registered : ∀ now document,
    (step directory world (.operation now (.register document))).files = world.files
  /-- whatever is done from here on, what is there stays -/
  run : ∀ made, Volume.Extends world.files (operate directory world made).files

theorem additive_of_sited (h : Volume.Sited directory world.files) : Additive directory world where
  kept := fun now document => (stores_save h now document world.journal).keeps.1
  saved := by
    intro now document path hpath
    have hstores := stores_save h now document world.journal
    generalize perform (save directory document) now world.journal world.files = trace
      at hstores hpath ⊢
    cases hstores with
    | saved hsavable hdeposits =>
        obtain rfl := Except.ok.inj hpath
        exact ⟨rfl, isName_fileName (savable_eq_ok.1 hsavable).1, _, _, hdeposits⟩
    | refused => cases hpath
    | failed => cases hpath
  refused := by
    intro now document hrefused
    have hstores := stores_save h now document world.journal
    generalize perform (save directory document) now world.journal world.files = trace
      at hstores hrefused ⊢
    cases hstores with
    | saved hsavable => simp [hsavable] at hrefused
    | refused => rfl
    | failed hsavable hother => simp [hsavable, hother] at hrefused
  loaded := by
    intro now
    exact ⟨paves_loadAll .., fun hexists =>
      files_loadAll now world.journal world.files hexists world.registry⟩
  registered := files_register directory world
  run := fun made => (keeps_operate made h).1

/-- **What holds at every point of a run** in which documents can be saved without regard to what is
there. -/
theorem additive_run (hrooted : volume.Rooted)
    (hleads : Path.Straight directory ∨ volume.isDirectory directory = true) (registry : Registry)
    (journal : Journal) (made : List Dated) :
    Additive directory (operate directory ⟨registry, volume, journal⟩ made) :=
  additive_of_sited (@keeps_operate directory made ⟨registry, volume, journal⟩ ⟨hrooted, hleads⟩).2

/-- A directory of documents with a file in it that holds none, under the name of a document, and with a
link under the name of another one, to where nothing is. -/
def desk : Volume where
  items := [(["schemas"], .directory), (["schemas", "schema_a_b.json"], .file "draft".toUTF8),
    (["schemas", "schema_c_d.json"], .link "../drawer.json")]
  here := []
  barred := []
  mishaps := []

theorem rooted_desk : desk.Rooted :=
  Volume.rooted_of_items (List.forall_mem_cons.2 ⟨rfl, List.forall_mem_cons.2
    ⟨rfl, List.forall_mem_singleton.2 rfl⟩⟩)

theorem additive_run_desk :
    (desk.Rooted ∧ (Path.Straight "schemas" ∨ desk.isDirectory "schemas" = true)) ∧
    let made : List Dated := [(.epoch, .save (blank "b" "c")), (.epoch, .loadAll)]
    (operate "schemas" ⟨empty, desk, .empty⟩ made).files.at? ["schemas", "schema_a_b.json"] =
      some (.file "draft".toUTF8) := by
  have hleads : Path.Straight "schemas" ∨ desk.isDirectory "schemas" = true := .inr rfl
  refine ⟨⟨rooted_desk, hleads⟩, ?_⟩
  exact ((additive_run rooted_desk hleads empty .empty []).run _).keeps _ _ rfl

/-- Behind a link of its name nothing is found, and a document is written outside the directory. -/
example : desk.pathExists "schemas/schema_c_d.json" = false ∧
    desk.opening "schemas/schema_c_d.json" = .ok ["drawer.json"] := ⟨rfl, rfl⟩

/-- The desk with one more directory. -/
def widerDesk : Volume := desk.adding ["new"] .directory

/-- The path that goes back from the new directory is created by the creation of this one. -/
theorem createDirectories_behind_missing :
    desk.createDirectories "new/../schemas" = (widerDesk, .ok ()) := by
  have hmissing : desk.createDirectory "new/../schemas" = (desk, .error .notFound) := rfl
  have hmissing' : desk.createDirectory "new/.." = (desk, .error .notFound) := rfl
  have hcreated : desk.createDirectory "new" = (widerDesk, .ok ()) := rfl
  have hback : widerDesk.createDirectory "new/.." = (widerDesk, .error .alreadyExists) := rfl
  have hback' : widerDesk.createDirectory "new/../schemas" = (widerDesk, .error .alreadyExists) := rfl
  have hdirectory : widerDesk.isDirectory "new/.." = true := rfl
  have hdirectory' : widerDesk.isDirectory "new/../schemas" = true := rfl
  have hparent : Path.parent? "new/../schemas" = some "new/.." := rfl
  have hparent' : Path.parent? "new/.." = some "new" := rfl
  have hlength : "new/../schemas".length = 14 := rfl
  simp [Volume.createDirectories, Volume.createFrom, Volume.settle, hlength, hmissing, hmissing',
    hcreated, hback, hback', hdirectory, hdirectory', hparent, hparent']

/-- On the way back from a directory that is missing, a file is replaced that was not found before, and
loading creates this directory though the one of the documents is there. -/
theorem replaced_behind_missing :
    let saved := perform (save "new/../schemas" (blank "a" "b")) .epoch .empty desk
    let loaded := perform (empty.loadAll "new/../schemas") .epoch .empty desk
    saved.result = .ok "new/../schemas/schema_a_b.json" ∧
      desk.at? ["schemas", "schema_a_b.json"] = some (.file "draft".toUTF8) ∧
      saved.files.at? ["schemas", "schema_a_b.json"] =
        some (.file (fileText (blank "a" "b")).toUTF8) ∧
      "draft" ≠ fileText (blank "a" "b") ∧
      desk.isDirectory "schemas" = true ∧ desk.at? ["new"] = none ∧
      loaded.files.at? ["new"] = some .directory := by
  have hsavable : savable .epoch (blank "a" "b") = .ok () := rfl
  have hpath : Path.join "new/../schemas" (fileName (blank "a" "b")) =
      "new/../schemas/schema_a_b.json" := rfl
  have hfree : FileStore.pathExists desk "new/../schemas/schema_a_b.json" = false := rfl
  have hfree' : FileStore.pathExists desk "new/../schemas" = false := rfl
  have hmade : FileStore.createDirectories desk "new/../schemas" = (widerDesk, .ok ()) :=
    createDirectories_behind_missing
  have hwritten : ∀ text, FileStore.write widerDesk "new/../schemas/schema_a_b.json" text =
      (widerDesk.adding ["schemas", "schema_a_b.json"] (.file text.toUTF8), .ok ()) := fun _ => rfl
  intro saved loaded
  have hsaved : saved = ⟨.ok "new/../schemas/schema_a_b.json", .empty,
      widerDesk.adding ["schemas", "schema_a_b.json"] (.file (fileText (blank "a" "b")).toUTF8)⟩ := by
    simp only [saved, perform_save_store, hsavable, hpath, hfree, hmade, hwritten,
      Bool.false_eq_true, if_false]
  have hloaded : loaded = ⟨(empty, .ok 0), .empty, widerDesk⟩ := by
    simp only [loaded, perform_loadAll_store, hfree', hmade, Bool.false_eq_true, if_false]
  rw [hsaved, hloaded]
  refine ⟨rfl, rfl, rfl, ?_, rfl, rfl, rfl⟩
  decide

end Registry

end Conform
