/-
**Volumes in which all goes well.**

Files in which all goes well make a volume: one without links, without barred places, and on which no
change fails that the volume itself allows.  On it every operation does what it does on the files, step
by step; so what is proved of loading and saving on files holds of such volumes.

Main definitions:

* `Volume.ofFiles` — the volume of files;
* `Workspace.Trace.ofFiles` — what is left on the volume of the files that are left.

Main results:

* `Volume.walkWith_ofFiles` — paths lead where they lead among the files;
* `Volume.createFrom_ofFiles`, `Volume.write_ofFiles` — changes are the same;
* `Registry.perform_save_ofFiles`, `Registry.perform_loadAll_ofFiles` — **saving and loading do the same
  on files and on their volume**.
-/

import Conform.Proofs.Directories
import Conform.Proofs.Paving
import Conform.Proofs.Workspace

set_option relaxedAutoImplicit false
set_option autoImplicit false

namespace Conform

/-- What lies at a place of a file system without links. -/
def Item.ofNode : Node → Item
  | .file bytes => .file bytes
  | .directory => .directory

namespace Volume

/-- The volume of files in which all goes well. -/
def ofFiles (files : Files) : Volume where
  items := files.nodes.map fun entry => (entry.1, Item.ofNode entry.2)
  here := files.here
  barred := []
  mishaps := []

variable {files : Files} {place : List String} {path : String}

/-! ### What is there -/

theorem at?_ofFiles (files : Files) (place : List String) :
    (ofFiles files).at? place = (files.at? place).map Item.ofNode := by
  have hlookup : ∀ nodes : List (List String × Node),
      (nodes.map fun entry => (entry.1, Item.ofNode entry.2)).lookup place =
        (nodes.lookup place).map Item.ofNode := by
    intro nodes
    induction nodes with
    | nil => rfl
    | cons entry rest ih =>
        rw [List.map_cons, List.lookup_cons, List.lookup_cons, ih]
        split <;> rfl
  rw [at?, Files.at?]
  split
  · rfl
  · exact hlookup files.nodes

theorem not_link_ofFiles (files : Files) (place : List String) (target : String) :
    (ofFiles files).at? place ≠ some (.link target) := by
  rw [at?_ofFiles]
  rcases files.at? place with _ | ⟨bytes⟩ | _
  · exact nofun
  · exact fun h => by cases Option.some.inj h
  · exact fun h => by cases Option.some.inj h

/-- **Paths lead where they lead among the files.** -/
theorem walkWith_ofFiles (through : Bool)
    (behind : List String → String → List String → Except FileFault (List String))
    (names : List String) : ∀ start : List String,
      (ofFiles files).walkWith through behind start names = files.follow start names := by
  induction names with
  | nil => exact fun start => rfl
  | cons name rest ih =>
      intro start
      rw [walkWith, Files.follow, at?_ofFiles]
      rcases files.at? start with _ | ⟨bytes⟩ | _
      · rfl
      · rfl
      · have hbarred : start ∉ (ofFiles files).barred := List.not_mem_nil
        simp only [Option.map_some, Item.ofNode, if_neg hbarred, ih]
        by_cases hempty : name = ""
        · rw [if_pos hempty, if_pos (.inl hempty)]
        · by_cases hpoint : name = "."
          · rw [if_neg hempty, if_pos hpoint, if_pos (.inr hpoint)]
          · rw [if_neg hempty, if_neg hpoint, if_neg (not_or.2 ⟨hempty, hpoint⟩)]
            split
            · rfl
            · split
              · rfl
              · split
                · next target hlink => exact absurd hlink (not_link_ofFiles files _ target)
                · rfl

theorem reach_ofFiles (through : Bool) (path : String) (names : List String) :
    (ofFiles files).reach through path names = files.reach path names := by
  rw [reach, Files.reach, walk_eq, walkWith_ofFiles]
  rfl

theorem place_ofFiles (path : String) : (ofFiles files).place path = files.place path :=
  reach_ofFiles true path (Path.names path)

theorem find_ofFiles (path : String) : (ofFiles files).find path =
    files.place path >>= fun place =>
      match files.at? place with
      | some node => .ok (place, .ofNode node)
      | none => .error .notFound := by
  rw [find, place_ofFiles]
  refine congrArg (files.place path >>= ·) (funext fun place => ?_)
  rw [at?_ofFiles]
  cases files.at? place <;> rfl

theorem pathExists_ofFiles (path : String) :
    (ofFiles files).pathExists path = files.pathExists path := by
  rw [pathExists, Files.pathExists, find_ofFiles, Files.find]
  cases files.place path with
  | error fault => rfl
  | ok place =>
      simp only [ok_bind]
      cases files.at? place <;> rfl

theorem isDirectory_ofFiles (path : String) :
    (ofFiles files).isDirectory path = files.isDirectory path := by
  rw [isDirectory, Files.isDirectory, find_ofFiles, Files.find]
  cases files.place path with
  | error fault => rfl
  | ok place =>
      simp only [ok_bind]
      rcases files.at? place with _ | ⟨bytes⟩ | _ <;> rfl

theorem isFile_ofFiles (path : String) : (ofFiles files).isFile path = files.isFile path := by
  rw [isFile, Files.isFile, find_ofFiles, Files.find]
  cases files.place path with
  | error fault => rfl
  | ok place =>
      simp only [ok_bind]
      rcases files.at? place with _ | ⟨bytes⟩ | _ <;> rfl

theorem list_ofFiles (path : String) : (ofFiles files).list path = files.list path := by
  have hnames : ∀ place, (ofFiles files).namesIn place = files.namesIn place := fun place =>
    List.filterMap_map
  rw [list, Files.list, find_ofFiles]
  cases files.place path with
  | error fault => rfl
  | ok place =>
      have hbarred : place ∉ (ofFiles files).barred := List.not_mem_nil
      simp only [ok_bind]
      rcases files.at? place with _ | ⟨bytes⟩ | _
      · rfl
      · rfl
      · simp only [ok_bind, Item.ofNode, if_neg hbarred, hnames]

theorem read_ofFiles (path : String) : (ofFiles files).read path = files.read path := by
  rw [read, Files.read, find_ofFiles, Files.find]
  cases files.place path with
  | error fault => rfl
  | ok place =>
      have hbarred : place ∉ (ofFiles files).barred := List.not_mem_nil
      simp only [ok_bind]
      rcases files.at? place with _ | ⟨bytes⟩ | _
      · rfl
      · simp only [ok_bind, Item.ofNode, if_neg hbarred]
      · rfl

/-! ### Changes -/

theorem adding_ofFiles (files : Files) (place : List String) (node : Node) :
    (ofFiles files).adding place (.ofNode node) = ofFiles (files.adding place node) := by
  have hput : ∀ nodes : List (List String × Node),
      Files.put place (Item.ofNode node) (nodes.map fun entry => (entry.1, Item.ofNode entry.2)) =
        (Files.put place node nodes).map fun entry => (entry.1, Item.ofNode entry.2) := by
    intro nodes
    induction nodes with
    | nil => rfl
    | cons entry rest ih =>
        rw [List.map_cons, Files.put, Files.put]
        split
        · rfl
        · rw [ih, List.map_cons]
  rw [adding, ofFiles, ofFiles, Files.adding, hput]

theorem createDirectory_ofFiles (path : String) : (ofFiles files).createDirectory path =
    match files.createDirectory path with
    | .ok made => (ofFiles made, .ok ())
    | .error fault => (ofFiles files, .error fault) := by
  have hsite : (ofFiles files).site path = files.site path := reach_ofFiles _ _ _
  have hmishap : (ofFiles files).mishap? = none := rfl
  rw [createDirectory, Files.createDirectory, hsite, hmishap]
  cases files.site path with
  | error fault => rfl
  | ok place =>
      simp only [at?_ofFiles, ok_bind]
      cases files.at? place with
      | some node => rfl
      | none =>
          have hadding := adding_ofFiles files place .directory
          exact congrArg (·, Except.ok ()) hadding

theorem settle_ofFiles (path : String) : settle path ((ofFiles files).createDirectory path) =
    match files.ensureDirectory path with
    | .ok made => (ofFiles made, .ok ())
    | .error fault => (ofFiles files, .error fault) := by
  rw [createDirectory_ofFiles, Files.ensureDirectory]
  cases files.createDirectory path with
  | ok made => rfl
  | error fault =>
      simp only [settle, isDirectory_ofFiles]
      cases files.isDirectory path <;> rfl

/-- A directory that is missing because those it lies in are is not there. -/
theorem ensureDirectory_of_notFound (h : files.createDirectory path = .error .notFound) :
    files.ensureDirectory path = .error .notFound := by
  rw [Files.ensureDirectory, h]
  cases hdirectory : files.isDirectory path with
  | false => rfl
  | true =>
      obtain ⟨place, hsite, hnode⟩ := Files.site_of_find (Files.isDirectory_iff.1 hdirectory)
      rw [Files.createDirectory, hsite, ok_bind, hnode] at h
      cases h

/-- **Directories are created as they are among the files.** -/
theorem createFrom_ofFiles (fuel : ℕ) : ∀ {files : Files} {path : String},
    (ofFiles files).createFrom fuel path =
      (ofFiles (files.createFrom fuel path).1, (files.createFrom fuel path).2) := by
  induction fuel with
  | zero => exact fun {_ _} => rfl
  | succ fuel ih =>
      intro files path
      have hsettle := @settle_ofFiles files path
      rw [createFrom, Files.createFrom, createDirectory_ofFiles] at *
      split
      · rfl
      · cases hcreated : files.createDirectory path with
        | ok made =>
            rw [hcreated] at hsettle
            simp only at hsettle ⊢
            rw [hsettle, Files.ensureDirectory, hcreated]
        | error fault =>
            rw [hcreated] at hsettle
            simp only at hsettle ⊢
            cases fault
            case notFound =>
              rw [ensureDirectory_of_notFound hcreated]
              cases hparent : Path.parent? path with
              | none => rfl
              | some parent =>
                  simp only [ih]
                  rcases files.createFrom fuel parent with ⟨above, fault | _⟩
                  · rfl
                  · simp only [settle_ofFiles]
                    cases above.ensureDirectory path <;> rfl
            -- every other fault is settled at once
            all_goals
              refine hsettle.trans ?_
              rw [Files.ensureDirectory, hcreated]
              cases files.isDirectory path <;> rfl

theorem createDirectories_ofFiles (files : Files) (path : String) :
    FileStore.createDirectories (ofFiles files) path =
      (FileStore.createDirectories files path).map ofFiles id :=
  createFrom_ofFiles (path.length + 1)

theorem opening_ofFiles (path : String) : (ofFiles files).opening path =
    files.place path >>= fun place =>
      match files.at? place with
      | some .directory => .error .isDirectory
      | _ => .ok place := by
  rw [opening, place_ofFiles]
  refine congrArg (files.place path >>= ·) (funext fun place => ?_)
  have hbarred : place ∉ (ofFiles files).barred := List.not_mem_nil
  rw [at?_ofFiles]
  rcases files.at? place with _ | ⟨bytes⟩ | _
  · exact if_neg hbarred
  · exact if_neg hbarred
  · rfl

/-- **Files are written as they are among the files.** -/
theorem write_ofFiles (files : Files) (path text : String) :
    FileStore.write (ofFiles files) path text =
      (FileStore.write files path text).map ofFiles id := by
  show (ofFiles files).write path text = Prod.map ofFiles id
    (match files.write path text with
      | .ok written => (written, .ok ())
      | .error fault => (files, .error fault))
  rw [write, opening_ofFiles, Files.write]
  cases files.place path with
  | error fault => rfl
  | ok place =>
      have hadding := adding_ofFiles files place (.file text.toUTF8)
      simp only [ok_bind]
      rcases files.at? place with _ | ⟨bytes⟩ | _
      · exact congrArg (·, Except.ok ()) hadding
      · exact congrArg (·, Except.ok ()) hadding
      · rfl

theorem documents_ofFiles (files : Files) (directory : String) (names : List String) :
    FileStore.documents (ofFiles files) directory names =
      FileStore.documents files directory names := by
  have hfile : FileStore.isFile (ofFiles files) = FileStore.isFile files := funext isFile_ofFiles
  have hread : FileStore.read (ofFiles files) = FileStore.read files := funext read_ofFiles
  simp only [FileStore.documents, hfile, hread]

end Volume

/-! ### Saving and loading -/

/-- What is left on the volume of the files that are left. -/
def Workspace.Trace.ofFiles {α : Type} (trace : Trace Files α) : Trace Volume α :=
  ⟨trace.result, trace.journal, Volume.ofFiles trace.files⟩

namespace Registry

open Workspace

variable (now : DateTime) (journal : Journal) (files : Files)

/-- **Loading does on the volume of files what it does on the files.** -/
theorem perform_loadAll_ofFiles (registry : Registry) (directory : String) :
    perform (registry.loadAll directory) now journal (Volume.ofFiles files) =
      (perform (registry.loadAll directory) now journal files).ofFiles := by
  have hexists : FileStore.pathExists (Volume.ofFiles files) directory =
      FileStore.pathExists files directory := Volume.pathExists_ofFiles directory
  have hlist : FileStore.list (Volume.ofFiles files) directory = FileStore.list files directory :=
    Volume.list_ofFiles directory
  rw [perform_loadAll_store, perform_loadAll_store, hexists, hlist]
  simp only [Volume.documents_ofFiles, Volume.createDirectories_ofFiles]
  split
  · split
    · rfl
    · split <;> rfl
  · rcases FileStore.createDirectories files directory with ⟨made, fault | _⟩ <;> rfl

/-- **Saving does on the volume of files what it does on the files.** -/
theorem perform_save_ofFiles (directory : String) (document : Document) :
    perform (save directory document) now journal (Volume.ofFiles files) =
      (perform (save directory document) now journal files).ofFiles := by
  have hexists : ∀ path, FileStore.pathExists (Volume.ofFiles files) path =
      FileStore.pathExists files path := Volume.pathExists_ofFiles
  rw [perform_save_store, perform_save_store]
  simp only [hexists, Volume.createDirectories_ofFiles]
  split
  · rfl
  · split
    · rfl
    · rcases FileStore.createDirectories files directory with ⟨made, fault | _⟩
      · rfl
      · simp only [Prod.map_apply, id, Volume.write_ofFiles]
        rcases FileStore.write made (Path.join directory (fileName document))
          (fileText document) with ⟨written, fault | _⟩ <;> rfl

end Registry

end Conform
