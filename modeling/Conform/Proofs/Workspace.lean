/-
**Operations on files as functions.**

Loading and saving run in a monad with a journal, a file system and a time.  Where the journal and the
file system are values, what such an operation does is a function of them: its result, the journal
afterwards, and the file system afterwards.  This module gives these functions, for every kind of file
system, and for one in which all goes well.

Main definitions:

* `Worksite`, `Workspace.perform` — operations, and what they do;
* `Workspace` — operations on files in which all goes well;
* `Files.documents` — the files of a directory that hold documents, in their order.

Main results:

* `Registry.perform_loadAll_store`, `Registry.perform_save_store` — what loading and saving do;
* `Registry.perform_loadAll`, `Registry.perform_save` — what they do where all goes well.
-/

import Conform.Registry
import Mathlib

set_option relaxedAutoImplicit false
set_option autoImplicit false

namespace Conform

/-- Operations that know the time, and change a journal and a file system. -/
abbrev Worksite (F : Type) := StateT Journal (StateT F Clocked)

/-- Operations on files in which all goes well. -/
abbrev Workspace := Worksite Files

namespace Workspace

/-- What an operation leaves: its result, the journal and the file system. -/
structure Trace (F α : Type) where
  result : α
  journal : Journal
  files : F

variable {F α β : Type}

/-- What an operation does at a time. -/
def perform (action : Worksite F α) (now : DateTime) (journal : Journal) (files : F) : Trace F α :=
  let ((result, journal), files) := ((action.run journal).run files).run now
  ⟨result, journal, files⟩

section

variable (now : DateTime) (journal : Journal) (files : F)

@[simp] theorem perform_pure (a : α) :
    perform (pure a) now journal files = ⟨a, journal, files⟩ := rfl

/-- Of two operations, the second one finds the journal and the files that the first one left. -/
@[simp] theorem perform_bind (action : Worksite F α) (next : α → Worksite F β) :
    perform (action >>= next) now journal files =
      perform (next (perform action now journal files).result) now
        (perform action now journal files).journal (perform action now journal files).files := rfl

@[simp] theorem perform_now :
    perform (readThe DateTime) now journal files = ⟨now, journal, files⟩ := rfl

@[simp] theorem perform_modify (f : Journal → Journal) :
    perform (modifyThe Journal f) now journal files = ⟨(), f journal, files⟩ := rfl

variable [FileStore F]

@[simp] theorem perform_pathExists (path : String) :
    perform (FileSystem.pathExists path) now journal files =
      ⟨FileStore.pathExists files path, journal, files⟩ := rfl

@[simp] theorem perform_isFile (path : String) :
    perform (FileSystem.isFile path) now journal files =
      ⟨FileStore.isFile files path, journal, files⟩ := rfl

@[simp] theorem perform_list (path : String) :
    perform (FileSystem.list path) now journal files =
      ⟨FileStore.list files path, journal, files⟩ := rfl

@[simp] theorem perform_read (path : String) :
    perform (FileSystem.read path) now journal files =
      ⟨FileStore.read files path, journal, files⟩ := rfl

@[simp] theorem perform_write (path text : String) :
    perform (FileSystem.write path text) now journal files =
      ⟨(FileStore.write files path text).2, journal, (FileStore.write files path text).1⟩ := rfl

/-- Of directories that cannot all be created, those that could be stay. -/
@[simp] theorem perform_createDirectories (path : String) :
    perform (FileSystem.createDirectories path) now journal files =
      ⟨(FileStore.createDirectories files path).2, journal,
        (FileStore.createDirectories files path).1⟩ := rfl

/-! ### Several files -/

/-- To read files changes nothing. -/
@[simp] theorem perform_contents (paths : List String) :
    perform (Registry.contents paths) now journal files =
      ⟨paths.map fun path => (path, FileStore.read files path), journal, files⟩ := by
  induction paths with
  | nil => rfl
  | cons path rest ih =>
      rw [Registry.contents] at ih ⊢
      rw [List.mapM_cons]
      simp only [perform_bind, perform_read, perform_pure, ih, List.map_cons]

/-- To look for files among paths changes nothing. -/
theorem perform_filterAuxM (paths : List String) : ∀ found : List String,
    perform (List.filterAuxM FileSystem.isFile paths found) now journal files =
      ⟨(paths.filter (FileStore.isFile files)).reverse ++ found, journal, files⟩ := by
  induction paths with
  | nil => exact fun found => rfl
  | cons path rest ih =>
      intro found
      rw [List.filterAuxM, perform_bind, perform_isFile, ih]
      cases hfile : FileStore.isFile files path <;> simp [hfile]

@[simp] theorem perform_documentPaths (directory : String) (names : List String) :
    perform (Registry.documentPaths directory names) now journal files =
      ⟨(((names.filter Path.hasJsonExtension).mergeSort fun a b => decide (a ≤ b)).map
        (Path.join directory)).filter (FileStore.isFile files), journal, files⟩ := by
  simp only [Registry.documentPaths, List.filterM, perform_bind, perform_filterAuxM, perform_pure,
    List.append_nil, List.reverse_reverse]

end

end Workspace

@[simp] theorem Files.store_read (files : Files) (path : String) :
    FileStore.read files path = files.read path := rfl

/-- The files of a directory that hold documents, and what they hold. -/
def FileStore.documents {F : Type} [FileStore F] (files : F) (directory : String)
    (names : List String) : List (String × Except FileFault ByteArray) :=
  (((names.filter Path.hasJsonExtension).mergeSort fun a b => decide (a ≤ b)).map
    (Path.join directory)).filter (isFile files) |>.map fun path => (path, read files path)

/-- The files of a directory that hold documents, and what they hold. -/
def Files.documents (files : Files) (directory : String) (names : List String) :
    List (String × Except FileFault ByteArray) :=
  (((names.filter Path.hasJsonExtension).mergeSort fun a b => decide (a ≤ b)).map
    (Path.join directory)).filter files.isFile |>.map fun path => (path, files.read path)

namespace Registry

open Workspace

/-! ### File systems of any kind -/

section

variable {F : Type} [FileStore F] (now : DateTime) (journal : Journal) (files : F)

/-- Loading registers the documents in the files of the directory one after another; a directory that
is missing is created. -/
theorem perform_loadAll_store (registry : Registry) (directory : String) :
    perform (registry.loadAll directory) now journal files =
      if FileStore.pathExists files directory then
        match FileStore.list files directory with
        | .error fault =>
          ⟨(registry, .error (directoryFault directory "Failed to read schema directory" fault)),
            journal, files⟩
        | .ok names =>
          let loaded := FileStore.documents files directory names
          let progress := registerFiles now registry loaded
          match progress.outcome with
          | .error fault =>
            ⟨(progress.registry, .error fault), journal.recordAll progress.entries, files⟩
          | .ok () =>
            ⟨(progress.registry, .ok loaded.length),
              (journal.recordAll progress.entries).record (Entry.ofEvent .schemasLoaded
                [("count", Fault.number loaded.length), ("schema_dir", directory)]), files⟩
      else
        match FileStore.createDirectories files directory with
        | (later, .error fault) =>
          ⟨(registry, .error (directoryFault directory "Failed to create schema directory" fault)),
            journal, later⟩
        | (later, .ok ()) => ⟨(registry, .ok 0), journal, later⟩ := by
  rw [loadAll, perform_bind, perform_pathExists]
  cases FileStore.pathExists files directory with
  | false =>
      simp only [Bool.false_eq_true, if_false]
      rw [perform_bind, perform_createDirectories]
      rcases FileStore.createDirectories files directory with ⟨later, fault | _⟩ <;> rfl
  | true =>
      simp only [if_true]
      rw [perform_bind, perform_list]
      cases FileStore.list files directory with
      | error fault => rfl
      | ok names =>
          -- reading leaves all as it is, so that registering comes down to one function of the files
          have hdocuments : (((((names.filter Path.hasJsonExtension).mergeSort fun a b =>
              decide (a ≤ b)).map (Path.join directory)).filter (FileStore.isFile files)).map
                fun path => (path, FileStore.read files path)) =
                  FileStore.documents files directory names := rfl
          simp only [perform_bind, perform_documentPaths, perform_contents, perform_now,
            perform_modify, hdocuments]
          cases (registerFiles now registry (FileStore.documents files directory names)).outcome <;>
            rfl

/-- Where there is a directory, or anything else, loading leaves the files as they are. -/
theorem files_loadAll {directory : String} (hexists : FileStore.pathExists files directory = true)
    (registry : Registry) :
    (perform (registry.loadAll directory) now journal files).files = files := by
  rw [perform_loadAll_store, if_pos hexists]
  split
  · rfl
  · simp only
    split <;> rfl

/-- Saving writes the text of a document to a file of its own, if there is nothing yet; the directory is
created if it is missing. -/
theorem perform_save_store (directory : String) (document : Document) :
    perform (save directory document) now journal files =
      match savable now document with
      | .error fault => ⟨.error fault, journal, files⟩
      | .ok () =>
        let path := Path.join directory (fileName document)
        if FileStore.pathExists files path then
          ⟨.error (Fault.schemaImmutable document.id document.version), journal, files⟩
        else
          match FileStore.createDirectories files directory with
          | (made, .error fault) =>
            ⟨.error (directoryFault directory "Failed to create schema directory" fault), journal,
              made⟩
          | (made, .ok ()) =>
            match FileStore.write made path (fileText document) with
            | (written, .error fault) =>
              ⟨.error (directoryFault path "Failed to write file" fault), journal, written⟩
            | (written, .ok ()) => ⟨.ok path, journal, written⟩ := by
  rw [save, perform_bind, perform_now]
  cases savable now document with
  | error fault => rfl
  | ok _ =>
      simp only
      rw [perform_bind, perform_pathExists]
      cases FileStore.pathExists files (Path.join directory (fileName document)) with
      | true => rfl
      | false =>
          simp only [Bool.false_eq_true, if_false]
          rw [perform_bind, perform_createDirectories]
          rcases FileStore.createDirectories files directory with ⟨made, fault | _⟩
          · rfl
          · simp only
            rw [perform_bind, perform_write]
            rcases FileStore.write made (Path.join directory (fileName document))
              (fileText document) with ⟨written, fault | _⟩ <;> rfl

end

/-! ### Files in which all goes well -/

variable (now : DateTime) (journal : Journal) (files : Files)

/-- What the creation of directories leaves, whether it succeeds or not. -/
theorem createDirectories_store (directory : String) :
    FileStore.createDirectories files directory =
      match files.createDirectories directory with
      | .ok made => (made, .ok ())
      | .error fault => (files.afterCreating directory, .error fault) := by
  have hpair : FileStore.createDirectories files directory =
      (files.afterCreating directory, (files.createDirectories directory).map fun _ => ()) := by
    rw [Files.createDirectories]
    show files.createFrom (directory.length + 1) directory = _
    rcases hcreated : files.createFrom (directory.length + 1) directory with ⟨made, fault | _⟩ <;>
      simp [Files.afterCreating, hcreated, Except.map]
  rw [hpair]
  cases hmade : files.createDirectories directory with
  | error fault => rfl
  | ok made =>
      rw [Files.afterCreating_of_ok hmade]
      rfl

/-- Loading registers the documents in the files of the directory one after another; a directory that
is missing is created. -/
theorem perform_loadAll (registry : Registry) (directory : String) :
    perform (registry.loadAll directory) now journal files =
      if files.pathExists directory then
        match files.list directory with
        | .error fault =>
          ⟨(registry, .error (directoryFault directory "Failed to read schema directory" fault)),
            journal, files⟩
        | .ok names =>
          let loaded := files.documents directory names
          let progress := registerFiles now registry loaded
          match progress.outcome with
          | .error fault =>
            ⟨(progress.registry, .error fault), journal.recordAll progress.entries, files⟩
          | .ok () =>
            ⟨(progress.registry, .ok loaded.length),
              (journal.recordAll progress.entries).record (Entry.ofEvent .schemasLoaded
                [("count", Fault.number loaded.length), ("schema_dir", directory)]), files⟩
      else
        match files.createDirectories directory with
        | .error fault =>
          ⟨(registry, .error (directoryFault directory "Failed to create schema directory" fault)),
            journal, files.afterCreating directory⟩
        | .ok changed => ⟨(registry, .ok 0), journal, changed⟩ := by
  rw [perform_loadAll_store, createDirectories_store]
  cases files.createDirectories directory <;> rfl

/-- Saving writes the text of a document to a file of its own, if there is nothing yet; the directory is
created if it is missing. -/
theorem perform_save (directory : String) (document : Document) :
    perform (save directory document) now journal files =
      match savable now document with
      | .error fault => ⟨.error fault, journal, files⟩
      | .ok () =>
        let path := Path.join directory (fileName document)
        if files.pathExists path then
          ⟨.error (Fault.schemaImmutable document.id document.version), journal, files⟩
        else
          match files.createDirectories directory with
          | .error fault =>
            ⟨.error (directoryFault directory "Failed to create schema directory" fault), journal,
              files.afterCreating directory⟩
          | .ok made =>
            match made.write path (fileText document) with
            | .error fault =>
              ⟨.error (directoryFault path "Failed to write file" fault), journal, made⟩
            | .ok written => ⟨.ok path, journal, written⟩ := by
  have hwrite : ∀ (made : Files) (path text : String), FileStore.write made path text =
      match made.write path text with
      | .ok written => (written, .ok ())
      | .error fault => (made, .error fault) := fun _ _ _ => rfl
  rw [perform_save_store, createDirectories_store]
  cases files.createDirectories directory with
  | error fault => rfl
  | ok made =>
      simp only [hwrite]
      cases made.write (Path.join directory (fileName document)) (fileText document) <;> rfl

end Registry

end Conform
