/-
**Directories.**

Creating a directory creates those of its path that are missing, and all that was there stays as it was.
A directory that is there is left as it is.

Main definitions:

* `Files.Vacant` — a directory that is missing or empty.

Main results:

* `Files.extends_createFrom` — **creating directories adds to the files**, whether it succeeds or not;
* `Files.createDirectories_of_isDirectory` — where there is a directory, nothing is done.
-/

import Conform.Proofs.Files

set_option relaxedAutoImplicit false
set_option autoImplicit false

namespace Conform

namespace Files

variable {files later : Files} {path directory : String}

/-! ### Creating directories -/

theorem extends_of_ensureDirectory (h : files.ensureDirectory path = .ok later) :
    Extends files later := by
  rw [ensureDirectory] at h
  split at h
  · next hcreated =>
      cases h
      obtain ⟨place, -, hnothing, rfl⟩ := createDirectory_eq_ok.1 hcreated
      exact extends_adding hnothing .directory
  · split at h
    · cases h
      exact .refl files
    · cases h

/-- **Creating directories adds to the files**, even where not all of them can be created. -/
theorem extends_createFrom (fuel : ℕ) : ∀ path : String,
    Extends files (files.createFrom fuel path).1 := by
  induction fuel with
  | zero => exact fun path => .refl files
  | succ fuel ih =>
      intro path
      rw [createFrom]
      split
      · exact .refl files
      · split
        · next hmade => exact extends_of_ensureDirectory hmade
        · -- the directories that it lies in are created first
          split
          · exact .refl files
          · next parent hparent =>
              have habove := ih parent
              split
              · next hcreated => rwa [hcreated] at habove
              · next hcreated =>
                  rw [hcreated] at habove
                  split
                  · next hmade => exact habove.trans (extends_of_ensureDirectory hmade)
                  · exact habove
        · exact .refl files

theorem extends_afterCreating (path : String) (files : Files) :
    Extends files (files.afterCreating path) :=
  extends_createFrom (path.length + 1) path

theorem extends_of_createDirectories {made : Files} (h : files.createDirectories path = .ok made) :
    Extends files made :=
  afterCreating_of_ok h ▸ extends_afterCreating path files

/-- Where something is, no directory is created: if it is one it will do, if not that is a fault. -/
theorem ensureDirectory_of_find {node : Node} (h : files.find path = .ok node) :
    files.ensureDirectory path =
      if files.isDirectory path then .ok files else .error .alreadyExists := by
  obtain ⟨place, hplace, hnode⟩ := site_of_find h
  rw [ensureDirectory, createDirectory, hplace, ok_bind, hnode]

/-- Where something is, only a directory that is there is as good as created. -/
theorem createFrom_of_find {node : Node} (h : files.find path = .ok node) (fuel : ℕ) :
    files.createFrom (fuel + 1) path =
      (files, if files.isDirectory path then .ok () else .error .alreadyExists) := by
  have hne : path ≠ "" := by
    rintro rfl
    cases h
  rw [createFrom, if_neg hne, ensureDirectory_of_find h]
  cases files.isDirectory path <;> rfl

/-- Where something is, nothing is created. -/
theorem afterCreating_of_pathExists (hexists : files.pathExists path = true) :
    files.afterCreating path = files := by
  obtain ⟨node, hnode⟩ := pathExists_iff.1 hexists
  rw [afterCreating, createFrom_of_find hnode]

/-- **A directory that is there is left as it is.** -/
theorem createDirectories_of_isDirectory (h : files.isDirectory path = true) :
    files.createDirectories path = .ok files := by
  have hfind := isDirectory_iff.1 h
  rw [createDirectories, afterCreating, createFrom_of_find hfind, if_pos h]
  rfl

/-- If the directories of a path can be created though something is there, nothing is to be done. -/
theorem createDirectories_of_pathExists {made : Files} (hexists : files.pathExists path = true)
    (h : files.createDirectories path = .ok made) : made = files :=
  (afterCreating_of_ok h).symm.trans (afterCreating_of_pathExists hexists)

/-! ### Vacant directories -/

/-- A directory that is missing or empty: once it has been created, nothing lies in it. -/
def Vacant (files : Files) (directory : String) : Prop :=
  ∃ made, files.createDirectories directory = .ok made ∧ made.list directory = .ok []

/-- A directory that is there is vacant exactly if nothing lies in it. -/
theorem vacant_iff_of_pathExists (hexists : files.pathExists directory = true) :
    files.Vacant directory ↔ files.list directory = .ok [] := by
  constructor
  · rintro ⟨made, hmade, hlist⟩
    obtain rfl := createDirectories_of_pathExists hexists hmade
    exact hlist
  · intro hlist
    exact ⟨files, createDirectories_of_isDirectory (isDirectory_of_list hlist), hlist⟩

end Files

end Conform
