/-
**Registries over whole runs.**

A registry is never told to forget.  Whatever is done with it, documents are appended to it one by one,
and each only if it is sound, has a key that is free, and can be compiled.  This module states that as
one relation between registries, shows that every operation keeps to it, and derives from it what holds
at every point of a run: of documents registered, directories loaded and documents saved, with or
without success, while the files are changed by others in between.

Main definitions:

* `Registry.Grows` — documents were enrolled one after another;
* `Registry.Valid` — every entry was enrolled, and no key occurs twice;
* `Registry.World`, `Registry.Occurrence`, `Registry.step`, `Registry.run` — runs;
* `Registry.Lawful` — what registering and looking up mean at a point of a run.

Main results:

* `Registry.enroll_eq_ok` — which documents are enrolled;
* `Registry.grows_step`, `Registry.grows_run` — **a run appends enrolled documents and nothing else**;
* `Registry.Grows.valid`, `Registry.Grows.get?_eq_some` — what that preserves;
* `Registry.resolve_eq_unknownVersion`, `Registry.resolve_eq_unknownSchema` — the faults of looking up;
* `Registry.lawful_run` — **what holds at every point of a run**.
-/

import Conform.Proofs.Definition.Rebuilding
import Conform.Proofs.Workspace

set_option relaxedAutoImplicit false
set_option autoImplicit false

namespace Conform

namespace Registry

variable {registry later : Registry} {now : DateTime} {source id version : String}
  {document : Document} {entry : Registered} {fault : Fault}

/-! ### Looking up -/

theorem key_of_get? (h : registry.get? id version = some entry) :
    entry ∈ registry.entries ∧ entry.document.key = (id, version) :=
  ⟨List.mem_of_find?_eq_some h, by simpa using List.find?_some h⟩

/-- The keys of a registry are those under which something is found. -/
theorem mem_keys_iff : (id, version) ∈ registry.keys ↔ ∃ e, registry.get? id version = some e := by
  rw [keys, List.mem_mergeSort, List.mem_map, ← Option.isSome_iff_exists, get?, List.find?_isSome]
  simp

theorem get?_eq_none_iff : registry.get? id version = none ↔ (id, version) ∉ registry.keys := by
  rw [mem_keys_iff, ← Option.isSome_iff_exists, Option.not_isSome_iff_eq_none]

theorem hasId_iff : registry.hasId id = true ↔ ∃ other, (id, other) ∈ registry.keys := by
  simp only [hasId, keys, List.mem_mergeSort, List.any_eq_true, List.mem_map, decide_eq_true_eq]
  constructor
  · rintro ⟨e, hmem, rfl⟩
    exact ⟨e.document.version, e, hmem, rfl⟩
  · rintro ⟨other, e, hmem, hkey⟩
    exact ⟨e, hmem, congrArg Prod.fst hkey⟩

theorem resolve_eq_ok : registry.resolve id version = .ok entry ↔
    registry.get? id version = some entry := by
  rw [resolve]
  cases registry.get? id version with
  | some e => simp
  | none => cases registry.hasId id <;> simp

/-- The version is unknown if the identifier is registered in other versions only. -/
theorem resolve_eq_unknownVersion :
    registry.resolve id version = .error (Fault.unknownVersion id version) ↔
      (id, version) ∉ registry.keys ∧ ∃ other, (id, other) ∈ registry.keys := by
  rw [← get?_eq_none_iff, ← hasId_iff, resolve]
  cases registry.get? id version with
  | some e => simp
  | none => cases registry.hasId id <;> simp [Fault.unknownVersion, Fault.unknownSchema, Fault.new]

/-- The schema is unknown if the identifier is registered in no version. -/
theorem resolve_eq_unknownSchema :
    registry.resolve id version = .error (Fault.unknownSchema id) ↔
      ∀ other, (id, other) ∉ registry.keys := by
  have hversion : registry.hasId id = false → registry.get? id version = none := by
    intro hid
    rw [get?_eq_none_iff]
    intro hmem
    rw [hasId_iff.2 ⟨version, hmem⟩] at hid
    cases hid
  rw [← not_exists, ← hasId_iff, Bool.not_eq_true, resolve]
  cases hid : registry.hasId id with
  | false => simp [hversion hid]
  | true =>
      cases registry.get? id version <;>
        simp [Fault.unknownVersion, Fault.unknownSchema, Fault.new]

/-! ### Enrolling -/

/-- A document is enrolled exactly if it is sound, its key is free, and it can be compiled. -/
theorem enroll_eq_ok : registry.enroll now source document = .ok entry ↔
    document.defect? = none ∧ registry.get? document.id document.version = none ∧
      ∃ schema, (document.schema : Outcome Clocked (Schema Clocked)).asOf now = .ok schema ∧
        entry = ⟨document, schema⟩ := by
  have hcompiled : ((document.schema : Outcome Clocked (Schema Clocked)).run now).map
      (fun schema => (⟨document, schema⟩ : Registered)) = .ok entry ↔
        ∃ schema, (document.schema : Outcome Clocked (Schema Clocked)).asOf now = .ok schema ∧
          entry = ⟨document, schema⟩ := by
    refine Iff.trans map_eq_ok (exists_congr fun schema => and_congr_right fun _ => eq_comm)
  rw [enroll]
  cases document.defect? with
  | some defect => simp
  | none =>
      rw [has]
      cases registry.get? document.id document.version with
      | some e => simp
      | none => simpa using hcompiled

/-- How a registry grows: one enrolled document after another is appended. -/
inductive Grows : Registry → Registry → Prop
  | refl (registry : Registry) : Grows registry registry
  | enroll {registry later : Registry} {now : DateTime} {source : String} {document : Document}
      {entry : Registered} : Grows registry later →
      later.enroll now source document = .ok entry → Grows registry ⟨later.entries ++ [entry]⟩

theorem Grows.trans {last : Registry} (h : Grows registry later) (h' : Grows later last) :
    Grows registry last := by
  induction h' with
  | refl => exact h
  | enroll _ henroll ih => exact ih.enroll henroll

/-- Registering enrols one document. -/
theorem grows_register {noted : Entry}
    (h : registry.register now source document = .ok (later, noted)) : Grows registry later := by
  obtain ⟨entry, hentry, heq⟩ := map_eq_ok.1 h
  cases heq
  exact .enroll (.refl registry) hentry

/-- Files are registered up to the first that cannot be. -/
theorem grows_registerFiles (now : DateTime) (files : List (String × Except FileFault ByteArray)) :
    ∀ registry : Registry, Grows registry (registerFiles now registry files).registry := by
  induction files with
  | nil => exact Grows.refl
  | cons file rest ih =>
      intro registry
      obtain ⟨path, bytes⟩ := file
      rw [registerFiles]
      cases h : documentOf path bytes >>= registry.register now path with
      | error fault => exact .refl registry
      | ok done =>
          obtain ⟨document, -, hregister⟩ := bind_eq_ok.1 h
          exact (grows_register hregister).trans (ih done.1)

/-- Loading a directory enrols documents, whether it succeeds or not. -/
theorem grows_loadAll {F : Type} [FileStore F] (registry : Registry) (directory : String)
    (now : DateTime) (journal : Journal) (files : F) :
    Grows registry
      (Workspace.perform (registry.loadAll directory) now journal files).result.1 := by
  rw [perform_loadAll_store]
  split
  · split
    · exact .refl registry
    · simp only
      split <;> exact grows_registerFiles now _ registry
  · split <;> exact .refl registry

/-! ### What growing preserves -/

/-- What is found in a registry is found in every one that it grows to. -/
theorem Grows.get?_eq_some (h : Grows registry later) (hget : registry.get? id version = some entry) :
    later.get? id version = some entry := by
  induction h with
  | refl => exact hget
  | @enroll before _ _ _ _ _ _ ih =>
      have hfind : before.entries.find? (fun e => e.document.key = (id, version)) = some entry := ih
      rw [get?, List.find?_append, hfind]
      rfl

/-- Every entry was enrolled at some time, and no key occurs twice. -/
structure Valid (registry : Registry) : Prop where
  sound : ∀ entry ∈ registry.entries, entry.document.defect? = none
  compiled : ∀ entry ∈ registry.entries, ∃ t,
    (entry.document.schema : Outcome Clocked (Schema Clocked)).asOf t = .ok entry.schema
  distinct : (registry.entries.map fun entry => entry.document.key).Nodup

theorem valid_empty : Valid empty := ⟨List.forall_mem_nil _, List.forall_mem_nil _, List.nodup_nil⟩

/-- An enrolled document keeps a registry valid. -/
theorem Valid.append (h : registry.Valid) (henroll : registry.enroll now source document = .ok entry) :
    Valid ⟨registry.entries ++ [entry]⟩ := by
  obtain ⟨hdefect, hfree, schema, hschema, rfl⟩ := enroll_eq_ok.1 henroll
  refine ⟨?_, ?_, ?_⟩
  · exact List.forall_mem_append.2 ⟨h.sound, List.forall_mem_singleton.2 hdefect⟩
  · exact List.forall_mem_append.2 ⟨h.compiled, List.forall_mem_singleton.2 ⟨now, hschema⟩⟩
  · have hnew : document.key ∉ registry.entries.map fun entry => entry.document.key := by
      rw [get?_eq_none_iff, keys, List.mem_mergeSort] at hfree
      exact hfree
    rw [List.map_append, List.map_singleton]
    exact List.nodup_append.2 ⟨h.distinct, List.nodup_singleton _, fun key hkey other hother => by
      obtain rfl := List.mem_singleton.1 hother
      rintro rfl
      exact hnew hkey⟩

theorem Grows.valid (h : Grows registry later) (hvalid : registry.Valid) : later.Valid := by
  induction h with
  | refl => exact hvalid
  | enroll _ henroll ih => exact ih.append henroll

/-! ### Runs -/

/-- A registry, the files, and the journal. -/
structure World (F : Type := Files) where
  registry : Registry
  files : F
  journal : Journal

/-- What is done with a registry. -/
inductive Operation where
  | register (document : Document)
  | loadAll
  | save (document : Document)

/-- What happens in a run. -/
inductive Occurrence (F : Type := Files) where
  /-- something is done with the registry, at a time -/
  | operation (now : DateTime) (operation : Operation)
  /-- others change the files -/
  | change (files : F)

variable {F : Type} [FileStore F]

/-- The world after an occurrence, where documents lie in a directory. -/
def step (directory : String) (world : World F) : Occurrence F → World F
  | .operation now (.register document) =>
    match world.registry.register now inMemory document with
    | .ok (registry, noted) =>
      { world with registry := registry, journal := world.journal.record noted }
    | .error _ => world
  | .operation now .loadAll =>
    let trace := Workspace.perform (world.registry.loadAll directory) now world.journal world.files
    ⟨trace.result.1, trace.files, trace.journal⟩
  | .operation now (.save document) =>
    let trace := Workspace.perform (save directory document) now world.journal world.files
    ⟨world.registry, trace.files, trace.journal⟩
  | .change files => { world with files := files }

/-- The world after several occurrences. -/
def run (directory : String) (world : World F) (occurrences : List (Occurrence F)) : World F :=
  occurrences.foldl (step directory) world

variable {directory : String} {world : World F}

/-- Whatever happens, the registry grows. -/
theorem grows_step (directory : String) (world : World F) (occurrence : Occurrence F) :
    Grows world.registry (step directory world occurrence).registry := by
  cases occurrence with
  | operation now operation =>
      cases operation with
      | register document =>
          rw [step]
          cases h : world.registry.register now inMemory document with
          | error fault => exact .refl _
          | ok done => exact grows_register h
      | loadAll => exact grows_loadAll world.registry directory now world.journal world.files
      | save document => exact .refl _
  | change files => exact .refl _

/-- **A run appends enrolled documents and nothing else.** -/
theorem grows_run (directory : String) (occurrences : List (Occurrence F)) :
    ∀ world : World F, Grows world.registry (run directory world occurrences).registry := by
  induction occurrences with
  | nil => exact fun world => .refl _
  | cons occurrence rest ih =>
      exact fun world => (grows_step directory world occurrence).trans (ih _)

/-- What holds at a point of a run, for the registry there and for all that may happen next. -/
structure Lawful (directory : String) (world : World F) : Prop where
  /-- a registered key leads to a sound document of this key and to its compiled schema -/
  entry : ∀ id version entry, world.registry.get? id version = some entry →
    entry.document.key = (id, version) ∧ entry.document.defect? = none ∧
      (∃ t, (entry.document.schema : Outcome Clocked (Schema Clocked)).asOf t = .ok entry.schema) ∧
      ∀ t schema, (entry.document.schema : Outcome Clocked (Schema Clocked)).asOf t = .ok schema →
        schema = entry.schema
  /-- no key is registered twice -/
  distinct : world.registry.keys.Nodup
  /-- a registered key leads to the same document and schema forever -/
  stays : ∀ id version entry, world.registry.get? id version = some entry →
    ∀ occurrences, (run directory world occurrences).registry.get? id version = some entry
  /-- a document is registered exactly if it is sound, its key is free, and it can be compiled -/
  register_iff : ∀ now document,
    (∃ result, world.registry.register now inMemory document = .ok result) ↔
      document.defect? = none ∧ world.registry.get? document.id document.version = none ∧
        ∃ schema, (document.schema : Outcome Clocked (Schema Clocked)).asOf now = .ok schema
  /-- a document that is registered is found then, with its compiled schema -/
  registered : ∀ now document result,
    world.registry.register now inMemory document = .ok result →
      ∃ schema, (document.schema : Outcome Clocked (Schema Clocked)).asOf now = .ok schema ∧
        (step directory world (.operation now (.register document))).registry.get? document.id
          document.version = some ⟨document, schema⟩
  /-- a document that is not registered leaves the registry as it is: registering yields a registry or a
  fault, never a registry beside a fault -/
  refused : ∀ now document fault,
    world.registry.register now inMemory document = .error fault →
      (step directory world (.operation now (.register document))).registry = world.registry
  /-- the registered keys are those that lead to a document -/
  found_iff : ∀ id version, (id, version) ∈ world.registry.keys ↔
    ∃ entry, world.registry.get? id version = some entry
  /-- a key is resolved exactly if it leads to a document, and then to this -/
  resolve_iff : ∀ id version entry, world.registry.resolve id version = .ok entry ↔
    world.registry.get? id version = some entry
  /-- a version is unknown exactly if only others of the identifier are registered -/
  unknownVersion_iff : ∀ id version,
    world.registry.resolve id version = .error (Fault.unknownVersion id version) ↔
      (id, version) ∉ world.registry.keys ∧ ∃ other, (id, other) ∈ world.registry.keys
  /-- a schema is unknown exactly if no version of the identifier is registered -/
  unknownSchema_iff : ∀ id version,
    world.registry.resolve id version = .error (Fault.unknownSchema id) ↔
      ∀ other, (id, other) ∉ world.registry.keys

/-- Registering succeeds exactly where a document is enrolled. -/
theorem register_eq_ok {result : Registry × Entry} :
    registry.register now source document = .ok result ↔
      ∃ entry, registry.enroll now source document = .ok entry ∧
        (⟨registry.entries ++ [entry]⟩, loadedEntry source document) = result := map_eq_ok

/-- A valid registry is lawful. -/
theorem lawful_of_valid (directory : String) (h : world.registry.Valid) : Lawful directory world where
  entry := by
    intro id version entry hget
    obtain ⟨hmem, hkey⟩ := key_of_get? hget
    obtain ⟨t, ht⟩ := h.compiled entry hmem
    -- compiled at another time it may fail, but it has no other schema
    refine ⟨hkey, h.sound entry hmem, ⟨t, ht⟩, fun t' schema hschema => ?_⟩
    exact entry.document.single_schema t' t schema entry.schema hschema ht
  distinct := (List.mergeSort_perm _ _).nodup_iff.2 h.distinct
  stays := fun id version entry hget occurrences =>
    (grows_run directory occurrences world).get?_eq_some hget
  register_iff := by
    intro now document
    constructor
    · rintro ⟨result, hresult⟩
      obtain ⟨entry, hentry, -⟩ := register_eq_ok.1 hresult
      obtain ⟨hdefect, hfree, schema, hschema, -⟩ := enroll_eq_ok.1 hentry
      exact ⟨hdefect, hfree, schema, hschema⟩
    · rintro ⟨hdefect, hfree, schema, hschema⟩
      have hentry := (@enroll_eq_ok world.registry now inMemory document _).2
        ⟨hdefect, hfree, schema, hschema, rfl⟩
      exact ⟨_, register_eq_ok.2 ⟨_, hentry, rfl⟩⟩
  registered := by
    intro now document result hresult
    obtain ⟨entry, hentry, rfl⟩ := register_eq_ok.1 hresult
    obtain ⟨hdefect, hfree, schema, hschema, rfl⟩ := enroll_eq_ok.1 hentry
    refine ⟨schema, hschema, ?_⟩
    rw [step, hresult]
    simp only
    have hnone : world.registry.entries.find?
        (fun entry => entry.document.key = (document.id, document.version)) = none := hfree
    rw [get?, List.find?_append, hnone]
    simp [Document.key]
  refused := by
    intro now document fault hfault
    rw [step, hfault]
  found_iff := fun id version => mem_keys_iff
  resolve_iff := fun id version entry => resolve_eq_ok
  unknownVersion_iff := fun id version => resolve_eq_unknownVersion
  unknownSchema_iff := fun id version => resolve_eq_unknownSchema

/-- **What holds at every point of a run**, whatever the file system, the files in it and the journal are
at first. -/
theorem lawful_run (directory : String) (files : F) (journal : Journal)
    (occurrences : List (Occurrence F)) :
    Lawful directory (run directory ⟨empty, files, journal⟩ occurrences) :=
  lawful_of_valid directory ((grows_run directory occurrences _).valid valid_empty)

/-- A document whose key is taken does not replace the one that has it. -/
example : ((run "schemas" ⟨empty, (⟨[], []⟩ : Files), .empty⟩
    [.operation .epoch (.register ⟨"order", "1", none, false, []⟩), .operation .epoch .loadAll,
      .operation .epoch (.register ⟨"order", "1", none, true, []⟩)]).registry.get? "order" "1").map
        (·.document.strict) = some false := rfl

end Registry

end Conform
