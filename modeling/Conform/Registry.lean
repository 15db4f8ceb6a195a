/-
**The registry.**

A registry holds documents together with their compiled schemas, at most one for each identifier and
version.  Documents are registered one by one, or all those in a directory at once: every file whose
name ends in `.json` has to hold one.  The files are taken in the order of their names, and the first
that cannot be registered ends the loading; those before it stay registered.

A document is saved under a name made of its identifier and version, and never in the place of
another file.

Main definitions:

* `Registry`, `Registered` — the registered documents;
* `Registry.register` — one more document;
* `Registry.resolve` — the document of an identifier and a version;
* `Registry.loadAll`, `Registry.save` — a directory loaded, and a document saved.
-/

import Conform.Document
import Conform.Files.Basic
import Conform.Journal

set_option relaxedAutoImplicit false
set_option autoImplicit false

namespace Conform

/-- Computations that know the current time. -/
abbrev Clocked := ReaderM DateTime

/-- A document and its compiled schema. -/
structure Registered where
  document : Document
  schema : Schema Clocked

/-- The documents registered, in the order in which they came. -/
structure Registry where
  entries : List Registered

namespace Registry

/-- No documents. -/
def empty : Registry := ⟨[]⟩

/-! ### Looking up -/

/-- The document of an identifier and a version. -/
def get? (registry : Registry) (id version : String) : Option Registered :=
  registry.entries.find? fun entry => entry.document.key = (id, version)

/-- Is there a document of the identifier and the version? -/
def has (registry : Registry) (id version : String) : Bool := (registry.get? id version).isSome

/-- Is there a document of the identifier, in any version? -/
def hasId (registry : Registry) (id : String) : Bool :=
  registry.entries.any fun entry => entry.document.id = id

/-- The document of an identifier and a version; the fault tells whether there are other versions. -/
def resolve (registry : Registry) (id version : String) : Except Fault Registered :=
  match registry.get? id version with
  | some entry => .ok entry
  | none =>
    if registry.hasId id then .error (Fault.unknownVersion id version)
    else .error (Fault.unknownSchema id)

/-- Keys are ordered by identifier and then by version. -/
def keyLE (a b : String × String) : Bool :=
  decide (a.1 < b.1) || (a.1 == b.1 && decide (a.2 ≤ b.2))

/-- The keys of all documents, in order. -/
def keys (registry : Registry) : List (String × String) :=
  (registry.entries.map fun entry => entry.document.key).mergeSort keyLE

/-- How many documents are registered. -/
def count (registry : Registry) : Nat := registry.entries.length

/-! ### Registering -/

/-- Where a document comes from that was given directly. -/
def inMemory : String := "<in-memory>"

/-- The entry for a document: sound, with a key that is free, and compiled. -/
def enroll (registry : Registry) (now : DateTime) (source : String) (document : Document) :
    Except Fault Registered :=
  match document.defect? with
  | some defect => .error (Fault.malformedSchema source defect.message)
  | none =>
    if registry.has document.id document.version then
      .error (Fault.schemaImmutable document.id document.version)
    else ((document.schema : Outcome Clocked (Schema Clocked)).run now).map
      fun schema => ⟨document, schema⟩

/-- What is noted of a document that was registered. -/
def loadedEntry (source : String) (document : Document) : Entry :=
  Entry.ofEvent .schemaLoaded
    [("schema_id", document.id), ("schema_version", document.version), ("source", source)]

/-- The registry with one more document, and what is noted of it. -/
def register (registry : Registry) (now : DateTime) (source : String) (document : Document) :
    Except Fault (Registry × Entry) :=
  (registry.enroll now source document).map fun entry =>
    (⟨registry.entries ++ [entry]⟩, loadedEntry source document)

/-! ### Loading -/

/-- The document in a file. -/
def documentOf (path : String) (bytes : Except FileFault ByteArray) : Except Fault Document :=
  match bytes >>= textOfBytes with
  | .error fault =>
    .error (Fault.malformedSchema path ("Failed to read file: " ++ fault.message))
  | .ok text =>
    match Document.read? text with
    | some document => .ok document
    | none => .error (Fault.malformedSchema path "Invalid JSON: not a schema document")

/-- A registry after some steps, what was noted, and the fault that ended them. -/
structure Progress where
  registry : Registry
  entries : List Entry
  outcome : Except Fault Unit

/-- Registers the documents of files one after another, up to the first that cannot be. -/
def registerFiles (now : DateTime) (registry : Registry) :
    List (String × Except FileFault ByteArray) → Progress
  | [] => ⟨registry, [], .ok ()⟩
  | (path, bytes) :: rest =>
    match documentOf path bytes >>= registry.register now path with
    | .error fault =>
      ⟨registry,
        [Entry.ofEvent .schemaLoadFailed [("file", path), ("error", fault.text)]], .error fault⟩
    | .ok (registry, entry) =>
      let progress := registerFiles now registry rest
      { progress with entries := entry :: progress.entries }

/-- A fault of a directory. -/
def directoryFault (directory reason : String) (fault : FileFault) : Fault :=
  Fault.malformedSchema directory (reason ++ ": " ++ fault.message)

section Effects

variable {m : Type → Type} [Monad m] [FileSystem m] [MonadReaderOf DateTime m]
  [MonadStateOf Journal m]

/-- Notes an entry. -/
def note (entry : Entry) : m Unit := modifyThe Journal (·.record entry)

/-- The paths of the documents in a directory, in the order of their names. -/
def documentPaths (directory : String) (names : List String) : m (List String) := do
  let sorted := (names.filter Path.hasJsonExtension).mergeSort fun a b => decide (a ≤ b)
  (sorted.map (Path.join directory)).filterM FileSystem.isFile

/-- What files hold, by path. -/
def contents (paths : List String) : m (List (String × Except FileFault ByteArray)) :=
  paths.mapM fun path => do return (path, ← FileSystem.read path)

/-- The registry with all documents of a directory, and how many they are.  A directory that is
missing is created. -/
def loadAll (registry : Registry) (directory : String) : m (Registry × Except Fault Nat) := do
  if ← FileSystem.pathExists directory then
    match ← FileSystem.list directory with
    | .error fault =>
      return (registry, .error (directoryFault directory "Failed to read schema directory" fault))
    | .ok names =>
      let files ← contents (← documentPaths directory names)
      let progress := registerFiles (← readThe DateTime) registry files
      modifyThe Journal (·.recordAll progress.entries)
      match progress.outcome with
      | .error fault => return (progress.registry, .error fault)
      | .ok () =>
        note (Entry.ofEvent .schemasLoaded
          [("count", Fault.number files.length), ("schema_dir", directory)])
        return (progress.registry, .ok files.length)
  else
    match ← FileSystem.createDirectories directory with
    | .error fault =>
      return (registry, .error (directoryFault directory "Failed to create schema directory" fault))
    | .ok () => return (registry, .ok 0)

/-! ### Saving -/

/-- The name of the file of a document. -/
def fileName (document : Document) : String :=
  "schema_" ++ document.id ++ "_" ++ document.version ++ ".json"

/-- The text of the file of a document. -/
def fileText (document : Document) : String := document.toJson.indented

/-- A document that may be saved: sound and compiled. -/
def savable (now : DateTime) (document : Document) : Except Fault Unit :=
  match document.defect? with
  | some defect => .error (Fault.malformedSchema inMemory defect.message)
  | none => ((document.schema : Outcome Clocked (Schema Clocked)).run now).map fun _ => ()

/-- Saves a document in a directory, and yields the path of its file. -/
def save (directory : String) (document : Document) : m (Except Fault String) := do
  match savable (← readThe DateTime) document with
  | .error fault => return .error fault
  | .ok () =>
    let path := Path.join directory (fileName document)
    if ← FileSystem.pathExists path then
      return .error (Fault.schemaImmutable document.id document.version)
    else
      match ← FileSystem.createDirectories directory with
      | .error fault =>
        return .error (directoryFault directory "Failed to create schema directory" fault)
      | .ok () =>
        match ← FileSystem.write path (fileText document) with
        | .error fault => return .error (directoryFault path "Failed to write file" fault)
        | .ok () => return .ok path

end Effects

end Registry

end Conform
