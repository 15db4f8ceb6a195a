/-
**Files.**

What this library needs of a file system: to see what is there, to read a directory or a file, to
write a file, and to create a directory with those it lies in.  Each can fail, for reasons that have a
text of their own.

A file system may be a value (`FileStore`); the operations on it are then functions, and a change
leaves another value, whether it succeeds or not.

`Files` is such a value where all goes well: which names lie where, and what the files hold.  A path is
followed name by name through directories that exist; its last name need not exist.  There are no
links, whatever is there can be listed and read, and a change that nothing among the files stands
against is made in one go: a file is written as a whole or not at all.  `Volume` is a file system
without these assumptions.

Main definitions:

* `FileFault`, `FileFault.message` — why access fails;
* `FileSystem` — the operations, in a monad;
* `FileStore` — the operations on a value;
* `Files` — a file system in which all goes well;
* `Files.follow`, `Files.read`, `Files.write`, `Files.createDirectories` — its operations;
* `Files.afterCreating` — what a creation leaves, whether it succeeds or fails on the way.
-/

import Conform.Files.Path

set_option relaxedAutoImplicit false
set_option autoImplicit false

namespace Conform

/-- Why access to files fails. -/
inductive FileFault where
  | notFound
  | alreadyExists
  | notDirectory
  | isDirectory
  | nameTooLong
  /-- a name with the character of code zero -/
  | nulInName
  /-- the bytes are no text -/
  | notText
  | other (message : String)
deriving DecidableEq

/-- The fault in words. -/
def FileFault.message : FileFault → String
  | notFound => "No such file or directory (os error 2)"
  | alreadyExists => "File exists (os error 17)"
  | notDirectory => "Not a directory (os error 20)"
  | isDirectory => "Is a directory (os error 21)"
  | nameTooLong => "File name too long (os error 36)"
  | nulInName => "file name contained an unexpected NUL byte"
  | notText => "stream did not contain valid UTF-8"
  | other message => message

/-- The text of bytes. -/
def textOfBytes (bytes : ByteArray) : Except FileFault String :=
  match String.fromUTF8? bytes with
  | some text => .ok text
  | none => .error .notText

/-- Access to files, in a monad. -/
class FileSystem (m : Type → Type) where
  /-- is there something at the path? -/
  pathExists : String → m Bool
  /-- is there a file at the path? -/
  isFile : String → m Bool
  /-- the names in a directory -/
  list : String → m (Except FileFault (List String))
  /-- the bytes of a file -/
  read : String → m (Except FileFault ByteArray)
  /-- creates or replaces a file -/
  write : String → String → m (Except FileFault Unit)
  /-- creates a directory, and those it lies in, where they are missing -/
  createDirectories : String → m (Except FileFault Unit)

/-- Access to files from within a larger monad. -/
instance {m n : Type → Type} [MonadLift m n] [FileSystem m] : FileSystem n where
  pathExists path := MonadLift.monadLift (FileSystem.pathExists path : m Bool)
  isFile path := MonadLift.monadLift (FileSystem.isFile path : m Bool)
  list path := MonadLift.monadLift (FileSystem.list path : m (Except FileFault (List String)))
  read path := MonadLift.monadLift (FileSystem.read path : m (Except FileFault ByteArray))
  write path text := MonadLift.monadLift (FileSystem.write path text : m (Except FileFault Unit))
  createDirectories path :=
    MonadLift.monadLift (FileSystem.createDirectories path : m (Except FileFault Unit))

/-! ### File systems as values -/

/-- File systems that are values.  A change yields the file system that it leaves, also where it
fails. -/
class FileStore (F : Type) where
  pathExists : F → String → Bool
  isFile : F → String → Bool
  list : F → String → Except FileFault (List String)
  read : F → String → Except FileFault ByteArray
  write : F → String → String → F × Except FileFault Unit
  createDirectories : F → String → F × Except FileFault Unit

/-- Access to a file system that is held as a state. -/
instance {F : Type} {m : Type → Type} [FileStore F] [Monad m] : FileSystem (StateT F m) where
  pathExists path := do return FileStore.pathExists (← get) path
  isFile path := do return FileStore.isFile (← get) path
  list path := do return FileStore.list (← get) path
  read path := do return FileStore.read (← get) path
  write path text := modifyGet fun files => (FileStore.write files path text).swap
  createDirectories path := modifyGet fun files => (FileStore.createDirectories files path).swap

/-! ### A file system in which all goes well -/

/-- What lies at a place: there are no links. -/
inductive Node where
  | file (bytes : ByteArray)
  | directory

/-- Places, by the names that lead to them from the root, and what lies there.  All of it can be listed
and read. -/
structure Files where
  nodes : List (List String × Node)
  /-- the place from which relative paths begin -/
  here : List String

namespace Files

/-- What lies at a place; the root is a directory. -/
def at? (files : Files) (place : List String) : Option Node :=
  if place = [] then some .directory else files.nodes.lookup place

/-- The greatest size of a name in bytes. -/
def nameLimit : Nat := 255

/-- The greatest size of a path in bytes. -/
def pathLimit : Nat := 4095

/-- The place to which names lead from a place.  Every place on the way has to be a directory. -/
def follow (files : Files) (place : List String) : List String → Except FileFault (List String)
  | [] => .ok place
  | name :: rest =>
    match files.at? place with
    | none => .error .notFound
    | some (.file _) => .error .notDirectory
    | some .directory =>
      if name = "" ∨ name = "." then follow files place rest
      else if name = ".." then follow files place.dropLast rest
      else if nameLimit < name.utf8ByteSize then .error .nameTooLong
      else follow files (place ++ [name]) rest

/-- The place to which names of a path lead. -/
def reach (files : Files) (path : String) (names : List String) : Except FileFault (List String) :=
  if path.toList.contains '\x00' then .error .nulInName
  else if path = "" then .error .notFound
  else if pathLimit < path.utf8ByteSize then .error .nameTooLong
  else files.follow (if Path.isAbsolute path then [] else files.here) names

/-- The place of a path. -/
def place (files : Files) (path : String) : Except FileFault (List String) :=
  files.reach path (Path.names path)

/-- The place where the path has a directory created; slashes at its end mean nothing there. -/
def site (files : Files) (path : String) : Except FileFault (List String) :=
  files.reach path (Path.trimmed (Path.names path))

/-- What lies at a path. -/
def find (files : Files) (path : String) : Except FileFault Node :=
  match files.place path with
  | .error fault => .error fault
  | .ok place =>
    match files.at? place with
    | some node => .ok node
    | none => .error .notFound

/-- Is there something at the path? -/
def pathExists (files : Files) (path : String) : Bool := (files.find path).toOption.isSome

/-- Is there a directory at the path? -/
def isDirectory (files : Files) (path : String) : Bool :=
  match files.find path with
  | .ok .directory => true
  | _ => false

/-- Is there a file at the path? -/
def isFile (files : Files) (path : String) : Bool :=
  match files.find path with
  | .ok (.file _) => true
  | _ => false

/-- The names of what lies directly within a place. -/
def namesIn (files : Files) (place : List String) : List String :=
  files.nodes.filterMap fun entry =>
    match entry.1.reverse with
    | name :: above => if above.reverse = place then some name else none
    | [] => none

/-- The names in a directory. -/
def list (files : Files) (path : String) : Except FileFault (List String) := do
  let place ← files.place path
  match files.at? place with
  | none => .error .notFound
  | some (.file _) => .error .notDirectory
  | some .directory => .ok (files.namesIn place)

/-- The bytes of a file. -/
def read (files : Files) (path : String) : Except FileFault ByteArray := do
  match ← files.find path with
  | .file bytes => .ok bytes
  | .directory => .error .isDirectory

/-- The entries with one more; what lies at its place is replaced. -/
def put {α : Type} (place : List String) (node : α) :
    List (List String × α) → List (List String × α)
  | [] => [(place, node)]
  | entry :: rest => if entry.1 = place then (place, node) :: rest else entry :: put place node rest

/-- The file system in which a file has been created or replaced, as a whole. -/
def write (files : Files) (path text : String) : Except FileFault Files := do
  let place ← files.place path
  match files.at? place with
  | some .directory => .error .isDirectory
  | _ => .ok { files with nodes := put place (.file text.toUTF8) files.nodes }

/-- The file system in which one directory has been created. -/
def createDirectory (files : Files) (path : String) : Except FileFault Files := do
  let place ← files.site path
  match files.at? place with
  | some _ => .error .alreadyExists
  | none => .ok { files with nodes := put place .directory files.nodes }

/-- Creates a directory; one that is there already will do. -/
def ensureDirectory (files : Files) (path : String) : Except FileFault Files :=
  match files.createDirectory path with
  | .ok files => .ok files
  | .error fault => if files.isDirectory path then .ok files else .error fault

/-- Creates a directory and those it lies in.  If it cannot be created because they are missing, they
are created first, and they stay if it cannot be created then; `fuel` bounds their number. -/
def createFrom (fuel : Nat) (files : Files) (path : String) : Files × Except FileFault Unit :=
  match fuel with
  | 0 => (files, .error .notFound)
  | fuel + 1 =>
    if path = "" then (files, .ok ())
    else match files.ensureDirectory path with
      | .ok made => (made, .ok ())
      | .error .notFound =>
        match Path.parent? path with
        | none => (files, .error (.other "failed to create whole tree"))
        | some parent =>
          match createFrom fuel files parent with
          | (above, .error fault) => (above, .error fault)
          | (above, .ok ()) =>
            match above.ensureDirectory path with
            | .ok made => (made, .ok ())
            | .error fault => (above, .error fault)
      | .error fault => (files, .error fault)

/-- What is there once the creation of a directory and those it lies in has been tried. -/
def afterCreating (files : Files) (path : String) : Files :=
  (files.createFrom (path.length + 1) path).1

/-- Creates a directory and those it lies in. -/
def createDirectories (files : Files) (path : String) : Except FileFault Files :=
  (files.createFrom (path.length + 1) path).2.map fun _ => files.afterCreating path

theorem afterCreating_of_ok {files made : Files} {path : String}
    (h : files.createDirectories path = .ok made) : files.afterCreating path = made := by
  rw [createDirectories] at h
  cases hcreated : (files.createFrom (path.length + 1) path).2 with
  | error fault => simp [hcreated, Except.map] at h
  | ok _ =>
      rw [hcreated] at h
      exact Except.ok.inj h

/-- A write that fails changes nothing. -/
instance : FileStore Files where
  pathExists := pathExists
  isFile := isFile
  list := list
  read := read
  write files path text :=
    match files.write path text with
    | .ok written => (written, .ok ())
    | .error fault => (files, .error fault)
  createDirectories files path := files.createFrom (path.length + 1) path

end Files

end Conform
