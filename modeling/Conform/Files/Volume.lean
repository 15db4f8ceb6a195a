/-
**Volumes.**

A volume is a file system in which not all goes well.  A name may be a link: it stands for the path that
is its target, which begins where the link lies and may go anywhere, also to where there is nothing.
Some places are barred, and what lies there can be neither searched nor listed nor read nor written.  And
a change may fail without regard to what the volume holds, as where a medium is full or must not be
written to; of a file that is being written, the first bytes may be there then.

Names are followed as far as they lead through directories, and through links to directories.  A link in
last place is followed too, except where a directory is to be created.  Links may lead in a circle, so
no more than forty of them are followed.  To look at a volume changes nothing.

Main definitions:

* `Item`, `Mishap`, `Volume` — a file system with links, barred places and changes that fail;
* `Volume.walk`, `Volume.place`, `Volume.site` — where paths lead;
* `Volume.find`, `Volume.list`, `Volume.read` — what is there;
* `Volume.createDirectory`, `Volume.createFrom`, `Volume.write` — how it changes.
-/

import Conform.Files.Basic

set_option relaxedAutoImplicit false
set_option autoImplicit false

namespace Conform

/-- What lies at a place of a volume. -/
inductive Item where
  | file (bytes : ByteArray)
  | directory
  /-- a name for the path that is its target -/
  | link (target : String)

/-- How a change fails that the volume itself would allow. -/
structure Mishap where
  /-- the fault in words -/
  message : String
  /-- how many bytes of a file are there then; none if the file was not even opened -/
  written : Option Nat

/-- A file system with links, with places that are barred, and with changes that fail. -/
structure Volume where
  /-- places, by the names that lead to them from the root, and what lies there -/
  items : List (List String × Item)
  /-- the place from which relative paths begin -/
  here : List String
  /-- the places where one must not do anything -/
  barred : List (List String)
  /-- what happens to the changes to come, to the next one first -/
  mishaps : List (Option Mishap)

namespace Volume

/-! ### Where paths lead -/

/-- The fault of a place that is barred. -/
def denied : FileFault := .other "Permission denied (os error 13)"

/-- The fault of links that lead in a circle. -/
def tooManyLinks : FileFault := .other "Too many levels of symbolic links (os error 40)"

/-- How many links are followed on the way to one place. -/
def linkLimit : Nat := 40

/-- What lies at a place; the root is a directory. -/
def at? (volume : Volume) (place : List String) : Option Item :=
  if place = [] then some .directory else volume.items.lookup place

/-- The place to which names lead from a place, up to the first link; `behind` goes on from there, from
the place where the link lies, with the target and the names that are left.  A link in last place is
followed if `through` says so. -/
def walkWith (volume : Volume) (through : Bool)
    (behind : List String → String → List String → Except FileFault (List String))
    (place : List String) : List String → Except FileFault (List String)
  | [] => .ok place
  | name :: rest =>
    match volume.at? place with
    | none => .error .notFound
    | some .directory =>
      if name = "" then walkWith volume through behind place rest
      else if place ∈ volume.barred then .error denied
      else if name = "." then walkWith volume through behind place rest
      else if name = ".." then walkWith volume through behind place.dropLast rest
      else if Files.nameLimit < name.utf8ByteSize then .error .nameTooLong
      else match volume.at? (place ++ [name]) with
        | some (.link target) =>
          if through = true ∨ rest ≠ [] then behind place target rest else .ok (place ++ [name])
        | _ => walkWith volume through behind (place ++ [name]) rest
    | some _ => .error .notDirectory

/-- Where a path begins that is met at a place. -/
def origin (place : List String) (path : String) : List String :=
  if Path.isAbsolute path then [] else place

/-- The place to which names lead from a place, where `links` links may be followed. -/
def walk (volume : Volume) (through : Bool) :
    Nat → List String → List String → Except FileFault (List String)
  | 0 => volume.walkWith through fun _ _ _ => .error tooManyLinks
  | links + 1 => volume.walkWith through fun place target rest =>
      walk volume through links (origin place target) (Path.names target ++ rest)

/-- The place to which names of a path lead. -/
def reach (volume : Volume) (through : Bool) (path : String) (names : List String) :
    Except FileFault (List String) :=
  if path.toList.contains '\x00' then .error .nulInName
  else if path = "" then .error .notFound
  else if Files.pathLimit < path.utf8ByteSize then .error .nameTooLong
  else volume.walk through linkLimit (origin volume.here path) names

/-- The place of a path. -/
def place (volume : Volume) (path : String) : Except FileFault (List String) :=
  volume.reach true path (Path.names path)

/-- The place where the path has a directory created. -/
def site (volume : Volume) (path : String) : Except FileFault (List String) :=
  volume.reach false path (Path.trimmed (Path.names path))

/-! ### What is there -/

/-- What lies at a path, and where. -/
def find (volume : Volume) (path : String) : Except FileFault (List String × Item) := do
  let place ← volume.place path
  match volume.at? place with
  | some item => .ok (place, item)
  | none => .error .notFound

/-- Is there something at the path?  What cannot be found is not there. -/
def pathExists (volume : Volume) (path : String) : Bool := (volume.find path).toOption.isSome

/-- Is there a directory at the path? -/
def isDirectory (volume : Volume) (path : String) : Bool :=
  match volume.find path with
  | .ok (_, .directory) => true
  | _ => false

/-- Is there a file at the path? -/
def isFile (volume : Volume) (path : String) : Bool :=
  match volume.find path with
  | .ok (_, .file _) => true
  | _ => false

/-- The names of what lies directly within a place. -/
def namesIn (volume : Volume) (place : List String) : List String :=
  volume.items.filterMap fun entry =>
    match entry.1.reverse with
    | name :: above => if above.reverse = place then some name else none
    | [] => none

/-- The names in a directory. -/
def list (volume : Volume) (path : String) : Except FileFault (List String) := do
  let (place, item) ← volume.find path
  match item with
  | .directory => if place ∈ volume.barred then .error denied else .ok (volume.namesIn place)
  | _ => .error .notDirectory

/-- The bytes of a file. -/
def read (volume : Volume) (path : String) : Except FileFault ByteArray := do
  let (place, item) ← volume.find path
  match item with
  | .file bytes => if place ∈ volume.barred then .error denied else .ok bytes
  | _ => .error .isDirectory

/-! ### Changes -/

/-- The volume with one more item, or with another one in its place. -/
def adding (volume : Volume) (place : List String) (item : Item) : Volume :=
  { volume with items := Files.put place item volume.items }

/-- What happens to the next change. -/
def mishap? (volume : Volume) : Option Mishap := volume.mishaps.head?.join

/-- The volume for the changes behind the next one. -/
def spent (volume : Volume) : Volume := { volume with mishaps := volume.mishaps.tail }

/-- Creates one directory. -/
def createDirectory (volume : Volume) (path : String) : Volume × Except FileFault Unit :=
  match volume.mishap? with
  | some mishap => (volume.spent, .error (.other mishap.message))
  | none =>
    match volume.site path with
    | .error fault => (volume.spent, .error fault)
    | .ok place =>
      match volume.at? place with
      | some _ => (volume.spent, .error .alreadyExists)
      | none => (volume.spent.adding place .directory, .ok ())

/-- A directory that could not be created will do if it is there. -/
def settle (path : String) : Volume × Except FileFault Unit → Volume × Except FileFault Unit
  | (volume, .ok ()) => (volume, .ok ())
  | (volume, .error fault) => (volume, if volume.isDirectory path then .ok () else .error fault)

/-- Creates a directory and those it lies in.  If it cannot be created because they are missing, they
are created first, and they stay if it cannot be created then; `fuel` bounds their number. -/
def createFrom (fuel : Nat) (volume : Volume) (path : String) : Volume × Except FileFault Unit :=
  match fuel with
  | 0 => (volume, .error .notFound)
  | fuel + 1 =>
    if path = "" then (volume, .ok ())
    else match volume.createDirectory path with
      | (later, .error .notFound) =>
        match Path.parent? path with
        | none => (later, .error (.other "failed to create whole tree"))
        | some parent =>
          match createFrom fuel later parent with
          | (above, .error fault) => (above, .error fault)
          | (above, .ok ()) => settle path (above.createDirectory path)
      | created => settle path created

/-- Creates a directory and those it lies in. -/
def createDirectories (volume : Volume) (path : String) : Volume × Except FileFault Unit :=
  volume.createFrom (path.length + 1) path

/-- The place of the file that is opened to be written; it need not be there. -/
def opening (volume : Volume) (path : String) : Except FileFault (List String) := do
  let place ← volume.place path
  match volume.at? place with
  | some .directory => .error .isDirectory
  | _ => if place ∈ volume.barred then .error denied else .ok place

/-- Creates or replaces a file.  It is opened, which leaves it empty, and then written; if this fails,
some of the bytes are there. -/
def write (volume : Volume) (path text : String) : Volume × Except FileFault Unit :=
  match volume.mishap?, volume.opening path with
  | some ⟨message, none⟩, _ => (volume.spent, .error (.other message))
  | _, .error fault => (volume.spent, .error fault)
  | some ⟨message, some count⟩, .ok place =>
    (volume.spent.adding place (.file (text.toUTF8.extract 0 count)), .error (.other message))
  | none, .ok place => (volume.spent.adding place (.file text.toUTF8), .ok ())

instance : FileStore Volume := ⟨pathExists, isFile, list, read, write, createDirectories⟩

end Volume

end Conform
