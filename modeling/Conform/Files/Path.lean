/-
**Paths.**

A path is a text of names between slashes.  A name that is empty or a single point stands for the
directory it is in, except for a point in first place, which a path keeps.  Joining and parting go by
the text: nothing is looked up.

Main definitions:

* `Path.names`, `Path.trimmed` — the names of a path, and those without slashes at its end;
* `Path.isAbsolute` — does the path begin at the root?
* `Path.join` — a path behind another;
* `Path.parent?` — the path without its last name;
* `Path.hasJsonExtension` — does a name end in `.json`, with something in front?
-/

set_option relaxedAutoImplicit false
set_option autoImplicit false

namespace Conform

namespace Path

/-- The stretches between slashes. -/
def stretches : List Char → List (List Char)
  | [] => [[]]
  | c :: rest =>
    if c = '/' then [] :: stretches rest
    else match stretches rest with
      | [] => [[c]]
      | name :: more => (c :: name) :: more

/-- Stretches with slashes between them. -/
def unite : List (List Char) → List Char
  | [] => []
  | [name] => name
  | name :: more => name ++ '/' :: unite more

/-- The names of a path; where slashes meet, and where one begins or ends it, they are empty. -/
def names (path : String) : List String := (stretches path.toList).map String.ofList

/-- Names without the empty ones at their end, which come from slashes behind the last name. -/
def trimmed : List String → List String
  | [] => []
  | name :: rest =>
    match trimmed rest with
    | [] => if name = "" then [] else [name]
    | next :: more => name :: next :: more

/-- Does the path begin at the root? -/
def isAbsolute (path : String) : Bool := path.toList.head? = some '/'

/-- The path of a name or path within a directory; an absolute one stands alone. -/
def join (directory path : String) : String :=
  if isAbsolute path ∨ directory = "" then path
  else if directory.toList.getLast? = some '/' then directory ++ path
  else directory ++ "/" ++ path

/-- Does a stretch stand for the directory it is in? -/
def isIdle (stretch : List Char) : Bool := stretch = [] || stretch = ['.']

/-- The stretches up to the last that is not idle, and this one; in reverse. -/
def dropIdle : List (List Char) → List (List Char)
  | [] => []
  | name :: more => if isIdle name then dropIdle more else name :: more

/-- The path without its last name, and without idle stretches behind the name before it.  The root
and the empty path have no parent. -/
def parent? (path : String) : Option String :=
  match stretches path.toList with
  | [] :: body@(_ :: _) =>
    match dropIdle body.reverse with
    | [] => none
    | _ :: before => some (String.ofList ('/' :: unite (dropIdle before).reverse))
  | ['.'] :: body =>
    match dropIdle body.reverse with
    | [] => some ""
    | _ :: before => some (String.ofList (unite (['.'] :: (dropIdle before).reverse)))
  | body =>
    match dropIdle body.reverse with
    | [] => none
    | _ :: before => some (String.ofList (unite (dropIdle before).reverse))

/-- Does the name of a file end in `.json`, with something in front? -/
def hasJsonExtension (name : String) : Bool :=
  let cs := name.toList.reverse
  cs.take 5 = ".json".toList.reverse && 5 < cs.length

end Path

end Conform
