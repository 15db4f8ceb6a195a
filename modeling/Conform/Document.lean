/-
**Schema documents.**

A document declares the fields of a schema under an identifier and a version.  It is *sound* if both
are there and can stand in a file name, and no field of it is nameless; it is *compiled* if its
definitions are well-formed.

A document is read from an object, or from an array of its members in their order.

Main definitions:

* `Document` — identifier, version, description, strictness and fields;
* `Document.defect?`, `DocumentDefect.message` — what is unsound about a document;
* `Document.schema` — the compiled schema;
* `Document.toJson`, `Document.read?` — a document written and read.
-/

import Conform.Definition.Reader
import Conform.Definition.Validator
import Conform.Json.Writer

set_option relaxedAutoImplicit false
set_option autoImplicit false

namespace Conform

/-- A schema as it is declared. -/
structure Document where
  id : String
  version : String
  description : Option String
  /-- are undeclared names refused? -/
  strict : Bool
  /-- the fields, sorted by name -/
  fields : List (String × Definition)

/-- What can be unsound about a document. -/
inductive DocumentDefect where
  | emptyId
  | emptyVersion
  /-- the identifier cannot stand in a file name -/
  | separatorInId
  /-- the version cannot stand in a file name -/
  | separatorInVersion
  | emptyFieldName
deriving DecidableEq

/-- The defect in words. -/
def DocumentDefect.message : DocumentDefect → String
  | emptyId => "schema_id must not be empty"
  | emptyVersion => "schema_version must not be empty"
  | separatorInId => "schema_id must not contain path separators or '..'"
  | separatorInVersion => "schema_version must not contain path separators or '..'"
  | emptyFieldName => "field names must not be empty"

namespace Document

/-- A document without description, not strict. -/
def of (id version : String) (fields : List (String × Definition)) : Document :=
  ⟨id, version, none, false, Members.ofList fields⟩

/-- What tells documents apart: identifier and version. -/
def key (document : Document) : String × String := (document.id, document.version)

/-- Do two points follow each other? -/
def hasTwoPoints : List Char → Bool
  | [] => false
  | [_] => false
  | a :: b :: rest => (a = '.' && b = '.') || hasTwoPoints (b :: rest)

/-- Would the text lead out of a directory if it stood in a file name? -/
def leadsOut (text : String) : Bool :=
  text.toList.any (fun c => c = '/' || c = '\\') || hasTwoPoints text.toList

/-- The first defect of a document. -/
def defect? (document : Document) : Option DocumentDefect :=
  if Text.isBlankText document.id then some .emptyId
  else if Text.isBlankText document.version then some .emptyVersion
  else if leadsOut document.id then some .separatorInId
  else if leadsOut document.version then some .separatorInVersion
  else if document.fields.any fun field => field.1 = "" then some .emptyFieldName
  else none

/-- The compiled schema. -/
def schema {m : Type → Type} [Monad m] [MonadReaderOf DateTime m] (document : Document) :
    Outcome m (Schema m) :=
  Definition.schemaOf document.id document.strict document.fields

/-- Are two documents the same? -/
def same (a b : Document) : Bool :=
  a.id == b.id && a.version == b.version && a.description == b.description
    && a.strict == b.strict && Definition.sameFields a.fields b.fields

/-! ### Written and read -/

/-- The members of a document, in their order. -/
def members : List String := ["schema_id", "schema_version", "description", "strict", "fields"]

/-- A document written out. -/
def toJson (document : Document) : Json :=
  .obj ([("schema_id", .str document.id), ("schema_version", .str document.version)]
    ++ Json.optional "description" .str document.description
    ++ [("strict", .bool document.strict),
      ("fields", .obj (Definition.toJsonFields document.fields))])

/-- Named definitions; of a repeated name the last one stays. -/
def fieldsOf? (j : Json) : Option (List (String × Definition)) := do
  let fields ← (← j.asObject?).mapM fun (name, j) => (name, ·) <$> Definition.ofJson? j
  some (Members.ofList fields)

/-- A text, or null for none. -/
def descriptionOf? : Json → Option (Option String)
  | .null => some none
  | j => some <$> j.asString?

/-- The document of a tree. -/
def ofJson? : Json → Option Document
  | .obj members => do
    let id ← Json.required? Json.asString? members "schema_id"
    let version ← Json.required? Json.asString? members "schema_version"
    let description ← Json.optional? Json.asString? members "description"
    let strict ← Json.withDefault? Json.asBool? false members "strict"
    let fields ← Json.required? fieldsOf? members "fields"
    some ⟨id, version, description, strict, fields⟩
  | .arr [id, version, description, strict, fields] => do
    some ⟨← id.asString?, ← version.asString?, ← descriptionOf? description, ← strict.asBool?,
      ← fieldsOf? fields⟩
  | _ => none

/-- The document of a text.  Of members without a meaning only the grammar is checked. -/
def read? (text : String) : Option Document := Json.readRecord? members text >>= ofJson?

end Document

end Conform
