import OwnershipRegistry.Documents
import OwnershipRegistry.Name.Check
import OwnershipRegistry.Registry.Record
import OwnershipRegistry.Schema.Address

/-! # World manifests

A manifest declares namespaces and resources and, where it wants to manage them, their writers.
Validation writes every tag out with its namespace and refuses to declare anything twice. -/

namespace OwnershipRegistry

/-- A declared namespace. -/
structure NamespaceSpec where
  name : String
  writers : Option (List Int)
deriving DecidableEq

/-- A declared resource. -/
structure ResourceSpec where
  tag : String
  kind : ResourceKind
  writers : Option (List Int)
deriving DecidableEq

/-- A manifest. -/
structure Manifest where
  version : Int
  defaultNamespace : Option String
  namespaces : List NamespaceSpec
  resources : List ResourceSpec
deriving DecidableEq

namespace Manifest

open Schema

/-- Read a namespace's name. -/
def readName (v : Value) : Reading String := (text v).andThen fun name => ruled (Name.check name)

/-- Read declared writers; null leaves them undeclared. -/
def readWriters : Value → Reading (Option (List Int))
  | .null => .done none
  | v => (addresses v).map some

/-- Read a declared namespace. -/
def readNamespace (entries : List (Value × Value)) : Reading NamespaceSpec :=
  NamespaceSpec.mk <$> required entries "name" readName <*> defaulted entries "writers" none readWriters

/-- Read a declared resource. -/
def readResource (entries : List (Value × Value)) : Reading ResourceSpec :=
  ResourceSpec.mk <$> required entries "tag" text
    <*> defaulted entries "kind" .model (choice ResourceKind.ofWord?)
    <*> defaulted entries "writers" none readWriters

/-- Write out all tags, refusing one that was seen before. -/
def normalizeTags (default : Option String) (seen : List String) :
    List ResourceSpec → Except Failure (List ResourceSpec)
  | [] => .ok []
  | r :: rest => do
    let tag ← Tag.full r.tag default
    if seen.contains tag then throw (.duplicateResource tag)
    let later ← normalizeTags default (tag :: seen) rest
    pure ({ r with tag } :: later)

/-- Whether no name is declared twice. -/
def distinct : List String → Bool
  | [] => true
  | x :: xs => !xs.contains x && distinct xs

/-- The rules of a manifest as a whole. -/
def validate (m : Manifest) : Except Failure Manifest := do
  let resources ← normalizeTags m.defaultNamespace [] m.resources
  if distinct (m.namespaces.map (·.name)) then pure { m with resources }
  else throw .duplicateNamespace

/-- Read a manifest. -/
def read (entries : List (Value × Value)) : Reading Manifest :=
  (Manifest.mk <$> defaulted entries "version" 1 integer
    <*> defaulted entries "default_namespace" none (nullable text)
    <*> defaulted entries "namespaces" [] (list (record readNamespace))
    <*> defaulted entries "resources" [] (list (record readResource))).andThen fun m => ruled m.validate

/-- The manifest that a record of fields gives. -/
def ofValue (v : Value) : Except Failure Manifest := (topLevel read v).result

/-- The manifest that a document gives. An absent document is an empty one, and where the
document names no default namespace the settings do. -/
def ofDocument (settings : Except Failure Settings) (document : Value) : Except Failure Manifest := do
  let document := if document.isFalsy then .dict [] else document
  let entries ← match document.followed with
    | .dict entries => pure entries
    | _ => throw .noFields
  let named := match field? entries "default_namespace" with
    | some v => !v.isFalsy
    | none => false
  if named then ofValue document
  else do
    let s ← settings
    ofValue (document.withEntry (.str "default_namespace") (.str s.defaultNamespace))

/-- The manifest at a path, or at the one that the settings name. -/
def load (settings : Except Failure Settings) (documents : Documents) (path : Option String) :
    Except Failure Manifest := do
  let path ← match path with
    | some path => pure path
    | none => settings.map (·.manifestPath)
  match documents.at? path with
  | none => throw (.missingManifest (Path.tidy path))
  | some contents => contents.bind (ofDocument settings)

/-- Writers as a value. -/
def writersValue : Option (List Int) → Value
  | some ws => .list (ws.map .int)
  | none => .null

/-- A declared namespace as a value. -/
def namespaceValue (s : NamespaceSpec) : Value :=
  .ofFields [("name", .str s.name), ("writers", writersValue s.writers)]

/-- A declared resource as a value. -/
def resourceValue (s : ResourceSpec) : Value :=
  .ofFields [("tag", .str s.tag), ("kind", .str s.kind.word), ("writers", writersValue s.writers)]

/-- A manifest as a value. -/
def toValue (m : Manifest) : Value :=
  .ofFields [("version", .int m.version),
    ("default_namespace", match m.defaultNamespace with | some s => .str s | none => .null),
    ("namespaces", .list (m.namespaces.map namespaceValue)),
    ("resources", .list (m.resources.map resourceValue))]

end Manifest

end OwnershipRegistry
