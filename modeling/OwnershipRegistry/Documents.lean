import OwnershipRegistry.Settings
import OwnershipRegistry.Table

/-! # Documents by path

The documents that can be read, each under its path, and the directories. Two paths that name the
same place agree once their empty and dotted parts are worked out. -/

namespace OwnershipRegistry

/-- What is read at a path: a document, or the failure of reading it. -/
abbrev Contents := Except Failure Value

namespace Path

/-- The parts of a path between its slashes. -/
def parts (path : String) : List String := path.splitOn "/"

/-- The mark of a path that starts at the root. Exactly two slashes are a root of their own. -/
def root (path : String) : String :=
  match path.toList with
  | '/' :: '/' :: '/' :: _ => "/"
  | '/' :: '/' :: _ => "//"
  | '/' :: _ => "/"
  | _ => ""

/-- A path from its root and its parts. -/
def join (root : String) (parts : List String) : String :=
  if root = "" && parts.isEmpty then "." else root ++ "/".intercalate parts

/-- The parts that say something. -/
def names (path : String) : List String := (parts path).filter fun p => p ≠ "" && p ≠ "."

/-- A path without empty parts and parts of one dot. -/
def tidy (path : String) : String := join (root path) (names path)

/-- Work out parts of two dots; `above` holds the parts so far, last one first. -/
def climb (above : List String) : List String → List String
  | [] => above.reverse
  | ".." :: rest =>
    match above with
    | [] => climb [] rest
    | _ :: above => climb above rest
  | name :: rest => climb (name :: above) rest

/-- A path without parts of dots. -/
def resolved (path : String) : String := join (root path) (climb [] (names path))

end Path

/-- What can be found at paths without parts of dots. -/
structure Documents where
  /-- The documents that can be read. -/
  contents : Table String Contents
  /-- The directories, besides those that are always there. -/
  directories : List String

namespace Documents

/-- The directories that are always there: the one that a relative path starts at, and the roots. -/
def starts : List String := ["", "/", "//"].map fun root => Path.join root []

/-- Whether there is a directory at a path. -/
def isDirectory (d : Documents) (path : String) : Bool :=
  (starts ++ d.directories).contains (Path.resolved path)

/-- What is read at a path, if there is anything: a directory is no document. -/
def at? (d : Documents) (path : String) : Option Contents :=
  if d.isDirectory path then some (.error (.directory (Path.tidy path)))
  else d.contents.get? (Path.resolved path)

/-- Put a document at a path, or remove the one there. -/
def write (d : Documents) (path : String) : Option Contents → Documents
  | some contents => { d with contents := d.contents.put (Path.resolved path) contents }
  | none => { d with contents := d.contents.erase (Path.resolved path) }

/-- The documents that settings name when nothing is said: no callers, and one namespace. -/
def standard (directory : String) (directories : List String) : Documents :=
  let s := Settings.standard directory
  { contents := .ofEntries
      [(s.securityPath, .ok (.ofFields [("version", .int 1),
        ("default", .ofFields [("unknown_caller_kind", .str "contract"), ("reserved_selectors", .list []),
          ("enforce_namespace_write_on_register", .bool false)]),
        ("accounts", .list []), ("contracts", .list [])])),
      (s.manifestPath, .ok (.ofFields [("version", .int 1), ("default_namespace", .str "dojo"),
        ("namespaces", .list [.ofFields [("name", .str "dojo")]]), ("resources", .list [])]))]
    directories := directory :: directories }

end Documents

end OwnershipRegistry
