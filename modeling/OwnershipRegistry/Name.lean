import OwnershipRegistry.Sha256

/-! # Names, tags and derived selectors

A name is a run of ASCII letters, digits and underscores, which one line break may end. A tag
joins a namespace's name and a resource's name by a hyphen, so it can be split again. The
selector of a namespace or a resource is derived from the names alone. -/

namespace OwnershipRegistry

namespace Name

/-- The characters of names. -/
def isNameChar (c : Char) : Bool :=
  ('A' ≤ c && c ≤ 'Z') || ('a' ≤ c && c ≤ 'z') || ('0' ≤ c && c ≤ '9') || c == '_'

/-- Whether name characters run up to the end or up to one last line break. -/
def runsToEnd : List Char → Bool
  | [] => true
  | ['\n'] => true
  | c :: rest => isNameChar c && runsToEnd rest

/-- Whether a text is a name. -/
def isValid (name : String) : Bool :=
  match name.toList with
  | [] => false
  | c :: rest => isNameChar c && runsToEnd rest

end Name

namespace Tag

/-- The tag of a pair of names. -/
def join (space name : String) : String := space ++ "-" ++ name

/-- The characters before and after the first hyphen, if there is one. -/
def cutAtHyphen : List Char → Option (List Char × List Char)
  | [] => none
  | c :: rest => if c = '-' then some ([], rest) else (cutAtHyphen rest).map fun p => (c :: p.1, p.2)

/-- The pair of names of a tag. A tag without a hyphen is a name in the default namespace,
if there is one. Nothing is asked of the default. -/
def split? (tag : String) (default : Option String) : Option (String × String) :=
  match cutAtHyphen tag.toList with
  | none => match default with
    | some space => if Name.isValid tag then some (space, tag) else none
    | none => none
  | some (space, name) =>
    let pair := (String.ofList space, String.ofList name)
    if Name.isValid pair.1 && Name.isValid pair.2 then some pair else none

end Tag

namespace Selector

/-- Derived selectors are below this bound. -/
def derivedBound : Nat := Nat.pow 2 250

/-- The low 250 bits of the digest of some bytes. -/
def ofBytes (bytes : List UInt8) : Nat := Sha256.digest bytes % derivedBound

/-- The hash of a text. -/
def ofText (text : String) : Nat := ofBytes text.toUTF8.toList

/-- The selector derived for a namespace. -/
def ofNamespace (space : String) : Nat := ofText space

/-- The selector derived for a resource: the hash of both names' hashes, 32 bytes each. -/
def ofNames (space name : String) : Nat :=
  ofBytes (Sha256.bigEndian 32 (ofText space) ++ Sha256.bigEndian 32 (ofText name))

theorem ofBytes_lt (bytes : List UInt8) : ofBytes bytes < derivedBound :=
  Nat.mod_lt _ (Nat.two_pow_pos 250)

end Selector

end OwnershipRegistry
