import OwnershipRegistry.IntSet
import OwnershipRegistry.Name
import OwnershipRegistry.Table

/-! # Namespaces, resources and write tokens

Every record has one owner and a set of further writers. The set is kept as an ascending list,
so equal sets are equal lists. -/

namespace OwnershipRegistry

/-- The callers that may write besides the owner. -/
abbrev Writers := IntSet

/-- What a resource is. -/
inductive ResourceKind where
  | model
  | event
  | contract
deriving DecidableEq, Inhabited

namespace ResourceKind

/-- The word for a kind. -/
def word : ResourceKind → String
  | .model => "model"
  | .event => "event"
  | .contract => "contract"

/-- The kind that a word names. -/
def ofWord? (word : String) : Option ResourceKind :=
  if word = "model" then some .model
  else if word = "event" then some .event
  else if word = "contract" then some .contract
  else none

@[simp] theorem ofWord?_word (kind : ResourceKind) : ofWord? kind.word = some kind := by
  cases kind <;> decide

end ResourceKind

/-- A registered namespace. -/
structure NamespaceRecord where
  name : String
  selector : Int
  owner : Int
  writers : Writers := []
deriving DecidableEq

/-- A registered resource. -/
structure ResourceRecord where
  space : String
  name : String
  selector : Int
  spaceSelector : Int
  owner : Int
  kind : ResourceKind
  writers : Writers := []
  classHash : Option Int := none
  version : Nat := 1
deriving DecidableEq

/-- The tag of a resource. -/
def ResourceRecord.tag (r : ResourceRecord) : String := Tag.join r.space r.name

/-- Evidence that a caller passed the write check on a resource, and at which state version. -/
structure WriteToken where
  caller : Int
  selector : Int
  tag : String
  stateVersion : Nat
deriving DecidableEq

/-- Both tables at one state version. -/
structure Snapshot where
  version : Nat
  namespaces : Table Int NamespaceRecord
  resources : Table Int ResourceRecord

namespace Snapshot

/-- The first namespace with a name. -/
def namespaceByName (s : Snapshot) (name : String) : Option NamespaceRecord :=
  s.namespaces.values.find? fun r => r.name = name

/-- The first resource with a tag. -/
def resourceByTag (s : Snapshot) (tag : String) : Option ResourceRecord :=
  s.resources.values.find? fun r => r.tag = tag

end Snapshot

end OwnershipRegistry
