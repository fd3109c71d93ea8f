import OwnershipRegistry.Failure
import OwnershipRegistry.Name

/-! # Checked names and tags

Names and tags that are not well formed are failures of the request that brings them. -/

namespace OwnershipRegistry

/-- A name, if it is one. -/
def Name.check (name : String) : Except Failure String :=
  if Name.isValid name then .ok name else .error (.invalidName name)

/-- The pair of names of a tag. -/
def Tag.split (tag : String) (default : Option String) : Except Failure (String × String) :=
  match Tag.split? tag default with
  | some pair => .ok pair
  | none => .error (.invalidTag tag)

/-- A tag written out with its namespace. -/
def Tag.full (tag : String) (default : Option String) : Except Failure String :=
  (Tag.split tag default).map fun pair => Tag.join pair.1 pair.2

/-- The selector derived for a tag. -/
def Selector.ofTag (tag : String) (default : Option String) : Except Failure Nat :=
  (Tag.split tag default).map fun pair => Selector.ofNames pair.1 pair.2

end OwnershipRegistry
