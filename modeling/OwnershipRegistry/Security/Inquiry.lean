import OwnershipRegistry.Journal.Basic
import OwnershipRegistry.Security.Directory

/-! # Inquiries to the directory

What can be asked about callers, and the registration of a caller with its warning. -/

namespace OwnershipRegistry

/-- A question to the directory. -/
inductive Inquiry where
  | kindOf (caller : Int)
  | isAccount (caller : Int)
  | requireAccount (caller : Int)
  | label (caller : Int)
  | knownCallers
  /-- What a caller may do with a record of an owner and writers. -/
  | permissions (caller owner : Int) (writers : List Int)

namespace Directory

/-- The permissions of a caller on a record, as a value. -/
def permissionsValue (p : Permissions) (owner : Int) (writers : List Int) : Value :=
  .ofFields [("is_account", .bool p.isAccount), ("is_owner", .bool (p.owns owner)),
    ("can_write", .bool (p.canWrite owner (IntSet.ofList writers)))]

/-- A label as a value. -/
def labelValue (d : Directory) (caller : Int) : Value :=
  match d.label? caller with
  | some label => .str label
  | none => .null

/-- The answer to an inquiry. -/
def answer (d : Directory) : Inquiry → Except Failure Value
  | .kindOf caller => .ok (.str (d.kindOf caller).word)
  | .isAccount caller => .ok (.bool (d.isAccount caller))
  | .requireAccount caller => (Denial.orFail (d.requireAccount caller)).map fun _ => .null
  | .label caller => .ok (d.labelValue caller)
  | .knownCallers => .ok (.list (d.knownCallers.map .int))
  | .permissions caller owner writers => .ok (permissionsValue (d.permissions caller) owner writers)

/-- All known callers with their kinds and labels. -/
def listing (d : Directory) : Value :=
  .list (d.knownCallers.map fun c => .list [.int c, .str (d.kindOf c).word, d.labelValue c])

end Directory

namespace Journal

/-- Log warnings of the directory. -/
def warn (j : Journal) (warnings : List Fields) : Journal :=
  warnings.foldl (fun j w => j.noteEvent .warning "world_registry.identity" w) j

/-- Register a caller in a directory and log the warning, if it changes the caller's kind. -/
def register (j : Journal) (d : Directory) (r : Registration) : Directory × Journal :=
  (d.register r, j.warn (d.reclassification? r).toList)

end Journal

end OwnershipRegistry
