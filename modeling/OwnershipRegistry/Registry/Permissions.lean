import OwnershipRegistry.Registry.Record

/-! # Permissions of a caller

The one place that decides what owning a record and writing to it mean. -/

namespace OwnershipRegistry

/-- A caller, and whether it counts as an account. -/
structure Permissions where
  caller : Int
  isAccount : Bool
deriving DecidableEq

namespace Permissions

/-- Whether the caller is the owner. -/
def owns (p : Permissions) (owner : Int) : Bool := owner == p.caller

/-- Whether the caller may write: the owner always, and every writer. -/
def canWrite (p : Permissions) (owner : Int) (writers : Writers) : Bool :=
  p.owns owner || writers.contains p.caller

theorem owns_iff {p : Permissions} {owner : Int} : p.owns owner = true ↔ owner = p.caller := by
  simp [owns]

theorem canWrite_iff {p : Permissions} {owner : Int} {writers : Writers} :
    p.canWrite owner writers = true ↔ owner = p.caller ∨ p.caller ∈ writers := by
  simp [canWrite, owns]

end Permissions

end OwnershipRegistry
