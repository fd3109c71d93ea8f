import OwnershipRegistry.Failure
import OwnershipRegistry.Journal.Context

/-! # The buffer of recent denials

The newest denials, newest first, up to a capacity. An entry holds the event and its message,
overlaid by the ambient context, and the details where there are any. -/

namespace OwnershipRegistry

/-- A bounded buffer, newest entry first. -/
structure DenialBuffer where
  capacity : Nat
  entries : List Context

namespace DenialBuffer

/-- An empty buffer of a capacity, which is a machine integer and must not be negative. -/
def ofCapacity (capacity : Int) : Except Failure DenialBuffer :=
  if capacity < -Nat.pow 2 63 ∨ Nat.pow 2 63 ≤ capacity then .error (.beyond "ssize_t")
  else if capacity < 0 then .error .negativeCapacity else .ok ⟨capacity.toNat, []⟩

/-- The entry for an event. -/
def entry (context : Context) (requestId : Value) (event message : String) (details : Value) : Context :=
  let base : Context := .ofEntries
    [("event", .str event), ("message", .str message), ("request_id", requestId)]
  let overlaid := base.putAll context.entries
  if details.isFalsy then overlaid else overlaid.put "details" details

/-- Add an entry; the oldest one falls out of a full buffer. -/
def push (b : DenialBuffer) (e : Context) : DenialBuffer :=
  { b with entries := (e :: b.entries).take b.capacity }

/-- Entries as a value. The moment of an entry is no part of it. -/
def listing (entries : List Context) : Value :=
  .list (entries.map fun e => .ofFields (e.erase "timestamp").entries)

/-- Forget all entries. -/
def clear (b : DenialBuffer) : DenialBuffer := { b with entries := [] }

end DenialBuffer

end OwnershipRegistry
