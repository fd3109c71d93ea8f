import OwnershipRegistry.Denial
import OwnershipRegistry.Registry.Permissions

/-! # The namespace table

Namespaces are kept by selector, with an index from names to selectors. Registration refuses a
selector or a name that is bound already; everything that changes a namespace afterwards asks
for its owner. -/

namespace OwnershipRegistry

/-- The registered namespaces and the selectors of their names. -/
structure NamespaceTable where
  records : Table Int NamespaceRecord
  selectors : Table String Int

namespace NamespaceTable

/-- No namespaces. -/
def empty : NamespaceTable := ⟨.empty, .empty⟩

/-- Register a namespace. -/
def register (t : NamespaceTable) (name : String) (selector owner : Int) :
    Except Denial (NamespaceRecord × NamespaceTable) :=
  if t.records.contains selector || t.selectors.contains name then .error (.namespaceTaken name)
  else
    let record := { name, selector, owner : NamespaceRecord }
    .ok (record, ⟨t.records.put selector record, t.selectors.put name selector⟩)

/-- The namespace at a selector. -/
def require (t : NamespaceTable) (selector : Int) : Except Denial NamespaceRecord :=
  match t.records.get? selector with
  | some record => .ok record
  | none => .error (.namespaceUnknown (.str (Numeral.hex selector)))

/-- The namespace at a selector, if the caller may write to it. -/
def checkWrite (t : NamespaceTable) (p : Permissions) (selector : Int) : Except Denial NamespaceRecord := do
  let record ← t.require selector
  if p.canWrite record.owner record.writers then pure record
  else throw (.namespaceWriteRefused p.caller (.int selector) record.name)

/-- The namespace at a selector, if the caller owns it. -/
def checkOwner (t : NamespaceTable) (p : Permissions) (selector : Int) : Except Denial NamespaceRecord := do
  let record ← t.require selector
  if p.owns record.owner then pure record else throw (.notOwner p.caller (.int selector))

/-- Replace the writers of a record. -/
def setWriters (t : NamespaceTable) (selector : Int) (record : NamespaceRecord) (writers : Writers) :
    NamespaceTable :=
  ⟨t.records.put selector { record with writers }, t.selectors⟩

/-- Add a writer; answers whether it is new. -/
def grant (t : NamespaceTable) (p : Permissions) (selector writer : Int) :
    Except Denial (Bool × NamespaceTable) := do
  let record ← t.checkOwner p selector
  if record.writers.contains writer then pure (false, t)
  else pure (true, t.setWriters selector record (IntSet.insert writer record.writers))

/-- Remove a writer; answers whether it was one. -/
def revoke (t : NamespaceTable) (p : Permissions) (selector writer : Int) :
    Except Denial (Bool × NamespaceTable) := do
  let record ← t.checkOwner p selector
  if record.writers.contains writer then
    pure (true, t.setWriters selector record (IntSet.erase writer record.writers))
  else pure (false, t)

/-- The namespace at a selector, if there is one. -/
def get? (t : NamespaceTable) (selector : Int) : Option NamespaceRecord := t.records.get? selector

/-- The selector bound to a name. -/
def selectorOf? (t : NamespaceTable) (name : String) : Option Int := t.selectors.get? name

/-- All namespaces by name. -/
def list (t : NamespaceTable) : List NamespaceRecord :=
  t.records.values.mergeSort fun a b => !decide (b.name < a.name)

/-- Restore the table from its records; the index follows from them. -/
def ofRecords (records : Table Int NamespaceRecord) : NamespaceTable :=
  ⟨records, .ofEntries (records.entries.map fun e => (e.2.name, e.1))⟩

end NamespaceTable

end OwnershipRegistry
