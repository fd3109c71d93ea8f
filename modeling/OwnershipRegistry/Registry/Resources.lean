import OwnershipRegistry.Name.Check
import OwnershipRegistry.Registry.Namespaces

/-! # The resource table

Resources are kept by selector, with an index from tags to selectors. A resource belongs to a
namespace that was registered when it was. Writing asks for the owner or a writer, everything
else for the owner alone. -/

namespace OwnershipRegistry

/-- The registered resources and the selectors of their tags. -/
structure ResourceTable where
  records : Table Int ResourceRecord
  selectors : Table String Int

namespace ResourceTable

/-- No resources. -/
def empty : ResourceTable := ⟨.empty, .empty⟩

/-- Register a resource in a namespace. -/
def register (t : ResourceTable) (namespaces : NamespaceTable) (name : String)
    (spaceSelector selector owner : Int) (kind : ResourceKind) :
    Except Denial (ResourceRecord × ResourceTable) := do
  let space ← namespaces.require spaceSelector
  if t.records.contains selector || t.selectors.contains (Tag.join space.name name) then
    throw (.resourceTaken space.name name)
  else
    let record := { space := space.name, name, selector, spaceSelector, owner, kind : ResourceRecord }
    pure (record, ⟨t.records.put selector record, t.selectors.put record.tag selector⟩)

/-- The resource at a selector. -/
def require (t : ResourceTable) (selector : Int) : Except Denial ResourceRecord :=
  match t.records.get? selector with
  | some record => .ok record
  | none => .error (.resourceUnknown (.int selector))

/-- The resource at a selector, if it is of the expected kind. -/
def requireKind (t : ResourceTable) (selector : Int) (expected : ResourceKind) :
    Except Denial ResourceRecord := do
  let record ← t.require selector
  if record.kind = expected then pure record else throw (.kindConflict record.tag expected.word)

/-- The resource at a selector, if the caller owns it. -/
def checkOwner (t : ResourceTable) (p : Permissions) (selector : Int) : Except Denial ResourceRecord := do
  let record ← t.require selector
  if p.owns record.owner then pure record else throw (.notOwner p.caller (.int selector))

/-- The resource under a tag, if the caller may write to it. An unknown tag is reported by the
selector that would be derived from it. -/
def checkWrite (t : ResourceTable) (tag : String) (p : Permissions) : Except Failure ResourceRecord :=
  match t.selectors.get? tag with
  | none =>
    match Selector.ofTag tag none with
    | .ok selector => .error (.denied (.resourceUnknown (.int selector)))
    | .error failure => .error failure
  | some selector =>
    match t.records.get? selector with
    | none => .error .wrongShape
    | some record =>
      if p.canWrite record.owner record.writers then .ok record
      else .error (.denied (.writeRefused record.tag p.caller))

/-- The resource at a selector, if the caller may upgrade it; writers may not. -/
def checkUpgrade (t : ResourceTable) (p : Permissions) (selector : Int) : Except Denial ResourceRecord := do
  let record ← t.require selector
  if p.owns record.owner then pure record else throw (.notOwnerForUpgrade p.caller (.int selector))

/-- Replace a record. -/
def set (t : ResourceTable) (selector : Int) (record : ResourceRecord) : ResourceTable :=
  ⟨t.records.put selector record, t.selectors⟩

/-- Add a writer; answers whether it is new. -/
def grant (t : ResourceTable) (p : Permissions) (selector writer : Int) :
    Except Denial (Bool × ResourceTable) := do
  let record ← t.checkOwner p selector
  if record.writers.contains writer then pure (false, t)
  else pure (true, t.set selector { record with writers := IntSet.insert writer record.writers })

/-- Remove a writer; answers whether it was one. -/
def revoke (t : ResourceTable) (p : Permissions) (selector writer : Int) :
    Except Denial (Bool × ResourceTable) := do
  let record ← t.checkOwner p selector
  if record.writers.contains writer then
    pure (true, t.set selector { record with writers := IntSet.erase writer record.writers })
  else pure (false, t)

/-- Note an upgrade: the new class hash, and one version more. -/
def upgrade (t : ResourceTable) (selector classHash : Int) : Except Denial (ResourceRecord × ResourceTable) := do
  let record ← t.require selector
  let upgraded := { record with classHash := some classHash, version := record.version + 1 }
  pure (upgraded, t.set selector upgraded)

/-- The resource at a selector, if there is one. -/
def get? (t : ResourceTable) (selector : Int) : Option ResourceRecord := t.records.get? selector

/-- The resource under a tag, if there is one. -/
def getByTag? (t : ResourceTable) (tag : String) : Option ResourceRecord :=
  (t.selectors.get? tag).bind t.records.get?

/-- All resources by tag. -/
def list (t : ResourceTable) : List ResourceRecord :=
  t.records.values.mergeSort fun a b => !decide (b.tag < a.tag)

/-- Restore the table from its records; the index follows from them. -/
def ofRecords (records : Table Int ResourceRecord) : ResourceTable :=
  ⟨records, .ofEntries (records.entries.map fun e => (e.2.tag, e.1))⟩

end ResourceTable

end OwnershipRegistry
