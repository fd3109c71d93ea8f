import OwnershipRegistry.Registry.Lookup
import OwnershipRegistry.Registry.Notice
import OwnershipRegistry.World.Answer

/-! # The tables on their own

Both tables can be used without the core around them. Then nothing checks names and selectors,
and a caller's permissions are handed over with each call. A table can be saved under a name
and restored. -/

namespace OwnershipRegistry

/-- A call to the namespace table. Lookups by selector take any value. -/
inductive NamespaceCall where
  | register (name : String) (selector owner : Int)
  | require (selector : Value)
  | checkWrite (p : Permissions) (selector : Value)
  | checkOwner (p : Permissions) (selector : Value)
  | grant (p : Permissions) (selector : Value) (writer : Int)
  | revoke (p : Permissions) (selector : Value) (writer : Int)
  | get (selector : Value)
  | selectorOf (name : String)
  | list
  | contains (selector : Value)
  | size
  | save (slot : String)
  | restore (slot : String)

/-- A call to the resource table. Lookups by selector take any value. -/
inductive ResourceCall where
  | register (name : String) (space : Value) (selector owner : Int) (kind : ResourceKind)
  | require (selector : Value)
  | requireKind (selector : Value) (kind : ResourceKind)
  | checkWrite (tag : String) (p : Permissions)
  | checkOwner (p : Permissions) (selector : Value)
  | checkUpgrade (p : Permissions) (selector : Value)
  | grant (p : Permissions) (selector : Value) (writer : Int)
  | revoke (p : Permissions) (selector : Value) (writer : Int)
  | upgrade (selector : Value) (classHash : Int)
  | deleteMember
  | get (selector : Value)
  | getByTag (tag : String)
  | list
  | contains (selector : Value)
  | size
  | save (slot : String)
  | restore (slot : String)

/-- Both tables, what was saved of them, and the log of their changes. -/
structure Tables where
  store : Store
  savedNamespaces : Table String (Table Int NamespaceRecord)
  savedResources : Table String (Table Int ResourceRecord)
  journal : Journal

namespace Tables

/-- Empty tables. -/
def empty : Tables := ⟨.empty, .empty, .empty, .fresh false⟩

/-- The tables after an outcome, which may change the store and log events. -/
def settle {α : Type} (t : Tables) (answer : α → Answer) (after : α → Store) (notices : α → List Notice) :
    Except Failure α → Except Failure Answer × Tables
  | .ok a => (.ok (answer a), { t with store := after a, journal := t.journal.noteAll (notices a) })
  | .error failure => (.error failure, t)

/-- A check, which changes nothing. -/
def check {α : Type} (t : Tables) (answer : α → Answer) (outcome : Except Failure α) :
    Except Failure Answer × Tables :=
  (outcome.map answer, t)

/-- An answer that is always there. -/
def told (t : Tables) (answer : Answer) : Except Failure Answer × Tables := (.ok answer, t)

/-- Ask for a namespace by a selector as it is given. -/
def space {α : Type} (v : Value) (ask : Int → Except Denial α) : Except Failure α :=
  Selector.given v (.namespaceUnknown v) fun n => Denial.orFail (ask n)

/-- Ask for a resource by a selector as it is given. -/
def resource {α : Type} (v : Value) (ask : Int → Except Denial α) : Except Failure α :=
  Selector.given v (.resourceUnknown v) fun n => Denial.orFail (ask n)

/-- What a value finds in a table. -/
def found {α : Type} (v : Value) (get? : Int → Option α) : Except Failure (Option α) :=
  (Selector.lookup? v).map fun k => k.bind get?

/-- Run a call to the namespace table. -/
def runNamespace (t : Tables) : NamespaceCall → Except Failure Answer × Tables
  | .register name selector owner =>
    t.settle (fun r => .namespace r.1) (fun r => { t.store with namespaces := r.2 })
      (fun r => [.namespaceRegistered r.1]) (Denial.orFail (t.store.namespaces.register name selector owner))
  | .require v => t.check .namespace (space v t.store.namespaces.require)
  | .checkWrite p v => t.check .namespace (space v (t.store.namespaces.checkWrite p))
  | .checkOwner p v => t.check .namespace (space v (t.store.namespaces.checkOwner p))
  | .grant p v writer =>
    t.settle (fun r => .flag r.1) (fun r => { t.store with namespaces := r.2 }) (fun _ => [])
      (space v fun n => t.store.namespaces.grant p n writer)
  | .revoke p v writer =>
    t.settle (fun r => .flag r.1) (fun r => { t.store with namespaces := r.2 }) (fun _ => [])
      (space v fun n => t.store.namespaces.revoke p n writer)
  | .get v => t.check (.ofOption .namespace) (found v t.store.namespaces.get?)
  | .selectorOf name => t.told (.ofOption (fun n => .value (.int n)) (t.store.namespaces.selectorOf? name))
  | .list => t.told (.namespaces t.store.namespaces.list)
  | .contains v => t.check (fun r => .flag r.isSome) (found v t.store.namespaces.get?)
  | .size => t.told (.value (.int t.store.namespaces.records.size))
  | .save slot =>
    (.ok (.value (.int t.store.namespaces.records.size)),
      { t with savedNamespaces := t.savedNamespaces.put slot t.store.namespaces.records })
  | .restore slot =>
    (.ok .nothing, match t.savedNamespaces.get? slot with
      | some records => { t with store := { t.store with namespaces := .ofRecords records } }
      | none => t)

/-- Run a call to the resource table. -/
def runResource (t : Tables) : ResourceCall → Except Failure Answer × Tables
  | .register name v selector owner kind =>
    t.settle (fun r => .resource r.1) (fun r => { t.store with resources := r.2 })
      (fun r => [.resourceRegistered r.1])
      (space v fun n => t.store.resources.register t.store.namespaces name n selector owner kind)
  | .require v => t.check .resource (resource v t.store.resources.require)
  | .requireKind v kind => t.check .resource (resource v fun n => t.store.resources.requireKind n kind)
  | .checkWrite tag p => t.check .resource (t.store.resources.checkWrite tag p)
  | .checkOwner p v => t.check .resource (resource v (t.store.resources.checkOwner p))
  | .checkUpgrade p v => t.check .resource (resource v (t.store.resources.checkUpgrade p))
  | .grant p v writer =>
    t.settle (fun r => .flag r.1) (fun r => { t.store with resources := r.2 }) (fun _ => [])
      (resource v fun n => t.store.resources.grant p n writer)
  | .revoke p v writer =>
    t.settle (fun r => .flag r.1) (fun r => { t.store with resources := r.2 }) (fun _ => [])
      (resource v fun n => t.store.resources.revoke p n writer)
  | .upgrade v classHash =>
    t.settle (fun r => .resource r.1) (fun r => { t.store with resources := r.2 })
      (fun r => [.resourceUpgraded r.1 classHash])
      (resource v fun n => t.store.resources.upgrade n classHash)
  | .deleteMember => (.error (.denied .memberDeletion), t)
  | .get v => t.check (.ofOption .resource) (found v t.store.resources.get?)
  | .getByTag tag => t.told (.ofOption .resource (t.store.resources.getByTag? tag))
  | .list => t.told (.resources t.store.resources.list)
  | .contains v => t.check (fun r => .flag r.isSome) (found v t.store.resources.get?)
  | .size => t.told (.value (.int t.store.resources.records.size))
  | .save slot =>
    (.ok (.value (.int t.store.resources.records.size)),
      { t with savedResources := t.savedResources.put slot t.store.resources.records })
  | .restore slot =>
    (.ok .nothing, match t.savedResources.get? slot with
      | some records => { t with store := { t.store with resources := .ofRecords records } }
      | none => t)

/-- Take the records out of the log. -/
def drain (t : Tables) : Except Failure Answer × Tables :=
  let (records, journal) := t.journal.drain
  (.ok (.records records), { t with journal })

end Tables

end OwnershipRegistry
