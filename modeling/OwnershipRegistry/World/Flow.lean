import OwnershipRegistry.Registry.Notice
import OwnershipRegistry.Security.Directory
import OwnershipRegistry.Security.Validator
import OwnershipRegistry.World.Answer

/-! # Flows

A flow is one request to the access control core: a check, or a change of the tables. What it
would do is computed here without doing it: either it fails, or it has an effect, which is an
answer, the store afterwards, and the events to log. The first failing check decides.

Callers, writers and classes are integers. Truth values are none of them, although they count as
numbers elsewhere: as a caller one would be the integer that it counts as, but messages and the
ambient context would show it in two ways. Selectors come unchecked and can be any value, texts
of codes that are of no character apart. Where a selector may be left out, leaving it out is
`none`; null stands for leaving it out too, so that `some .null` is no request of its own. -/

namespace OwnershipRegistry

/-- What decides about flows besides the tables. -/
structure Policy where
  directory : Directory
  validator : Validator
  enforceNamespaceWrite : Bool

namespace Policy

/-- The policy of a configuration, with the warnings on the way. -/
def ofConfig (config : SecurityConfig) : Policy × List Fields :=
  let (directory, warnings) := Directory.ofConfig config
  (⟨directory, ⟨config.default.reserved⟩, config.default.enforceNamespaceWrite⟩, warnings)

end Policy

/-- The access control core: its policy, its tables and the version of its state; how deep in
transactions it is, and how many changes wait for the outermost one to end. -/
structure Core where
  defaultNamespace : String
  policy : Policy
  store : Store := .empty
  version : Nat := 0
  depth : Nat := 0
  pending : Nat := 0

/-- A request to the core. -/
inductive Flow where
  | registerNamespace (caller : Int) (name : String) (selector : Option Value)
  | registerResource (caller : Int) (space : Value) (name kind : String) (selector : Option Value)
  | authorizeWrite (caller : Int) (resource : Value)
  | authorizeUpgrade (caller : Int) (resource : Value)
  | upgradeResource (caller : Int) (resource : Value) (classHash : Int)
  | resolveKind (resource : Value) (expected : String)
  | checkOwner (caller : Int) (resource : Value)
  | checkWriteAccess (caller : Int) (tag : String)
  | authorizeNamespaceWrite (caller : Int) (space : Value)
  | grantWriter (caller : Int) (resource : Value) (writer : Int)
  | revokeWriter (caller : Int) (resource : Value) (writer : Int)
  | grantNamespaceWriter (caller : Int) (space : Value) (writer : Int)
  | revokeNamespaceWriter (caller : Int) (space : Value) (writer : Int)
  | deleteMember (caller : Int) (resource member : Value)

namespace Flow

/-- The name under which a flow is counted and logged. -/
def name : Flow → String
  | .registerNamespace .. => "register_namespace"
  | .registerResource .. => "register_resource"
  | .authorizeWrite .. => "authorize_write"
  | .authorizeUpgrade .. => "authorize_upgrade"
  | .upgradeResource .. => "upgrade_resource"
  | .resolveKind .. => "resolve_kind"
  | .checkOwner .. => "check_owner"
  | .checkWriteAccess .. => "check_write_access"
  | .authorizeNamespaceWrite .. => "authorize_namespace_write"
  | .grantWriter .. => "grant_writer"
  | .revokeWriter .. => "revoke_writer"
  | .grantNamespaceWriter .. => "grant_namespace_writer"
  | .revokeNamespaceWriter .. => "revoke_namespace_writer"
  | .deleteMember .. => "delete_member"

/-- Who makes the request; resolving a kind is nobody's. -/
def caller? : Flow → Option Int
  | .registerNamespace c _ _ | .registerResource c _ _ _ _ | .authorizeWrite c _ | .authorizeUpgrade c _
  | .upgradeResource c _ _ | .checkOwner c _ | .checkWriteAccess c _ | .authorizeNamespaceWrite c _
  | .grantWriter c _ _ | .revokeWriter c _ _ | .grantNamespaceWriter c _ _
  | .revokeNamespaceWriter c _ _ | .deleteMember c _ _ => some c
  | .resolveKind _ _ => none

/-- Whether a flow, when it succeeds, is a change of the state. -/
def mutates : Flow → Bool
  | .registerNamespace .. | .registerResource .. | .upgradeResource .. | .grantWriter ..
  | .revokeWriter .. | .grantNamespaceWriter .. | .revokeNamespaceWriter .. => true
  | _ => false

end Flow

/-- What a flow that succeeds does. -/
structure Effect where
  answer : Answer
  store : Store
  notices : List Notice

namespace Core

/-- The effect of a check: an answer and no change. -/
def unchanged (core : Core) (answer : Answer) : Effect := ⟨answer, core.store, []⟩

/-- The permissions of a caller. -/
def permissions (core : Core) (caller : Int) : Permissions := core.policy.directory.permissions caller

/-- The selector that a value is, if the validator accepts it. -/
def selector (core : Core) (value : Value) : Except Failure Int :=
  core.policy.validator.validate value

/-- A given selector, checked; none stays none. -/
def selector? (core : Core) : Option Value → Except Failure (Option Int)
  | some value => (core.selector value).map some
  | none => .ok none

/-- The kind that a word names. -/
def kind (word : String) : Except Failure ResourceKind :=
  match ResourceKind.ofWord? word with
  | some kind => .ok kind
  | none => .error (.unknownKind word)

/-- Register a namespace, under the given selector or the one derived from its name. -/
def registerNamespace (core : Core) (caller : Int) (text : String) (given : Option Value) :
    Except Failure Effect := do
  discard (Name.check text)
  Denial.orFail (core.policy.directory.requireAccount caller)
  let selector ← core.selector (given.getD (.int (Selector.ofNamespace text)))
  let (record, namespaces) ← Denial.orFail (core.store.namespaces.register text selector caller)
  pure ⟨.namespace record, { core.store with namespaces }, [.namespaceRegistered record]⟩

/-- Register a resource, under the given selector or the one derived from both names. -/
def registerResource (core : Core) (caller : Int) (space : Value) (text word : String) (given : Option Value) :
    Except Failure Effect := do
  discard (Name.check text)
  let kind ← kind word
  let spaceSelector ← core.selector space
  let given ← core.selector? given
  let record ← Denial.orFail (core.store.namespaces.require spaceSelector)
  let selector ← match given with
    | some selector => pure selector
    | none => core.selector (.int (Selector.ofNames record.name text))
  if core.policy.enforceNamespaceWrite then
    discard (Denial.orFail (core.store.namespaces.checkWrite (core.permissions caller) spaceSelector))
  let (record, resources) ← Denial.orFail
    (core.store.resources.register core.store.namespaces text spaceSelector selector caller kind)
  pure ⟨.resource record, { core.store with resources }, [.resourceRegistered record]⟩

/-- Check a caller's write access to a resource and give evidence of it. The check goes by the
resource's tag. -/
def authorizeWrite (core : Core) (caller : Int) (resource : Value) : Except Failure Effect := do
  let selector ← core.selector resource
  let record ← Denial.orFail (core.store.resources.require selector)
  discard (core.store.resources.checkWrite record.tag (core.permissions caller))
  pure (core.unchanged (.token ⟨caller, selector, record.tag, core.version⟩))

/-- Check that a caller may upgrade a resource. -/
def authorizeUpgrade (core : Core) (caller : Int) (resource : Value) : Except Failure Effect := do
  let selector ← core.selector resource
  discard (Denial.orFail (core.store.resources.require selector))
  let record ← Denial.orFail (core.store.resources.checkUpgrade (core.permissions caller) selector)
  pure (core.unchanged (.resource record))

/-- Upgrade a resource to a class. -/
def upgradeResource (core : Core) (caller : Int) (resource : Value) (classHash : Int) :
    Except Failure Effect := do
  let selector ← core.selector resource
  discard (Denial.orFail (core.store.resources.checkUpgrade (core.permissions caller) selector))
  let (record, resources) ← Denial.orFail (core.store.resources.upgrade selector classHash)
  pure ⟨.resource record, { core.store with resources }, [.resourceUpgraded record classHash]⟩

/-- Check that a resource is of the expected kind. -/
def resolveKind (core : Core) (resource : Value) (expected : String) : Except Failure Effect := do
  let kind ← kind expected
  let selector ← core.selector resource
  discard (Denial.orFail (core.store.resources.require selector))
  let record ← Denial.orFail (core.store.resources.requireKind selector kind)
  pure (core.unchanged (.resource record))

/-- Check that a caller owns a resource. -/
def checkOwner (core : Core) (caller : Int) (resource : Value) : Except Failure Effect := do
  let selector ← core.selector resource
  let record ← Denial.orFail (core.store.resources.checkOwner (core.permissions caller) selector)
  pure (core.unchanged (.resource record))

/-- Check a caller's write access to the resource of a tag; a bare name is in the default
namespace. -/
def checkWriteAccess (core : Core) (caller : Int) (tag : String) : Except Failure Effect := do
  let full ← Tag.full tag (some core.defaultNamespace)
  let record ← core.store.resources.checkWrite full (core.permissions caller)
  pure (core.unchanged (.resource record))

/-- Check a caller's write access to a namespace. -/
def authorizeNamespaceWrite (core : Core) (caller : Int) (space : Value) : Except Failure Effect := do
  let selector ← core.selector space
  let record ← Denial.orFail (core.store.namespaces.checkWrite (core.permissions caller) selector)
  pure (core.unchanged (.namespace record))

/-- Grant a writer on a resource. -/
def grantWriter (core : Core) (caller : Int) (resource : Value) (writer : Int) : Except Failure Effect := do
  let selector ← core.selector resource
  let (new, resources) ← Denial.orFail (core.store.resources.grant (core.permissions caller) selector writer)
  pure ⟨.flag new, { core.store with resources }, []⟩

/-- Revoke a writer on a resource. -/
def revokeWriter (core : Core) (caller : Int) (resource : Value) (writer : Int) : Except Failure Effect := do
  let selector ← core.selector resource
  let (old, resources) ← Denial.orFail (core.store.resources.revoke (core.permissions caller) selector writer)
  pure ⟨.flag old, { core.store with resources }, []⟩

/-- Grant a writer on a namespace. -/
def grantNamespaceWriter (core : Core) (caller : Int) (space : Value) (writer : Int) :
    Except Failure Effect := do
  let selector ← core.selector space
  let (new, namespaces) ← Denial.orFail (core.store.namespaces.grant (core.permissions caller) selector writer)
  pure ⟨.flag new, { core.store with namespaces }, []⟩

/-- Revoke a writer on a namespace. -/
def revokeNamespaceWriter (core : Core) (caller : Int) (space : Value) (writer : Int) :
    Except Failure Effect := do
  let selector ← core.selector space
  let (old, namespaces) ← Denial.orFail (core.store.namespaces.revoke (core.permissions caller) selector writer)
  pure ⟨.flag old, { core.store with namespaces }, []⟩

/-- The effect of a flow. Deleting a member of an entity is always refused. -/
def attempt (core : Core) : Flow → Except Failure Effect
  | .registerNamespace caller text given => core.registerNamespace caller text given
  | .registerResource caller space text word given => core.registerResource caller space text word given
  | .authorizeWrite caller resource => core.authorizeWrite caller resource
  | .authorizeUpgrade caller resource => core.authorizeUpgrade caller resource
  | .upgradeResource caller resource classHash => core.upgradeResource caller resource classHash
  | .resolveKind resource expected => core.resolveKind resource expected
  | .checkOwner caller resource => core.checkOwner caller resource
  | .checkWriteAccess caller tag => core.checkWriteAccess caller tag
  | .authorizeNamespaceWrite caller space => core.authorizeNamespaceWrite caller space
  | .grantWriter caller resource writer => core.grantWriter caller resource writer
  | .revokeWriter caller resource writer => core.revokeWriter caller resource writer
  | .grantNamespaceWriter caller space writer => core.grantNamespaceWriter caller space writer
  | .revokeNamespaceWriter caller space writer => core.revokeNamespaceWriter caller space writer
  | .deleteMember _ _ _ => .error (.denied .memberDeletion)

end Core

end OwnershipRegistry
