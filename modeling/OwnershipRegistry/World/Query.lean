import OwnershipRegistry.Registry.Lookup
import OwnershipRegistry.World.Basic

/-! # Queries

What can be read of a world without changing it. Queries are not flows: they are neither
checked, nor counted, nor logged. -/

namespace OwnershipRegistry

/-- A question to a world. Lookups by selector take any value. -/
inductive Query where
  | version
  | defaultNamespace
  | namespaceAt (selector : Value)
  | resourceAt (selector : Value)
  | resourceOfTag (tag : String)
  /-- The selector bound to a namespace's name, or derived from it. -/
  | selectorOf (name : String)
  | namespaces
  | resources
  | snapshot
  /-- The first namespace with a name in a snapshot. -/
  | namespaceNamed (name : String)
  /-- The first resource with a tag in a snapshot. -/
  | resourceTagged (tag : String)
  | reserved
  | isValid (selector : Value)
  | directory (inquiry : Inquiry)
  | findings
  | metrics
  | exposition
  | denials (limit : Option Int)

namespace Query

/-- The newest entries of a list: all of them, the first few, or all but the last few. -/
def limited {α : Type} (limit : Option Int) (entries : List α) : List α :=
  match limit with
  | none => entries
  | some n => if 0 ≤ n then entries.take n.toNat else entries.take (entries.length - n.natAbs)

/-- The answer to a question. -/
def answer (w : World) : Query → Except Failure Answer
  | .version => .ok (.value (.int w.core.version))
  | .defaultNamespace => .ok (.value (.str w.core.defaultNamespace))
  | .namespaceAt v => (Selector.lookup? v).map fun k => .ofOption .namespace (k.bind w.core.store.namespaces.get?)
  | .resourceAt v => (Selector.lookup? v).map fun k => .ofOption .resource (k.bind w.core.store.resources.get?)
  | .resourceOfTag tag => .ok (.ofOption .resource (w.core.store.resources.getByTag? tag))
  | .selectorOf name => .ok (.value (.int (w.core.store.namespaceSelector name)))
  | .namespaces => .ok (.namespaces w.core.store.namespaces.list)
  | .resources => .ok (.resources w.core.store.resources.list)
  | .snapshot => .ok (.snapshot (w.core.store.snapshot w.core.version))
  | .namespaceNamed name =>
    .ok (.ofOption .namespace ((w.core.store.snapshot w.core.version).namespaceByName name))
  | .resourceTagged tag =>
    .ok (.ofOption .resource ((w.core.store.snapshot w.core.version).resourceByTag tag))
  | .reserved => .ok (.value (.list (w.core.policy.validator.reserved.map .int)))
  | .isValid v => (w.core.policy.validator.isValid v).map .flag
  | .directory inquiry => (w.core.policy.directory.answer inquiry).map .value
  | .findings => .ok (.value (.list (w.core.policy.directory.findings.map .str)))
  | .metrics => .ok (.value (.ofFields w.journal.metrics.snapshot))
  | .exposition => .ok (.exposition (Exposition.text w.journal.metrics.mirror))
  | .denials limit => .ok (.value (DenialBuffer.listing (limited limit w.journal.denials.entries)))

end Query

end OwnershipRegistry
