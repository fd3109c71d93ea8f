import OwnershipRegistry.Journal.Basic
import OwnershipRegistry.Registry.Record

/-! # Notices

Every change of the tables is an event in the log. -/

namespace OwnershipRegistry

/-- An event that a change of the tables logs. -/
structure Notice where
  logger : String
  fields : Fields

namespace Notice

/-- A namespace was registered. -/
def namespaceRegistered (r : NamespaceRecord) : Notice :=
  ⟨"world_registry.namespaces", [("event", .str "namespace.registered"), ("namespace", .str r.name),
    ("selector", .str (Numeral.hex r.selector)), ("owner", .str (Numeral.hex r.owner))]⟩

/-- A resource was registered. -/
def resourceRegistered (r : ResourceRecord) : Notice :=
  ⟨"world_registry.resources", [("event", .str "resource.registered"), ("tag", .str r.tag),
    ("kind", .str r.kind.word), ("selector", .str (Numeral.hex r.selector)),
    ("owner", .str (Numeral.hex r.owner))]⟩

/-- A resource was upgraded to a class. -/
def resourceUpgraded (r : ResourceRecord) (classHash : Int) : Notice :=
  ⟨"world_registry.resources", [("event", .str "resource.upgraded"), ("tag", .str r.tag),
    ("class_hash", .str (Numeral.hex classHash)), ("version", .int r.version)]⟩

end Notice

/-- Log events of the tables. -/
def Journal.noteAll (j : Journal) (notices : List Notice) : Journal :=
  notices.foldl (fun j n => j.noteEvent .info n.logger n.fields) j

end OwnershipRegistry
