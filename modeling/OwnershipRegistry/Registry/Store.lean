import OwnershipRegistry.Registry.Resources

/-! # The store

Both tables together. What a name resolves to is read here: the selector bound to a name, or
the one that would be derived from it. -/

namespace OwnershipRegistry

/-- The registered namespaces and resources. -/
structure Store where
  namespaces : NamespaceTable
  resources : ResourceTable

namespace Store

/-- Nothing registered. -/
def empty : Store := ⟨.empty, .empty⟩

/-- The selector bound to a namespace's name, or the one derived from it. -/
def namespaceSelector (s : Store) (name : String) : Int :=
  (s.namespaces.selectorOf? name).getD (Selector.ofNamespace name)

/-- Both tables at a version. -/
def snapshot (s : Store) (version : Nat) : Snapshot := ⟨version, s.namespaces.records, s.resources.records⟩

/-- The store that a snapshot shows; the indexes follow from the tables. -/
def ofSnapshot (snapshot : Snapshot) : Store :=
  ⟨.ofRecords snapshot.namespaces, .ofRecords snapshot.resources⟩

end Store

end OwnershipRegistry
