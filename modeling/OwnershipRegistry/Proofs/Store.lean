import OwnershipRegistry.Proofs.Registry

/-!
# Sound stores

Both tables are sound, and every resource has the namespace that its tag
names. The four ways in which flows change a store keep it sound, and a
snapshot of a sound store restores it.
-/

namespace OwnershipRegistry

namespace Store

variable {s : Store} {n : NamespaceRecord} {r old : ResourceRecord} {key : Int} {writers : Writers}

/-- Register a namespace record. -/
def addNamespace (s : Store) (n : NamespaceRecord) : Store :=
  { s with namespaces :=
    ⟨s.namespaces.records.put n.selector n, s.namespaces.selectors.put n.name n.selector⟩ }

/-- Register a resource record. -/
def addResource (s : Store) (r : ResourceRecord) : Store :=
  { s with resources :=
    ⟨s.resources.records.put r.selector r, s.resources.selectors.put r.tag r.selector⟩ }

/-- Change the writers of the namespace at a selector. -/
def setWriters (s : Store) (key : Int) (n : NamespaceRecord) (writers : Writers) : Store :=
  { s with namespaces := s.namespaces.setWriters key n writers }

/-- Change the resource at a selector. -/
def setResource (s : Store) (key : Int) (r : ResourceRecord) : Store :=
  { s with resources := s.resources.set key r }

/-- Both tables are sound, and every resource's namespace is registered under the name that the
resource gives it. -/
structure Sound (s : Store) : Prop where
  namespaces : s.namespaces.Sound
  resources : s.resources.Sound
  housed : ∀ key r, s.resources.records.get? key = some r →
    ∃ n, s.namespaces.records.get? r.spaceSelector = some n ∧ n.name = r.space

theorem sound_empty : empty.Sound where
  namespaces := NamespaceTable.sound_empty
  resources := ResourceTable.sound_empty
  housed := by simp [empty, ResourceTable.empty]

/-- A further namespace moves no resource. -/
theorem Sound.addNamespace (h : s.Sound) (proper : n.Proper)
    (freeKey : s.namespaces.records.get? n.selector = none)
    (freeName : s.namespaces.selectors.get? n.name = none) : (s.addNamespace n).Sound where
  namespaces := h.namespaces.register proper freeKey freeName
  resources := h.resources
  housed key r hr := by
    obtain ⟨home, hhome, hname⟩ := h.housed key r hr
    exact ⟨home, Table.get?_put_of_free n freeKey hhome, hname⟩

/-- Changing writers keeps the names of namespaces. -/
theorem Sound.setWriters (h : s.Sound) (found : s.namespaces.records.get? key = some n)
    (ascending : IntSet.Ascending writers) : (s.setWriters key n writers).Sound where
  namespaces := h.namespaces.setWriters found ascending
  resources := h.resources
  housed other r hr := by
    obtain ⟨home, hhome, hname⟩ := h.housed other r hr
    by_cases hkey : r.spaceSelector = key
    · have hsame : n = home := by
        rw [hkey, found] at hhome
        exact Option.some.inj hhome
      refine ⟨{ n with writers }, ?_, hsame ▸ hname⟩
      rw [hkey]
      exact Table.get?_put_self _ _ _
    · exact ⟨home, (Table.get?_put_of_ne _ _ hkey).trans hhome, hname⟩

/-- A further resource needs its namespace. -/
theorem Sound.addResource (h : s.Sound) (proper : r.Proper)
    (home : ∃ n, s.namespaces.records.get? r.spaceSelector = some n ∧ n.name = r.space)
    (freeKey : s.resources.records.get? r.selector = none)
    (freeTag : s.resources.selectors.get? r.tag = none) : (s.addResource r).Sound where
  namespaces := h.namespaces
  resources := h.resources.register proper freeKey freeTag
  housed key r' hr := by
    rcases Table.get?_put_eq_some_iff.mp hr with ⟨-, rfl⟩ | ⟨-, hr⟩
    · exact home
    · exact h.housed key r' hr

/-- A resource may change in everything but its selector, its names and its namespace. -/
theorem Sound.setResource (h : s.Sound) (found : s.resources.records.get? key = some old)
    (proper : r.Proper) (sameKey : r.selector = old.selector) (sameSpace : r.space = old.space)
    (sameName : r.name = old.name) (sameHome : r.spaceSelector = old.spaceSelector) :
    (s.setResource key r).Sound where
  namespaces := h.namespaces
  resources := h.resources.set found proper sameKey (by simp [ResourceRecord.tag, sameSpace, sameName])
  housed other r' hr := by
    rcases Table.get?_put_eq_some_iff.mp hr with ⟨-, rfl⟩ | ⟨-, hr⟩
    · rw [sameHome, sameSpace]
      exact h.housed key old found
    · exact h.housed other r' hr

/-- Searching a snapshot for a tag finds what the index finds. -/
theorem Sound.resourceByTag_eq (h : s.Sound) (version : Nat) (tag : String) :
    (s.snapshot version).resourceByTag tag = s.resources.getByTag? tag :=
  h.resources.indexed.find?_values tag

/-- Searching a snapshot for a name finds what the index finds. -/
theorem Sound.namespaceByName_eq (h : s.Sound) (version : Nat) (name : String) :
    (s.snapshot version).namespaceByName name = s.namespaces.getByName? name :=
  h.namespaces.indexed.find?_values name

/-- A name is free exactly when no namespace has it. -/
theorem Sound.getByName?_eq_none_iff (h : s.Sound) {name : String} :
    s.namespaces.getByName? name = none ↔ s.namespaces.selectorOf? name = none := by
  unfold NamespaceTable.getByName?
  cases hselector : s.namespaces.selectorOf? name with
  | none => simp
  | some key =>
      obtain ⟨n, hn, -⟩ := h.namespaces.indexed.index_get?_iff.mp hselector
      simp [hn]

/-- The selector of a name leads to the namespace that is registered under it. -/
theorem Sound.get?_namespaceSelector (h : s.Sound) {name : String}
    (found : s.namespaces.getByName? name = some n) :
    s.namespaceSelector name = n.selector ∧ s.namespaces.records.get? n.selector = some n := by
  obtain ⟨hn, hname⟩ := (NamespaceTable.getByName?_eq_some_iff h.namespaces).mp found
  have hselector : s.namespaces.selectorOf? name = some n.selector :=
    h.namespaces.indexed.index_get?_iff.mpr ⟨n, hn, hname⟩
  rw [Store.namespaceSelector, hselector]
  exact ⟨rfl, hn⟩

theorem namespaceSelector_of_new {name : String} (h : s.namespaces.selectorOf? name = none) :
    s.namespaceSelector name = Selector.ofNamespace name := by
  rw [Store.namespaceSelector, h]
  rfl

/-- A snapshot of a sound store restores it, the indexes included. -/
theorem Sound.ofSnapshot (h : s.Sound) (version : Nat) : Store.ofSnapshot (s.snapshot version) = s := by
  have hn := h.namespaces.ofRecords
  have hr := h.resources.ofRecords
  cases s
  simp only [Store.ofSnapshot, snapshot] at *
  rw [hn, hr]

end Store

end OwnershipRegistry
