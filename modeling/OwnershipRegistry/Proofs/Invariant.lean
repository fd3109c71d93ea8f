import OwnershipRegistry.Proofs.Name
import OwnershipRegistry.Proofs.Run

/-!
# The invariant of the tables

What holds of the tables and their indexes in every reachable world, spelled
out record by record.
-/

namespace OwnershipRegistry

/-- The tables and their indexes agree, names are unique and plain, resources have their
namespaces, selectors are field elements, and versions count from the first class on. -/
structure Store.WellFormed (s : Store) : Prop where
  namespaceKeyed : ∀ e ∈ s.namespaces.records.entries, e.2.selector = e.1
  namespaceKeys : s.namespaces.records.keys.Nodup
  resourceKeyed : ∀ e ∈ s.resources.records.entries, e.2.selector = e.1
  resourceKeys : s.resources.records.keys.Nodup
  nameIndex : ∀ name key, s.namespaces.selectors.get? name = some key ↔
    ∃ n, s.namespaces.records.get? key = some n ∧ n.name = name
  tagIndex : ∀ tag key, s.resources.selectors.get? tag = some key ↔
    ∃ r, s.resources.records.get? key = some r ∧ r.tag = tag
  uniqueName : ∀ key other n n', s.namespaces.records.get? key = some n →
    s.namespaces.records.get? other = some n' → n.name = n'.name → key = other
  uniquePair : ∀ key other r r', s.resources.records.get? key = some r →
    s.resources.records.get? other = some r' → r.space = r'.space → r.name = r'.name → key = other
  housed : ∀ key r, s.resources.records.get? key = some r →
    ∃ n, s.namespaces.records.get? r.spaceSelector = some n ∧ n.name = r.space
  namespaceBounds : ∀ key n, s.namespaces.records.get? key = some n → 0 < key ∧ key < feltPrime
  resourceBounds : ∀ key r, s.resources.records.get? key = some r → 0 < key ∧ key < feltPrime
  namespaceNames : ∀ key n, s.namespaces.records.get? key = some n → '-' ∉ n.name.toList
  resourceNames : ∀ key r, s.resources.records.get? key = some r →
    '-' ∉ r.space.toList ∧ '-' ∉ r.name.toList
  classes : ∀ key r, s.resources.records.get? key = some r →
    (r.classHash = none ↔ r.version = 1) ∧ 1 ≤ r.version

/-- A sound store is well formed. -/
theorem Store.Sound.wellFormed {s : Store} (h : s.Sound) : s.WellFormed where
  namespaceKeyed := h.namespaces.indexed.keyed
  namespaceKeys := h.namespaces.indexed.keys
  resourceKeyed := h.resources.indexed.keyed
  resourceKeys := h.resources.indexed.keys
  nameIndex _ _ := h.namespaces.indexed.index_get?_iff
  tagIndex _ _ := h.resources.indexed.index_get?_iff
  uniqueName _ _ _ _ hn hn' hname := h.namespaces.indexed.key_unique hn hn' hname
  uniquePair _ _ r r' hr hr' hspace hname := by
    apply h.resources.indexed.key_unique hr hr'
    rw [ResourceRecord.tag, ResourceRecord.tag, hspace, hname]
  housed := h.housed
  namespaceBounds key n hn := by
    have hproper := h.namespaces.proper key n hn
    rw [← h.namespaces.indexed.own_eq hn]
    exact ⟨hproper.positive, hproper.bounded⟩
  resourceBounds key r hr := by
    have hproper := h.resources.proper key r hr
    rw [← h.resources.indexed.own_eq hr]
    exact ⟨hproper.positive, hproper.bounded⟩
  namespaceNames key n hn := Name.hyphen_not_mem (h.namespaces.proper key n hn).named
  resourceNames key r hr := by
    have hproper := h.resources.proper key r hr
    exact ⟨Name.hyphen_not_mem hproper.spaceNamed, Name.hyphen_not_mem hproper.named⟩
  classes key r hr := by
    have hproper := h.resources.proper key r hr
    exact ⟨hproper.classed, hproper.versioned⟩

namespace World

/-- The tables of every reachable world are well formed, also inside of transactions. -/
theorem store_wellFormed {w : World} (h : Reachable w) : w.core.store.WellFormed :=
  h.sound.wellFormed

/-- The tables of the stocked world are well formed, and so they are inside of a transaction that
has just upgraded its resource. -/
theorem store_wellFormed_stocked :
    stocked.core.store.resources.records.keys = [8] ∧ stocked.core.store.WellFormed ∧
      (decide (.upgradeResource 1 (.int 8) 5) stocked.opened).2.core.store.WellFormed :=
  ⟨by decide +kernel, store_wellFormed reachable_stocked,
    store_wellFormed ⟨_, _, run_stocked.entered.called (.flow (.upgradeResource 1 (.int 8) 5))⟩⟩

end World

end OwnershipRegistry
