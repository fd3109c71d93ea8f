import OwnershipRegistry.Proofs.Run

/-!
# Look-ups and scans

A record can be looked up by its label through the index, or searched for in a
snapshot, which knows the records alone. Both find the same. The lists of all
records are ordered by the label, and have every record once.
-/

namespace OwnershipRegistry

/-- A list of all records of a table, strictly ascending by their labels. -/
structure Listing {α : Type} [BEq α] (label : α → String) (records : Table Int α) (listed : List α) :
    Prop where
  ascending : listed.Pairwise fun a b => label a < label b
  once : ∀ key r, records.get? key = some r → listed.count r = 1
  only : ∀ r ∈ listed, ∃ key, records.get? key = some r

namespace Listing

variable {α : Type} {label : α → String} {own : α → Int} {records : Table Int α}
  {index : Table String Int}

/-- Sorting by distinct labels leaves no two of them equal. -/
theorem ascending_mergeSort {values : List α} (distinct : (values.map label).Nodup) :
    (values.mergeSort fun a b => !decide (label b < label a)).Pairwise fun a b => label a < label b := by
  have hordered : (values.mergeSort fun a b => !decide (label b < label a)).Pairwise
      fun a b => (!decide (label b < label a)) = true := by
    apply List.pairwise_mergeSort
    · intro a b c hab hbc
      simp only [Bool.not_eq_true', decide_eq_false_iff_not, String.not_lt] at hab hbc ⊢
      exact String.le_trans hab hbc
    · intro a b
      simp only [Bool.or_eq_true, Bool.not_eq_true', decide_eq_false_iff_not, String.not_lt]
      exact String.le_total (label a) (label b)
  have hperm := (List.mergeSort_perm values fun a b => !decide (label b < label a)).map label
  have hdistinct := List.pairwise_map.mp (hperm.nodup_iff.mpr distinct)
  refine hordered.imp₂ (fun a b hle hne => ?_) hdistinct
  simp only [Bool.not_eq_true', decide_eq_false_iff_not, String.not_lt] at hle
  by_contra hlt
  exact hne (String.le_antisymm hle (String.not_lt.mp hlt))

/-- The records of an indexed table, sorted by their labels, are such a list. -/
theorem of_indexed [BEq α] [LawfulBEq α] (h : Indexed label own records index) :
    Listing label records (records.values.mergeSort fun a b => !decide (label b < label a)) where
  ascending := ascending_mergeSort h.labels
  once key r hr := by
    have hmem : r ∈ records.values := (Table.mem_values_iff h.keys).mpr ⟨key, hr⟩
    rw [(List.mergeSort_perm _ _).count_eq]
    exact List.count_eq_one_of_mem h.labels.of_map hmem
  only r hr := (Table.mem_values_iff h.keys).mp (List.mem_mergeSort.mp hr)

end Listing

namespace World

variable {w : World}

/-- In a reachable world, looking up a tag and searching for it give the same answer. A namespace that
is found by searching for its name is the one at the selector of the name, and a name that is not
found has the selector that is derived from it. The lists of all namespaces and of all resources are
in order and complete. -/
theorem lookups_agree (reachable : Reachable w) :
    (∀ tag, (Query.resourceOfTag tag).answer w = (Query.resourceTagged tag).answer w) ∧
      (∀ name, (∃ n, (Query.namespaceNamed name).answer w = .ok (.namespace n) ∧
          (Query.selectorOf name).answer w = .ok (.value (.int n.selector)) ∧
          (Query.namespaceAt (.int n.selector)).answer w = .ok (.namespace n)) ∨
        (Query.namespaceNamed name).answer w = .ok .nothing ∧
          (Query.selectorOf name).answer w = .ok (.value (.int (Selector.ofNamespace name)))) ∧
      (∃ listed, Query.resources.answer w = .ok (.resources listed) ∧
        Listing ResourceRecord.tag w.core.store.resources.records listed) ∧
      ∃ listed, Query.namespaces.answer w = .ok (.namespaces listed) ∧
        Listing NamespaceRecord.name w.core.store.namespaces.records listed := by
  have hsound := reachable.sound
  refine ⟨fun tag => ?_, fun name => ?_, ⟨_, rfl, ?_⟩, ⟨_, rfl, ?_⟩⟩
  · rw [Query.answer, Query.answer, hsound.resourceByTag_eq]
  · simp only [Query.answer, hsound.namespaceByName_eq]
    cases hfound : w.core.store.namespaces.getByName? name with
    | some n =>
        obtain ⟨hselector, hget⟩ := hsound.get?_namespaceSelector hfound
        refine Or.inl ⟨n, rfl, by rw [hselector], ?_⟩
        exact congrArg (fun found => Except.ok (Answer.ofOption .namespace found)) hget
    | none =>
        have hnew := hsound.getByName?_eq_none_iff.mp hfound
        exact Or.inr ⟨rfl, by rw [Store.namespaceSelector_of_new hnew]⟩
  · exact Listing.of_indexed hsound.resources.indexed
  · exact Listing.of_indexed hsound.namespaces.indexed

/-- In the stocked world the tag of the resource and the name of the namespace are found, and a name
that is not registered has its derived selector. -/
theorem lookups_agree_stocked :
    (Query.resourceOfTag "game-player").answer stocked =
        .ok (.resource ⟨"game", "player", 8, 7, 1, .model, [], none, 1⟩) ∧
      (Query.selectorOf "game").answer stocked = .ok (.value (.int 7)) ∧
      (Query.selectorOf "arena").answer stocked = .ok (.value (.int (Selector.ofNamespace "arena"))) := by
  obtain ⟨htagged, hnamed, -, -⟩ := lookups_agree reachable_stocked
  have hgame : (Query.namespaceNamed "game").answer stocked = .ok (.namespace ⟨"game", 7, 1, []⟩) := by rfl
  have harena : (Query.namespaceNamed "arena").answer stocked = .ok .nothing := by rfl
  refine ⟨?_, ?_, ?_⟩
  · rw [htagged]
    rfl
  · obtain ⟨n, hfound, hselector, -⟩ | ⟨hmissing, -⟩ := hnamed "game"
    · rw [hgame] at hfound
      cases hfound
      exact hselector
    · rw [hgame] at hmissing
      cases hmissing
  · obtain ⟨n, hfound, -⟩ | ⟨-, hselector⟩ := hnamed "arena"
    · rw [harena] at hfound
      cases hfound
    · exact hselector

end World

end OwnershipRegistry
