import OwnershipRegistry.Proofs.Plan

/-!
# Stores as sets of entries

A sound store is determined by its entries: the namespaces and the resources
that it has under their own selectors. Entries can be added when their selector
and their label are free, and those that stand apart from each other can be
added in any order.
-/

namespace OwnershipRegistry

/-- A record of one of the two tables. -/
inductive Entry where
  | space (n : NamespaceRecord)
  | resource (r : ResourceRecord)

namespace Entry

/-- The table that an entry belongs to. -/
def target : Entry → Target
  | space _ => .space
  | resource _ => .resource

/-- The selector of an entry. -/
def selector : Entry → Int
  | space n => n.selector
  | resource r => r.selector

/-- The name of a namespace or the tag of a resource. -/
def label : Entry → String
  | space n => n.name
  | resource r => r.tag

/-- Entries that can stand beside each other: in different tables, or with different selectors and
different labels. -/
def Apart (e e' : Entry) : Prop := e.target = e'.target → e.selector ≠ e'.selector ∧ e.label ≠ e'.label

theorem Apart.symm {e e' : Entry} (h : e.Apart e') : e'.Apart e :=
  fun htarget => (h htarget.symm).imp Ne.symm Ne.symm

end Entry

namespace Store

/-- A store has an entry under the entry's own selector. -/
def Has (s : Store) : Entry → Prop
  | .space n => s.namespaces.records.get? n.selector = some n
  | .resource r => s.resources.records.get? r.selector = some r

/-- Register an entry. -/
def add (s : Store) : Entry → Store
  | .space n => s.addNamespace n
  | .resource r => s.addResource r

/-- Register several entries. -/
def addAll (s : Store) (es : List Entry) : Store := es.foldl add s

/-- Every entry of a store stands apart from another one. -/
def Free (s : Store) (e : Entry) : Prop := ∀ e', s.Has e' → e'.Apart e

/-- Entries that can all be added: each is free, and they stand apart from each other. -/
structure Admits (s : Store) (es : List Entry) : Prop where
  free : ∀ e ∈ es, s.Free e
  apart : es.Pairwise Entry.Apart

/-- Stores with the same entries. -/
def Alike (s s' : Store) : Prop := ∀ e, s.Has e ↔ s'.Has e

variable {s s' s'' : Store} {e e' : Entry} {es es' : List Entry} {n : NamespaceRecord} {r : ResourceRecord}
  {key : Int}

theorem Alike.refl (s : Store) : s.Alike s := fun _ => Iff.rfl

theorem Alike.free_iff (h : s.Alike s') : s.Free e ↔ s'.Free e :=
  forall_congr' fun e' => imp_congr_left (h e')

/-- What is found in the tables are the entries of a store. -/
theorem Sound.space_iff (h : s.Sound) :
    s.namespaces.records.get? key = some n ↔ s.Has (.space n) ∧ n.selector = key :=
  h.namespaces.indexed.get?_iff

theorem Sound.resource_iff (h : s.Sound) :
    s.resources.records.get? key = some r ↔ s.Has (.resource r) ∧ r.selector = key :=
  h.resources.indexed.get?_iff

section Alike

variable (sound : s.Sound) (sound' : s'.Sound)

include sound sound'

/-- Stores that have the same namespaces find the same namespace at every selector. -/
theorem spaces_eq (same : ∀ n, s.Has (.space n) ↔ s'.Has (.space n)) (key : Int) :
    s.namespaces.records.get? key = s'.namespaces.records.get? key := by
  apply Option.ext
  intro n
  rw [sound.space_iff, sound'.space_iff, same n]

theorem resources_eq (same : ∀ r, s.Has (.resource r) ↔ s'.Has (.resource r)) (key : Int) :
    s.resources.records.get? key = s'.resources.records.get? key := by
  apply Option.ext
  intro r
  rw [sound.resource_iff, sound'.resource_iff, same r]

/-- Stores that have the same namespaces lead every name to the same selector. -/
theorem namespaceSelector_eq (same : ∀ n, s.Has (.space n) ↔ s'.Has (.space n)) (name : String) :
    s.namespaceSelector name = s'.namespaceSelector name := by
  have hselectors : s.namespaces.selectors.get? name = s'.namespaces.selectors.get? name := by
    apply Option.ext
    intro key
    rw [sound.namespaces.indexed.index_get?_iff, sound'.namespaces.indexed.index_get?_iff]
    simp only [spaces_eq sound sound' same]
  unfold namespaceSelector NamespaceTable.selectorOf?
  rw [hselectors]

theorem getByTag?_eq (same : ∀ r, s.Has (.resource r) ↔ s'.Has (.resource r)) (tag : String) :
    s.resources.getByTag? tag = s'.resources.getByTag? tag := by
  apply Option.ext
  intro r
  rw [ResourceTable.getByTag?_eq_some_iff sound.resources, ResourceTable.getByTag?_eq_some_iff sound'.resources,
    resources_eq sound sound' same]

end Alike

/-- A namespace is free when neither its selector nor its name is bound. -/
theorem Sound.free_space_iff (h : s.Sound) : s.Free (.space n) ↔
    s.namespaces.records.get? n.selector = none ∧ s.namespaces.selectors.get? n.name = none := by
  rw [h.namespaces.indexed.free_iff]
  constructor
  · exact fun hfree n' hn' => hfree (.space n') hn' rfl
  · rintro hother (n' | r') hhas htarget
    · exact hother n' hhas
    · cases htarget

/-- A resource is free when neither its selector nor its tag is bound. -/
theorem Sound.free_resource_iff (h : s.Sound) : s.Free (.resource r) ↔
    s.resources.records.get? r.selector = none ∧ s.resources.selectors.get? r.tag = none := by
  rw [h.resources.indexed.free_iff]
  constructor
  · exact fun hfree r' hr' => hfree (.resource r') hr' rfl
  · rintro hother (n' | r') hhas htarget
    · cases htarget
    · exact hother r' hhas

/-- A store has an entry that was added where it was free, and the entries from before. -/
theorem has_add (free : s.Free e) : (s.add e).Has e' ↔ e' = e ∨ s.Has e' := by
  cases e with
  | space n =>
      cases e' with
      | resource r' => simp [add, addNamespace, Has]
      | space n' =>
          have hput : (s.add (.space n)).Has (.space n') ↔ _ := Table.get?_put_eq_some_iff
          rw [hput, Entry.space.injEq]
          constructor
          · rintro (⟨-, rfl⟩ | ⟨-, hold⟩)
            · exact Or.inl rfl
            · exact Or.inr hold
          · rintro (rfl | hold)
            · exact Or.inl ⟨rfl, rfl⟩
            · exact Or.inr ⟨(free (.space n') hold rfl).1, hold⟩
  | resource r =>
      cases e' with
      | space n' => simp [add, addResource, Has]
      | resource r' =>
          have hput : (s.add (.resource r)).Has (.resource r') ↔ _ := Table.get?_put_eq_some_iff
          rw [hput, Entry.resource.injEq]
          constructor
          · rintro (⟨-, rfl⟩ | ⟨-, hold⟩)
            · exact Or.inl rfl
            · exact Or.inr hold
          · rintro (rfl | hold)
            · exact Or.inl ⟨rfl, rfl⟩
            · exact Or.inr ⟨(free (.resource r') hold rfl).1, hold⟩

/-- What is free after an entry was added stands apart from it and was free before. -/
theorem free_add_iff (free : s.Free e) : (s.add e).Free e' ↔ e.Apart e' ∧ s.Free e' := by
  unfold Free
  simp only [has_add free, forall_eq_or_imp]

/-- Entries can all be added when the first one can, and then the others. -/
theorem admits_cons : s.Admits (e :: es) ↔ s.Free e ∧ (s.add e).Admits es := by
  constructor
  · intro h
    have hfree := h.free e List.mem_cons_self
    obtain ⟨hapart, hrest⟩ := List.pairwise_cons.mp h.apart
    refine ⟨hfree, fun e' he' => ?_, hrest⟩
    exact (free_add_iff hfree).mpr ⟨hapart e' he', h.free e' (List.mem_cons_of_mem _ he')⟩
  · rintro ⟨hfree, hrest⟩
    have hothers := fun e' he' => (free_add_iff hfree).mp (hrest.free e' he')
    constructor
    · intro e' he'
      rcases List.mem_cons.mp he' with rfl | he'
      · exact hfree
      · exact (hothers e' he').2
    · exact List.pairwise_cons.mpr ⟨fun e' he' => (hothers e' he').1, hrest.apart⟩

/-- A store has all the entries that were added to it, and those from before. -/
theorem has_addAll (h : s.Admits es) : (s.addAll es).Has e ↔ e ∈ es ∨ s.Has e := by
  induction es generalizing s with
  | nil => simp [addAll]
  | cons first rest ih =>
      obtain ⟨hfree, hrest⟩ := admits_cons.mp h
      have hstep : s.addAll (first :: rest) = (s.add first).addAll rest := rfl
      rw [hstep, ih hrest, has_add hfree, List.mem_cons]
      tauto

/-- Whether entries can all be added does not depend on their order. -/
theorem Admits.perm (h : s.Admits es) (perm : es.Perm es') : s.Admits es' where
  free e he := h.free e (perm.mem_iff.mpr he)
  apart := (perm.pairwise_iff Entry.Apart.symm).mp h.apart

/-- Nor does it depend on more than the entries that the store has. -/
theorem Admits.alike (h : s.Admits es) (alike : s.Alike s') : s'.Admits es where
  free e he := alike.free_iff.mp (h.free e he)
  apart := h.apart

/-- Added in any order, entries make the same of a store. -/
theorem Alike.addAll (alike : s.Alike s') (perm : es.Perm es') (h : s.Admits es) :
    (s.addAll es).Alike (s'.addAll es') := by
  intro e
  rw [has_addAll h, has_addAll ((h.perm perm).alike alike), perm.mem_iff, alike e]

end Store

end OwnershipRegistry
