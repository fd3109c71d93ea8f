import OwnershipRegistry.Proofs.Application
import OwnershipRegistry.Proofs.Plan

/-!
# Carrying a plan out

What the flows of an application make of a store, phase by phase. The
registrations add records without writers, the confirmations change nothing,
and the grants and revocations rewrite the writers of records that are there.
-/

namespace OwnershipRegistry

/-- The selectors derived for the names that a manifest needs are free and distinct, as far as the
names are not registered. -/
structure Manifest.Unclaimed (m : Manifest) (s : Store) : Prop where
  free : ∀ name ∈ m.spaceNames, s.namespaces.selectorOf? name = none →
    s.namespaces.get? (Selector.ofNamespace name) = none
  apart : ∀ name ∈ m.spaceNames, ∀ other ∈ m.spaceNames, s.namespaces.selectorOf? name = none →
    s.namespaces.selectorOf? other = none →
      Selector.ofNamespace name = Selector.ofNamespace other → name = other

/-- A registration that a plan for the manifest can make: a namespace that is not registered, under
the derived selector, or a resource under a tag that splits. -/
inductive PlannedRegistration.Needed (m : Manifest) (s : Store) : PlannedRegistration → Prop
  | space {name : String} (used : name ∈ m.spaceNames) (new : s.namespaces.selectorOf? name = none) :
      Needed m s (.space name (Selector.ofNamespace name))
  | resource {tag space name : String} {key : Int} {kind : ResourceKind} (used : space ∈ m.spaceNames)
      (split : Tag.split? tag none = some (space, name)) : Needed m s (.resource tag key space kind)

/-- A namespace stands at the selector derived for another name, which a store does not know. -/
structure NamespaceRecord.Squats (n : NamespaceRecord) (s : Store) (name : String) : Prop where
  new : s.namespaces.selectorOf? name = none
  place : n.selector = Selector.ofNamespace name
  other : n.name ≠ name

/-- A resource that a registration makes of a tag and its namespace: without writers, and under that
tag unless another namespace squats there. -/
structure ResourceRecord.MadeFor (r : ResourceRecord) (s s' : Store) (tag space : String) : Prop where
  bare : r.writers = []
  placed : r.tag = tag ∧ r.space = space ∨
    ∃ home, s'.namespaces.records.get? r.spaceSelector = some home ∧ home.Squats s space

namespace Store

/-- A declared resource that is registered is confirmed: its selector is accepted, and it is of the
declared kind. -/
def Confirms (policy : Policy) (s : Store) (spec : ResourceSpec) : Prop :=
  ∀ r, s.resources.getByTag? spec.tag = some r →
    policy.validator.accepts r.selector = true ∧ r.kind = spec.kind

/-- A store that has the records of another one and, without writers, those of the registrations
done since, wherever namespaces squat. -/
structure Enlarged (done : List PlannedRegistration) (s s' : Store) : Prop where
  sound : s'.Sound
  oldSpace : ∀ key n, s.namespaces.records.get? key = some n → s'.namespaces.records.get? key = some n
  oldResource : ∀ key r, s.resources.records.get? key = some r → s'.resources.records.get? key = some r
  newSpace : ∀ key n, s'.namespaces.records.get? key = some n →
    s.namespaces.records.get? key = some n ∨ .space n.name key ∈ done
  newResource : ∀ key r, s'.resources.records.get? key = some r →
    s.resources.records.get? key = some r ∨
      ∃ tag space, .resource tag key space r.kind ∈ done ∧ r.MadeFor s s' tag space
  madeSpace : ∀ name key, .space name key ∈ done →
    ∃ n, s'.namespaces.records.get? key = some n ∧ n.name = name ∧ n.writers = []
  madeResource : ∀ tag key space kind, .resource tag key space kind ∈ done →
    s.resources.records.get? key = none ∧
      ∃ r, s'.resources.records.get? key = some r ∧ r.MadeFor s s' tag space

/-- An enlarged store in which all resources that were registered are under their tags. -/
structure Grown (done : List PlannedRegistration) (s s' : Store) : Prop extends Enlarged done s s' where
  tagged : ∀ {tag : String} {key : Int} {space : String} {kind : ResourceKind} {r : ResourceRecord},
    .resource tag key space kind ∈ done → r.MadeFor s s' tag space → r.tag = tag

variable {m : Manifest} {s s' : Store} {done : List PlannedRegistration}

theorem Enlarged.nil (sound : s.Sound) : Enlarged [] s s where
  sound := sound
  oldSpace _ _ h := h
  oldResource _ _ h := h
  newSpace _ _ h := Or.inl h
  newResource _ _ h := Or.inl h
  madeSpace _ _ h := absurd h List.not_mem_nil
  madeResource _ _ _ _ h := absurd h List.not_mem_nil

/-- A namespace that squats goes on squatting when another one is registered. -/
theorem madeFor_addNamespace {r : ResourceRecord} {tag space : String} {n : NamespaceRecord}
    (h : r.MadeFor s s' tag space) (free : s'.namespaces.records.get? n.selector = none) :
    r.MadeFor s (s'.addNamespace n) tag space where
  bare := h.bare
  placed := h.placed.imp id fun ⟨home, hhome, hsquats⟩ =>
    ⟨home, Table.get?_put_of_free n free hhome, hsquats⟩

/-- A new namespace record is one more registration done. -/
theorem Enlarged.addNamespace (h : Enlarged done s s') {n : NamespaceRecord}
    (sound : (s'.addNamespace n).Sound) (bare : n.writers = [])
    (free : s'.namespaces.records.get? n.selector = none) :
    Enlarged (done ++ [.space n.name n.selector]) s (s'.addNamespace n) := by
  constructor
  · exact sound
  · exact fun key n' hn' => Table.get?_put_of_free n free (h.oldSpace key n' hn')
  · exact h.oldResource
  · intro key n' hn'
    rcases Table.get?_put_eq_some_iff.mp hn' with ⟨rfl, rfl⟩ | ⟨-, hn'⟩
    · exact Or.inr (List.mem_append_right _ List.mem_cons_self)
    · exact (h.newSpace key n' hn').imp id (List.mem_append_left _)
  · exact fun key r hr => (h.newResource key r hr).imp id fun ⟨tag, space, hdone, hmade⟩ =>
      ⟨tag, space, List.mem_append_left _ hdone, madeFor_addNamespace hmade free⟩
  · intro name key hmem
    rcases List.mem_append.mp hmem with hmem | hmem
    · obtain ⟨n', hn', hrest⟩ := h.madeSpace name key hmem
      exact ⟨n', Table.get?_put_of_free n free hn', hrest⟩
    · cases List.mem_singleton.mp hmem
      exact ⟨n, Table.get?_put_self _ _ _, rfl, bare⟩
  · intro tag key space kind hmem
    rcases List.mem_append.mp hmem with hmem | hmem
    · obtain ⟨hfree, r, hr, hmade⟩ := h.madeResource tag key space kind hmem
      exact ⟨hfree, r, hr, madeFor_addNamespace hmade free⟩
    · cases List.mem_singleton.mp hmem

/-- A new resource record is one more registration done. -/
theorem Enlarged.addResource (h : Enlarged done s s') {r : ResourceRecord}
    (sound : (s'.addResource r).Sound) (free : s'.resources.records.get? r.selector = none)
    {tag space : String} (made : r.MadeFor s s' tag space) :
    Enlarged (done ++ [.resource tag r.selector space r.kind]) s (s'.addResource r) := by
  constructor
  · exact sound
  · exact h.oldSpace
  · exact fun key r' hr' => Table.get?_put_of_free r free (h.oldResource key r' hr')
  · exact fun key n hn => (h.newSpace key n hn).imp id (List.mem_append_left _)
  · intro key r' hr'
    rcases Table.get?_put_eq_some_iff.mp hr' with ⟨rfl, rfl⟩ | ⟨-, hr'⟩
    · exact Or.inr ⟨tag, space, List.mem_append_right _ List.mem_cons_self, made.bare, made.placed⟩
    · exact (h.newResource key r' hr').imp id fun ⟨tag', space', hdone, hmade⟩ =>
        ⟨tag', space', List.mem_append_left _ hdone, hmade.bare, hmade.placed⟩
  · intro name key hmem
    rcases List.mem_append.mp hmem with hmem | hmem
    · exact h.madeSpace name key hmem
    · cases List.mem_singleton.mp hmem
  · intro tag' key space' kind hmem
    rcases List.mem_append.mp hmem with hmem | hmem
    · obtain ⟨hfree, r', hr', hmade⟩ := h.madeResource tag' key space' kind hmem
      exact ⟨hfree, r', Table.get?_put_of_free r free hr', hmade.bare, hmade.placed⟩
    · cases List.mem_singleton.mp hmem
      refine ⟨?_, r, Table.get?_put_self _ _ _, made.bare, made.placed⟩
      cases hold : s.resources.records.get? r.selector with
      | none => rfl
      | some old => exact absurd ((h.oldResource _ old hold).symm.trans free) (by simp)

/-- A name that the larger store does not know was not known before. -/
theorem Enlarged.new_of_new (h : Enlarged done s s') (before : s.Sound) {name : String}
    (new : s'.namespaces.selectorOf? name = none) : s.namespaces.selectorOf? name = none := by
  cases hbefore : s.namespaces.selectorOf? name with
  | none => rfl
  | some key =>
      obtain ⟨n, hn, hname⟩ := before.namespaces.indexed.index_get?_iff.mp hbefore
      have hstill := h.sound.namespaces.indexed.index_get?_iff.mpr ⟨n, h.oldSpace key n hn, hname⟩
      exact absurd (hstill.symm.trans new) (by simp)

/-- Where a store looks for a namespace, it finds the one with the name, or one that squats there. -/
theorem Enlarged.home (h : Enlarged done s s') (before : s.Sound) {space : String} {home : NamespaceRecord}
    (found : s'.namespaces.records.get? (s'.namespaceSelector space) = some home) :
    home.name = space ∨ home.Squats s space := by
  have hown := h.sound.namespaces.indexed.own_eq found
  unfold namespaceSelector at found hown
  cases hselector : s'.namespaces.selectorOf? space with
  | some key =>
      rw [hselector] at found
      obtain ⟨n, hn, hname⟩ := h.sound.namespaces.indexed.index_get?_iff.mp hselector
      obtain rfl : n = home := Option.some.inj (hn.symm.trans found)
      exact Or.inl hname
  | none =>
      rw [hselector] at hown
      by_cases hname : home.name = space
      · exact Or.inl hname
      · exact Or.inr ⟨h.new_of_new before hselector, hown, hname⟩

/-- No namespace squats where the manifest uses a name: neither an old one nor one done since stands
under the selector derived for another name. -/
theorem Enlarged.not_squats (h : Enlarged done s s') (unclaimed : m.Unclaimed s)
    (needed : ∀ item ∈ done, item.Needed m s) {space : String} (used : space ∈ m.spaceNames) {key : Int}
    {home : NamespaceRecord} (found : s'.namespaces.records.get? key = some home) :
    ¬ home.Squats s space := by
  rintro ⟨hnew, hplace, hother⟩
  have hkey : key = Selector.ofNamespace space :=
    (h.sound.namespaces.indexed.own_eq found).symm.trans hplace
  rcases h.newSpace key home found with hold | hdone
  · have hfree : s.namespaces.records.get? (Selector.ofNamespace space) = none :=
      unclaimed.free space used hnew
    rw [hkey, hfree] at hold
    cases hold
  · have hneeded := needed _ hdone
    cases hneeded with
    | space used' new' =>
        have hsame : Selector.ofNamespace home.name = Selector.ofNamespace space := by
          exact_mod_cast hkey
        exact hother (unclaimed.apart home.name used' space used new' hnew hsame)

/-- Where no namespace squats, all registrations are done under their tags. -/
theorem Enlarged.grown (h : Enlarged done s s') (unclaimed : m.Unclaimed s)
    (needed : ∀ item ∈ done, item.Needed m s) : Grown done s s' where
  toEnlarged := h
  tagged planned made := by
    rcases made.placed with hplaced | ⟨home, hhome, hsquats⟩
    · exact hplaced.1
    · cases needed _ planned with
      | resource used split => exact absurd hsquats (h.not_squats unclaimed needed used hhome)

end Store

/-- A writer change rewrites the writers of the one record that it names. -/
def WriterChange.rewrite (change : Int → IntSet → IntSet) (c : WriterChange) (target : Target) (key : Int)
    (writers : Writers) : Writers :=
  if target = c.target ∧ key = c.selector then change c.writer writers else writers

/-- Several writer changes rewrite the writers one after the other. -/
def WriterChange.rewriteAll (change : Int → IntSet → IntSet) (cs : List WriterChange) (target : Target)
    (key : Int) (writers : Writers) : Writers :=
  cs.foldl (fun ws c => c.rewrite change target key ws) writers

namespace WriterChange

variable {c : WriterChange} {cs : List WriterChange} {target : Target} {key x : Int} {writers : Writers}

/-- A grant adds the writer that it names. -/
theorem mem_rewrite_insert : x ∈ c.rewrite IntSet.insert target key writers ↔
    x ∈ writers ∨ (c.target = target ∧ c.selector = key ∧ c.writer = x) := by
  unfold rewrite
  by_cases hnamed : target = c.target ∧ key = c.selector
  · obtain ⟨rfl, rfl⟩ := hnamed
    rw [if_pos ⟨rfl, rfl⟩, IntSet.mem_insert]
    simp [or_comm, eq_comm]
  · rw [if_neg hnamed]
    constructor
    · exact Or.inl
    · rintro (h | ⟨ht, hk, -⟩)
      · exact h
      · exact absurd ⟨ht.symm, hk.symm⟩ hnamed

/-- Grants add the writers that they name. -/
theorem mem_rewriteAll_insert : x ∈ rewriteAll IntSet.insert cs target key writers ↔
    x ∈ writers ∨ ∃ c ∈ cs, c.target = target ∧ c.selector = key ∧ c.writer = x := by
  induction cs generalizing writers with
  | nil => simp [rewriteAll]
  | cons c rest ih =>
      have hrest : _ ↔ x ∈ c.rewrite IntSet.insert target key writers ∨ _ := ih
      rw [mem_rewrite_insert] at hrest
      simp only [List.mem_cons, exists_eq_or_imp]
      rw [← or_assoc]
      exact hrest

/-- A revocation removes the writer that it names. -/
theorem mem_rewrite_erase : x ∈ c.rewrite IntSet.erase target key writers ↔
    x ∈ writers ∧ ¬ (c.target = target ∧ c.selector = key ∧ c.writer = x) := by
  unfold rewrite
  by_cases hnamed : target = c.target ∧ key = c.selector
  · obtain ⟨rfl, rfl⟩ := hnamed
    rw [if_pos ⟨rfl, rfl⟩, IntSet.mem_erase]
    simp [eq_comm]
  · rw [if_neg hnamed]
    constructor
    · exact fun h => ⟨h, fun hc => hnamed ⟨hc.1.symm, hc.2.1.symm⟩⟩
    · exact fun h => h.1

/-- Revocations remove the writers that they name. -/
theorem mem_rewriteAll_erase : x ∈ rewriteAll IntSet.erase cs target key writers ↔
    x ∈ writers ∧ ¬ ∃ c ∈ cs, c.target = target ∧ c.selector = key ∧ c.writer = x := by
  induction cs generalizing writers with
  | nil => simp [rewriteAll]
  | cons c rest ih =>
      have hrest : _ ↔ x ∈ c.rewrite IntSet.erase target key writers ∧ _ := ih
      rw [mem_rewrite_erase] at hrest
      simp only [List.mem_cons, exists_eq_or_imp, not_or]
      rw [← and_assoc]
      exact hrest

/-- Changes that do not name a record leave its writers as they are. -/
theorem rewriteAll_of_unnamed {change : Int → IntSet → IntSet}
    (unnamed : ∀ c ∈ cs, ¬ (c.target = target ∧ c.selector = key)) :
    rewriteAll change cs target key writers = writers := by
  induction cs with
  | nil => rfl
  | cons c rest ih =>
      have hfirst : c.rewrite change target key writers = writers := by
        unfold rewrite
        exact if_neg fun hnamed => unnamed c List.mem_cons_self ⟨hnamed.1.symm, hnamed.2.symm⟩
      have hstep : rewriteAll change (c :: rest) target key writers =
          rewriteAll change rest target key (c.rewrite change target key writers) := rfl
      rw [hstep, hfirst]
      exact ih fun c hc => unnamed c (List.mem_cons_of_mem _ hc)

section Ascending

variable {change : Int → IntSet → IntSet}
  (kept : ∀ {x : Int} {ws : IntSet}, IntSet.Ascending ws → IntSet.Ascending (change x ws))

include kept

/-- A change that keeps sets ascending does so in the record that it names. -/
theorem ascending_rewrite (h : IntSet.Ascending writers) :
    IntSet.Ascending (c.rewrite change target key writers) := by
  unfold rewrite
  by_cases hnamed : target = c.target ∧ key = c.selector
  · rw [if_pos hnamed]
    exact kept h
  · rw [if_neg hnamed]
    exact h

/-- Changes that keep sets ascending do so one after the other. -/
theorem ascending_rewriteAll (h : IntSet.Ascending writers) :
    IntSet.Ascending (rewriteAll change cs target key writers) := by
  induction cs generalizing writers with
  | nil => exact h
  | cons c rest ih => exact ih (ascending_rewrite kept h)

end Ascending

end WriterChange

namespace Store

variable {s s' s'' : Store} {key : Int}

/-- A store whose records are those of another one up to their writers, which are rewritten. -/
structure Rewritten (rewrite : Target → Int → Writers → Writers) (s s' : Store) : Prop where
  spaces : ∀ key, s'.namespaces.records.get? key =
    (s.namespaces.records.get? key).map fun n => { n with writers := rewrite .space key n.writers }
  resources : ∀ key, s'.resources.records.get? key =
    (s.resources.records.get? key).map fun r => { r with writers := rewrite .resource key r.writers }

theorem Rewritten.refl (s : Store) : Rewritten (fun _ _ writers => writers) s s where
  spaces key := by simp
  resources key := by simp

theorem Rewritten.trans {f g : Target → Int → Writers → Writers} (h : Rewritten f s s')
    (h' : Rewritten g s' s'') : Rewritten (fun t k writers => g t k (f t k writers)) s s'' where
  spaces key := by simp [h'.spaces, h.spaces, Function.comp_def]
  resources key := by simp [h'.resources, h.resources, Function.comp_def]

theorem rewritten_setWriters {change : Int → IntSet → IntSet} {name : String} {writer : Int}
    {n : NamespaceRecord} (found : s.namespaces.records.get? key = some n) :
    Rewritten (WriterChange.rewrite change ⟨.space, name, key, writer⟩) s
      (s.setWriters key n (change writer n.writers)) where
  spaces other := by
    have hget : (s.setWriters key n (change writer n.writers)).namespaces.records.get? other = _ :=
      Table.get?_put _ _ _ _
    rw [hget]
    by_cases hkey : other = key
    · subst hkey
      simp [found, WriterChange.rewrite]
    · simp [hkey, WriterChange.rewrite]
  resources other := by simp [setWriters, WriterChange.rewrite]

theorem rewritten_setResource {change : Int → IntSet → IntSet} {name : String} {writer : Int}
    {r : ResourceRecord} (found : s.resources.records.get? key = some r) :
    Rewritten (WriterChange.rewrite change ⟨.resource, name, key, writer⟩) s
      (s.setResource key { r with writers := change writer r.writers }) where
  spaces other := by simp [setResource, WriterChange.rewrite]
  resources other := by
    have hget : (s.setResource key { r with writers := change writer r.writers }).resources.records.get?
      other = _ := Table.get?_put _ _ _ _
    rw [hget]
    by_cases hkey : other = key
    · subst hkey
      simp [found, WriterChange.rewrite]
    · simp [hkey, WriterChange.rewrite]

end Store

namespace World

open Store (Enlarged Rewritten)

variable {m : Manifest} {s : Store} {core : Core} {done items : List PlannedRegistration}
  {item : PlannedRegistration} {caller : Int}

/-- A planned registration that succeeds is done. -/
theorem enlarged_of_registration (h : Enlarged done s core.store) (before : s.Sound)
    (next : item.Needed m s) (passes : core.Passes (registrationFlows caller item core)) :
    Enlarged (done ++ [item]) s (core.afterAll (registrationFlows caller item core)).store := by
  cases next with
  | @space name used new =>
      have hflows : registrationFlows caller (.space name (Selector.ofNamespace name)) core =
          [.registerNamespace caller name (some (.int (Selector.ofNamespace name)))] := rfl
      rw [hflows] at passes ⊢
      obtain ⟨effect, hmakes, hstore, -⟩ := Core.makes_of_passes h.sound passes
      have hsound := hmakes.sound h.sound
      rw [Core.afterAll_singleton, hstore]
      cases hmakes with
      | registerNamespace named account chosen accepted freeKey freeName =>
          cases chosen
          exact h.addNamespace hsound rfl freeKey
  | @resource tag space name key kind used split =>
      rw [registrationFlows_resource split] at passes ⊢
      obtain ⟨effect, hmakes, hstore, -⟩ := Core.makes_of_passes h.sound passes
      have hsound := hmakes.sound h.sound
      rw [Core.afterAll_singleton, hstore]
      cases hmakes with
      | @registerResource _ _ _ _ _ _ kind' home r named known acceptedSpace found chosen accepted
          writable fresh freeKey freeTag =>
          cases chosen
          obtain rfl : kind = kind' := by simpa using known
          have hmade : r.MadeFor s core.store tag space := by
            subst fresh
            refine ⟨rfl, (h.home before found).imp (fun hhome => ⟨?_, hhome⟩) fun hsquats => ?_⟩
            · rw [(Tag.eq_join_of_split? split).1, ResourceRecord.tag, hhome]
            · exact ⟨home, found, hsquats⟩
          subst fresh
          exact h.addResource hsound freeKey hmade

/-- Planned registrations that succeed one after the other are done. -/
theorem enlarged_of_registrations (h : Enlarged done s core.store) (before : s.Sound)
    (needed : ∀ item ∈ items, item.Needed m s)
    (passes : core.Passes (flowsOf (registrationFlows caller) items core)) :
    Enlarged (done ++ items) s (core.afterAll (flowsOf (registrationFlows caller) items core)).store := by
  induction items generalizing done core with
  | nil =>
      rw [List.append_nil]
      exact h
  | cons item rest ih =>
      rw [flowsOf] at passes ⊢
      obtain ⟨hfirst, hrest⟩ := Core.passes_append.mp passes
      have hdone := enlarged_of_registration h before (needed item List.mem_cons_self) hfirst
      rw [Core.afterAll_append, List.append_cons]
      exact ih hdone (fun i hi => needed i (List.mem_cons_of_mem _ hi)) hrest

/-- A confirmation succeeds exactly when it confirms the kind, and then changes nothing. -/
theorem confirms_iff {spec : ResourceSpec} (sound : core.store.Sound) :
    (core.Passes (confirmationFlows spec core) ∧
      (core.afterAll (confirmationFlows spec core)).store = s) ↔
    core.store.Confirms core.policy spec ∧ core.store = s := by
  unfold confirmationFlows Store.Confirms
  cases hfound : core.store.resources.getByTag? spec.tag with
  | none => simp [Core.Passes, Core.afterAll]
  | some r =>
      have hkey := ((ResourceTable.getByTag?_eq_some_iff sound.resources).mp hfound).1
      simp only [Option.some.injEq, forall_eq']
      rw [Core.passes_singleton_iff sound]
      constructor
      · rintro ⟨effect, hmakes, rfl⟩
        refine ⟨?_, (hmakes.store_eq rfl).symm⟩
        cases hmakes with
        | resolveKind known accepted found same =>
            obtain rfl := Option.some.inj (hkey.symm.trans found)
            rw [ResourceKind.ofWord?_word] at known
            exact ⟨accepted, same.trans (Option.some.inj known).symm⟩
      · rintro ⟨⟨accepted, same⟩, rfl⟩
        exact ⟨_, .resolveKind (ResourceKind.ofWord?_word spec.kind) accepted hkey same, rfl⟩

/-- Confirmations all succeed exactly when they confirm the kinds, and then change nothing. -/
theorem confirmsAll_iff {specs : List ResourceSpec} (sound : core.store.Sound) :
    (core.Passes (flowsOf confirmationFlows specs core) ∧
      (core.afterAll (flowsOf confirmationFlows specs core)).store = s) ↔
    (∀ spec ∈ specs, core.store.Confirms core.policy spec) ∧ core.store = s := by
  induction specs generalizing core with
  | nil => simp [flowsOf, Core.Passes, Core.afterAll]
  | cons spec rest ih =>
      have hrest := ih (Core.sound_afterAll sound (confirmationFlows spec core))
      rw [Core.afterAll_policy] at hrest
      rw [flowsOf, Core.passes_append, Core.afterAll_append, and_assoc, hrest, List.forall_mem_cons]
      constructor
      · rintro ⟨hfirst, hlater, hend⟩
        obtain ⟨hconfirms, hstill⟩ := (confirms_iff sound).mp ⟨hfirst, rfl⟩
        rw [← hstill] at hlater hend
        exact ⟨⟨hconfirms, hlater⟩, hend⟩
      · rintro ⟨⟨hconfirms, hlater⟩, hend⟩
        obtain ⟨hfirst, hstill⟩ := (confirms_iff sound).mpr ⟨hconfirms, rfl⟩
        rw [hstill]
        exact ⟨hfirst, hlater, hend⟩

/-- A grant that succeeds adds its writer. -/
theorem rewritten_of_grant {c : WriterChange} {effect : Effect}
    (h : core.Makes (grantFlow caller c) effect) :
    Rewritten (c.rewrite IntSet.insert) core.store effect.store := by
  obtain ⟨target, name, selector, writer⟩ := c
  cases target with
  | space =>
      cases h with
      | grantNamespaceWriter accepted found owned => exact Store.rewritten_setWriters found
  | resource =>
      cases h with
      | grantWriter accepted found owned => exact Store.rewritten_setResource found

/-- A revocation that succeeds removes its writer. -/
theorem rewritten_of_revoke {c : WriterChange} {effect : Effect}
    (h : core.Makes (revokeFlow caller c) effect) :
    Rewritten (c.rewrite IntSet.erase) core.store effect.store := by
  obtain ⟨target, name, selector, writer⟩ := c
  cases target with
  | space =>
      cases h with
      | revokeNamespaceWriter accepted found owned => exact Store.rewritten_setWriters found
  | resource =>
      cases h with
      | revokeWriter accepted found owned => exact Store.rewritten_setResource found

/-- Writer changes that succeed one after the other rewrite the writers one after the other. -/
theorem rewritten_of_changes {change : Int → IntSet → IntSet} {flow : WriterChange → Flow}
    (one : ∀ {core : Core} {c : WriterChange} {effect : Effect}, core.Makes (flow c) effect →
      Rewritten (c.rewrite change) core.store effect.store)
    {cs : List WriterChange} (sound : core.store.Sound) (passes : core.Passes (cs.map flow)) :
    Rewritten (WriterChange.rewriteAll change cs) core.store (core.afterAll (cs.map flow)).store := by
  induction cs generalizing core with
  | nil => exact Rewritten.refl core.store
  | cons c rest ih =>
      obtain ⟨effect, hmakes, hstore, hrest⟩ := Core.makes_of_passes sound passes
      have hlater := ih (Core.sound_after sound (flow c)) hrest
      have hfirst := one hmakes
      rw [← hstore] at hfirst
      exact hfirst.trans hlater

end World

end OwnershipRegistry
