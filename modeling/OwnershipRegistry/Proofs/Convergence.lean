import OwnershipRegistry.Proofs.Carrying
import OwnershipRegistry.Proofs.Run

/-!
# Convergence of manifests

Applying a manifest leads to what it declares: every declared record is there
with its declared writers, every other record is as it was, and a further plan
for the manifest is empty.
-/

namespace OwnershipRegistry

/-- The label and the writers of the record at a selector. -/
def Store.entry? (s : Store) : Target → Int → Option (String × Writers)
  | .space, key => (s.namespaces.records.get? key).map fun n => (n.name, n.writers)
  | .resource, key => (s.resources.records.get? key).map fun r => (r.tag, r.writers)

/-- A store `s'` that has what a manifest declares, and is like `s` apart from that. -/
structure Converged (m : Manifest) (s s' : Store) : Prop where
  spaces : ∀ spec ∈ m.namespaces, ∃ n, s'.namespaces.getByName? spec.name = some n ∧
    n.name = spec.name ∧ (∀ ws, spec.writers = some ws → ∀ x, x ∈ n.writers ↔ x ∈ ws) ∧
    (spec.writers = none →
      n.writers = ((s.namespaces.getByName? spec.name).map (·.writers)).getD [])
  resources : ∀ spec ∈ m.resources, ∃ r, s'.resources.getByTag? spec.tag = some r ∧
    r.tag = spec.tag ∧ r.kind = spec.kind ∧
    (∀ ws, spec.writers = some ws → ∀ x, x ∈ r.writers ↔ x ∈ ws) ∧
    (spec.writers = none →
      r.writers = ((s.resources.getByTag? spec.tag).map (·.writers)).getD [])
  otherSpaces : ∀ key n, n.name ∉ m.namespaces.map (·.name) →
    (s'.namespaces.records.get? key = some n ↔ s.namespaces.records.get? key = some n)
  otherResources : ∀ key r, r.tag ∉ m.resources.map (·.tag) →
    (s'.resources.records.get? key = some r ↔ s.resources.records.get? key = some r)

namespace Plan

open Store (Grown Rewritten)

variable {s s₁ s' : Store} {m : Manifest} {p : Plan} {version : Nat} {e : Subject} {x : Int}

/-- What the writer changes of a plan make of the writers of a record. -/
def rewrite (p : Plan) (target : Target) (key : Int) (writers : Writers) : Writers :=
  WriterChange.rewriteAll IntSet.erase p.revokes target key
    (WriterChange.rewriteAll IntSet.insert p.grants target key writers)

/-- A plan registers only what the manifest needs. -/
theorem needed_of_mem (sound : s.Sound) (h : of s version m = .ok p) {item : PlannedRegistration}
    (hitem : item ∈ p.registrations) : item.Needed m s := by
  rcases (mem_registrations_iff sound h).mp hitem with
    ⟨spec, hspec, hfree, rfl⟩ | ⟨spec, hspec, names, hsplit, -, rfl⟩
  · have hnew : s.namespaces.selectorOf? spec.name = none := by
      rw [← sound.getByName?_eq_none_iff]
      cases hn : s.namespaces.getByName? spec.name with
      | none => rfl
      | some n =>
          obtain ⟨hselector, hget⟩ := sound.get?_namespaceSelector hn
          rw [hselector, hget] at hfree
          cases hfree
    rw [Store.namespaceSelector_of_new hnew]
    exact .space (Manifest.mem_spaceNames_of_namespace hspec) hnew
  · exact .resource (Manifest.mem_spaceNames_of_resource hspec hsplit) hsplit

/-- After the registrations, every subject is a record with its label and its current writers. -/
theorem entry?_of_declares (sound : s.Sound) (unclaimed : m.Unclaimed s) (h : of s version m = .ok p)
    (grown : Grown p.registrations s s₁) (declares : Declares s m e) :
    s₁.entry? e.target e.selector = some (e.label, e.current) := by
  cases declares with
  | @space spec hspec =>
      cases hn : s.namespaces.getByName? spec.name with
      | some n =>
          obtain ⟨hselector, hget⟩ := sound.get?_namespaceSelector hn
          have hname := ((NamespaceTable.getByName?_eq_some_iff sound.namespaces).mp hn).2
          simp [Store.entry?, spaceSubject, hselector, hget, grown.oldSpace _ n hget, hname]
      | none =>
          have hnew := sound.getByName?_eq_none_iff.mp hn
          have hfree : s.namespaces.records.get? (Selector.ofNamespace spec.name) = none :=
            unclaimed.free spec.name (Manifest.mem_spaceNames_of_namespace hspec) hnew
          have hselector := Store.namespaceSelector_of_new hnew
          have hplanned : .space spec.name (Selector.ofNamespace spec.name : Int) ∈ p.registrations := by
            refine (mem_registrations_iff sound h).mpr (Or.inl ⟨spec, hspec, ?_⟩)
            rw [hselector]
            exact ⟨hfree, rfl⟩
          obtain ⟨n, hget, hname, hbare⟩ := grown.madeSpace _ _ hplanned
          simp [Store.entry?, spaceSubject, hselector, hfree, hget, hname, hbare]
  | @resource spec names hspec hsplit =>
      cases hr : s.resources.getByTag? spec.tag with
      | some r =>
          obtain ⟨hget, htag⟩ := (ResourceTable.getByTag?_eq_some_iff sound.resources).mp hr
          simp [Store.entry?, resourceSubject, hr, grown.oldResource _ r hget, htag]
      | none =>
          have hplanned : .resource spec.tag (Selector.ofNames names.1 names.2 : Int) names.1 spec.kind ∈
              p.registrations :=
            (mem_registrations_iff sound h).mpr (Or.inr ⟨spec, hspec, names, hsplit, hr, rfl⟩)
          obtain ⟨-, r, hget, hmade⟩ := grown.madeResource _ _ _ _ hplanned
          simp [Store.entry?, resourceSubject, hr, hget, grown.tagged hplanned hmade, hmade.bare]

/-- A namespace subject is labelled by a declared name, a resource subject by a declared tag. -/
theorem Declares.label_mem (h : Declares s m e) :
    (e.target = .space → e.label ∈ m.namespaces.map (·.name)) ∧
      (e.target = .resource → e.label ∈ m.resources.map (·.tag)) := by
  constructor
  · intro htarget
    cases h with
    | space hspec => exact List.mem_map_of_mem (f := (·.name)) hspec
    | resource => cases htarget
  · intro htarget
    cases h with
    | space => cases htarget
    | resource hspec _ => exact List.mem_map_of_mem (f := (·.tag)) hspec

/-- The current writers of a subject stand in ascending order. -/
theorem Declares.ascending (sound : s.Sound) (h : Declares s m e) : IntSet.Ascending e.current := by
  cases h with
  | @space spec hspec =>
      unfold spaceSubject
      cases hn : s.namespaces.records.get? (s.namespaceSelector spec.name) with
      | none => simpa [hn] using IntSet.ascending_nil
      | some n => simpa [hn] using (sound.namespaces.proper _ n hn).ascending
  | @resource spec names hspec hsplit =>
      unfold resourceSubject
      cases hr : s.resources.getByTag? spec.tag with
      | none => exact IntSet.ascending_nil
      | some r =>
          have hget := ((ResourceTable.getByTag?_eq_some_iff sound.resources).mp hr).1
          exact (sound.resources.proper _ r hget).ascending

/-- The current writers of a declared namespace are those of the namespace with its name. -/
theorem current_spaceSubject (sound : s.Sound) (unclaimed : m.Unclaimed s) {spec : NamespaceSpec}
    (declared : spec ∈ m.namespaces) : (spaceSubject s spec).current =
      ((s.namespaces.getByName? spec.name).map (·.writers)).getD [] := by
  unfold spaceSubject
  cases hfound : s.namespaces.getByName? spec.name with
  | some n =>
      obtain ⟨hselector, hget⟩ := sound.get?_namespaceSelector hfound
      simp [hselector, hget]
  | none =>
      have hnew := sound.getByName?_eq_none_iff.mp hfound
      have hfree : s.namespaces.records.get? (Selector.ofNamespace spec.name) = none :=
        unclaimed.free spec.name (Manifest.mem_spaceNames_of_namespace declared) hnew
      simp [Store.namespaceSelector_of_new hnew, hfree]

section Writers

variable {cs : List WriterChange} {needed : Subject → List WriterChange}

/-- The changes that name the record of a subject are those that the subject needs. -/
theorem named_iff (valid : m.Validated)
    (entries : ∀ e, Declares s m e → s₁.entry? e.target e.selector = some (e.label, e.current))
    (mem : ∀ c, c ∈ cs ↔ ∃ e, Declares s m e ∧ c ∈ needed e)
    (shape : ∀ e c, c ∈ needed e → c = ⟨e.target, e.label, e.selector, c.writer⟩)
    (declares : Declares s m e) :
    (∃ c ∈ cs, c.target = e.target ∧ c.selector = e.selector ∧ c.writer = x) ↔
      ⟨e.target, e.label, e.selector, x⟩ ∈ needed e := by
  constructor
  · rintro ⟨c, hc, htarget, hselector, rfl⟩
    obtain ⟨e', hdeclares, hneeded⟩ := (mem c).mp hc
    have hshape := shape e' c hneeded
    have htarget' : e'.target = e.target := by rw [← htarget, hshape]
    have hselector' : e'.selector = e.selector := by rw [← hselector, hshape]
    -- Both subjects are the same record, so they have the same label.
    have hentry := entries e' hdeclares
    rw [htarget', hselector', entries e declares] at hentry
    have hlabel : e.label = e'.label := congrArg Prod.fst (Option.some.inj hentry)
    obtain rfl := hdeclares.unique valid declares htarget' hlabel.symm
    rw [← hshape]
    exact hneeded
  · intro hneeded
    exact ⟨_, (mem _).mpr ⟨e, declares, hneeded⟩, rfl, rfl, rfl⟩

end Writers

theorem mem_rewrite_iff {target : Target} {key : Int} {writers : Writers} :
    x ∈ p.rewrite target key writers ↔
      (x ∈ writers ∨ ∃ c ∈ p.grants, c.target = target ∧ c.selector = key ∧ c.writer = x) ∧
        ¬ ∃ c ∈ p.revokes, c.target = target ∧ c.selector = key ∧ c.writer = x := by
  rw [rewrite, WriterChange.mem_rewriteAll_erase, WriterChange.mem_rewriteAll_insert]

theorem ascending_rewrite {target : Target} {key : Int} {writers : Writers}
    (h : IntSet.Ascending writers) : IntSet.Ascending (p.rewrite target key writers) :=
  WriterChange.ascending_rewriteAll IntSet.ascending_erase
    (WriterChange.ascending_rewriteAll IntSet.ascending_insert h)

/-- A plan makes the writers of a subject the wanted ones, where they are declared. -/
theorem mem_rewrite_of_declares (sound : s.Sound) (valid : m.Validated) (h : of s version m = .ok p)
    (entries : ∀ e, Declares s m e → s₁.entry? e.target e.selector = some (e.label, e.current))
    (declares : Declares s m e) :
    (∀ ws, e.wanted = some ws → (x ∈ p.rewrite e.target e.selector e.current ↔ x ∈ ws)) ∧
      (e.wanted = none → (x ∈ p.rewrite e.target e.selector e.current ↔ x ∈ e.current)) := by
  have hgrants := named_iff valid entries (fun c => mem_grants_iff sound h)
    (fun e c hc => (Subject.mem_grants_iff.mp hc).1) declares (x := x)
  have hrevokes := named_iff valid entries (fun c => mem_revokes_iff sound h)
    (fun e c hc => (Subject.mem_revokes_iff.mp hc).1) declares (x := x)
  rw [mem_rewrite_iff, hgrants, hrevokes, Subject.mem_grants_iff, Subject.mem_revokes_iff]
  simp only [true_and]
  constructor
  · intro ws hwanted
    simp only [hwanted, Option.some.injEq, exists_eq_left']
    constructor
    · rintro ⟨hcurrent | hgranted, hkept⟩
      · exact not_not.mp fun hws => hkept ⟨hcurrent, hws⟩
      · exact hgranted.1
    · intro hws
      refine ⟨?_, fun hrevoked => hrevoked.2 hws⟩
      by_cases hcurrent : x ∈ e.current
      · exact Or.inl hcurrent
      · exact Or.inr ⟨hws, hcurrent⟩
  · intro hwanted
    simp [hwanted]

/-- A plan leaves the writers of a subject as they are where none are declared. -/
theorem rewrite_of_unwanted (sound : s.Sound) (valid : m.Validated) (h : of s version m = .ok p)
    (entries : ∀ e, Declares s m e → s₁.entry? e.target e.selector = some (e.label, e.current))
    (declares : Declares s m e) (unwanted : e.wanted = none) :
    p.rewrite e.target e.selector e.current = e.current := by
  have ascending := declares.ascending sound
  apply IntSet.eq_of_mem_iff (ascending_rewrite ascending) ascending
  intro x
  exact (mem_rewrite_of_declares sound valid h entries declares).2 unwanted

/-- A plan changes the writers of the records of its subjects alone. -/
theorem declares_of_rewrite (sound : s.Sound) (h : of s version m = .ok p) {target : Target} {key : Int}
    {writers : Writers} (changed : p.rewrite target key writers ≠ writers) :
    ∃ e, Declares s m e ∧ e.target = target ∧ e.selector = key := by
  by_contra hnone
  have hgrants : ∀ c ∈ p.grants, ¬ (c.target = target ∧ c.selector = key) := by
    rintro c hc ⟨htarget, hselector⟩
    obtain ⟨e, hdeclares, hneeded⟩ := (mem_grants_iff sound h).mp hc
    rw [(Subject.mem_grants_iff.mp hneeded).1] at htarget hselector
    exact hnone ⟨e, hdeclares, htarget, hselector⟩
  have hrevokes : ∀ c ∈ p.revokes, ¬ (c.target = target ∧ c.selector = key) := by
    rintro c hc ⟨htarget, hselector⟩
    obtain ⟨e, hdeclares, hneeded⟩ := (mem_revokes_iff sound h).mp hc
    rw [(Subject.mem_revokes_iff.mp hneeded).1] at htarget hselector
    exact hnone ⟨e, hdeclares, htarget, hselector⟩
  apply changed
  rw [rewrite, WriterChange.rewriteAll_of_unnamed hgrants, WriterChange.rewriteAll_of_unnamed hrevokes]

/-- A plan leaves the writers of all other records as they are, which are those without the label of
a subject. -/
theorem rewrite_of_other (sound : s.Sound) (h : of s version m = .ok p)
    (entries : ∀ e, Declares s m e → s₁.entry? e.target e.selector = some (e.label, e.current))
    {target : Target} {key : Int} {label : String} {writers : Writers}
    (found : s₁.entry? target key = some (label, writers))
    (other : ∀ e, Declares s m e → e.target = target → e.label ≠ label) :
    p.rewrite target key writers = writers := by
  by_contra hchanged
  obtain ⟨e, hdeclares, rfl, rfl⟩ := declares_of_rewrite sound h hchanged
  have hentry := entries e hdeclares
  rw [found] at hentry
  have hlabel : label = e.label := congrArg Prod.fst (Option.some.inj hentry)
  exact other e hdeclares rfl hlabel.symm

section Converging

variable (sound : s.Sound) (sound' : s'.Sound) (valid : m.Validated) (unclaimed : m.Unclaimed s)
  (h : of s version m = .ok p) (grown : Grown p.registrations s s₁) (rewritten : Rewritten p.rewrite s₁ s')

include sound unclaimed h grown rewritten

include sound' valid in
/-- A declared namespace is registered with its declared writers, or with those that it had. -/
theorem space_converges {spec : NamespaceSpec} (declared : spec ∈ m.namespaces) :
    ∃ n, s'.namespaces.getByName? spec.name = some n ∧ n.name = spec.name ∧
      (∀ ws, spec.writers = some ws → ∀ x, x ∈ n.writers ↔ x ∈ ws) ∧
      (spec.writers = none →
        n.writers = ((s.namespaces.getByName? spec.name).map (·.writers)).getD []) := by
  have hentries := fun e => entry?_of_declares (e := e) sound unclaimed h grown
  have hdeclares : Declares s m (spaceSubject s spec) := .space declared
  obtain ⟨n, hn, hentry⟩ := Option.map_eq_some_iff.mp (hentries _ hdeclares)
  obtain ⟨hname, hwriters⟩ : n.name = spec.name ∧ n.writers = (spaceSubject s spec).current :=
    Prod.mk.inj hentry
  have hn' := rewritten.spaces (spaceSubject s spec).selector
  rw [hn, Option.map_some] at hn'
  have hkey : n.selector = (spaceSubject s spec).selector := grown.sound.namespaces.indexed.own_eq hn
  rw [hwriters] at hn'
  let writers := p.rewrite .space (spaceSubject s spec).selector (spaceSubject s spec).current
  refine ⟨{ n with writers },
    (NamespaceTable.getByName?_eq_some_iff sound'.namespaces).mpr ⟨?_, hname⟩, hname, ?_, ?_⟩
  · exact (congrArg s'.namespaces.records.get? hkey).trans hn'
  · intro ws hws x
    exact (mem_rewrite_of_declares sound valid h hentries hdeclares).1 ws hws
  · intro hnone
    have hkept := rewrite_of_unwanted sound valid h hentries hdeclares hnone
    exact hkept.trans (current_spaceSubject sound unclaimed declared)

include sound' valid in
/-- A declared resource is registered with its declared writers, or with those that it had. -/
theorem resource_converges {spec : ResourceSpec} (declared : spec ∈ m.resources)
    (kind : ∀ r, s₁.resources.getByTag? spec.tag = some r → r.kind = spec.kind) :
    ∃ r, s'.resources.getByTag? spec.tag = some r ∧ r.tag = spec.tag ∧ r.kind = spec.kind ∧
      (∀ ws, spec.writers = some ws → ∀ x, x ∈ r.writers ↔ x ∈ ws) ∧
      (spec.writers = none →
        r.writers = ((s.resources.getByTag? spec.tag).map (·.writers)).getD []) := by
  have hentries := fun e => entry?_of_declares (e := e) sound unclaimed h grown
  obtain ⟨names, hsplit⟩ := split_of sound h declared
  have hdeclares : Declares s m (resourceSubject s spec names) := .resource declared hsplit
  obtain ⟨r, hr, hentry⟩ := Option.map_eq_some_iff.mp (hentries _ hdeclares)
  obtain ⟨htag, hwriters⟩ : r.tag = spec.tag ∧ r.writers = (resourceSubject s spec names).current :=
    Prod.mk.inj hentry
  have hkind : r.kind = spec.kind := by
    apply kind
    refine (ResourceTable.getByTag?_eq_some_iff grown.sound.resources).mpr ⟨?_, htag⟩
    rw [grown.sound.resources.indexed.own_eq hr]
    exact hr
  have hr' := rewritten.resources (resourceSubject s spec names).selector
  rw [hr, Option.map_some] at hr'
  have hkey : r.selector = (resourceSubject s spec names).selector := grown.sound.resources.indexed.own_eq hr
  rw [hwriters] at hr'
  let writers := p.rewrite .resource (resourceSubject s spec names).selector
    (resourceSubject s spec names).current
  refine ⟨{ r with writers },
    (ResourceTable.getByTag?_eq_some_iff sound'.resources).mpr ⟨?_, htag⟩, htag, hkind, ?_, ?_⟩
  · exact (congrArg s'.resources.records.get? hkey).trans hr'
  · intro ws hws x
    exact (mem_rewrite_of_declares sound valid h hentries hdeclares).1 ws hws
  · intro hnone
    exact rewrite_of_unwanted sound valid h hentries hdeclares hnone

/-- A namespace that is not declared is as it was. -/
theorem otherSpace_kept {key : Int} {n : NamespaceRecord} (other : n.name ∉ m.namespaces.map (·.name)) :
    s'.namespaces.records.get? key = some n ↔ s.namespaces.records.get? key = some n := by
  -- No subject is a record of the grown store under a name that is not declared.
  have hkept : ∀ n₁, s₁.namespaces.records.get? key = some n₁ → n₁.name ∉ m.namespaces.map (·.name) →
      p.rewrite .space key n₁.writers = n₁.writers := by
    intro n₁ hn₁ hother
    have hentry : s₁.entry? .space key = some (n₁.name, n₁.writers) := by simp [Store.entry?, hn₁]
    apply rewrite_of_other sound h (fun e => entry?_of_declares sound unclaimed h grown) hentry
    intro e hdeclares htarget hlabel
    exact hother (hlabel ▸ hdeclares.label_mem.1 htarget)
  rw [rewritten.spaces]
  constructor
  · intro hn
    obtain ⟨n₁, hn₁, rfl⟩ := Option.map_eq_some_iff.mp hn
    have hother : n₁.name ∉ m.namespaces.map (·.name) := other
    rw [hkept n₁ hn₁ hother]
    rcases grown.newSpace key n₁ hn₁ with hold | hplanned
    · exact hold
    · rcases (mem_registrations_iff sound h).mp hplanned with
        ⟨spec, hspec, -, heq⟩ | ⟨spec, -, names, -, -, heq⟩
      · have hname : n₁.name = spec.name := (PlannedRegistration.space.inj heq).1
        exact absurd (hname ▸ List.mem_map_of_mem (f := (·.name)) hspec) hother
      · cases heq
  · intro hn
    have hn₁ := grown.oldSpace key n hn
    rw [hn₁, Option.map_some, hkept n hn₁ other]

/-- A resource that is not declared is as it was. -/
theorem otherResource_kept {key : Int} {r : ResourceRecord} (other : r.tag ∉ m.resources.map (·.tag)) :
    s'.resources.records.get? key = some r ↔ s.resources.records.get? key = some r := by
  have hkept : ∀ r₁, s₁.resources.records.get? key = some r₁ → r₁.tag ∉ m.resources.map (·.tag) →
      p.rewrite .resource key r₁.writers = r₁.writers := by
    intro r₁ hr₁ hother
    have hentry : s₁.entry? .resource key = some (r₁.tag, r₁.writers) := by simp [Store.entry?, hr₁]
    apply rewrite_of_other sound h (fun e => entry?_of_declares sound unclaimed h grown) hentry
    intro e hdeclares htarget hlabel
    exact hother (hlabel ▸ hdeclares.label_mem.2 htarget)
  rw [rewritten.resources]
  constructor
  · intro hr
    obtain ⟨r₁, hr₁, rfl⟩ := Option.map_eq_some_iff.mp hr
    have hother : r₁.tag ∉ m.resources.map (·.tag) := other
    rw [hkept r₁ hr₁ hother]
    rcases grown.newResource key r₁ hr₁ with hold | ⟨tag, space, hplanned, hmade⟩
    · exact hold
    · rcases (mem_registrations_iff sound h).mp hplanned with
        ⟨spec, -, -, heq⟩ | ⟨spec, hspec, names, -, -, heq⟩
      · cases heq
      · rw [grown.tagged hplanned hmade, (PlannedRegistration.resource.inj heq).1] at hother
        exact absurd (List.mem_map_of_mem (f := (·.tag)) hspec) hother
  · intro hr
    have hr₁ := grown.oldResource key r hr
    rw [hr₁, Option.map_some, hkept r hr₁ other]

end Converging

/-- In a converged store there is nothing left to plan. -/
theorem of_eq_empty_of_converged (converged : Converged m s s') (sound' : s'.Sound)
    (split : ∀ spec ∈ m.resources, ∃ names, Tag.split? spec.tag none = some names) :
    of s' version m = .ok empty := by
  apply of_eq_empty sound'
  · intro spec hspec
    obtain ⟨n, hn, -⟩ := converged.spaces spec hspec
    obtain ⟨hselector, hget⟩ := sound'.get?_namespaceSelector hn
    rw [hselector, hget]
    rfl
  · intro spec hspec
    obtain ⟨r, hr, -⟩ := converged.resources spec hspec
    rw [hr]
    exact ⟨rfl, split spec hspec⟩
  · intro e hdeclares ws hwanted
    cases hdeclares with
    | space hspec =>
        obtain ⟨n, hn, -, hwriters, -⟩ := converged.spaces _ hspec
        obtain ⟨hselector, hget⟩ := sound'.get?_namespaceSelector hn
        simp only [spaceSubject, hselector, hget, Option.map_some, Option.getD_some]
        exact hwriters ws hwanted
    | resource hspec hsplit =>
        obtain ⟨r, hr, -, -, hwriters, -⟩ := converged.resources _ hspec
        simp only [resourceSubject, hr, Option.map_some, Option.getD_some]
        exact hwriters ws hwanted

end Plan

namespace World

open Store (Enlarged Grown Rewritten)

variable {m : Manifest} {p : Plan} {caller : Int} {w w' : World}

/-- An application that succeeds registers, confirms the kinds, and changes the writers. -/
theorem apply_enlarges (sound : w.core.store.Sound) (h : apply m caller w = (.ok p, w')) :
    ∃ s₁, Enlarged p.registrations w.core.store s₁ ∧
      (∀ spec ∈ m.resources, ∀ r, s₁.resources.getByTag? spec.tag = some r → r.kind = spec.kind) ∧
      Rewritten p.rewrite s₁ w'.core.store := by
  obtain ⟨hplan, hpasses, hsame, -⟩ := apply_eq_ok h
  have hopened := (opened_sameState w).core
  have hlast := (hsame.trans (hopened.symm.afterAll _)).store
  replace hpasses := hopened.passes hpasses
  unfold applicationFlows at hpasses hlast
  obtain ⟨hregister, hpasses⟩ := Core.passes_append.mp hpasses
  obtain ⟨hconfirm, hpasses⟩ := Core.passes_append.mp hpasses
  obtain ⟨hgrant, hrevoke⟩ := Core.passes_append.mp hpasses
  rw [Core.afterAll_append, Core.afterAll_append, Core.afterAll_append] at hlast
  have hstart : Enlarged [] w.core.store w.opened.core.store := Enlarged.nil sound
  have henlarged := enlarged_of_registrations hstart sound
    (fun item hitem => Plan.needed_of_mem sound hplan hitem) hregister
  obtain ⟨hkinds, hstill⟩ := (confirmsAll_iff henlarged.sound).mp ⟨hconfirm, rfl⟩
  have hconfirmed := hstill ▸ henlarged.sound
  have hgranted := rewritten_of_changes rewritten_of_grant hconfirmed hgrant
  have hrevoked := rewritten_of_changes rewritten_of_revoke (Core.sound_afterAll hconfirmed _) hrevoke
  have hrewritten := hgranted.trans hrevoked
  rw [← hlast, ← hstill] at hrewritten
  exact ⟨_, henlarged, fun spec hspec r hr => (hkinds spec hspec r hr).2, hrewritten⟩

/-- Where no namespace squats, all registrations are done under their tags. -/
theorem apply_phases (sound : w.core.store.Sound) (unclaimed : m.Unclaimed w.core.store)
    (h : apply m caller w = (.ok p, w')) :
    ∃ s₁, Grown p.registrations w.core.store s₁ ∧
      (∀ spec ∈ m.resources, ∀ r, s₁.resources.getByTag? spec.tag = some r → r.kind = spec.kind) ∧
      Rewritten p.rewrite s₁ w'.core.store := by
  obtain ⟨s₁, henlarged, hkinds, hrewritten⟩ := apply_enlarges sound h
  have hneeded := fun item (hitem : item ∈ p.registrations) =>
    Plan.needed_of_mem sound (apply_eq_ok h).1 hitem
  exact ⟨s₁, henlarged.grown unclaimed hneeded, hkinds, hrewritten⟩

/-- Applying a validated manifest whose new names have free and distinct derived selectors converges:
the manifest holds, everything else is as it was, and a further plan is empty. -/
theorem apply_converges (reachable : Reachable w) (valid : m.Validated)
    (unclaimed : m.Unclaimed w.core.store) (h : apply m caller w = (.ok p, w')) :
    Converged m w.core.store w'.core.store ∧ (plan m w').1 = .ok .empty := by
  have hsound := reachable.sound
  obtain ⟨hplan, -, hsame, -⟩ := apply_eq_ok h
  have hsound' : w'.core.store.Sound := by
    rw [hsame.store]
    exact Core.sound_afterAll hsound _
  obtain ⟨s₁, hgrown, hkinds, hrewritten⟩ := apply_phases hsound unclaimed h
  have hconverged : Converged m w.core.store w'.core.store := by
    constructor
    · intro spec hspec
      exact Plan.space_converges hsound hsound' valid unclaimed hplan hgrown hrewritten hspec
    · intro spec hspec
      exact Plan.resource_converges hsound hsound' valid unclaimed hplan hgrown hrewritten hspec
        (hkinds spec hspec)
    · intro key n hother
      exact Plan.otherSpace_kept hsound unclaimed hplan hgrown hrewritten hother
    · intro key r hother
      exact Plan.otherResource_kept hsound unclaimed hplan hgrown hrewritten hother
  have hempty : Plan.of w'.core.store w'.core.version m = .ok .empty :=
    Plan.of_eq_empty_of_converged hconverged hsound' fun spec hspec => Plan.split_of hsound hplan hspec
  refine ⟨hconverged, ?_⟩
  unfold plan
  rw [hempty]

/-- A manifest about the stocked world: it changes the writers of what is there, and declares a new
namespace and a new resource in it. -/
def arena : Manifest :=
  { version := 1, defaultNamespace := none
    namespaces := [⟨"game", some [2]⟩, ⟨"arena", none⟩]
    resources := [⟨"game-player", .model, some [3, 4]⟩, ⟨"arena-door", .event, some [2]⟩] }

/-- The owner's application of the manifest converges. -/
theorem apply_converges_arena : ∃ p w', apply arena 1 stocked = (.ok p, w') ∧
    p.registrations.length = 2 ∧ Converged arena stocked.core.store w'.core.store ∧
    (plan arena w').1 = .ok .empty := by
  have hvalid : arena.Validated := ⟨arena, rfl⟩
  have hunclaimed : arena.Unclaimed stocked.core.store := ⟨by decide +kernel, by decide +kernel⟩
  have hlength : (apply arena 1 stocked).1.toOption.map (·.registrations.length) = some 2 := by
    decide +kernel
  cases h : apply arena 1 stocked with
  | mk outcome w' =>
      rw [h] at hlength
      cases outcome with
      | error failure => cases hlength
      | ok p =>
          exact ⟨p, w', rfl, Option.some.inj hlength,
            apply_converges reachable_stocked hvalid hunclaimed h⟩

end World

end OwnershipRegistry
