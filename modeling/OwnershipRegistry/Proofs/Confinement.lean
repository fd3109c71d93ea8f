import OwnershipRegistry.Proofs.Convergence

/-!
# Confinement of manifests

Applying a manifest changes no record but those that it declares, as long as
names lead to their own namespaces. They do not where a namespace squats: it
was registered under the selector that is derived for another name. The plan
takes it for the namespace with that name, so it is the one exception.
-/

namespace OwnershipRegistry

/-- What an application of a manifest changes of a store: writers of declared records, and the
records that were planned. Everything else befalls a namespace that squats on a name, or a resource
in its place. -/
structure Confined (m : Manifest) (p : Plan) (s s' : Store) : Prop where
  spaces : ∀ key n n', s.namespaces.records.get? key = some n →
    s'.namespaces.records.get? key = some n' → n'.writers ≠ n.writers →
      n.name ∈ m.namespaces.map (·.name) ∨ ∃ spec ∈ m.namespaces, n.Squats s spec.name
  resources : ∀ key r r', s.resources.records.get? key = some r →
    s'.resources.records.get? key = some r' → r'.writers ≠ r.writers → r.tag ∈ m.resources.map (·.tag)
  addedSpaces : ∀ key n', s.namespaces.records.get? key = none →
    s'.namespaces.records.get? key = some n' → n'.name ∈ m.namespaces.map (·.name)
  addedResources : ∀ key r', s.resources.records.get? key = none →
    s'.resources.records.get? key = some r' → ∃ tag space kind,
      .resource tag key space kind ∈ p.registrations ∧ tag ∈ m.resources.map (·.tag) ∧
        (r'.tag = tag ∧ r'.space = space ∨
          ∃ home, s'.namespaces.records.get? r'.spaceSelector = some home ∧ home.Squats s space)

namespace Plan

open Store (Enlarged Rewritten)

variable {s s₁ s' : Store} {m : Manifest} {p : Plan} {version : Nat} {key : Int}

/-- The namespace at the selector of a subject has the subject's name, or it squats on it. -/
theorem name_of_spaceSubject (sound : s.Sound) {spec : NamespaceSpec} {n : NamespaceRecord}
    (found : s.namespaces.records.get? (spaceSubject s spec).selector = some n) :
    n.name = spec.name ∨ n.Squats s spec.name :=
  (Enlarged.nil sound).home sound found

/-- A resource that was there and stands at the selector of a subject has the subject's tag. -/
theorem tag_of_resourceSubject (sound : s.Sound) (h : of s version m = .ok p)
    (enlarged : Enlarged p.registrations s s₁) {spec : ResourceSpec} {names : String × String}
    (declared : spec ∈ m.resources) (split : Tag.split? spec.tag none = some names) {r : ResourceRecord}
    (found : s.resources.records.get? (resourceSubject s spec names).selector = some r) :
    r.tag = spec.tag := by
  cases hknown : s.resources.getByTag? spec.tag with
  | some known =>
      obtain ⟨hget, htag⟩ := (ResourceTable.getByTag?_eq_some_iff sound.resources).mp hknown
      have hselector : (resourceSubject s spec names).selector = known.selector := by
        simp [resourceSubject, hknown]
      rw [hselector, hget] at found
      rw [← Option.some.inj found]
      exact htag
  | none =>
      -- Its registration was planned, for a selector that was free.
      have hplanned : .resource spec.tag (Selector.ofNames names.1 names.2 : Int) names.1 spec.kind ∈
          p.registrations :=
        (mem_registrations_iff sound h).mpr (Or.inr ⟨spec, declared, names, split, hknown, rfl⟩)
      have hselector : (resourceSubject s spec names).selector = Selector.ofNames names.1 names.2 := by
        simp [resourceSubject, hknown]
      rw [hselector, (enlarged.madeResource _ _ _ _ hplanned).1] at found
      cases found

/-- Registering what was planned and changing the writers as planned is confined. -/
theorem confined (sound : s.Sound) (h : of s version m = .ok p) (enlarged : Enlarged p.registrations s s₁)
    (rewritten : Rewritten p.rewrite s₁ s') : Confined m p s s' where
  spaces key n n' hn hn' hchanged := by
    rw [rewritten.spaces, enlarged.oldSpace key n hn] at hn'
    obtain rfl := Option.some.inj hn'
    obtain ⟨e, hdeclares, htarget, rfl⟩ := declares_of_rewrite sound h hchanged
    cases hdeclares with
    | @space spec hspec =>
        rcases name_of_spaceSubject sound hn with hname | hsquats
        · exact Or.inl (hname ▸ List.mem_map_of_mem (f := (·.name)) hspec)
        · exact Or.inr ⟨spec, hspec, hsquats⟩
    | resource => cases htarget
  resources key r r' hr hr' hchanged := by
    rw [rewritten.resources, enlarged.oldResource key r hr] at hr'
    obtain rfl := Option.some.inj hr'
    obtain ⟨e, hdeclares, htarget, rfl⟩ := declares_of_rewrite sound h hchanged
    cases hdeclares with
    | space => cases htarget
    | resource hspec hsplit =>
        rw [tag_of_resourceSubject sound h enlarged hspec hsplit hr]
        exact List.mem_map_of_mem (f := (·.tag)) hspec
  addedSpaces key n' hfree hn' := by
    rw [rewritten.spaces] at hn'
    obtain ⟨n, hn, rfl⟩ := Option.map_eq_some_iff.mp hn'
    rcases enlarged.newSpace key n hn with hold | hplanned
    · exact absurd (hfree.symm.trans hold) (by simp)
    · exact name_mem_of_planned sound h hplanned
  addedResources key r' hfree hr' := by
    rw [rewritten.resources] at hr'
    obtain ⟨r, hr, rfl⟩ := Option.map_eq_some_iff.mp hr'
    rcases enlarged.newResource key r hr with hold | ⟨tag, space, hplanned, hmade⟩
    · exact absurd (hfree.symm.trans hold) (by simp)
    · refine ⟨tag, space, r.kind, hplanned, tag_mem_of_planned sound h hplanned, ?_⟩
      refine hmade.placed.imp id fun ⟨home, hhome, hsquats⟩ => ?_
      refine ⟨{ home with writers := p.rewrite .space r.spaceSelector home.writers }, ?_, ?_⟩
      · rw [rewritten.spaces, hhome]
        rfl
      · exact ⟨hsquats.new, hsquats.place, hsquats.other⟩

end Plan

namespace World

variable {m : Manifest} {p : Plan} {caller : Int} {w w' : World}

/-- An application is confined to what its manifest names, where no namespace squats on a name of the
manifest: writers change only of declared records, and the resources that are added have exactly the
tags that were planned. -/
theorem apply_confined (reachable : Reachable w) (h : apply m caller w = (.ok p, w')) :
    Confined m p w.core.store w'.core.store := by
  obtain ⟨s₁, henlarged, -, hrewritten⟩ := apply_enlarges reachable.sound h
  exact Plan.confined reachable.sound (apply_eq_ok h).1 henlarged hrewritten

/-- The owner's application of the manifest about the stocked world is confined. -/
theorem apply_confined_arena : ∃ p w', apply arena 1 stocked = (.ok p, w') ∧
    p.grants.length = 4 ∧ Confined arena p stocked.core.store w'.core.store := by
  have hlength : (apply arena 1 stocked).1.toOption.map (·.grants.length) = some 4 := by decide +kernel
  obtain ⟨p, w', happly, hlength⟩ := ok_of_toOption_map hlength
  exact ⟨p, w', happly, hlength, apply_confined reachable_stocked happly⟩

/-- The account 1 registers a namespace under the selector derived for another name. -/
def squatting : List Step :=
  [.call (.register ⟨.account, 1, none⟩),
    .call (.flow (.registerNamespace 1 "game" (some (.int (Selector.ofNamespace "arena")))))]

/-- The world with that namespace. -/
def squatted : World := (Step.runEach squatting bare).2

/-- A manifest that declares the other name, with a writer, and a resource under it. -/
def outpost : Manifest :=
  { version := 1, defaultNamespace := none, namespaces := [⟨"arena", some [2]⟩]
    resources := [⟨"arena-door", .event, none⟩] }

/-- The store after the owner's application of this manifest. -/
def outposted : Store := (apply outpost 1 squatted).2.core.store

/-- Where a namespace squats, an application is not confined to the declared names: the namespace
that squats gets the writer, though it is not declared, and the resource is added under its name. -/
theorem apply_confined_fails : Reachable squatted ∧ outpost.Validated ∧
    (apply outpost 1 squatted).1.isOk = true ∧
    (squatted.core.store.namespaces.records.values.map fun n => (n.name, n.writers)) = [("game", [])] ∧
    (outposted.namespaces.records.values.map fun n => (n.name, n.writers)) = [("game", [2])] ∧
    "game" ∉ outpost.namespaces.map (·.name) ∧
    squatted.core.store.resources.records.values = [] ∧
    outposted.resources.records.values.map (·.tag) = ["game-door"] ∧
    "game-door" ∉ outpost.resources.map (·.tag) := by
  have hrun := run_each squatting run_bare
  have hreachable : Reachable squatted := ⟨[], _, hrun⟩
  have hvalidated : outpost.Validated := ⟨outpost, rfl⟩
  exact ⟨hreachable, hvalidated, by decide +kernel⟩

end World

end OwnershipRegistry
