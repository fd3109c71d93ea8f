import Mathlib.Data.List.Dedup
import OwnershipRegistry.Audit
import OwnershipRegistry.Proofs.Feasibility

/-!
# The first application

Where nothing is registered, the plan for a manifest registers and grants all
that is declared. Which applications then succeed, and what they leave, can be
read off the manifest and the policy.
-/

namespace OwnershipRegistry

/-- Declared writers, each once and in ascending order; undeclared ones are none. -/
def sortedWriters (writers : Option (List Int)) : Writers := (writers.getD []).dedup.mergeSort

theorem mem_sortedWriters {writers : Option (List Int)} {x : Int} :
    x ∈ sortedWriters writers ↔ ∃ ws, writers = some ws ∧ x ∈ ws := by
  cases writers <;> simp [sortedWriters]

theorem ascending_sortedWriters (writers : Option (List Int)) : IntSet.Ascending (sortedWriters writers) := by
  have hsorted : (sortedWriters writers).Pairwise (· ≤ ·) := List.pairwise_mergeSort' _ _
  have hdistinct : (sortedWriters writers).Nodup :=
    (List.mergeSort_perm _ _).nodup_iff.mpr (List.nodup_dedup _)
  exact (hsorted.and hdistinct).imp fun h => lt_of_le_of_ne h.1 h.2

theorem ofList_eq_sortedWriters (ws : List Int) : IntSet.ofList ws = sortedWriters (some ws) := by
  apply IntSet.eq_of_mem_iff (IntSet.ascending_ofList ws) (ascending_sortedWriters (some ws))
  intro x
  simp [IntSet.mem_ofList, mem_sortedWriters]

namespace NamespaceSpec

/-- The selector derived for a declared namespace. -/
def place (spec : NamespaceSpec) : Int := Selector.ofNamespace spec.name

/-- The record of a declared namespace, with the given writers. -/
def record (spec : NamespaceSpec) (caller : Int) (writers : Writers) : NamespaceRecord :=
  ⟨spec.name, spec.place, caller, writers⟩

end NamespaceSpec

namespace ResourceSpec

/-- The names of the namespace and of the resource in a declared tag that splits. -/
def names (spec : ResourceSpec) : String × String := (Tag.split? spec.tag none).getD ("", "")

/-- The selector derived for a declared resource. -/
def place (spec : ResourceSpec) : Int := Selector.ofNames spec.names.1 spec.names.2

/-- The record of a declared resource, with the given writers. -/
def record (spec : ResourceSpec) (caller : Int) (writers : Writers) : ResourceRecord :=
  ⟨spec.names.1, spec.names.2, spec.place, Selector.ofNamespace spec.names.1, caller, spec.kind, writers,
    none, 1⟩

end ResourceSpec

namespace Plan

/-- The grants of writers for a new record. -/
def firstGrants (target : Target) (label : String) (key : Int) (writers : Option (List Int)) :
    List WriterChange :=
  (sortedWriters writers).map fun x => ⟨target, label, key, x⟩

/-- The plan for a manifest where nothing is registered: all declared namespaces and then all declared
resources in their order, and the declared writers of each of them. -/
def first (m : Manifest) : Plan where
  registrations := m.namespaces.map (fun spec => .space spec.name spec.place) ++
    m.resources.map fun spec => .resource spec.tag spec.place spec.names.1 spec.kind
  grants := m.namespaces.flatMap (fun spec => firstGrants .space spec.name spec.place spec.writers) ++
    m.resources.flatMap fun spec => firstGrants .resource spec.tag spec.place spec.writers
  revokes := []

/-- A record without writers is granted the declared ones, and revoked none. -/
theorem writerChanges_nil (target : Target) (label : String) (key : Int) (writers : Option (List Int)) :
    writerChanges target label key [] writers = (firstGrants target label key writers, []) := by
  cases writers with
  | none => simp [writerChanges, firstGrants, sortedWriters]
  | some ws => simp [writerChanges, firstGrants, ofList_eq_sortedWriters, IntSet.minus]

end Plan

namespace Manifest

/-- The selectors that are derived for the names of namespaces and for the tags are distinct. -/
structure Distinct (m : Manifest) : Prop where
  spaces : ∀ name ∈ m.spaceNames, ∀ other ∈ m.spaceNames,
    Selector.ofNamespace name = Selector.ofNamespace other → name = other
  resources : ∀ spec ∈ m.resources, ∀ other ∈ m.resources, spec.place = other.place → spec.tag = other.tag

/-- A caller may apply a manifest where nothing is registered: it is an account if there are namespaces
to register, every resource has a declared namespace, and the derived selectors are accepted. -/
structure Applicable (m : Manifest) (policy : Policy) (caller : Int) : Prop where
  account : m.namespaces ≠ [] → policy.directory.isAccount caller = true
  housed : ∀ spec ∈ m.resources, spec.names.1 ∈ m.namespaces.map (·.name)
  acceptedSpaces : ∀ spec ∈ m.namespaces, policy.validator.accepts spec.place = true
  acceptedResources : ∀ spec ∈ m.resources, policy.validator.accepts spec.place = true

/-- The tables have exactly the declared records, owned by the caller and with the declared writers. -/
structure Registered (m : Manifest) (caller : Int) (s : Store) : Prop where
  spaces : ∀ key n, s.namespaces.get? key = some n ↔
    ∃ spec ∈ m.namespaces, key = spec.place ∧ n = spec.record caller (sortedWriters spec.writers)
  resources : ∀ key r, s.resources.get? key = some r ↔
    ∃ spec ∈ m.resources, key = spec.place ∧ r = spec.record caller (sortedWriters spec.writers)

variable {m : Manifest} {spec : ResourceSpec}

theorem Splits.split (h : m.Splits) (declared : spec ∈ m.resources) :
    Tag.split? spec.tag none = some spec.names := by
  obtain ⟨names, hnames⟩ := h spec declared
  rw [ResourceSpec.names, hnames, Option.getD_some]

/-- The record of a declared resource is under the declared tag. -/
theorem Splits.tag_record (h : m.Splits) (declared : spec ∈ m.resources) (caller : Int)
    (writers : Writers) : (spec.record caller writers).tag = spec.tag :=
  (Tag.eq_join_of_split? (h.split declared)).1.symm

end Manifest

namespace Plan

variable {m : Manifest} {version : Nat}

theorem forNamespace_empty (spec : NamespaceSpec) : forNamespace .empty spec =
    ⟨[.space spec.name spec.place], firstGrants .space spec.name spec.place spec.writers, []⟩ := by
  have hnone : Store.empty.namespaces.records.get? spec.place = none := rfl
  have hplace : Store.empty.namespaceSelector spec.name = spec.place := rfl
  simp [forNamespace, hplace, hnone, writerChanges_nil]

theorem forResource_empty (splits : m.Splits) {spec : ResourceSpec} (declared : spec ∈ m.resources) :
    forResource .empty version spec = .ok ⟨[.resource spec.tag spec.place spec.names.1 spec.kind],
      firstGrants .resource spec.tag spec.place spec.writers, []⟩ := by
  have hsplit : Tag.split spec.tag none = .ok spec.names := Tag.split_eq_ok_iff.mpr (splits.split declared)
  have hnone : (Store.empty.snapshot version).resourceByTag spec.tag = none := rfl
  simp [forResource, hsplit, hnone, writerChanges_nil, Except.map, ResourceSpec.place]

/-- Where nothing is registered, the first plan is made. -/
theorem of_empty (splits : m.Splits) : of .empty version m = .ok (first m) := by
  refine of_eq_ok_iff.mpr ⟨m.resources.map fun spec =>
    ⟨[.resource spec.tag spec.place spec.names.1 spec.kind],
      firstGrants .resource spec.tag spec.place spec.writers, []⟩, ?_, ?_⟩
  · exact List.forall₂_map_right_iff.mpr (List.forall₂_same.mpr fun _ => forResource_empty splits)
  · simp only [concat_eq, first, List.flatMap_append, List.flatMap_map, forNamespace_empty]
    simp [List.map_eq_flatMap]

theorem first_spaces (m : Manifest) : (first m).registrationsIn .space =
    m.namespaces.map fun spec => .space spec.name spec.place := by
  simp [registrationsIn, first, PlannedRegistration.target, List.filter_map, Function.comp_def]

theorem first_resources (m : Manifest) : (first m).registrationsIn .resource =
    m.resources.map fun spec => .resource spec.tag spec.place spec.names.1 spec.kind := by
  simp [registrationsIn, first, PlannedRegistration.target, List.filter_map, Function.comp_def]

end Plan

/-- Where the items of a list are related to one value each, under a condition, a list is related to
the items when it has these values and the conditions hold. -/
theorem forall₂_map_iff {α β γ : Type} {r : β → γ → Prop} {f : α → β} {g : α → γ} {condition : α → Prop}
    {xs : List α} {ys : List γ} (h : ∀ x ∈ xs, ∀ y, r (f x) y ↔ y = g x ∧ condition x) :
    List.Forall₂ r (xs.map f) ys ↔ ys = xs.map g ∧ ∀ x ∈ xs, condition x := by
  induction xs generalizing ys with
  | nil => simp
  | cons x rest ih =>
      have hrest (ys : List γ) : List.Forall₂ r (rest.map f) ys ↔ _ :=
        ih fun x' hx' => h x' (List.mem_cons_of_mem _ hx')
      simp only [List.map_cons, List.forall₂_cons_left_iff, hrest, h x List.mem_cons_self,
        List.forall_mem_cons]
      constructor
      · rintro ⟨y, ys, ⟨rfl, hfirst⟩, ⟨rfl, hlater⟩, rfl⟩
        exact ⟨rfl, hfirst, hlater⟩
      · rintro ⟨rfl, hfirst, hlater⟩
        exact ⟨_, _, ⟨rfl, hfirst⟩, ⟨rfl, hlater⟩, rfl⟩

namespace Manifest

/-- The entries of the declared namespaces, without writers. -/
def spaceEntries (m : Manifest) (caller : Int) : List Entry :=
  m.namespaces.map fun spec => .space (spec.record caller [])

/-- The entries of the declared resources, without writers. -/
def resourceEntries (m : Manifest) (caller : Int) : List Entry :=
  m.resources.map fun spec => .resource (spec.record caller [])

/-- The store after the first registrations. -/
def firstStore (m : Manifest) (caller : Int) : Store :=
  Store.empty.addAll (m.spaceEntries caller ++ m.resourceEntries caller)

variable {m : Manifest} {caller : Int} {policy : Policy}

theorem not_has_empty (e : Entry) : ¬ Store.empty.Has e := by
  cases e <;> simp [Store.Has, Store.empty, NamespaceTable.empty, ResourceTable.empty]

/-- The entries of a validated manifest can all be added where nothing is registered. -/
theorem Distinct.admits (distinct : m.Distinct) (valid : m.Validated) (splits : m.Splits) (caller : Int) :
    Store.empty.Admits (m.spaceEntries caller ++ m.resourceEntries caller) where
  free e _ e' hhas := absurd hhas (not_has_empty e')
  apart := by
    obtain ⟨hnames, htags⟩ := valid.nodup
    refine List.pairwise_append.mpr ⟨?_, ?_, ?_⟩
    · refine List.pairwise_map.mpr ((List.pairwise_map.mp hnames).imp_of_mem ?_)
      intro a b ha hb hne htarget
      refine ⟨fun hplace => hne ?_, hne⟩
      exact distinct.spaces _ (mem_spaceNames_of_namespace ha) _ (mem_spaceNames_of_namespace hb)
        (Int.ofNat.inj hplace)
    · refine List.pairwise_map.mpr ((List.pairwise_map.mp htags).imp_of_mem ?_)
      intro a b ha hb hne htarget
      refine ⟨fun hplace => hne (distinct.resources a ha b hb hplace), ?_⟩
      have htag : (a.record caller []).tag ≠ (b.record caller []).tag := by
        rwa [splits.tag_record ha, splits.tag_record hb]
      exact htag
    · intro e he e' he' htarget
      obtain ⟨a, -, rfl⟩ := List.mem_map.mp he
      obtain ⟨b, -, rfl⟩ := List.mem_map.mp he'
      cases htarget

/-- What is in the tables after the first registrations. -/
theorem Distinct.has_iff (distinct : m.Distinct) (valid : m.Validated) (splits : m.Splits) {e : Entry} :
    (m.firstStore caller).Has e ↔ (∃ spec ∈ m.namespaces, .space (spec.record caller []) = e) ∨
      ∃ spec ∈ m.resources, .resource (spec.record caller []) = e := by
  rw [firstStore, Store.has_addAll (distinct.admits valid splits caller), or_iff_left (not_has_empty e),
    List.mem_append]
  simp only [spaceEntries, resourceEntries, List.mem_map]

theorem Distinct.found_space (distinct : m.Distinct) (valid : m.Validated) (splits : m.Splits)
    {spec : NamespaceSpec} (declared : spec ∈ m.namespaces) (caller : Int) :
    (m.firstStore caller).namespaces.records.get? spec.place = some (spec.record caller []) :=
  (distinct.has_iff valid splits (e := .space (spec.record caller []))).mpr (Or.inl ⟨spec, declared, rfl⟩)

theorem Distinct.found_resource (distinct : m.Distinct) (valid : m.Validated) (splits : m.Splits)
    {spec : ResourceSpec} (declared : spec ∈ m.resources) (caller : Int) :
    (m.firstStore caller).resources.records.get? spec.place = some (spec.record caller []) :=
  (distinct.has_iff valid splits (e := .resource (spec.record caller []))).mpr (Or.inr ⟨spec, declared, rfl⟩)

/-- What is found in the tables after the first registrations are the declared records. -/
theorem Distinct.space_iff (distinct : m.Distinct) (valid : m.Validated) (splits : m.Splits)
    (sound : (m.firstStore caller).Sound) {key : Int} {n : NamespaceRecord} :
    (m.firstStore caller).namespaces.records.get? key = some n ↔
      ∃ spec ∈ m.namespaces, key = spec.place ∧ n = spec.record caller [] := by
  rw [sound.space_iff, distinct.has_iff valid splits]
  constructor
  · rintro ⟨⟨spec, hspec, heq⟩ | ⟨spec, hspec, heq⟩, rfl⟩
    · obtain rfl := Entry.space.inj heq
      exact ⟨spec, hspec, rfl, rfl⟩
    · cases heq
  · rintro ⟨spec, hspec, rfl, rfl⟩
    exact ⟨Or.inl ⟨spec, hspec, rfl⟩, rfl⟩

theorem Distinct.resource_iff (distinct : m.Distinct) (valid : m.Validated) (splits : m.Splits)
    (sound : (m.firstStore caller).Sound) {key : Int} {r : ResourceRecord} :
    (m.firstStore caller).resources.records.get? key = some r ↔
      ∃ spec ∈ m.resources, key = spec.place ∧ r = spec.record caller [] := by
  rw [sound.resource_iff, distinct.has_iff valid splits]
  constructor
  · rintro ⟨⟨spec, hspec, heq⟩ | ⟨spec, hspec, heq⟩, rfl⟩
    · cases heq
    · obtain rfl := Entry.resource.inj heq
      exact ⟨spec, hspec, rfl, rfl⟩
  · rintro ⟨spec, hspec, rfl, rfl⟩
    exact ⟨Or.inr ⟨spec, hspec, rfl⟩, rfl⟩

/-- What is in the tables after the namespaces are registered. -/
theorem Distinct.hasSpace_iff (distinct : m.Distinct) (valid : m.Validated) (splits : m.Splits)
    {n : NamespaceRecord} : (Store.empty.addAll (m.spaceEntries caller)).Has (.space n) ↔
      ∃ spec ∈ m.namespaces, spec.record caller [] = n := by
  have hadmits := (Store.admits_append.mp (distinct.admits valid splits caller)).1
  rw [Store.has_addAll hadmits, or_iff_left (not_has_empty _), spaceEntries, List.mem_map]
  simp only [Entry.space.injEq]

section Spaces

variable (distinct : m.Distinct) (valid : m.Validated) (splits : m.Splits)
  (sound : (Store.empty.addAll (m.spaceEntries caller)).Sound)

include distinct valid splits sound

/-- Every name leads to the selector that is derived for it, whether it is declared or not. -/
theorem namespaceSelector_first (name : String) :
    (Store.empty.addAll (m.spaceEntries caller)).namespaceSelector name = Selector.ofNamespace name := by
  unfold Store.namespaceSelector
  cases hselector : (Store.empty.addAll (m.spaceEntries caller)).namespaces.selectorOf? name with
  | none => rfl
  | some key =>
      obtain ⟨n, hn, hname⟩ := sound.namespaces.indexed.index_get?_iff.mp hselector
      obtain ⟨hhas, hkey⟩ := sound.space_iff.mp hn
      obtain ⟨spec, -, rfl⟩ := (distinct.hasSpace_iff valid splits).mp hhas
      rw [Option.getD_some, ← hkey, ← hname]
      rfl

/-- At the selector that is derived for a used name there is the declared namespace with that name. -/
theorem home_first_iff {name : String} (used : name ∈ m.spaceNames) {home : NamespaceRecord} :
    (Store.empty.addAll (m.spaceEntries caller)).namespaces.records.get? (Selector.ofNamespace name) =
      some home ↔ ∃ spec ∈ m.namespaces, spec.name = name ∧ spec.record caller [] = home := by
  rw [sound.space_iff, distinct.hasSpace_iff valid splits]
  constructor
  · rintro ⟨⟨spec, hspec, rfl⟩, hkey⟩
    refine ⟨spec, hspec, ?_, rfl⟩
    exact distinct.spaces _ (mem_spaceNames_of_namespace hspec) _ used (Int.ofNat.inj hkey)
  · rintro ⟨spec, hspec, rfl, rfl⟩
    exact ⟨⟨spec, hspec, rfl⟩, rfl⟩

end Spaces

end Manifest

namespace Plan

open PlannedRegistration (Becomes)

variable {m : Manifest} {caller : Int} {policy : Policy} {es : List Entry}

/-- The declared namespaces become their entries when the caller is an account and their derived
selectors are accepted. -/
theorem become_spaces_iff (named : ∀ spec ∈ m.namespaces, Name.isValid spec.name = true) :
    List.Forall₂ (Becomes policy .empty caller) ((first m).registrationsIn .space) es ↔
      es = m.spaceEntries caller ∧ ∀ spec ∈ m.namespaces,
        policy.directory.isAccount caller = true ∧ policy.validator.accepts spec.place = true := by
  rw [first_spaces]
  apply forall₂_map_iff
  intro spec hspec e
  constructor
  · intro hbecomes
    cases hbecomes with
    | space named account accepted => exact ⟨rfl, account, accepted⟩
  · rintro ⟨rfl, account, accepted⟩
    exact .space (named spec hspec) account accepted

/-- The declared resources become their entries when their namespaces are declared, and the selectors
that are derived for their namespaces and for them are accepted. -/
theorem become_resources_iff (distinct : m.Distinct) (valid : m.Validated) (splits : m.Splits)
    (sound : (Store.empty.addAll (m.spaceEntries caller)).Sound) :
    List.Forall₂ (Becomes policy (Store.empty.addAll (m.spaceEntries caller)) caller)
        ((first m).registrationsIn .resource) es ↔
      es = m.resourceEntries caller ∧ ∀ spec ∈ m.resources, spec.names.1 ∈ m.namespaces.map (·.name) ∧
        policy.validator.accepts (Selector.ofNamespace spec.names.1) = true ∧
        policy.validator.accepts spec.place = true := by
  rw [first_resources]
  apply forall₂_map_iff
  intro spec hspec e
  have hsplit := splits.split hspec
  have hused := Manifest.mem_spaceNames_of_resource hspec hsplit
  have hselector := Manifest.namespaceSelector_first distinct valid splits sound spec.names.1
  have hhome (home : NamespaceRecord) : _ = some home ↔ _ :=
    Manifest.home_first_iff distinct valid splits sound hused
  constructor
  · intro hbecomes
    cases hbecomes with
    | @resource _ _ _ _ names home split found acceptedSpace accepted writable =>
        rw [hselector] at found acceptedSpace ⊢
        obtain rfl : spec.names = names := Option.some.inj (hsplit.symm.trans split)
        obtain ⟨other, hother, hname, rfl⟩ := (hhome home).mp found
        refine ⟨?_, hname ▸ List.mem_map_of_mem hother, acceptedSpace, accepted⟩
        have hspace : (other.record caller []).name = spec.names.1 := hname
        rw [hspace]
        rfl
  · rintro ⟨rfl, hhoused, acceptedSpace, accepted⟩
    obtain ⟨other, hother, hname⟩ := List.mem_map.mp hhoused
    have found := (hhome _).mpr ⟨other, hother, hname, rfl⟩
    rw [← hselector] at found acceptedSpace
    have hbecomes : Becomes policy _ caller (.resource spec.tag spec.place spec.names.1 spec.kind) _ :=
      .resource hsplit found acceptedSpace accepted fun _ => Or.inl rfl
    rw [hselector] at hbecomes
    have hspace : (other.record caller []).name = spec.names.1 := hname
    rw [hspace] at hbecomes
    exact hbecomes

variable (named : ∀ spec ∈ m.namespaces, Name.isValid spec.name = true) (valid : m.Validated)
  (splits : m.Splits) (distinct : m.Distinct)

include named valid splits distinct

/-- The first plan is feasible only for those who may apply the manifest. -/
theorem applicable_of_feasible {spaces resources : List Entry}
    (feasible : (first m).Feasible m policy caller .empty spaces resources) : m.Applicable policy caller := by
  have hplan : of .empty 0 m = .ok (first m) := of_empty splits
  obtain ⟨rfl, hspaces⟩ := (become_spaces_iff named).mp feasible.first
  have hsound := World.sound_of_becomes Store.sound_empty (fun _ => whole_of_mem hplan)
    (fun _ => target_of_mem) feasible.first (Store.admits_append.mp feasible.admitted).1
  obtain ⟨-, hresources⟩ := (become_resources_iff distinct valid splits hsound).mp feasible.later
  constructor
  · intro hdeclared
    obtain ⟨spec, hspec⟩ := List.exists_mem_of_ne_nil _ hdeclared
    exact (hspaces spec hspec).1
  · exact fun spec hspec => (hresources spec hspec).1
  · exact fun spec hspec => (hspaces spec hspec).2
  · exact fun spec hspec => (hresources spec hspec).2.2

/-- Those who may apply the manifest can make all its registrations. -/
theorem enters_of_applicable (applicable : m.Applicable policy caller) :
    (first m).Enters policy caller .empty (m.spaceEntries caller) (m.resourceEntries caller) := by
  have hplan : of .empty 0 m = .ok (first m) := of_empty splits
  have hadmits := distinct.admits valid splits caller
  have hfirst := (become_spaces_iff named).mpr ⟨rfl, fun spec hspec =>
    ⟨applicable.account (List.ne_nil_of_mem hspec), applicable.acceptedSpaces spec hspec⟩⟩
  have hsound := World.sound_of_becomes Store.sound_empty (fun _ => whole_of_mem hplan)
    (fun _ => target_of_mem) hfirst (Store.admits_append.mp hadmits).1
  refine ⟨hfirst, ?_, hadmits⟩
  refine (become_resources_iff distinct valid splits hsound).mpr ⟨rfl, fun spec hspec => ?_⟩
  have hhoused := applicable.housed spec hspec
  obtain ⟨other, hother, hname⟩ := List.mem_map.mp hhoused
  exact ⟨hhoused, hname ▸ applicable.acceptedSpaces other hother, applicable.acceptedResources spec hspec⟩

/-- The first plan is feasible for those who may apply the manifest: nothing but the declared resources
is confirmed, and the caller owns every record that it grants a writer on. -/
theorem feasible_of_applicable (applicable : m.Applicable policy caller) :
    (first m).Feasible m policy caller .empty (m.spaceEntries caller) (m.resourceEntries caller) := by
  have hplan : of .empty 0 m = .ok (first m) := of_empty splits
  have henters := enters_of_applicable named valid splits distinct applicable
  have hsound : (m.firstStore caller).Sound := World.sound_of_enters Store.sound_empty hplan henters
  refine ⟨henters, ?_, ?_⟩
  · intro spec hspec r hr
    obtain ⟨hfound, htag⟩ := (ResourceTable.getByTag?_eq_some_iff hsound.resources).mp hr
    obtain ⟨other, hother, -, rfl⟩ := (distinct.resource_iff valid splits hsound).mp hfound
    rw [splits.tag_record hother] at htag
    obtain rfl := List.inj_on_of_nodup_map valid.nodup.2 hother hspec htag
    exact ⟨applicable.acceptedResources other hother, rfl⟩
  · intro c hc
    have hgrants : c ∈ (first m).grants := by simpa [first] using hc
    rcases List.mem_append.mp hgrants with hc | hc
    · obtain ⟨spec, hspec, hc⟩ := List.mem_flatMap.mp hc
      obtain ⟨x, -, rfl⟩ := List.mem_map.mp hc
      exact ⟨applicable.acceptedSpaces spec hspec, [],
        Store.access?_space (distinct.found_space valid splits hspec caller)⟩
    · obtain ⟨spec, hspec, hc⟩ := List.mem_flatMap.mp hc
      obtain ⟨x, -, rfl⟩ := List.mem_map.mp hc
      exact ⟨applicable.acceptedResources spec hspec, [],
        Store.access?_resource (distinct.found_resource valid splits hspec caller)⟩

omit named

/-- After the first registrations, every subject is an entry without writers. -/
theorem entry?_first {e : Subject} (declares : Declares .empty m e) (caller : Int) :
    e.current = [] ∧ Store.entry? (m.firstStore caller) e.target e.selector = some (e.label, []) := by
  cases declares with
  | @space spec hspec =>
      have hfound := distinct.found_space valid splits hspec caller
      have hselector : (spaceSubject .empty spec).selector = spec.place := rfl
      refine ⟨rfl, ?_⟩
      rw [hselector]
      simp only [Store.entry?, spaceSubject, hfound]
      rfl
  | @resource spec names hspec hsplit =>
      have hfound := distinct.found_resource valid splits hspec caller
      obtain rfl : spec.names = names := Option.some.inj ((splits.split hspec).symm.trans hsplit)
      have hselector : (resourceSubject .empty spec spec.names).selector = spec.place := rfl
      refine ⟨rfl, ?_⟩
      rw [hselector]
      simp only [Store.entry?, resourceSubject, hfound, Option.map_some, splits.tag_record hspec]
      rfl

/-- The first plan gives the record of a subject the declared writers. -/
theorem rewrite_first {e : Subject} (declares : Declares .empty m e) :
    (first m).rewrite e.target e.selector [] = sortedWriters e.wanted := by
  have hplan : of .empty 0 m = .ok (first m) := of_empty splits
  have hcurrent := (entry?_first valid splits distinct declares 0).1
  have hentries : ∀ e, Declares .empty m e →
      Store.entry? (m.firstStore 0) e.target e.selector = some (e.label, e.current) := by
    intro e hdeclares
    obtain ⟨hcurrent, hentry⟩ := entry?_first valid splits distinct hdeclares 0
    rw [hcurrent]
    exact hentry
  apply IntSet.eq_of_mem_iff (ascending_rewrite IntSet.ascending_nil) (ascending_sortedWriters _)
  intro x
  obtain ⟨hwanted, hunwanted⟩ :=
    mem_rewrite_of_declares Store.sound_empty valid hplan hentries declares (x := x)
  rw [hcurrent] at hwanted hunwanted
  rw [mem_sortedWriters]
  cases hcase : e.wanted with
  | none => simpa using hunwanted hcase
  | some ws => simpa using hwanted ws hcase

/-- The records after the first registrations, with their writers rewritten, are exactly the declared
ones. -/
theorem registered_of_rewritten {s : Store} (sound : (m.firstStore caller).Sound)
    (rewritten : Store.Rewritten (first m).rewrite (m.firstStore caller) s) : m.Registered caller s := by
  have hspace : ∀ spec ∈ m.namespaces, (first m).rewrite .space spec.place [] = sortedWriters spec.writers :=
    fun spec hspec => rewrite_first valid splits distinct (.space hspec)
  have hresource : ∀ spec ∈ m.resources,
      (first m).rewrite .resource spec.place [] = sortedWriters spec.writers :=
    fun spec hspec => rewrite_first valid splits distinct (.resource hspec (splits.split hspec))
  constructor
  · intro key n
    rw [NamespaceTable.get?, rewritten.spaces, Option.map_eq_some_iff]
    simp only [distinct.space_iff valid splits sound]
    constructor
    · rintro ⟨_, ⟨spec, hspec, rfl, rfl⟩, rfl⟩
      exact ⟨spec, hspec, rfl, hspace spec hspec ▸ rfl⟩
    · rintro ⟨spec, hspec, rfl, rfl⟩
      exact ⟨_, ⟨spec, hspec, rfl, rfl⟩, hspace spec hspec ▸ rfl⟩
  · intro key r
    rw [ResourceTable.get?, rewritten.resources, Option.map_eq_some_iff]
    simp only [distinct.resource_iff valid splits sound]
    constructor
    · rintro ⟨_, ⟨spec, hspec, rfl, rfl⟩, rfl⟩
      exact ⟨spec, hspec, rfl, hresource spec hspec ▸ rfl⟩
    · rintro ⟨spec, hspec, rfl, rfl⟩
      exact ⟨_, ⟨spec, hspec, rfl, rfl⟩, hresource spec hspec ▸ rfl⟩

end Plan

/-- Every audit that can read its settings and its configuration and that loads the manifest reports
the plan. -/
def Manifest.AuditedAs (m : Manifest) (p : Plan) : Prop :=
  ∀ (s : Settings) (level : Level) (documents : Documents) (paths : AuditPaths) (w : World),
    Level.ofSetting s.logLevel = .ok level →
    World.create (.fresh false) (.ok s) s.defaultNamespace (paths.security.getD s.securityPath) documents =
      .ok w →
    Manifest.load (.ok s) documents (some (paths.manifest.getD s.manifestPath)) = .ok m →
    ∃ report records, audit (.ok s) documents paths = .ok (report, records) ∧ report.plan = p

namespace World

variable {m : Manifest} {w : World}

/-- An audit plans in a world that is created for it, where nothing is registered. -/
theorem auditedAs_first (splits : m.Splits) : m.AuditedAs (.first m) := by
  intro s level documents paths w hlevel hcreate hload
  have hempty : w.core.store = .empty := (create_fresh hcreate).1
  have hof : Plan.of w.core.store w.core.version m = .ok (.first m) := by
    rw [hempty]
    exact Plan.of_empty splits
  obtain ⟨after, hplan⟩ := plan_of_eq_ok hof
  let report : AuditReport := ⟨s.projectName, s.version, Path.tidy (paths.manifest.getD s.manifestPath),
    w.core.policy.directory.findings, .first m⟩
  refine ⟨report, after.journal.log.filter (·.isWritten level), ?_, rfl⟩
  unfold audit
  refine bind_eq_ok.mpr ⟨s, rfl, bind_eq_ok.mpr ⟨level, hlevel, bind_eq_ok.mpr ⟨w, hcreate,
    bind_eq_ok.mpr ⟨m, hload, ?_⟩⟩⟩⟩
  rw [hplan]
  rfl

/-- A manifest that was read, with tags that split and derived selectors that are distinct, can be
applied where nothing is registered exactly by those who may. The plan registers and grants all that
is declared, as audits report it, and the tables have exactly that afterwards. -/
theorem apply_first (fresh : w.core.store = .empty) {declared : Value}
    (read : Manifest.ofValue declared = .ok m) (splits : m.Splits) (distinct : m.Distinct) (caller : Int) :
    ((∃ p, (apply m caller w).1 = .ok p) ↔ m.Applicable w.core.policy caller) ∧
      (∀ p w', apply m caller w = (.ok p, w') → p = .first m ∧ m.Registered caller w'.core.store) ∧
      m.AuditedAs (.first m) := by
  have hnamed := Manifest.named_of_ofValue read
  have hvalid := Manifest.validated_of_ofValue read
  have hsound : w.core.store.Sound := fresh ▸ Store.sound_empty
  have hplan : Plan.of w.core.store w.core.version m = .ok (.first m) := by
    rw [fresh]
    exact Plan.of_empty splits
  have happlicable : (∃ p, (apply m caller w).1 = .ok p) → m.Applicable w.core.policy caller := by
    rintro ⟨p, hp⟩
    obtain ⟨hp, spaces, resources, hfeasible⟩ := (apply_eq_ok_iff hsound).mp hp
    obtain rfl : .first m = p := Except.ok.inj (hplan.symm.trans hp)
    rw [fresh] at hfeasible
    exact Plan.applicable_of_feasible hnamed hvalid splits distinct hfeasible
  have hfeasible : m.Applicable w.core.policy caller → Plan.Feasible (.first m) m w.core.policy caller
      w.core.store (m.spaceEntries caller) (m.resourceEntries caller) := by
    intro happlicable
    rw [fresh]
    exact Plan.feasible_of_applicable hnamed hvalid splits distinct happlicable
  refine ⟨⟨happlicable, fun h => ?_⟩, fun p w' h => ?_, auditedAs_first splits⟩
  · exact ⟨_, (apply_eq_ok_iff hsound).mpr ⟨hplan, _, _, hfeasible h⟩⟩
  · have h' := hfeasible (happlicable ⟨p, congrArg Prod.fst h⟩)
    have hadded := sound_of_enters hsound hplan h'.toEnters
    obtain ⟨v, hv, hrewritten, -⟩ := apply_of_feasible hsound hplan h'
    obtain ⟨hp, rfl⟩ := Prod.mk.inj (hv.symm.trans h)
    rw [fresh] at hadded hrewritten
    exact ⟨(Except.ok.inj hp).symm,
      Plan.registered_of_rewritten hvalid splits distinct hadded hrewritten⟩

/-- The bare world with an account. -/
def opening : World := (registerCaller ⟨.account, 1, none⟩ bare).2

/-- A manifest of two namespaces, and a resource in one of them. -/
def hall : Manifest :=
  { version := 1, defaultNamespace := some "hall"
    namespaces := [⟨"hall", some [3, 2, 3]⟩, ⟨"yard", none⟩]
    resources := [⟨"hall-door", .event, some [5, 4]⟩] }

/-- Settings with one path for each document. -/
def hallSettings : Settings := { securityPath := "s", manifestPath := "m" }

/-- The documents with that manifest and no security document. -/
def hallDocuments : Documents := Documents.write ⟨.empty, []⟩ "m" (some (.ok hall.toValue))

theorem hallDocuments_at :
    hallDocuments.at? "s" = none ∧ hallDocuments.at? "m" = some (.ok hall.toValue) := by
  constructor
  · have hapart : Path.resolved "s" ≠ Path.resolved "m" := by
      rw [resolved_paths.1, resolved_paths.2]
      decide
    exact (Documents.at?_write_of_ne _ hapart).trans absent_bare
  · apply Documents.at?_write
    rw [Documents.isDirectory, resolved_paths.2]
    decide +kernel

/-- An audit can be set up from the settings and the documents, and loads the manifest. -/
theorem hall_audited : Level.ofSetting hallSettings.logLevel = .ok .info ∧
    (∃ w, create (.fresh false) (.ok hallSettings) "dojo" "s" hallDocuments = .ok w) ∧
      Manifest.load (.ok hallSettings) hallDocuments (some "m") = .ok hall := by
  refine ⟨?_, ?_, ?_⟩
  · have hupper : Text.upper hallSettings.logLevel = "INFO" := by decide +kernel
    rw [Level.ofSetting, hupper]
    rfl
  · unfold create
    simp only [configuration_of_absent hallDocuments_at.1]
    exact ⟨_, rfl⟩
  · simp only [Manifest.load, bind, Except.bind, pure, Except.pure, hallDocuments_at.2]
    rfl

/-- The derived selectors of the manifest are distinct. -/
theorem hall_distinct : hall.Distinct := by
  have hnames : ∀ name ∈ hall.spaceNames, name ∈ ["hall", "yard"] := by decide +kernel
  have hplaces : (["hall", "yard"].map Selector.ofNamespace).Nodup := by decide +kernel
  constructor
  · intro name hname other hother
    exact List.inj_on_of_nodup_map hplaces (hnames name hname) (hnames other hother)
  · simp [hall]

/-- The account can apply the manifest where nothing is registered, and an audit reports the plan. -/
theorem apply_first_hall :
    (∃ w', apply hall 1 opening = (.ok (.first hall), w') ∧ hall.Registered 1 w'.core.store) ∧
      ∃ report records, audit (.ok hallSettings) hallDocuments ⟨none, none⟩ = .ok (report, records) ∧
        report.plan = .first hall := by
  have hread : Manifest.ofValue hall.toValue = .ok hall := by rfl
  have hfresh : opening.core.store = .empty := rfl
  have hsplit : ∀ spec ∈ hall.resources, (Tag.split? spec.tag none).isSome = true := by decide +kernel
  have hsplits : hall.Splits := fun spec hspec => Option.isSome_iff_exists.mp (hsplit spec hspec)
  have happlicable : hall.Applicable opening.core.policy 1 :=
    ⟨fun _ => by decide +kernel, by decide +kernel, by decide +kernel, by decide +kernel⟩
  obtain ⟨hiff, hplan, haudited⟩ := apply_first hfresh hread hsplits hall_distinct 1
  constructor
  · obtain ⟨p, hp⟩ := hiff.mpr happlicable
    obtain ⟨w', happly⟩ := eq_ok_of_fst hp
    obtain ⟨rfl, hregistered⟩ := hplan p w' happly
    exact ⟨w', happly, hregistered⟩
  · obtain ⟨hlevel, ⟨w, hcreate⟩, hload⟩ := hall_audited
    exact haudited hallSettings .info hallDocuments ⟨none, none⟩ w hlevel hcreate hload

end World

end OwnershipRegistry
