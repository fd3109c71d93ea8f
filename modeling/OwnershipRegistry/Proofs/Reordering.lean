import Mathlib.Data.List.Perm.Basic
import OwnershipRegistry.Proofs.Feasibility

/-!
# The order of declarations

Manifests that declare the same in another order have plans with the same
registrations, grants and revocations in another order. One of them can be
carried out exactly when the other one can, and both lead to the same tables.
-/

namespace OwnershipRegistry

/-- Lists that have the same items in another order. -/
def Reordered {α : Type} (same : α → α → Prop) (xs ys : List α) : Prop :=
  ∃ zs, xs.Perm zs ∧ List.Forall₂ same zs ys

namespace Reordered

variable {α β : Type} {same : α → α → Prop} {r : α → β → Prop} {xs ys : List α}

theorem symm (symm : ∀ {x y}, same x y → same y x) (h : Reordered same xs ys) : Reordered same ys xs := by
  obtain ⟨zs, hperm, hsame⟩ := h
  obtain ⟨zs', hsame', hperm'⟩ := List.perm_comp_forall₂ hperm hsame
  exact ⟨zs', hperm'.symm, (hsame'.imp fun _ _ => symm).flip⟩

theorem exists_of_mem (h : Reordered same xs ys) {y : α} (hy : y ∈ ys) : ∃ x ∈ xs, same x y := by
  obtain ⟨zs, hperm, hsame⟩ := h
  obtain ⟨x, hx, hxy⟩ := exists_of_forall₂ hsame.flip hy
  exact ⟨x, hperm.mem_iff.mpr hx, hxy⟩

/-- A function that does not tell the items apart gives the same values in another order. -/
theorem map (h : Reordered same xs ys) {f : α → β} (congr : ∀ {x y}, same x y → f x = f y) :
    (xs.map f).Perm (ys.map f) := by
  obtain ⟨zs, hperm, hsame⟩ := h
  have hvalues : zs.map f = ys.map f := by
    induction hsame generalizing xs with
    | nil => rfl
    | cons hfirst _ ih => rw [List.map_cons, List.map_cons, congr hfirst, ih (.refl _)]
  rw [← hvalues]
  exact hperm.map f

/-- What the items of one list are related to, those of the other one are related to in another
order. -/
theorem forall₂ (h : Reordered same xs ys) {bs : List β} (hr : List.Forall₂ r xs bs)
    (congr : ∀ x y b, same x y → r x b → r y b) : ∃ bs', List.Forall₂ r ys bs' ∧ bs.Perm bs' := by
  obtain ⟨zs, hperm, hsame⟩ := h
  obtain ⟨bs', hbs', hperm'⟩ := List.perm_comp_forall₂ hperm.symm hr
  refine ⟨bs', ?_, hperm'.symm⟩
  clear hperm hperm' hr
  induction hsame generalizing bs' with
  | nil => exact hbs'
  | cons hfirst _ ih =>
      obtain ⟨b, rest, hb, hrest, rfl⟩ := List.forall₂_cons_left_iff.mp hbs'
      exact .cons (congr _ _ b hfirst hb) (ih rest hrest)

end Reordered

/-- Writers that are declared with the same elements, in any order and with any repetitions, or not
declared at all. -/
def SameWriters : Option (List Int) → Option (List Int) → Prop :=
  Option.Rel fun ws ws' => ∀ x, x ∈ ws ↔ x ∈ ws'

theorem SameWriters.symm {ws ws' : Option (List Int)} (h : SameWriters ws ws') : SameWriters ws' ws := by
  cases h with
  | some hsame => exact .some fun x => (hsame x).symm
  | none => exact .none

/-- Declarations of a namespace with the same writers. -/
structure NamespaceSpec.Same (a b : NamespaceSpec) : Prop where
  name : a.name = b.name
  writers : SameWriters a.writers b.writers

/-- Declarations of a resource, of one kind and with the same writers. -/
structure ResourceSpec.Same (a b : ResourceSpec) : Prop where
  tag : a.tag = b.tag
  kind : a.kind = b.kind
  writers : SameWriters a.writers b.writers

theorem NamespaceSpec.Same.symm {a b : NamespaceSpec} (h : a.Same b) : b.Same a :=
  ⟨h.name.symm, h.writers.symm⟩

theorem ResourceSpec.Same.symm {a b : ResourceSpec} (h : a.Same b) : b.Same a :=
  ⟨h.tag.symm, h.kind.symm, h.writers.symm⟩

/-- Manifests that declare the same namespaces, resources and writers in another order. -/
structure Manifest.Reordered (m m' : Manifest) : Prop where
  namespaces : OwnershipRegistry.Reordered NamespaceSpec.Same m.namespaces m'.namespaces
  resources : OwnershipRegistry.Reordered ResourceSpec.Same m.resources m'.resources

/-- Plans that change the same in another order. -/
structure Plan.Reordered (p q : Plan) : Prop where
  registrations : p.registrations.Perm q.registrations
  grants : p.grants.Perm q.grants
  revokes : p.revokes.Perm q.revokes

theorem Manifest.Reordered.symm {m m' : Manifest} (h : m.Reordered m') : m'.Reordered m :=
  ⟨h.namespaces.symm NamespaceSpec.Same.symm, h.resources.symm ResourceSpec.Same.symm⟩

namespace Plan

variable {s : Store} {version : Nat} {m m' : Manifest} {p q : Plan} {caller : Int}

theorem writerChanges_congr {ws ws' : Option (List Int)} (h : SameWriters ws ws') (target : Target)
    (label : String) (key : Int) (current : Writers) :
    writerChanges target label key current ws = writerChanges target label key current ws' := by
  cases h with
  | some hsame => rw [writerChanges, writerChanges, IntSet.ofList_eq_of_mem_iff hsame]
  | none => rfl

theorem forNamespace_congr {a b : NamespaceSpec} (h : a.Same b) : forNamespace s a = forNamespace s b := by
  unfold forNamespace
  rw [h.name]
  simp only [writerChanges_congr h.writers]

theorem forResource_congr {a b : ResourceSpec} (h : a.Same b) :
    forResource s version a = forResource s version b := by
  unfold forResource
  rw [h.tag, h.kind]
  simp only [writerChanges_congr h.writers]

/-- The parts of a plan may stand in any order. -/
theorem reordered_concat {parts parts' : List Plan} (h : parts.Perm parts') :
    (concat parts).Reordered (concat parts') := by
  rw [concat_eq, concat_eq]
  exact ⟨h.flatMap_right _, h.flatMap_right _, h.flatMap_right _⟩

/-- Where a manifest can be planned, it can be planned in any order, and the plans change the same. -/
theorem of_reordered (h : m.Reordered m') (hp : of s version m = .ok p) :
    ∃ q, of s version m' = .ok q ∧ p.Reordered q := by
  obtain ⟨parts, hparts, rfl⟩ := of_eq_ok_iff.mp hp
  obtain ⟨parts', hparts', hresources⟩ := h.resources.forall₂ hparts
    fun _ _ _ hsame hpart => (forResource_congr hsame).symm.trans hpart
  have hspaces := h.namespaces.map fun hsame => forNamespace_congr (s := s) hsame
  exact ⟨_, of_eq_ok_iff.mpr ⟨parts', hparts', rfl⟩, reordered_concat (hspaces.append hresources)⟩

/-- Plans that change the same rewrite writers in the same way. -/
theorem Reordered.rewrite_eq (h : p.Reordered q) {target : Target} {key : Int} {writers : Writers}
    (ascending : IntSet.Ascending writers) : p.rewrite target key writers = q.rewrite target key writers := by
  apply IntSet.eq_of_mem_iff (ascending_rewrite ascending) (ascending_rewrite ascending)
  intro x
  simp only [mem_rewrite_iff, h.grants.mem_iff, h.revokes.mem_iff]

theorem Reordered.registrationsIn (h : p.Reordered q) (target : Target) :
    (p.registrationsIn target).Perm (q.registrationsIn target) := h.registrations.filter _

end Plan

namespace World

open PlannedRegistration (Becomes)
open Store (Rewritten)

variable {policy : Policy} {s : Store} {m m' : Manifest} {p q : Plan} {caller : Int}
  {spaces resources : List Entry}

/-- Registrations that can be made can be made in any order. -/
theorem enters_reordered (sound : s.Sound) {before : Store} {version : Nat}
    (hp : Plan.of before version m = .ok p) (hq : Plan.of before version m' = .ok q)
    (reordered : p.Reordered q) (enters : p.Enters policy caller s spaces resources) :
    ∃ spaces' resources', q.Enters policy caller s spaces' resources' ∧
      spaces.Perm spaces' ∧ resources.Perm resources' := by
  obtain ⟨hadmitted, -⟩ := Store.admits_append.mp enters.admitted
  obtain ⟨spaces', hspaces', hperm⟩ :=
    List.perm_comp_forall₂ (reordered.registrationsIn .space).symm enters.first
  have hsound := sound_of_becomes sound (fun _ => Plan.whole_of_mem hp) (fun _ => Plan.target_of_mem)
    enters.first hadmitted
  have hsound' := sound_of_becomes sound (fun _ => Plan.whole_of_mem hq) (fun _ => Plan.target_of_mem)
    hspaces' (hadmitted.perm hperm.symm)
  have halike := (Store.Alike.refl s).addAll hperm.symm hadmitted
  have hlater := Becomes.congrAll enters.later fun _ _ _ => halike.sameSpaces hsound hsound'
  obtain ⟨resources', hresources', hperm'⟩ :=
    List.perm_comp_forall₂ (reordered.registrationsIn .resource).symm hlater
  exact ⟨spaces', resources', ⟨hspaces', hresources',
    enters.admitted.perm (hperm.symm.append hperm'.symm)⟩, hperm.symm, hperm'.symm⟩

/-- What is feasible is feasible in any order. -/
theorem feasible_reordered (sound : s.Sound) {before : Store} {version : Nat}
    (hp : Plan.of before version m = .ok p) (hq : Plan.of before version m' = .ok q)
    (declared : m.Reordered m') (reordered : p.Reordered q)
    (feasible : p.Feasible m policy caller s spaces resources) :
    ∃ spaces' resources', q.Feasible m' policy caller s spaces' resources' ∧
      (s.addAll (spaces ++ resources)).Alike (s.addAll (spaces' ++ resources')) := by
  obtain ⟨spaces', resources', henters, hspaces, hresources⟩ :=
    enters_reordered sound hp hq reordered feasible.toEnters
  have hsound := sound_of_enters sound hp feasible.toEnters
  have hsound' := sound_of_enters sound hq henters
  have halike := (Store.Alike.refl s).addAll (hspaces.append hresources) feasible.admitted
  refine ⟨spaces', resources', ⟨henters, ?_, ?_⟩, halike⟩
  · intro spec' hspec'
    obtain ⟨spec, hspec, hsame⟩ := declared.resources.exists_of_mem hspec'
    have hconfirmed := (halike.confirms_iff hsound hsound').mp (feasible.confirmed spec hspec)
    unfold Store.Confirms at hconfirmed ⊢
    rwa [← hsame.tag, ← hsame.kind]
  · intro c hc
    have hc' := (reordered.grants.append reordered.revokes).mem_iff.mpr hc
    have hchangeable := feasible.changeable c hc'
    unfold Store.Changeable at hchangeable ⊢
    rwa [← halike.access?_eq hsound hsound']

/-- Worlds with the same tables, as maps from selectors to records, at the same version. -/
structure SameTables (w v : World) : Prop where
  namespaces : ∀ key, w.core.store.namespaces.get? key = v.core.store.namespaces.get? key
  resources : ∀ key, w.core.store.resources.get? key = v.core.store.resources.get? key
  version : w.core.version = v.core.version

variable {w : World}

/-- Stores with the same entries, in which plans that change the same have rewritten the writers, have
the same tables. -/
theorem sameTables_of_rewritten {v v' : World} {s' : Store} (sound : s.Sound) (sound' : s'.Sound)
    (alike : s.Alike s') (reordered : p.Reordered q) (h : Rewritten p.rewrite s v.core.store)
    (h' : Rewritten q.rewrite s' v'.core.store) (version : v.core.version = v'.core.version) :
    SameTables v v' where
  namespaces key := by
    have hfound := Store.spaces_eq sound sound' (fun n => alike (.space n)) key
    rw [NamespaceTable.get?, NamespaceTable.get?, h.spaces, h'.spaces, ← hfound]
    cases hn : s.namespaces.records.get? key with
    | none => rfl
    | some n => simp [reordered.rewrite_eq (sound.namespaces.proper key n hn).ascending]
  resources key := by
    have hfound := Store.resources_eq sound sound' (fun r => alike (.resource r)) key
    rw [ResourceTable.get?, ResourceTable.get?, h.resources, h'.resources, ← hfound]
    cases hr : s.resources.records.get? key with
    | none => rfl
    | some r => simp [reordered.rewrite_eq (sound.resources.proper key r hr).ascending]
  version := version

/-- Where an application succeeds, that of the same declarations in another order succeeds as well,
and leads to the same tables. -/
theorem succeeds_of_reordered (sound : w.core.store.Sound) (declared : m.Reordered m')
    (h : (apply m caller w).1 = .ok p) :
    ∃ q, (apply m' caller w).1 = .ok q ∧ SameTables (apply m caller w).2 (apply m' caller w).2 := by
  obtain ⟨hp, spaces, resources, hfeasible⟩ := (apply_eq_ok_iff sound).mp h
  obtain ⟨q, hq, hreordered⟩ := Plan.of_reordered declared hp
  obtain ⟨spaces', resources', hfeasible', halike⟩ :=
    feasible_reordered sound hp hq declared hreordered hfeasible
  obtain ⟨v, hv, hrewritten, hversion⟩ := apply_of_feasible sound hp hfeasible
  obtain ⟨v', hv', hrewritten', hversion'⟩ := apply_of_feasible sound hq hfeasible'
  rw [hv, hv']
  refine ⟨q, rfl, ?_⟩
  apply sameTables_of_rewritten (sound_of_enters sound hp hfeasible.toEnters)
    (sound_of_enters sound hq hfeasible'.toEnters) halike hreordered hrewritten hrewritten'
  rw [hversion, hversion', hreordered.registrations.length_eq, hreordered.grants.length_eq,
    hreordered.revokes.length_eq]

/-- The order of the declarations of a manifest, and of their writers, does not matter: an application
succeeds exactly when it does in another order, and then both lead to the same tables. -/
theorem apply_reordered (reachable : Reachable w) (declared : m.Reordered m') (caller : Int) :
    ((∃ p, (apply m caller w).1 = .ok p) ↔ ∃ q, (apply m' caller w).1 = .ok q) ∧
      ((∃ p, (apply m caller w).1 = .ok p) →
        SameTables (apply m caller w).2 (apply m' caller w).2) := by
  have hsound := reachable.sound
  refine ⟨⟨?_, ?_⟩, ?_⟩
  · rintro ⟨p, h⟩
    obtain ⟨q, hq, -⟩ := succeeds_of_reordered hsound declared h
    exact ⟨q, hq⟩
  · rintro ⟨q, h⟩
    obtain ⟨p, hp, -⟩ := succeeds_of_reordered hsound declared.symm h
    exact ⟨p, hp⟩
  · rintro ⟨p, h⟩
    obtain ⟨q, -, hsame⟩ := succeeds_of_reordered hsound declared h
    exact hsame

/-- The declarations of the manifest about the stocked world from last to first, with writers that are
repeated. -/
def arenaBackwards : Manifest :=
  { version := 1, defaultNamespace := none
    namespaces := [⟨"arena", none⟩, ⟨"game", some [2, 2]⟩]
    resources := [⟨"arena-door", .event, some [2]⟩, ⟨"game-player", .model, some [4, 3, 3]⟩] }

/-- The owner can apply the manifest from last to first, and is led to the same tables. -/
theorem apply_reordered_arena : (∃ q, (apply arenaBackwards 1 stocked).1 = .ok q) ∧
    SameTables (apply arena 1 stocked).2 (apply arenaBackwards 1 stocked).2 := by
  have hnamespaces : Reordered NamespaceSpec.Same arena.namespaces arenaBackwards.namespaces :=
    ⟨[⟨"arena", none⟩, ⟨"game", some [2]⟩], .swap _ _ _,
      .cons ⟨rfl, .none⟩ (.cons ⟨rfl, .some fun x => by simp⟩ .nil)⟩
  have hresources : Reordered ResourceSpec.Same arena.resources arenaBackwards.resources :=
    ⟨[⟨"arena-door", .event, some [2]⟩, ⟨"game-player", .model, some [3, 4]⟩], .swap _ _ _,
      .cons ⟨rfl, rfl, .some fun x => Iff.rfl⟩
        (.cons ⟨rfl, rfl, .some fun x => by simp [or_comm]⟩ .nil)⟩
  have hok : (apply arena 1 stocked).1.isOk = true := by decide +kernel
  obtain ⟨p, hp⟩ : ∃ p, (apply arena 1 stocked).1 = .ok p := by
    cases h : (apply arena 1 stocked).1 with
    | ok p => exact ⟨p, rfl⟩
    | error failure =>
        rw [h] at hok
        cases hok
  obtain ⟨hiff, hsame⟩ := apply_reordered reachable_stocked ⟨hnamespaces, hresources⟩ 1
  exact ⟨hiff.mp ⟨p, hp⟩, hsame ⟨p, hp⟩⟩

end World

end OwnershipRegistry
