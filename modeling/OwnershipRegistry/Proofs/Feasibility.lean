import OwnershipRegistry.Proofs.Access
import OwnershipRegistry.Proofs.Convergence
import OwnershipRegistry.Proofs.Entries
import OwnershipRegistry.Proofs.Refusal

/-!
# When an application succeeds

The flows of an application all succeed exactly when its registrations become
entries that can be added, all declared kinds are confirmed, and the caller may
change the writers of every record that is granted or revoked a writer.
-/

namespace OwnershipRegistry

/-- What a planned registration is about. -/
def PlannedRegistration.target : PlannedRegistration → Target
  | .space _ _ => .space
  | .resource _ _ _ _ => .resource

/-- A planned registration becomes an entry of the caller, without writers: everything that is asked
of it is given, up to a free place. -/
inductive PlannedRegistration.Becomes (policy : Policy) (s : Store) (caller : Int) :
    PlannedRegistration → Entry → Prop
  | space {name : String} {key : Int} (named : Name.isValid name = true)
      (account : policy.directory.isAccount caller = true)
      (accepted : policy.validator.accepts key = true) :
      Becomes policy s caller (.space name key) (.space ⟨name, key, caller, []⟩)
  | resource {tag space : String} {key : Int} {kind : ResourceKind} {names : String × String}
      {home : NamespaceRecord} (split : Tag.split? tag none = some names)
      (found : s.namespaces.records.get? (s.namespaceSelector space) = some home)
      (acceptedSpace : policy.validator.accepts (s.namespaceSelector space) = true)
      (accepted : policy.validator.accepts key = true)
      (writable : policy.enforceNamespaceWrite = true → home.owner = caller ∨ caller ∈ home.writers) :
      Becomes policy s caller (.resource tag key space kind)
        (.resource ⟨home.name, names.2, key, s.namespaceSelector space, caller, kind, [], none, 1⟩)

namespace Store

/-- Stores in which the same namespaces are found, by selector and by name. -/
structure SameSpaces (s s' : Store) : Prop where
  found : ∀ key, s.namespaces.records.get? key = s'.namespaces.records.get? key
  bound : ∀ name, s.namespaceSelector name = s'.namespaceSelector name

/-- The caller may change the writers of a record: its selector is accepted, and the caller owns it. -/
def Changeable (policy : Policy) (caller : Int) (s : Store) (c : WriterChange) : Prop :=
  policy.validator.accepts c.selector = true ∧
    ∃ writers, s.access? c.target c.selector = some (caller, writers)

variable {s s' : Store} {policy : Policy} {caller : Int} {c : WriterChange} {es : List Entry}

theorem SameSpaces.symm (h : s.SameSpaces s') : s'.SameSpaces s :=
  ⟨fun key => (h.found key).symm, fun name => (h.bound name).symm⟩

theorem sameSpaces_of_eq (h : s.namespaces = s'.namespaces) : s.SameSpaces s' where
  found key := by rw [h]
  bound name := by rw [namespaceSelector, namespaceSelector, h]

/-- A further resource leaves the namespaces as they are. -/
theorem sameSpaces_add {e : Entry} (resource : e.target = .resource) : s.SameSpaces (s.add e) := by
  cases e with
  | space n => cases resource
  | resource r => exact sameSpaces_of_eq rfl

theorem Alike.sameSpaces (h : s.Alike s') (sound : s.Sound) (sound' : s'.Sound) : s.SameSpaces s' where
  found := spaces_eq sound sound' fun n => h (.space n)
  bound := namespaceSelector_eq sound sound' fun n => h (.space n)

theorem Alike.confirms_iff (h : s.Alike s') (sound : s.Sound) (sound' : s'.Sound) {spec : ResourceSpec} :
    s.Confirms policy spec ↔ s'.Confirms policy spec := by
  unfold Confirms
  rw [getByTag?_eq sound sound' fun r => h (.resource r)]

theorem Alike.access?_eq (h : s.Alike s') (sound : s.Sound) (sound' : s'.Sound) (target : Target)
    (key : Int) : s.access? target key = s'.access? target key := by
  cases target with
  | space => rw [access?, access?, spaces_eq sound sound' fun n => h (.space n)]
  | resource => rw [access?, access?, resources_eq sound sound' fun r => h (.resource r)]

/-- Rewriting writers keeps the owners. -/
theorem Rewritten.access?_eq {f : Target → Int → Writers → Writers} (h : Rewritten f s s')
    (target : Target) (key : Int) :
    s'.access? target key = (s.access? target key).map fun a => (a.1, f target key a.2) := by
  cases target with
  | space => simp [access?, h.spaces, Function.comp_def]
  | resource => simp [access?, h.resources, Function.comp_def]

/-- The writers of a namespace may be changed by its owner, where the selector is accepted. -/
theorem changeable_space_iff {name : String} {key writer : Int} :
    s.Changeable policy caller ⟨.space, name, key, writer⟩ ↔ policy.validator.accepts key = true ∧
      ∃ n, s.namespaces.records.get? key = some n ∧ n.owner = caller := by
  simp [Changeable, access?, Option.map_eq_some_iff]

theorem changeable_resource_iff {tag : String} {key writer : Int} :
    s.Changeable policy caller ⟨.resource, tag, key, writer⟩ ↔ policy.validator.accepts key = true ∧
      ∃ r, s.resources.records.get? key = some r ∧ r.owner = caller := by
  simp [Changeable, access?, Option.map_eq_some_iff]

theorem Rewritten.changeable_iff {f : Target → Int → Writers → Writers} (h : Rewritten f s s') :
    s'.Changeable policy caller c ↔ s.Changeable policy caller c := by
  unfold Changeable
  rw [h.access?_eq]
  simp

/-- Entries that can be added are those of a first part, and then those of the others. -/
theorem admits_append {fs : List Entry} :
    s.Admits (es ++ fs) ↔ s.Admits es ∧ (s.addAll es).Admits fs := by
  induction es generalizing s with
  | nil =>
      constructor
      · exact fun h => ⟨⟨fun e he => absurd he List.not_mem_nil, List.Pairwise.nil⟩, h⟩
      · exact And.right
  | cons e rest ih =>
      have hstep : s.addAll (e :: rest) = (s.add e).addAll rest := rfl
      rw [List.cons_append, admits_cons, admits_cons, ih, hstep, and_assoc]

end Store

namespace PlannedRegistration

variable {policy : Policy} {s s' : Store} {caller : Int} {item : PlannedRegistration} {e : Entry}

theorem Becomes.target_eq (h : item.Becomes policy s caller e) : e.target = item.target := by
  cases h <;> rfl

/-- What a resource becomes depends on the namespaces alone, and what a namespace becomes on nothing
that is registered. -/
theorem Becomes.congr (h : item.Becomes policy s caller e)
    (same : item.target = .resource → s.SameSpaces s') : item.Becomes policy s' caller e := by
  cases h with
  | space named account accepted => exact .space named account accepted
  | resource split found acceptedSpace accepted writable =>
      have hsame := same rfl
      rw [hsame.bound, hsame.found] at found
      rw [hsame.bound] at acceptedSpace ⊢
      exact .resource split found acceptedSpace accepted writable

theorem Becomes.congrAll {items : List PlannedRegistration} {es : List Entry}
    (h : List.Forall₂ (Becomes policy s caller) items es)
    (same : ∀ item ∈ items, item.target = .resource → s.SameSpaces s') :
    List.Forall₂ (Becomes policy s' caller) items es :=
  ((List.forall₂_and_left items es).mpr ⟨same, h⟩).imp fun _ _ h => h.2.congr h.1

end PlannedRegistration

namespace Plan

open PlannedRegistration (Becomes)

/-- The registrations of a plan in one of the tables. -/
def registrationsIn (p : Plan) (target : Target) : List PlannedRegistration :=
  p.registrations.filter fun item => item.target = target

/-- The registrations of a plan become entries that can all be added: first the namespaces, and then,
where these are there, the resources. -/
structure Enters (p : Plan) (policy : Policy) (caller : Int) (s : Store) (spaces resources : List Entry) :
    Prop where
  first : List.Forall₂ (Becomes policy s caller) (p.registrationsIn .space) spaces
  later : List.Forall₂ (Becomes policy (s.addAll spaces) caller) (p.registrationsIn .resource) resources
  admitted : s.Admits (spaces ++ resources)

/-- A plan for a manifest can be carried out: its registrations can be made, and where they are, the
declared kinds are confirmed and the caller may change all writers that the plan changes. -/
structure Feasible (p : Plan) (m : Manifest) (policy : Policy) (caller : Int) (s : Store)
    (spaces resources : List Entry) : Prop extends Enters p policy caller s spaces resources where
  confirmed : ∀ spec ∈ m.resources, (s.addAll (spaces ++ resources)).Confirms policy spec
  changeable : ∀ c ∈ p.grants ++ p.revokes,
    (s.addAll (spaces ++ resources)).Changeable policy caller c

variable {s : Store} {m : Manifest} {p : Plan} {version : Nat} {item : PlannedRegistration}
  {target : Target}

theorem target_of_mem (h : item ∈ p.registrationsIn target) : item.target = target := by
  simpa using (List.mem_filter.mp h).2

theorem whole_of_mem (h : of s version m = .ok p) (mem : item ∈ p.registrationsIn target) : item.Whole :=
  whole_of_planned h (List.mem_filter.mp mem).1

theorem target_of_forNamespace {spec : NamespaceSpec} (h : item ∈ (forNamespace s spec).registrations) :
    item.target = .space := by
  rw [forNamespace_eq] at h
  cases hfree : (s.namespaces.records.get? (s.namespaceSelector spec.name)).isNone with
  | false => simp [hfree] at h
  | true =>
      obtain rfl : item = .space spec.name (s.namespaceSelector spec.name) := by simpa [hfree] using h
      rfl

theorem target_of_forResource {spec : ResourceSpec} {q : Plan} (h : forResource s version spec = .ok q)
    (mem : item ∈ q.registrations) : item.target = .resource := by
  obtain ⟨names, -, rfl⟩ := map_eq_ok_iff.mp h
  cases hfound : (s.snapshot version).resourceByTag spec.tag with
  | some r => simp [hfound] at mem
  | none =>
      obtain rfl : item = .resource spec.tag (Selector.ofNames names.1 names.2) names.1 spec.kind := by
        simpa [hfound] using mem
      rfl

/-- A plan registers all namespaces before it registers resources. -/
theorem registrations_eq (h : of s version m = .ok p) :
    p.registrations = p.registrationsIn .space ++ p.registrationsIn .resource := by
  obtain ⟨parts, hparts, rfl⟩ := of_eq_ok_iff.mp h
  unfold registrationsIn
  rw [part_concat registrations rfl fun _ _ => rfl, List.flatMap_append]
  generalize hfirst : (m.namespaces.map (forNamespace s)).flatMap registrations = first
  generalize hlater : parts.flatMap registrations = later
  have hspaces : ∀ item ∈ first, item.target = .space := by
    intro item hitem
    rw [← hfirst, List.flatMap_map] at hitem
    obtain ⟨spec, -, hitem⟩ := List.mem_flatMap.mp hitem
    exact target_of_forNamespace hitem
  have hresources : ∀ item ∈ later, item.target = .resource := by
    intro item hitem
    rw [← hlater] at hitem
    obtain ⟨q, hq, hitem⟩ := List.mem_flatMap.mp hitem
    obtain ⟨spec, -, hq⟩ := (mem_parts_iff hparts).mp hq
    exact target_of_forResource hq hitem
  have hspace : (first ++ later).filter (fun item => item.target = .space) = first := by
    rw [List.filter_append, List.filter_eq_self.mpr fun i hi => by simp [hspaces i hi],
      List.filter_eq_nil_iff.mpr fun i hi => by simp [hresources i hi], List.append_nil]
  have hresource : (first ++ later).filter (fun item => item.target = .resource) = later := by
    rw [List.filter_append, List.filter_eq_nil_iff.mpr fun i hi => by simp [hspaces i hi],
      List.filter_eq_self.mpr fun i hi => by simp [hresources i hi], List.nil_append]
  rw [hspace, hresource]

end Plan

namespace World

open PlannedRegistration (Becomes)
open Store (Rewritten)

variable {core : Core} {caller : Int} {item : PlannedRegistration} {items : List PlannedRegistration}
  {s : Store}

/-- A planned registration succeeds exactly when it becomes an entry that has a free place, and then
adds the entry. -/
theorem registers_iff (sound : core.store.Sound) (whole : item.Whole) :
    (core.Passes (registrationFlows caller item core) ∧
      (core.afterAll (registrationFlows caller item core)).store = s) ↔
    ∃ e, item.Becomes core.policy core.store caller e ∧ core.store.Free e ∧ core.store.add e = s := by
  cases item with
  | space name key =>
      have hflows : registrationFlows caller (.space name key) core =
          [.registerNamespace caller name (some (.int key))] := rfl
      rw [hflows, Core.passes_singleton_iff sound]
      constructor
      · rintro ⟨effect, hmakes, rfl⟩
        cases hmakes with
        | registerNamespace named account chosen accepted freeKey freeName =>
            cases chosen
            exact ⟨_, .space named account accepted, sound.free_space_iff.mpr ⟨freeKey, freeName⟩, rfl⟩
      · rintro ⟨e, hbecomes, hfree, rfl⟩
        cases hbecomes with
        | space named account accepted =>
            obtain ⟨freeKey, freeName⟩ := sound.free_space_iff.mp hfree
            exact ⟨_, .registerNamespace named account rfl accepted freeKey freeName, rfl⟩
  | resource tag key space kind =>
      obtain ⟨⟨home, name⟩, split⟩ := whole
      rw [registrationFlows_resource split, Core.passes_singleton_iff sound]
      constructor
      · rintro ⟨effect, hmakes, rfl⟩
        cases hmakes with
        | @registerResource _ _ _ _ _ _ kind' home r named known acceptedSpace found chosen accepted
            writable fresh freeKey freeTag =>
            cases chosen
            obtain rfl : kind = kind' := by simpa using known
            subst fresh
            exact ⟨_, .resource split found acceptedSpace accepted writable,
              sound.free_resource_iff.mpr ⟨freeKey, freeTag⟩, rfl⟩
      · rintro ⟨e, hbecomes, hfree, rfl⟩
        cases hbecomes with
        | resource split' found acceptedSpace accepted writable =>
            obtain rfl := Option.some.inj (split.symm.trans split')
            have named := (Tag.eq_join_of_split? split).2.2
            obtain ⟨freeKey, freeTag⟩ := sound.free_resource_iff.mp hfree
            exact ⟨_, .registerResource named (ResourceKind.ofWord?_word kind) acceptedSpace found rfl
              accepted writable rfl freeKey freeTag, rfl⟩

/-- Planned registrations of one kind all succeed exactly when they become entries that can all be
added, and then add them. -/
theorem registersAll_iff (sound : core.store.Sound) (whole : ∀ item ∈ items, item.Whole) {target : Target}
    (alike : ∀ item ∈ items, item.target = target) :
    (core.Passes (flowsOf (registrationFlows caller) items core) ∧
      (core.afterAll (flowsOf (registrationFlows caller) items core)).store = s) ↔
    ∃ es, List.Forall₂ (Becomes core.policy core.store caller) items es ∧ core.store.Admits es ∧
      core.store.addAll es = s := by
  induction items generalizing core with
  | nil =>
      constructor
      · rintro ⟨-, rfl⟩
        exact ⟨[], .nil, ⟨fun e he => absurd he List.not_mem_nil, List.Pairwise.nil⟩, rfl⟩
      · rintro ⟨es, hbecome, -, rfl⟩
        cases hbecome
        exact ⟨trivial, rfl⟩
  | cons item rest ih =>
      have hwhole := whole item List.mem_cons_self
      have htarget := alike item List.mem_cons_self
      have hwholes := fun i hi => whole i (List.mem_cons_of_mem _ hi)
      have htargets := fun i hi => alike i (List.mem_cons_of_mem _ hi)
      let next := core.afterAll (registrationFlows caller item core)
      have hsound : next.store.Sound := Core.sound_afterAll sound _
      have hpolicy : next.policy = core.policy := Core.afterAll_policy core _
      have hkept : ∀ e, item.Becomes core.policy core.store caller e → ∀ i ∈ rest,
          i.target = .resource → core.store.SameSpaces (core.store.add e) := by
        intro e hbecomes i hi hresource
        apply Store.sameSpaces_add
        rw [hbecomes.target_eq, htarget, ← htargets i hi, hresource]
      rw [flowsOf, Core.passes_append, Core.afterAll_append, and_assoc, ih hsound hwholes htargets, hpolicy]
      constructor
      · rintro ⟨hfirst, es, hbecome, hadmits, rfl⟩
        obtain ⟨e, hbecomes, hfree, hstore⟩ := (registers_iff sound hwhole).mp ⟨hfirst, rfl⟩
        rw [← hstore] at hbecome hadmits ⊢
        refine ⟨e :: es, .cons hbecomes ?_, Store.admits_cons.mpr ⟨hfree, hadmits⟩, rfl⟩
        exact Becomes.congrAll hbecome fun i hi hresource => (hkept e hbecomes i hi hresource).symm
      · rintro ⟨es, hbecome, hadmits, rfl⟩
        obtain ⟨e, es, hbecomes, hlater, rfl⟩ := List.forall₂_cons_left_iff.mp hbecome
        obtain ⟨hfree, hadmits⟩ := Store.admits_cons.mp hadmits
        obtain ⟨hfirst, hstore⟩ := (registers_iff sound hwhole).mpr ⟨e, hbecomes, hfree, rfl⟩
        rw [hstore]
        exact ⟨hfirst, es, Becomes.congrAll hlater (hkept e hbecomes), hadmits, rfl⟩

/-- The store that such registrations lead to is sound. -/
theorem sound_of_becomes {policy : Policy} {s : Store} (sound : s.Sound)
    (whole : ∀ item ∈ items, item.Whole) {target : Target} (alike : ∀ item ∈ items, item.target = target)
    {es : List Entry} (become : List.Forall₂ (Becomes policy s caller) items es) (admits : s.Admits es) :
    (s.addAll es).Sound := by
  let core : Core := { defaultNamespace := "", policy, store := s }
  have hsound : core.store.Sound := sound
  obtain ⟨-, hstore⟩ := (registersAll_iff hsound whole alike).mpr ⟨es, become, admits, rfl⟩
  rw [← hstore]
  exact Core.sound_afterAll hsound _

/-- A grant can be made exactly when the caller may change the writers of the record. -/
theorem makes_grant_iff {c : WriterChange} : (∃ effect, core.Makes (grantFlow caller c) effect) ↔
    core.store.Changeable core.policy caller c := by
  obtain ⟨target, name, selector, writer⟩ := c
  cases target with
  | space =>
      rw [Store.changeable_space_iff]
      constructor
      · rintro ⟨effect, hmakes⟩
        cases hmakes with
        | grantNamespaceWriter accepted found owned => exact ⟨accepted, _, found, owned⟩
      · rintro ⟨accepted, n, found, owned⟩
        exact ⟨_, .grantNamespaceWriter accepted found owned⟩
  | resource =>
      rw [Store.changeable_resource_iff]
      constructor
      · rintro ⟨effect, hmakes⟩
        cases hmakes with
        | grantWriter accepted found owned => exact ⟨accepted, _, found, owned⟩
      · rintro ⟨accepted, r, found, owned⟩
        exact ⟨_, .grantWriter accepted found owned⟩

/-- A revocation can be made exactly when the caller may change the writers of the record. -/
theorem makes_revoke_iff {c : WriterChange} : (∃ effect, core.Makes (revokeFlow caller c) effect) ↔
    core.store.Changeable core.policy caller c := by
  obtain ⟨target, name, selector, writer⟩ := c
  cases target with
  | space =>
      rw [Store.changeable_space_iff]
      constructor
      · rintro ⟨effect, hmakes⟩
        cases hmakes with
        | revokeNamespaceWriter accepted found owned => exact ⟨accepted, _, found, owned⟩
      · rintro ⟨accepted, n, found, owned⟩
        exact ⟨_, .revokeNamespaceWriter accepted found owned⟩
  | resource =>
      rw [Store.changeable_resource_iff]
      constructor
      · rintro ⟨effect, hmakes⟩
        cases hmakes with
        | revokeWriter accepted found owned => exact ⟨accepted, _, found, owned⟩
      · rintro ⟨accepted, r, found, owned⟩
        exact ⟨_, .revokeWriter accepted found owned⟩

/-- Writer changes all succeed exactly when the caller may change the writers of every record that
they name: none of them changes an owner. -/
theorem passes_changes_iff {change : Int → IntSet → IntSet} {flow : WriterChange → Flow}
    (one : ∀ {core : Core} {c : WriterChange} {effect : Effect}, core.Makes (flow c) effect →
      Rewritten (c.rewrite change) core.store effect.store)
    (able : ∀ {core : Core} {c : WriterChange}, (∃ effect, core.Makes (flow c) effect) ↔
      core.store.Changeable core.policy caller c)
    {cs : List WriterChange} (sound : core.store.Sound) :
    core.Passes (cs.map flow) ↔ ∀ c ∈ cs, core.store.Changeable core.policy caller c := by
  induction cs generalizing core with
  | nil => simp [Core.Passes]
  | cons c rest ih =>
      have hrest := ih (Core.sound_after sound (flow c))
      rw [Core.after_policy] at hrest
      have hfirst : (∃ effect, core.attempt (flow c) = .ok effect) ↔
          core.store.Changeable core.policy caller c := by
        rw [← able]
        exact exists_congr fun effect => Core.attempt_eq_ok_iff sound
      rw [List.map_cons, Core.Passes, hrest, List.forall_mem_cons, hfirst]
      apply and_congr_right
      intro hchangeable
      obtain ⟨effect, hattempt⟩ := hfirst.mpr hchangeable
      have hrewritten := one ((Core.attempt_eq_ok_iff sound).mp hattempt)
      rw [← Core.after_store hattempt] at hrewritten
      exact forall₂_congr fun c' _ => hrewritten.changeable_iff

variable {m : Manifest} {p : Plan} {version : Nat} {spaces resources : List Entry}

/-- The registrations of a plan all succeed exactly when they can be made, and then add their
entries. -/
theorem enters_iff (sound : core.store.Sound) {before : Store} (h : Plan.of before version m = .ok p) :
    (core.Passes (flowsOf (registrationFlows caller) p.registrations core) ∧
      (core.afterAll (flowsOf (registrationFlows caller) p.registrations core)).store = s) ↔
    ∃ spaces resources, p.Enters core.policy caller core.store spaces resources ∧
      core.store.addAll (spaces ++ resources) = s := by
  let first := flowsOf (registrationFlows caller) (p.registrationsIn .space) core
  let later := flowsOf (registrationFlows caller) (p.registrationsIn .resource) (core.afterAll first)
  have hspaces (s : Store) : (core.Passes first ∧ (core.afterAll first).store = s) ↔ _ :=
    registersAll_iff sound (fun _ => Plan.whole_of_mem h) fun _ => Plan.target_of_mem
  have hresources (s : Store) : ((core.afterAll first).Passes later ∧
      ((core.afterAll first).afterAll later).store = s) ↔ _ :=
    registersAll_iff (Core.sound_afterAll sound first) (fun _ => Plan.whole_of_mem h)
      fun _ => Plan.target_of_mem
  rw [Core.afterAll_policy] at hresources
  rw [Plan.registrations_eq h, flowsOf_append, Core.passes_append, Core.afterAll_append, and_assoc,
    hresources]
  constructor
  · rintro ⟨hfirst, resources, hlater, hadmits, rfl⟩
    obtain ⟨spaces, hbecome, hadmitted, hstore⟩ := (hspaces _).mp ⟨hfirst, rfl⟩
    rw [← hstore] at hlater hadmits ⊢
    exact ⟨spaces, resources, ⟨hbecome, hlater, Store.admits_append.mpr ⟨hadmitted, hadmits⟩⟩,
      List.foldl_append⟩
  · rintro ⟨spaces, resources, ⟨hbecome, hlater, hadmits⟩, rfl⟩
    obtain ⟨hadmitted, hadmits⟩ := Store.admits_append.mp hadmits
    obtain ⟨hfirst, hstore⟩ := (hspaces _).mpr ⟨spaces, hbecome, hadmitted, rfl⟩
    refine ⟨hfirst, resources, ?_⟩
    rw [hstore]
    exact ⟨hlater, hadmits, List.foldl_append.symm⟩

/-- The store that the registrations of a plan lead to is sound. -/
theorem sound_of_enters {policy : Policy} {s : Store} (sound : s.Sound) {before : Store}
    (h : Plan.of before version m = .ok p) (enters : p.Enters policy caller s spaces resources) :
    (s.addAll (spaces ++ resources)).Sound := by
  obtain ⟨hadmitted, hadmits⟩ := Store.admits_append.mp enters.admitted
  have hfirst := sound_of_becomes sound (fun _ => Plan.whole_of_mem h) (fun _ => Plan.target_of_mem)
    enters.first hadmitted
  have hlater := sound_of_becomes hfirst (fun _ => Plan.whole_of_mem h) (fun _ => Plan.target_of_mem)
    enters.later hadmits
  rwa [Store.addAll, List.foldl_append]

/-- The grants and then the revocations of a plan all succeed exactly when the caller may change the
writers of every record that they name. -/
theorem passes_rewriting_iff (sound : core.store.Sound) :
    core.Passes (p.grants.map (grantFlow caller) ++ p.revokes.map (revokeFlow caller)) ↔
      ∀ c ∈ p.grants ++ p.revokes, core.store.Changeable core.policy caller c := by
  have hgrants : core.Passes (p.grants.map (grantFlow caller)) ↔ _ :=
    passes_changes_iff rewritten_of_grant makes_grant_iff sound
  rw [Core.passes_append, List.forall_mem_append, hgrants]
  apply and_congr_right
  intro hchangeable
  have hgranted := rewritten_of_changes rewritten_of_grant sound (hgrants.mpr hchangeable)
  rw [passes_changes_iff rewritten_of_revoke makes_revoke_iff (Core.sound_afterAll sound _),
    Core.afterAll_policy]
  exact forall₂_congr fun c _ => hgranted.changeable_iff

/-- The grants and revocations of a plan rewrite the writers. -/
theorem rewritten_of_passes (sound : core.store.Sound)
    (passes : core.Passes (p.grants.map (grantFlow caller) ++ p.revokes.map (revokeFlow caller))) :
    Rewritten p.rewrite core.store
      (core.afterAll (p.grants.map (grantFlow caller) ++ p.revokes.map (revokeFlow caller))).store := by
  obtain ⟨hgrant, hrevoke⟩ := Core.passes_append.mp passes
  rw [Core.afterAll_append]
  exact (rewritten_of_changes rewritten_of_grant sound hgrant).trans
    (rewritten_of_changes rewritten_of_revoke (Core.sound_afterAll sound _) hrevoke)

/-- The flows of an application succeed only where the plan is feasible. -/
theorem feasible_of_passes (sound : core.store.Sound) {before : Store}
    (h : Plan.of before version m = .ok p) (passes : core.Passes (applicationFlows p m caller core)) :
    ∃ spaces resources, p.Feasible m core.policy caller core.store spaces resources := by
  obtain ⟨hregister, hlater⟩ := Core.passes_append.mp passes
  obtain ⟨hconfirm, hchange⟩ := Core.passes_append.mp hlater
  obtain ⟨spaces, resources, henters, hadded⟩ := (enters_iff sound h).mp ⟨hregister, rfl⟩
  have hsound := Core.sound_afterAll sound (flowsOf (registrationFlows caller) p.registrations core)
  obtain ⟨hconfirmed, hstill⟩ := (confirmsAll_iff hsound).mp ⟨hconfirm, rfl⟩
  have hchangeable := (passes_rewriting_iff (Core.sound_afterAll hsound _)).mp hchange
  rw [← hstill, ← hadded, Core.afterAll_policy, Core.afterAll_policy] at hchangeable
  rw [← hadded, Core.afterAll_policy] at hconfirmed
  exact ⟨spaces, resources, henters, hconfirmed, hchangeable⟩

/-- Where the plan is feasible, all flows of an application succeed: they add what the registrations
become, and rewrite the writers. -/
theorem passes_of_feasible (sound : core.store.Sound) {before : Store}
    (h : Plan.of before version m = .ok p)
    (feasible : p.Feasible m core.policy caller core.store spaces resources) :
    core.Passes (applicationFlows p m caller core) ∧
      Rewritten p.rewrite (core.store.addAll (spaces ++ resources))
        (core.afterAll (applicationFlows p m caller core)).store := by
  obtain ⟨hregister, hadded⟩ := (enters_iff sound h).mpr ⟨spaces, resources, feasible.toEnters, rfl⟩
  have hsound := Core.sound_afterAll sound (flowsOf (registrationFlows caller) p.registrations core)
  have hconfirmed := feasible.confirmed
  rw [← hadded, ← Core.afterAll_policy] at hconfirmed
  obtain ⟨hconfirm, hstill⟩ := (confirmsAll_iff hsound).mpr ⟨hconfirmed, rfl⟩
  have hchangeable := feasible.changeable
  rw [← hadded, ← hstill, ← Core.afterAll_policy, ← Core.afterAll_policy] at hchangeable
  have hsound' := Core.sound_afterAll hsound (flowsOf confirmationFlows m.resources
    (core.afterAll (flowsOf (registrationFlows caller) p.registrations core)))
  have hchange := (passes_rewriting_iff hsound').mpr hchangeable
  refine ⟨Core.passes_append.mpr ⟨hregister, Core.passes_append.mpr ⟨hconfirm, hchange⟩⟩, ?_⟩
  have hrewritten := rewritten_of_passes hsound' hchange
  rw [hstill, hadded] at hrewritten
  unfold applicationFlows
  rwa [Core.afterAll_append, Core.afterAll_append]

variable {w w' : World}

/-- Flows that stop do not all succeed. -/
theorem Stopped.not_passes {flows : List Flow} {failure : Failure} (h : Stopped flows w w' failure) :
    ¬ w.core.Passes flows := by
  obtain ⟨done, flow, rest, v, rfl, hdid, hfails⟩ := h
  intro hpasses
  obtain ⟨⟨effect, hattempt⟩, -⟩ := (Core.passes_append.mp hpasses).2
  rw [← hdid.core] at hattempt
  have hanswer : (decide flow v).1 = .ok effect.answer := by
    rw [decide_fst, hattempt]
    rfl
  rw [hfails] at hanswer
  cases hanswer

/-- An application answers the plan exactly when it can be made and is feasible. -/
theorem apply_eq_ok_iff (sound : w.core.store.Sound) : (apply m caller w).1 = .ok p ↔
    Plan.of w.core.store w.core.version m = .ok p ∧
      ∃ spaces resources, p.Feasible m w.core.policy caller w.core.store spaces resources := by
  have hsound : w.opened.core.store.Sound := sound
  cases happly : apply m caller w with
  | mk outcome after =>
      cases outcome with
      | ok q =>
          obtain ⟨hplan, last, hdid, -⟩ := apply_did happly
          constructor
          · rintro ⟨⟩
            have hfeasible := feasible_of_passes hsound hplan hdid.passes
            exact ⟨hplan, hfeasible⟩
          · rintro ⟨hplan', -⟩
            exact hplan.symm.trans hplan'
      | error failure =>
          obtain ⟨last, -, ⟨hplan, -⟩ | ⟨q, hplan, hstopped⟩⟩ := apply_stopped happly
          · rw [hplan]
            simp
          · constructor
            · rintro ⟨⟩
            · rintro ⟨hplan', spaces, resources, hfeasible⟩
              obtain rfl : q = p := Except.ok.inj (hplan.symm.trans hplan')
              exact absurd (passes_of_feasible hsound hplan hfeasible).1 hstopped.not_passes

/-- The application of a feasible plan adds what its registrations become and rewrites the writers,
and the version counts the registrations, the grants and the revocations. -/
theorem apply_of_feasible (sound : w.core.store.Sound)
    (h : Plan.of w.core.store w.core.version m = .ok p)
    (feasible : p.Feasible m w.core.policy caller w.core.store spaces resources) :
    ∃ w', apply m caller w = (.ok p, w') ∧
      Rewritten p.rewrite (w.core.store.addAll (spaces ++ resources)) w'.core.store ∧
      w'.core.version = w.core.version + (p.registrations.length + p.grants.length + p.revokes.length) := by
  have hok := (apply_eq_ok_iff sound).mpr ⟨h, spaces, resources, feasible⟩
  obtain ⟨w', happly⟩ := eq_ok_of_fst hok
  obtain ⟨-, hpasses, hsame, -⟩ := apply_eq_ok happly
  have hopened := (opened_sameState w).core
  have hsound : w.opened.core.store.Sound := sound
  obtain ⟨-, hrewritten⟩ := passes_of_feasible hsound h feasible
  rw [← (hsame.trans (hopened.symm.afterAll _)).store] at hrewritten
  refine ⟨w', happly, hrewritten, ?_⟩
  rw [hsame.version, Core.afterAll_version, Core.commitsAll_length_of_passes hpasses,
    countP_application h]

end World

end OwnershipRegistry
