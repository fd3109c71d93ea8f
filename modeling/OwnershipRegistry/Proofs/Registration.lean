import OwnershipRegistry.Proofs.Access

/-!
# What a registration asks for

A registration that is let through puts one record at the end of its table and
leaves all others as they are. It asks that the new selector and the new names
are not taken by another record. The tables look for the tag instead of the
names, which comes to the same, since a tag of valid names has one hyphen and
nothing else joins to it.
-/

namespace OwnershipRegistry

namespace Core

variable {core : Core} {caller selector : Int} {name : String} {given : Option Value} {space : Value}
  {home : NamespaceRecord} {kind : ResourceKind} {effect : Effect}

/-- What the registration of a namespace asks for, under the selector that is given or derived. -/
structure AdmitsNamespace (core : Core) (caller : Int) (name : String) (given : Option Value)
    (selector : Int) : Prop where
  named : Name.isValid name = true
  account : core.policy.directory.isAccount caller = true
  chosen : given.getD (.int (Selector.ofNamespace name)) = .int selector
  accepted : core.policy.validator.accepts selector = true
  unbound : ∀ key n, core.store.namespaces.records.get? key = some n → key ≠ selector ∧ n.name ≠ name

/-- What the registration of a resource asks for, in the namespace of a record and under the selector
that is given or derived. -/
structure AdmitsResource (core : Core) (caller : Int) (space : Value) (name : String)
    (given : Option Value) (home : NamespaceRecord) (selector : Int) : Prop where
  named : Name.isValid name = true
  housed : space = .int home.selector
  acceptedSpace : core.policy.validator.accepts home.selector = true
  registered : core.store.namespaces.records.get? home.selector = some home
  chosen : given.getD (.int (Selector.ofNames home.name name)) = .int selector
  accepted : core.policy.validator.accepts selector = true
  unbound : ∀ key r, core.store.resources.records.get? key = some r →
    key ≠ selector ∧ ¬ (r.space = home.name ∧ r.name = name)
  writable : core.policy.enforceNamespaceWrite = true → home.owner = caller ∨ caller ∈ home.writers

/-- A namespace is registered exactly as it is asked for. -/
theorem makes_registerNamespace_iff (sound : core.store.Sound) :
    core.Makes (.registerNamespace caller name given) effect ↔
      ∃ selector, core.AdmitsNamespace caller name given selector ∧
        ⟨.namespace ⟨name, selector, caller, []⟩, core.store.addNamespace ⟨name, selector, caller, []⟩,
          [.namespaceRegistered ⟨name, selector, caller, []⟩]⟩ = effect := by
  constructor
  · intro h
    cases h with
    | @registerNamespace _ selector _ _ named account chosen accepted freeKey freeName =>
        have hunbound := sound.namespaces.indexed.unbound_iff.mp ⟨freeKey, freeName⟩
        exact ⟨selector, ⟨named, account, chosen, accepted, hunbound⟩, rfl⟩
  · rintro ⟨selector, admits, rfl⟩
    obtain ⟨freeKey, freeName⟩ := sound.namespaces.indexed.unbound_iff.mpr admits.unbound
    exact .registerNamespace admits.named admits.account admits.chosen admits.accepted freeKey freeName

/-- In a sound store a tag is free when no resource has both of its names. -/
theorem unbound_resource_iff (sound : core.store.Sound)
    (registered : core.store.namespaces.records.get? home.selector = some home)
    (named : Name.isValid name = true) :
    (core.store.resources.records.get? selector = none ∧
        core.store.resources.selectors.get? (Tag.join home.name name) = none) ↔
      ∀ key r, core.store.resources.records.get? key = some r →
        key ≠ selector ∧ ¬ (r.space = home.name ∧ r.name = name) := by
  rw [sound.resources.indexed.unbound_iff]
  have hspace : Name.isValid home.name = true := (sound.namespaces.proper _ _ registered).named
  apply forall₃_congr
  intro key r _
  apply and_congr_right
  intro _
  exact not_congr (Tag.join_inj hspace named)

/-- A resource is registered exactly as it is asked for. -/
theorem makes_registerResource_iff (sound : core.store.Sound) :
    core.Makes (.registerResource caller space name kind.word given) effect ↔
      ∃ home selector, core.AdmitsResource caller space name given home selector ∧
        ∃ r : ResourceRecord, r = ⟨home.name, name, selector, home.selector, caller, kind, [], none, 1⟩ ∧
          ⟨.resource r, core.store.addResource r, [.resourceRegistered r]⟩ = effect := by
  constructor
  · intro h
    cases h with
    | @registerResource _ spaceSelector selector _ _ _ _ home r named known acceptedSpace found chosen
        accepted writable fresh freeKey freeTag =>
        obtain rfl := sound.namespaces.indexed.own_eq found
        obtain rfl := Option.some.inj ((ResourceKind.ofWord?_word kind).symm.trans known)
        have hunbound := (unbound_resource_iff sound found named).mp ⟨freeKey, freeTag⟩
        exact ⟨home, selector,
          ⟨named, rfl, acceptedSpace, found, chosen, accepted, hunbound, writable⟩, r, fresh, rfl⟩
  · rintro ⟨home, selector, admits, r, fresh, rfl⟩
    obtain ⟨freeKey, freeTag⟩ :=
      (unbound_resource_iff sound admits.registered admits.named).mpr admits.unbound
    rw [admits.housed]
    exact .registerResource admits.named (ResourceKind.ofWord?_word kind) admits.acceptedSpace
      admits.registered admits.chosen admits.accepted admits.writable fresh freeKey freeTag

end Core

namespace World

variable {w : World} {caller selector : Int} {name : String} {given : Option Value} {space : Value}
  {home : NamespaceRecord} {kind : ResourceKind}

/-- A request ends by adding a namespace at the end of the table. Nothing else in the tables
changes. -/
structure AddsNamespace (w : World) (n : NamespaceRecord) (outcome : Except Failure Answer × World) :
    Prop where
  answer : outcome.1 = .ok (.namespace n)
  records : outcome.2.core.store.namespaces.records.entries =
    w.core.store.namespaces.records.entries ++ [(n.selector, n)]
  index : outcome.2.core.store.namespaces.selectors.entries =
    w.core.store.namespaces.selectors.entries ++ [(n.name, n.selector)]
  resources : outcome.2.core.store.resources = w.core.store.resources
  version : outcome.2.core.version = w.core.version + 1

/-- A request ends by adding a resource at the end of the table. Nothing else in the tables changes. -/
structure AddsResource (w : World) (r : ResourceRecord) (outcome : Except Failure Answer × World) :
    Prop where
  answer : outcome.1 = .ok (.resource r)
  records : outcome.2.core.store.resources.records.entries =
    w.core.store.resources.records.entries ++ [(r.selector, r)]
  index : outcome.2.core.store.resources.selectors.entries =
    w.core.store.resources.selectors.entries ++ [(r.tag, r.selector)]
  namespaces : outcome.2.core.store.namespaces = w.core.store.namespaces
  version : outcome.2.core.version = w.core.version + 1

/-- A change that succeeds is answered, done, and counted by the version. -/
theorem decide_of_makes {flow : Flow} {effect : Effect} (sound : w.core.store.Sound)
    (makes : w.core.Makes flow effect) (mutates : flow.mutates = true) :
    (decide flow w).1 = .ok effect.answer ∧ (decide flow w).2.core.store = effect.store ∧
      (decide flow w).2.core.version = w.core.version + 1 := by
  have hattempt := (Core.attempt_eq_ok_iff sound).mpr makes
  refine ⟨?_, ?_, ?_⟩
  · rw [decide_fst, hattempt]
    rfl
  · rw [decide_core, Core.after_store hattempt]
  · rw [decide_core, Core.after_version, Core.commits_of_mutates hattempt mutates]
    rfl

theorem addsNamespace_of_admits (sound : w.core.store.Sound)
    (admits : w.core.AdmitsNamespace caller name given selector) :
    AddsNamespace w ⟨name, selector, caller, []⟩ (decide (.registerNamespace caller name given) w) := by
  have hmakes := (Core.makes_registerNamespace_iff sound).mpr ⟨selector, admits, rfl⟩
  obtain ⟨hanswer, hstore, hversion⟩ := decide_of_makes sound hmakes rfl
  obtain ⟨freeKey, freeName⟩ := sound.namespaces.indexed.unbound_iff.mpr admits.unbound
  constructor
  · exact hanswer
  · rw [hstore]
    exact Table.entries_put_of_none _ freeKey
  · rw [hstore]
    exact Table.entries_put_of_none _ freeName
  · rw [hstore]
    rfl
  · exact hversion

theorem addsResource_of_admits (sound : w.core.store.Sound)
    (admits : w.core.AdmitsResource caller space name given home selector) (kind : ResourceKind) :
    AddsResource w ⟨home.name, name, selector, home.selector, caller, kind, [], none, 1⟩
      (decide (.registerResource caller space name kind.word given) w) := by
  have hmakes : w.core.Makes (.registerResource caller space name kind.word given) _ :=
    (Core.makes_registerResource_iff sound).mpr ⟨home, selector, admits, _, rfl, rfl⟩
  obtain ⟨hanswer, hstore, hversion⟩ := decide_of_makes sound hmakes rfl
  obtain ⟨freeKey, freeTag⟩ :=
    (Core.unbound_resource_iff sound admits.registered admits.named).mpr admits.unbound
  constructor
  · exact hanswer
  · rw [hstore]
    exact Table.entries_put_of_none _ freeKey
  · rw [hstore]
    exact Table.entries_put_of_none _ freeTag
  · rw [hstore]
    rfl
  · exact hversion

/-- A registration is let through exactly when it is admitted. It then adds the one record that was
asked for, owned by the caller and without writers, and leaves all other records as they are. -/
theorem registration_exact (reachable : Reachable w) (caller : Int) (name : String)
    (given : Option Value) :
    (∀ (space : Value) (kind : ResourceKind),
      let request : Flow := .registerResource caller space name kind.word given
      (w.Allows request ↔ ∃ home selector, w.core.AdmitsResource caller space name given home selector) ∧
        ∀ home selector, w.core.AdmitsResource caller space name given home selector →
          AddsResource w ⟨home.name, name, selector, home.selector, caller, kind, [], none, 1⟩
            (decide request w)) ∧
      let request : Flow := .registerNamespace caller name given
      (w.Allows request ↔ ∃ selector, w.core.AdmitsNamespace caller name given selector) ∧
        ∀ selector, w.core.AdmitsNamespace caller name given selector →
          AddsNamespace w ⟨name, selector, caller, []⟩ (decide request w) := by
  have hsound := reachable.sound
  refine ⟨fun space kind => ⟨?_, fun home selector admits => ?_⟩, ?_, fun selector admits => ?_⟩
  · constructor
    · intro hallows
      obtain ⟨effect, hmakes⟩ := (allows_iff hsound).mp hallows
      obtain ⟨home, selector, admits, -⟩ := (Core.makes_registerResource_iff hsound).mp hmakes
      exact ⟨home, selector, admits⟩
    · rintro ⟨home, selector, admits⟩
      exact ⟨_, (addsResource_of_admits hsound admits kind).answer⟩
  · exact addsResource_of_admits hsound admits kind
  · constructor
    · intro hallows
      obtain ⟨effect, hmakes⟩ := (allows_iff hsound).mp hallows
      obtain ⟨selector, admits, -⟩ := (Core.makes_registerNamespace_iff hsound).mp hmakes
      exact ⟨selector, admits⟩
    · rintro ⟨selector, admits⟩
      exact ⟨_, (addsNamespace_of_admits hsound admits).answer⟩
  · exact addsNamespace_of_admits hsound admits

/-- In the stocked world the account 1 may register a further resource and a further namespace. The
names of the resource that is there are taken, and the caller 2 is no account. -/
theorem registration_exact_stocked :
    AddsResource stocked ⟨"game", "door", 9, 7, 1, .event, [], none, 1⟩
        (decide (.registerResource 1 (.int 7) "door" "event" (some (.int 9))) stocked) ∧
      ¬ stocked.Allows (.registerResource 1 (.int 7) "player" "event" (some (.int 9))) ∧
      AddsNamespace stocked ⟨"arena", 9, 1, []⟩
        (decide (.registerNamespace 1 "arena" (some (.int 9))) stocked) ∧
      ¬ stocked.Allows (.registerNamespace 2 "arena" (some (.int 9))) := by
  have hspaces : stocked.core.store.namespaces.records.entries = [(7, ⟨"game", 7, 1, []⟩)] := by rfl
  have hresources : stocked.core.store.resources.records.entries =
      [(8, ⟨"game", "player", 8, 7, 1, .model, [], none, 1⟩)] := by rfl
  have hspace : ∀ key n, stocked.core.store.namespaces.records.get? key = some n →
      (key, n) = (7, ⟨"game", 7, 1, []⟩) := by
    intro key n hn
    have hmem := Table.mem_of_get? hn
    rwa [hspaces, List.mem_singleton] at hmem
  have hresource : ∀ key r, stocked.core.store.resources.records.get? key = some r →
      (key, r) = (8, ⟨"game", "player", 8, 7, 1, .model, [], none, 1⟩) := by
    intro key r hr
    have hmem := Table.mem_of_get? hr
    rwa [hresources, List.mem_singleton] at hmem
  obtain ⟨-, -, hspaceAdds⟩ := registration_exact reachable_stocked 1 "arena" (some (.int 9))
  obtain ⟨-, hadds⟩ := (registration_exact reachable_stocked 1 "door" (some (.int 9))).1 (.int 7) .event
  obtain ⟨htaken, -⟩ := (registration_exact reachable_stocked 1 "player" (some (.int 9))).1 (.int 7) .event
  obtain ⟨-, hstranger, -⟩ := registration_exact reachable_stocked 2 "arena" (some (.int 9))
  refine ⟨?_, ?_, ?_, ?_⟩
  · refine hadds ⟨"game", 7, 1, []⟩ 9 ⟨by decide, rfl, by decide +kernel, by rfl, rfl, by decide +kernel,
      fun key r hr => ?_, fun _ => Or.inl rfl⟩
    obtain ⟨rfl, rfl⟩ := Prod.mk.inj (hresource key r hr)
    decide
  · intro hallows
    obtain ⟨home, selector, admits⟩ := htaken.mp hallows
    obtain ⟨-, rfl⟩ := Prod.mk.inj (hspace _ _ admits.registered)
    exact (admits.unbound 8 _ (by rfl)).2 ⟨rfl, rfl⟩
  · refine hspaceAdds 9 ⟨by decide, by decide +kernel, rfl, by decide +kernel, fun key n hn => ?_⟩
    obtain ⟨rfl, rfl⟩ := Prod.mk.inj (hspace key n hn)
    decide
  · intro hallows
    obtain ⟨selector, admits⟩ := hstranger.mp hallows
    have haccount : stocked.core.policy.directory.isAccount 2 = false := by decide +kernel
    rw [admits.account] at haccount
    cases haccount

end World

end OwnershipRegistry
