import OwnershipRegistry.Proofs.Store
import OwnershipRegistry.World.Flow

/-!
# What flows do

A flow succeeds on a sound store in exactly one way, which `Core.Makes` lists
with everything that was checked and everything that is put.
-/

namespace OwnershipRegistry

theorem discard_eq_ok_iff {ε α : Type} {x : Except ε α} {u : PUnit} :
    (discard x : Except ε PUnit) = .ok u ↔ ∃ a, x = .ok a := by
  cases x <;> simp [discard, Functor.discard, Functor.mapConst, Except.map]

theorem map_eq_ok_iff {ε α β : Type} {x : Except ε α} {f : α → β} {b : β} :
    x.map f = .ok b ↔ ∃ a, x = .ok a ∧ f a = b := by
  cases x <;> simp [Except.map]

theorem map_eq_error_iff {ε α β : Type} {x : Except ε α} {f : α → β} {e : ε} :
    x.map f = .error e ↔ x = .error e := by
  cases x <;> simp [Except.map]

theorem orFail_eq_ok_iff {α : Type} {x : Except Denial α} {a : α} :
    Denial.orFail x = .ok a ↔ x = .ok a := by
  cases x <;> simp

theorem Name.check_eq_ok_iff {name checked : String} :
    Name.check name = .ok checked ↔ Name.isValid name = true ∧ name = checked := by
  unfold Name.check
  by_cases h : Name.isValid name = true <;> simp [h]

theorem Directory.requireAccount_eq_ok_iff {d : Directory} {caller : Int} {u : Unit} :
    d.requireAccount caller = .ok u ↔ d.isAccount caller = true := by
  unfold Directory.requireAccount
  by_cases h : d.isAccount caller = true <;> simp [h]

namespace Core

variable {core : Core}

theorem kind_eq_ok_iff {word : String} {k : ResourceKind} :
    kind word = .ok k ↔ ResourceKind.ofWord? word = some k := by
  unfold kind
  cases ResourceKind.ofWord? word <;> simp

theorem selector_eq_ok_iff {value : Value} {key : Int} :
    core.selector value = .ok key ↔ value = .int key ∧ core.policy.validator.accepts key = true :=
  Validator.validate_eq_ok_iff

theorem selector?_eq_ok_iff {given : Option Value} {chosen : Option Int} :
    core.selector? given = .ok chosen ↔ given = chosen.map .int ∧
      ∀ key, chosen = some key → core.policy.validator.accepts key = true := by
  cases given with
  | none => cases chosen <;> simp [selector?]
  | some value =>
      have hmap : core.selector? (some value) = (core.selector value).map some := rfl
      rw [hmap, map_eq_ok_iff]
      constructor
      · rintro ⟨key, hkey, rfl⟩
        obtain ⟨rfl, haccept⟩ := selector_eq_ok_iff.mp hkey
        exact ⟨rfl, fun key hkey => Option.some.inj hkey ▸ haccept⟩
      · rintro ⟨hgiven, haccept⟩
        cases chosen with
        | none => cases hgiven
        | some key => exact ⟨key, selector_eq_ok_iff.mpr ⟨Option.some.inj hgiven, haccept key rfl⟩, rfl⟩

/-- How a flow succeeds: what it found, what was checked, and its effect. -/
inductive Makes (core : Core) : Flow → Effect → Prop
  | registerNamespace {caller selector : Int} {name : String} {given : Option Value}
      (named : Name.isValid name = true)
      (account : core.policy.directory.isAccount caller = true)
      (chosen : given.getD (.int (Selector.ofNamespace name)) = .int selector)
      (accepted : core.policy.validator.accepts selector = true)
      (freeKey : core.store.namespaces.records.get? selector = none)
      (freeName : core.store.namespaces.selectors.get? name = none) :
      Makes core (.registerNamespace caller name given)
        ⟨.namespace ⟨name, selector, caller, []⟩, core.store.addNamespace ⟨name, selector, caller, []⟩,
          [.namespaceRegistered ⟨name, selector, caller, []⟩]⟩
  | registerResource {caller spaceSelector selector : Int} {name word : String} {given : Option Value}
      {kind : ResourceKind} {home : NamespaceRecord} {r : ResourceRecord}
      (named : Name.isValid name = true)
      (known : ResourceKind.ofWord? word = some kind)
      (acceptedSpace : core.policy.validator.accepts spaceSelector = true)
      (found : core.store.namespaces.records.get? spaceSelector = some home)
      (chosen : given.getD (.int (Selector.ofNames home.name name)) = .int selector)
      (accepted : core.policy.validator.accepts selector = true)
      (writable : core.policy.enforceNamespaceWrite = true → home.owner = caller ∨ caller ∈ home.writers)
      (fresh : r = ⟨home.name, name, selector, spaceSelector, caller, kind, [], none, 1⟩)
      (freeKey : core.store.resources.records.get? selector = none)
      (freeTag : core.store.resources.selectors.get? (Tag.join home.name name) = none) :
      Makes core (.registerResource caller (.int spaceSelector) name word given)
        ⟨.resource r, core.store.addResource r, [.resourceRegistered r]⟩
  | authorizeWrite {caller key : Int} {r : ResourceRecord}
      (accepted : core.policy.validator.accepts key = true)
      (found : core.store.resources.records.get? key = some r)
      (writes : r.owner = caller ∨ caller ∈ r.writers) :
      Makes core (.authorizeWrite caller (.int key))
        (core.unchanged (.token ⟨caller, key, r.tag, core.version⟩))
  | authorizeUpgrade {caller key : Int} {r : ResourceRecord}
      (accepted : core.policy.validator.accepts key = true)
      (found : core.store.resources.records.get? key = some r)
      (owned : r.owner = caller) :
      Makes core (.authorizeUpgrade caller (.int key)) (core.unchanged (.resource r))
  | upgradeResource {caller key classHash : Int} {r s : ResourceRecord}
      (accepted : core.policy.validator.accepts key = true)
      (found : core.store.resources.records.get? key = some r)
      (owned : r.owner = caller)
      (upgraded : s = { r with classHash := some classHash, version := r.version + 1 }) :
      Makes core (.upgradeResource caller (.int key) classHash)
        ⟨.resource s, core.store.setResource key s, [.resourceUpgraded s classHash]⟩
  | resolveKind {key : Int} {word : String} {kind : ResourceKind} {r : ResourceRecord}
      (known : ResourceKind.ofWord? word = some kind)
      (accepted : core.policy.validator.accepts key = true)
      (found : core.store.resources.records.get? key = some r)
      (same : r.kind = kind) :
      Makes core (.resolveKind (.int key) word) (core.unchanged (.resource r))
  | checkOwner {caller key : Int} {r : ResourceRecord}
      (accepted : core.policy.validator.accepts key = true)
      (found : core.store.resources.records.get? key = some r)
      (owned : r.owner = caller) :
      Makes core (.checkOwner caller (.int key)) (core.unchanged (.resource r))
  | checkWriteAccess {caller key : Int} {tag full : String} {r : ResourceRecord}
      (spelled : Tag.full tag (some core.defaultNamespace) = .ok full)
      (tagged : core.store.resources.selectors.get? full = some key)
      (found : core.store.resources.records.get? key = some r)
      (writes : r.owner = caller ∨ caller ∈ r.writers) :
      Makes core (.checkWriteAccess caller tag) (core.unchanged (.resource r))
  | authorizeNamespaceWrite {caller key : Int} {n : NamespaceRecord}
      (accepted : core.policy.validator.accepts key = true)
      (found : core.store.namespaces.records.get? key = some n)
      (writes : n.owner = caller ∨ caller ∈ n.writers) :
      Makes core (.authorizeNamespaceWrite caller (.int key)) (core.unchanged (.namespace n))
  | grantWriter {caller key writer : Int} {r : ResourceRecord}
      (accepted : core.policy.validator.accepts key = true)
      (found : core.store.resources.records.get? key = some r)
      (owned : r.owner = caller) :
      Makes core (.grantWriter caller (.int key) writer)
        ⟨.flag (!r.writers.contains writer),
          core.store.setResource key { r with writers := IntSet.insert writer r.writers }, []⟩
  | revokeWriter {caller key writer : Int} {r : ResourceRecord}
      (accepted : core.policy.validator.accepts key = true)
      (found : core.store.resources.records.get? key = some r)
      (owned : r.owner = caller) :
      Makes core (.revokeWriter caller (.int key) writer)
        ⟨.flag (r.writers.contains writer),
          core.store.setResource key { r with writers := IntSet.erase writer r.writers }, []⟩
  | grantNamespaceWriter {caller key writer : Int} {n : NamespaceRecord}
      (accepted : core.policy.validator.accepts key = true)
      (found : core.store.namespaces.records.get? key = some n)
      (owned : n.owner = caller) :
      Makes core (.grantNamespaceWriter caller (.int key) writer)
        ⟨.flag (!n.writers.contains writer),
          core.store.setWriters key n (IntSet.insert writer n.writers), []⟩
  | revokeNamespaceWriter {caller key writer : Int} {n : NamespaceRecord}
      (accepted : core.policy.validator.accepts key = true)
      (found : core.store.namespaces.records.get? key = some n)
      (owned : n.owner = caller) :
      Makes core (.revokeNamespaceWriter caller (.int key) writer)
        ⟨.flag (n.writers.contains writer),
          core.store.setWriters key n (IntSet.erase writer n.writers), []⟩

variable {effect : Effect} {caller : Int} {name : String} {given : Option Value}

theorem registerNamespace_eq_ok_iff : core.registerNamespace caller name given = .ok effect ↔
    core.Makes (.registerNamespace caller name given) effect := by
  unfold registerNamespace
  simp only [bind_eq_ok, discard_eq_ok_iff, orFail_eq_ok_iff, Name.check_eq_ok_iff,
    Directory.requireAccount_eq_ok_iff, selector_eq_ok_iff]
  constructor
  · rintro ⟨-, ⟨-, named, rfl⟩, -, account, selector, ⟨chosen, accepted⟩, ⟨n, t⟩, hreg, h⟩
    obtain ⟨freeKey, freeName, rfl, rfl⟩ := NamespaceTable.register_eq_ok_iff.mp hreg
    cases h
    exact .registerNamespace named account chosen accepted freeKey freeName
  · intro h
    cases h with
    | registerNamespace named account chosen accepted freeKey freeName =>
        exact ⟨(), ⟨name, named, rfl⟩, (), account, _, ⟨chosen, accepted⟩, _,
          NamespaceTable.register_eq_ok_iff.mpr ⟨freeKey, freeName, rfl, rfl⟩, rfl⟩

/-- The end of a registration: the check of write access, where it is asked for, and the record. -/
def enroll (core : Core) (caller spaceSelector : Int) (name : String) (kind : ResourceKind)
    (selector : Int) : Except Failure Effect := do
  if core.policy.enforceNamespaceWrite then
    discard (Denial.orFail (core.store.namespaces.checkWrite (core.permissions caller) spaceSelector))
  let (record, resources) ← Denial.orFail
    (core.store.resources.register core.store.namespaces name spaceSelector selector caller kind)
  pure ⟨.resource record, { core.store with resources }, [.resourceRegistered record]⟩

variable {space : Value} {word : String} {spaceSelector selector : Int} {kind : ResourceKind}
  {home : NamespaceRecord}

theorem enroll_eq_ok_iff (found : core.store.namespaces.records.get? spaceSelector = some home) :
    core.enroll caller spaceSelector name kind selector = .ok effect ↔
      (core.policy.enforceNamespaceWrite = true → home.owner = caller ∨ caller ∈ home.writers) ∧
      ∃ r, core.store.resources.records.get? selector = none ∧
        core.store.resources.selectors.get? (Tag.join home.name name) = none ∧
        r = ⟨home.name, name, selector, spaceSelector, caller, kind, [], none, 1⟩ ∧
        effect = ⟨.resource r, core.store.addResource r, [.resourceRegistered r]⟩ := by
  have hcheck : (∃ n, core.store.namespaces.checkWrite (core.permissions caller) spaceSelector = .ok n) ↔
      home.owner = caller ∨ caller ∈ home.writers := by
    simp only [NamespaceTable.checkWrite_eq_ok_iff, found, Option.some.injEq, exists_eq_left']
    exact Iff.rfl
  have hrecord : (do
      let (record, resources) ← Denial.orFail
        (core.store.resources.register core.store.namespaces name spaceSelector selector caller kind)
      pure (⟨.resource record, { core.store with resources }, [.resourceRegistered record]⟩ : Effect)) =
        .ok effect ↔
      ∃ r, core.store.resources.records.get? selector = none ∧
        core.store.resources.selectors.get? (Tag.join home.name name) = none ∧
        r = ⟨home.name, name, selector, spaceSelector, caller, kind, [], none, 1⟩ ∧
        effect = ⟨.resource r, core.store.addResource r, [.resourceRegistered r]⟩ := by
    simp only [bind_eq_ok, orFail_eq_ok_iff]
    constructor
    · rintro ⟨⟨r, t⟩, hreg, h⟩
      obtain ⟨n, hn, freeKey, freeTag, rfl, rfl⟩ := ResourceTable.register_eq_ok_iff.mp hreg
      obtain rfl : home = n := Option.some.inj (found.symm.trans hn)
      cases h
      exact ⟨_, freeKey, freeTag, rfl, rfl⟩
    · rintro ⟨r, freeKey, freeTag, rfl, rfl⟩
      exact ⟨_, ResourceTable.register_eq_ok_iff.mpr ⟨home, found, freeKey, freeTag, rfl, rfl⟩, rfl⟩
  rw [← hrecord, ← hcheck]
  unfold enroll
  by_cases henforce : core.policy.enforceNamespaceWrite = true
  · simp only [henforce, if_true, true_implies]
    rw [bind_eq_ok]
    simp only [discard_eq_ok_iff, orFail_eq_ok_iff, exists_and_left, exists_const]
  · simp [henforce]

theorem registerResource_eq_ok_iff : core.registerResource caller space name word given = .ok effect ↔
    core.Makes (.registerResource caller space name word given) effect := by
  unfold registerResource
  simp only [bind_eq_ok, discard_eq_ok_iff, orFail_eq_ok_iff, Name.check_eq_ok_iff,
    kind_eq_ok_iff, selector_eq_ok_iff, selector?_eq_ok_iff, NamespaceTable.require_eq_ok_iff]
  constructor
  · rintro ⟨-, ⟨-, named, rfl⟩, kind, known, spaceSelector, ⟨rfl, acceptedSpace⟩, chosen,
      ⟨rfl, hgiven⟩, home, found, h⟩
    -- The selector is the given one, or else the derived one; both were accepted.
    obtain ⟨selector, hselector, accepted, hend⟩ : ∃ selector,
        (chosen.map Value.int).getD (.int (Selector.ofNames home.name name)) = .int selector ∧
        core.policy.validator.accepts selector = true ∧
        core.enroll caller spaceSelector name kind selector = .ok effect := by
      cases chosen with
      | none =>
          obtain ⟨selector, hsel, hend⟩ := bind_eq_ok.mp h
          obtain ⟨hint, haccept⟩ := selector_eq_ok_iff.mp hsel
          exact ⟨selector, hint, haccept, hend⟩
      | some selector => exact ⟨selector, rfl, hgiven selector rfl, h⟩
    obtain ⟨writable, r, freeKey, freeTag, fresh, rfl⟩ := (enroll_eq_ok_iff found).mp hend
    exact .registerResource named known acceptedSpace found hselector accepted writable fresh freeKey
      freeTag
  · intro h
    cases h with
    | @registerResource _ spaceSelector selector _ _ _ kind home r named known acceptedSpace found
        chosen accepted writable fresh freeKey freeTag =>
        have hend := (enroll_eq_ok_iff found).mpr ⟨writable, r, freeKey, freeTag, fresh, rfl⟩
        refine ⟨(), ⟨name, named, rfl⟩, kind, known, spaceSelector, ⟨rfl, acceptedSpace⟩, ?_⟩
        cases given with
        | none =>
            refine ⟨none, ⟨rfl, by simp⟩, home, found, bind_eq_ok.mpr ⟨selector, ?_, hend⟩⟩
            exact selector_eq_ok_iff.mpr ⟨chosen, accepted⟩
        | some value =>
            obtain rfl : value = .int selector := chosen
            refine ⟨some selector, ⟨rfl, ?_⟩, home, found, hend⟩
            exact fun key hkey => Option.some.inj hkey ▸ accepted

variable {resource : Value} {classHash writer : Int} {tag : String}

/-- The write check of a registered resource finds its way through the tag back to the record. -/
theorem authorizeWrite_eq_ok_iff (sound : core.store.Sound) :
    core.authorizeWrite caller resource = .ok effect ↔
      core.Makes (.authorizeWrite caller resource) effect := by
  unfold authorizeWrite
  simp only [bind_eq_ok, discard_eq_ok_iff, orFail_eq_ok_iff, selector_eq_ok_iff,
    ResourceTable.require_eq_ok_iff, ResourceTable.checkWrite_eq_ok_iff]
  constructor
  · rintro ⟨key, ⟨rfl, accepted⟩, r, found, -, ⟨s, other, htag, hs, writes⟩, h⟩
    obtain ⟨r', hr', hsame⟩ := sound.resources.indexed.index_get?_iff.mp htag
    obtain rfl : key = other := sound.resources.indexed.key_unique found hr' hsame.symm
    obtain rfl : r = s := Option.some.inj (found.symm.trans hs)
    cases h
    exact .authorizeWrite accepted found writes
  · intro h
    cases h with
    | @authorizeWrite _ key r accepted found writes =>
        have htag := sound.resources.indexed.index_get?_iff.mpr ⟨r, found, rfl⟩
        exact ⟨key, ⟨rfl, accepted⟩, r, found, (), ⟨r, key, htag, found, writes⟩, rfl⟩

theorem authorizeUpgrade_eq_ok_iff : core.authorizeUpgrade caller resource = .ok effect ↔
    core.Makes (.authorizeUpgrade caller resource) effect := by
  unfold authorizeUpgrade
  simp only [bind_eq_ok, discard_eq_ok_iff, orFail_eq_ok_iff, selector_eq_ok_iff,
    ResourceTable.require_eq_ok_iff, ResourceTable.checkUpgrade_eq_ok_iff]
  constructor
  · rintro ⟨key, ⟨rfl, accepted⟩, -, -, r, ⟨found, owned⟩, h⟩
    cases h
    exact .authorizeUpgrade accepted found owned
  · intro h
    cases h with
    | @authorizeUpgrade _ key r accepted found owned =>
        exact ⟨key, ⟨rfl, accepted⟩, (), ⟨r, found⟩, r, ⟨found, owned⟩, rfl⟩

theorem upgradeResource_eq_ok_iff : core.upgradeResource caller resource classHash = .ok effect ↔
    core.Makes (.upgradeResource caller resource classHash) effect := by
  unfold upgradeResource
  simp only [bind_eq_ok, discard_eq_ok_iff, orFail_eq_ok_iff, selector_eq_ok_iff,
    ResourceTable.checkUpgrade_eq_ok_iff]
  constructor
  · rintro ⟨key, ⟨rfl, accepted⟩, -, ⟨r, found, owned⟩, ⟨s, t⟩, hup, h⟩
    obtain ⟨r', found', upgraded, rfl⟩ := ResourceTable.upgrade_eq_ok_iff.mp hup
    obtain rfl : r = r' := Option.some.inj (found.symm.trans found')
    cases h
    exact .upgradeResource accepted found owned upgraded
  · intro h
    cases h with
    | @upgradeResource _ key _ r s accepted found owned upgraded =>
        exact ⟨key, ⟨rfl, accepted⟩, (), ⟨r, found, owned⟩, (s, _),
          ResourceTable.upgrade_eq_ok_iff.mpr ⟨r, found, upgraded, rfl⟩, rfl⟩

theorem resolveKind_eq_ok_iff : core.resolveKind resource word = .ok effect ↔
    core.Makes (.resolveKind resource word) effect := by
  unfold resolveKind
  simp only [bind_eq_ok, discard_eq_ok_iff, orFail_eq_ok_iff, kind_eq_ok_iff, selector_eq_ok_iff,
    ResourceTable.require_eq_ok_iff, ResourceTable.requireKind_eq_ok_iff]
  constructor
  · rintro ⟨kind, known, key, ⟨rfl, accepted⟩, -, -, r, ⟨found, same⟩, h⟩
    cases h
    exact .resolveKind known accepted found same
  · intro h
    cases h with
    | @resolveKind key _ kind r known accepted found same =>
        exact ⟨kind, known, key, ⟨rfl, accepted⟩, (), ⟨r, found⟩, r, ⟨found, same⟩, rfl⟩

theorem checkOwner_eq_ok_iff : core.checkOwner caller resource = .ok effect ↔
    core.Makes (.checkOwner caller resource) effect := by
  unfold checkOwner
  simp only [bind_eq_ok, orFail_eq_ok_iff, selector_eq_ok_iff, ResourceTable.checkOwner_eq_ok_iff]
  constructor
  · rintro ⟨key, ⟨rfl, accepted⟩, r, ⟨found, owned⟩, h⟩
    cases h
    exact .checkOwner accepted found owned
  · intro h
    cases h with
    | @checkOwner _ key r accepted found owned =>
        exact ⟨key, ⟨rfl, accepted⟩, r, ⟨found, owned⟩, rfl⟩

theorem checkWriteAccess_eq_ok_iff : core.checkWriteAccess caller tag = .ok effect ↔
    core.Makes (.checkWriteAccess caller tag) effect := by
  unfold checkWriteAccess
  simp only [bind_eq_ok, ResourceTable.checkWrite_eq_ok_iff]
  constructor
  · rintro ⟨full, spelled, r, ⟨key, tagged, found, writes⟩, h⟩
    cases h
    exact .checkWriteAccess spelled tagged found writes
  · intro h
    cases h with
    | @checkWriteAccess _ key _ full r spelled tagged found writes =>
        exact ⟨full, spelled, r, ⟨key, tagged, found, writes⟩, rfl⟩

theorem authorizeNamespaceWrite_eq_ok_iff : core.authorizeNamespaceWrite caller space = .ok effect ↔
    core.Makes (.authorizeNamespaceWrite caller space) effect := by
  unfold authorizeNamespaceWrite
  simp only [bind_eq_ok, orFail_eq_ok_iff, selector_eq_ok_iff, NamespaceTable.checkWrite_eq_ok_iff]
  constructor
  · rintro ⟨key, ⟨rfl, accepted⟩, n, ⟨found, writes⟩, h⟩
    cases h
    exact .authorizeNamespaceWrite accepted found writes
  · intro h
    cases h with
    | @authorizeNamespaceWrite _ key n accepted found writes =>
        exact ⟨key, ⟨rfl, accepted⟩, n, ⟨found, writes⟩, rfl⟩

theorem grantWriter_eq_ok_iff (sound : core.store.Sound) :
    core.grantWriter caller resource writer = .ok effect ↔
      core.Makes (.grantWriter caller resource writer) effect := by
  unfold grantWriter
  simp only [bind_eq_ok, orFail_eq_ok_iff, selector_eq_ok_iff]
  constructor
  · rintro ⟨key, ⟨rfl, accepted⟩, ⟨new, t⟩, hgrant, h⟩
    obtain ⟨r, ⟨found, owned⟩, rfl, rfl⟩ := (ResourceTable.grant_eq_ok_iff sound.resources).mp hgrant
    cases h
    exact .grantWriter accepted found owned
  · intro h
    cases h with
    | @grantWriter _ key _ r accepted found owned =>
        exact ⟨key, ⟨rfl, accepted⟩, (_, _),
          (ResourceTable.grant_eq_ok_iff sound.resources).mpr ⟨r, ⟨found, owned⟩, rfl, rfl⟩, rfl⟩

theorem revokeWriter_eq_ok_iff : core.revokeWriter caller resource writer = .ok effect ↔
    core.Makes (.revokeWriter caller resource writer) effect := by
  unfold revokeWriter
  simp only [bind_eq_ok, orFail_eq_ok_iff, selector_eq_ok_iff]
  constructor
  · rintro ⟨key, ⟨rfl, accepted⟩, ⟨old, t⟩, hrevoke, h⟩
    obtain ⟨r, ⟨found, owned⟩, rfl, rfl⟩ := ResourceTable.revoke_eq_ok_iff.mp hrevoke
    cases h
    exact .revokeWriter accepted found owned
  · intro h
    cases h with
    | @revokeWriter _ key _ r accepted found owned =>
        exact ⟨key, ⟨rfl, accepted⟩, (_, _),
          ResourceTable.revoke_eq_ok_iff.mpr ⟨r, ⟨found, owned⟩, rfl, rfl⟩, rfl⟩

theorem grantNamespaceWriter_eq_ok_iff (sound : core.store.Sound) :
    core.grantNamespaceWriter caller space writer = .ok effect ↔
      core.Makes (.grantNamespaceWriter caller space writer) effect := by
  unfold grantNamespaceWriter
  simp only [bind_eq_ok, orFail_eq_ok_iff, selector_eq_ok_iff]
  constructor
  · rintro ⟨key, ⟨rfl, accepted⟩, ⟨new, t⟩, hgrant, h⟩
    obtain ⟨n, ⟨found, owned⟩, rfl, rfl⟩ := (NamespaceTable.grant_eq_ok_iff sound.namespaces).mp hgrant
    cases h
    exact .grantNamespaceWriter accepted found owned
  · intro h
    cases h with
    | @grantNamespaceWriter _ key _ n accepted found owned =>
        exact ⟨key, ⟨rfl, accepted⟩, (_, _),
          (NamespaceTable.grant_eq_ok_iff sound.namespaces).mpr ⟨n, ⟨found, owned⟩, rfl, rfl⟩, rfl⟩

theorem revokeNamespaceWriter_eq_ok_iff : core.revokeNamespaceWriter caller space writer = .ok effect ↔
    core.Makes (.revokeNamespaceWriter caller space writer) effect := by
  unfold revokeNamespaceWriter
  simp only [bind_eq_ok, orFail_eq_ok_iff, selector_eq_ok_iff]
  constructor
  · rintro ⟨key, ⟨rfl, accepted⟩, ⟨old, t⟩, hrevoke, h⟩
    obtain ⟨n, ⟨found, owned⟩, rfl, rfl⟩ := NamespaceTable.revoke_eq_ok_iff.mp hrevoke
    cases h
    exact .revokeNamespaceWriter accepted found owned
  · intro h
    cases h with
    | @revokeNamespaceWriter _ key _ n accepted found owned =>
        exact ⟨key, ⟨rfl, accepted⟩, (_, _),
          NamespaceTable.revoke_eq_ok_iff.mpr ⟨n, ⟨found, owned⟩, rfl, rfl⟩, rfl⟩

/-- `Makes` is all that a flow can do on a sound store. -/
theorem attempt_eq_ok_iff (sound : core.store.Sound) {flow : Flow} :
    core.attempt flow = .ok effect ↔ core.Makes flow effect := by
  cases flow with
  | registerNamespace => exact registerNamespace_eq_ok_iff
  | registerResource => exact registerResource_eq_ok_iff
  | authorizeWrite => exact authorizeWrite_eq_ok_iff sound
  | authorizeUpgrade => exact authorizeUpgrade_eq_ok_iff
  | upgradeResource => exact upgradeResource_eq_ok_iff
  | resolveKind => exact resolveKind_eq_ok_iff
  | checkOwner => exact checkOwner_eq_ok_iff
  | checkWriteAccess => exact checkWriteAccess_eq_ok_iff
  | authorizeNamespaceWrite => exact authorizeNamespaceWrite_eq_ok_iff
  | grantWriter => exact grantWriter_eq_ok_iff sound
  | revokeWriter => exact revokeWriter_eq_ok_iff
  | grantNamespaceWriter => exact grantNamespaceWriter_eq_ok_iff sound
  | revokeNamespaceWriter => exact revokeNamespaceWriter_eq_ok_iff
  | deleteMember =>
      constructor
      · intro h
        cases h
      · intro h
        cases h

/-- Flows that are no changes leave the store as it is. -/
theorem Makes.store_eq {flow : Flow} (h : core.Makes flow effect) (still : flow.mutates = false) :
    effect.store = core.store := by
  cases h with
  | registerNamespace => cases still
  | registerResource => cases still
  | upgradeResource => cases still
  | grantWriter => cases still
  | revokeWriter => cases still
  | grantNamespaceWriter => cases still
  | revokeNamespaceWriter => cases still
  | _ => rfl

/-- Accepted selectors lie strictly between zero and the prime. -/
theorem bounds_of_accepts {v : Validator} {key : Int} (h : v.accepts key = true) :
    0 < key ∧ key < feltPrime := by
  simp only [Validator.accepts, Validator.isReserved, worldSelector, Bool.and_eq_true,
    decide_eq_true_eq, Bool.not_eq_true', Bool.or_eq_false_iff, beq_eq_false_iff_ne] at h
  obtain ⟨⟨hnonneg, hlt⟩, hne, -⟩ := h
  exact ⟨by omega, hlt⟩

/-- Every flow keeps the store sound. -/
theorem Makes.sound {flow : Flow} (h : core.Makes flow effect) (sound : core.store.Sound) :
    effect.store.Sound := by
  cases h with
  | registerNamespace named account chosen accepted freeKey freeName =>
      obtain ⟨hpos, hlt⟩ := bounds_of_accepts accepted
      exact sound.addNamespace ⟨named, hpos, hlt, IntSet.ascending_nil⟩ freeKey freeName
  | registerResource named known acceptedSpace found chosen accepted writable fresh freeKey freeTag =>
      obtain ⟨hpos, hlt⟩ := bounds_of_accepts accepted
      subst fresh
      have hhome := (sound.namespaces.proper _ _ found).named
      exact sound.addResource ⟨hhome, named, hpos, hlt, IntSet.ascending_nil, by simp, Nat.le_refl 1⟩
        ⟨_, found, rfl⟩ freeKey freeTag
  | upgradeResource accepted found owned upgraded =>
      subst upgraded
      have hr := sound.resources.proper _ _ found
      exact sound.setResource found (hr.upgraded _) rfl rfl rfl rfl
  | grantWriter accepted found owned =>
      have hr := sound.resources.proper _ _ found
      exact sound.setResource found (hr.withWriters (IntSet.ascending_insert hr.ascending))
        rfl rfl rfl rfl
  | revokeWriter accepted found owned =>
      have hr := sound.resources.proper _ _ found
      exact sound.setResource found (hr.withWriters (IntSet.ascending_erase hr.ascending))
        rfl rfl rfl rfl
  | grantNamespaceWriter accepted found owned =>
      have hn := sound.namespaces.proper _ _ found
      exact sound.setWriters found (IntSet.ascending_insert hn.ascending)
  | revokeNamespaceWriter accepted found owned =>
      have hn := sound.namespaces.proper _ _ found
      exact sound.setWriters found (IntSet.ascending_erase hn.ascending)
  | _ => exact sound

end Core

end OwnershipRegistry
