import OwnershipRegistry.Proofs.Run

/-!
# Access and the committed history

The committed changes say who registered what, and who was granted or revoked
as a writer. The tables hold exactly what the history says, so every check of
access is a question to the history.
-/

namespace OwnershipRegistry

/-- What a change says about the access to a record. -/
inductive AccessEvent where
  | registered (target : Target) (selector owner : Int)
  /-- A writer was granted, or else revoked. -/
  | decided (target : Target) (selector writer : Int) (granted : Bool)
deriving DecidableEq

namespace AccessEvent

/-- Whether an event is a grant or a revocation that names a record and a writer. -/
def names (target : Target) (selector writer : Int) : AccessEvent → Bool
  | .decided t s x _ => t = target && s = selector && x = writer
  | .registered _ _ _ => false

theorem names_iff {target : Target} {selector writer : Int} {event : AccessEvent} :
    event.names target selector writer = true ↔
      ∃ granted, event = .decided target selector writer granted := by
  cases event with
  | registered => simp [names]
  | decided t s x granted => simp [names, and_assoc]

end AccessEvent

namespace Commit

/-- What a change says about access. An upgrade says nothing. -/
def event? : Commit → Option AccessEvent
  | ⟨.registerNamespace caller _ _, .namespace n⟩ => some (.registered .space n.selector caller)
  | ⟨.registerResource caller _ _ _ _, .resource r⟩ => some (.registered .resource r.selector caller)
  | ⟨.grantWriter _ (.int key) writer, _⟩ => some (.decided .resource key writer true)
  | ⟨.revokeWriter _ (.int key) writer, _⟩ => some (.decided .resource key writer false)
  | ⟨.grantNamespaceWriter _ (.int key) writer, _⟩ => some (.decided .space key writer true)
  | ⟨.revokeNamespaceWriter _ (.int key) writer, _⟩ => some (.decided .space key writer false)
  | _ => none

/-- What a history says about access, in order. -/
def events (history : List Commit) : List AccessEvent := history.filterMap event?

theorem events_append (history : List Commit) (commit : Commit) :
    events (history ++ [commit]) = events history ++ commit.event?.toList := by
  unfold events
  rw [List.filterMap_append]
  cases h : commit.event? <;> simp [h]

end Commit

/-- A caller registered a record in the history. -/
def RegisteredBy (history : List Commit) (target : Target) (selector caller : Int) : Prop :=
  .registered target selector caller ∈ Commit.events history

/-- The last grant or revocation that names a record and a writer is a grant. -/
def LastGranted (history : List Commit) (target : Target) (selector writer : Int) : Prop :=
  ((Commit.events history).filter (AccessEvent.names target selector writer)).getLast? =
    some (.decided target selector writer true)

section Append

variable {history : List Commit} {commit : Commit} {target : Target} {key caller writer : Int}
  {granted : Bool}

/-- A further change registers what it says that it registers. -/
theorem registeredBy_append : RegisteredBy (history ++ [commit]) target key caller ↔
    RegisteredBy history target key caller ∨
      commit.event? = some (.registered target key caller) := by
  unfold RegisteredBy
  rw [Commit.events_append, List.mem_append, Option.mem_toList]

/-- A further change that names a writer decides about it. -/
theorem lastGranted_append_of_decided
    (said : commit.event? = some (.decided target key writer granted)) :
    LastGranted (history ++ [commit]) target key writer ↔ granted = true := by
  have hlast : List.filter (AccessEvent.names target key writer)
      [.decided target key writer granted] = [.decided target key writer granted] :=
    List.filter_cons_of_pos (AccessEvent.names_iff.mpr ⟨granted, rfl⟩)
  unfold LastGranted
  rw [Commit.events_append, said, Option.toList_some, List.filter_append, hlast,
    List.getLast?_concat]
  simp

/-- A further change that does not name a writer leaves it as it was. -/
theorem lastGranted_append_of_other
    (other : ∀ granted, commit.event? ≠ some (.decided target key writer granted)) :
    LastGranted (history ++ [commit]) target key writer ↔ LastGranted history target key writer := by
  have hnone : List.filter (AccessEvent.names target key writer) commit.event?.toList = [] := by
    apply List.filter_eq_nil_iff.mpr
    intro event hevent hnames
    obtain ⟨granted, rfl⟩ := AccessEvent.names_iff.mp hnames
    exact other granted (Option.mem_toList.mp hevent)
  unfold LastGranted
  rw [Commit.events_append, List.filter_append, hnone, List.append_nil]

end Append

/-- The owner and the writers of the record at a selector. -/
def Store.access? (s : Store) : Target → Int → Option (Int × Writers)
  | .space, key => (s.namespaces.records.get? key).map fun n => (n.owner, n.writers)
  | .resource, key => (s.resources.records.get? key).map fun r => (r.owner, r.writers)

/-- Owners and writers are what the history says: records are owned by whoever registered them, and
writers are those that were granted last. -/
structure Reflects (history : List Commit) (access : Target → Int → Option (Int × Writers)) : Prop where
  registered : ∀ target key caller, RegisteredBy history target key caller ↔
    ∃ writers, access target key = some (caller, writers)
  granted : ∀ target key writer, LastGranted history target key writer ↔
    ∃ owner writers, access target key = some (owner, writers) ∧ writer ∈ writers

namespace Reflects

variable {history : List Commit} {commit : Commit} {access access' : Target → Int → Option (Int × Writers)}
  {target : Target} {key owner writer : Int} {writers writers' : Writers} {granted : Bool}

/-- Nothing is registered in an empty history. -/
theorem fresh : Reflects [] fun _ _ => none where
  registered target key caller := by simp [RegisteredBy, Commit.events]
  granted target key writer := by simp [LastGranted, Commit.events]

/-- A change that says nothing about access changes none. -/
theorem silent (h : Reflects history access) (said : commit.event? = none) :
    Reflects (history ++ [commit]) access := by
  constructor
  · intro target key caller
    rw [registeredBy_append, said, h.registered]
    simp
  · intro target key writer
    have hother : ∀ granted, commit.event? ≠ some (.decided target key writer granted) := by
      simp [said]
    rw [lastGranted_append_of_other hother, h.granted]

/-- A registration gives a free selector an owner and no writers. -/
theorem register (h : Reflects history access) (said : commit.event? = some (.registered target key owner))
    (free : access target key = none)
    (changed : ∀ t k, access' t k = if t = target ∧ k = key then some (owner, []) else access t k) :
    Reflects (history ++ [commit]) access' := by
  constructor
  · intro t k caller
    rw [registeredBy_append, said, h.registered, changed]
    by_cases hsame : t = target ∧ k = key
    · obtain ⟨rfl, rfl⟩ := hsame
      simp [free]
    · have hne : some (.registered target key owner) ≠ some (AccessEvent.registered t k caller) := by
        intro heq
        cases heq
        exact hsame ⟨rfl, rfl⟩
      rw [if_neg hsame]
      simp only [hne, or_false]
  · intro t k writer
    have hother : ∀ granted, commit.event? ≠ some (.decided t k writer granted) := by simp [said]
    rw [lastGranted_append_of_other hother, h.granted, changed]
    by_cases hsame : t = target ∧ k = key
    · obtain ⟨rfl, rfl⟩ := hsame
      simp [free]
    · rw [if_neg hsame]

/-- A grant or a revocation decides about one writer of one record. -/
theorem settle (h : Reflects history access)
    (said : commit.event? = some (.decided target key writer granted))
    (found : access target key = some (owner, writers))
    (decided : ∀ x, x ∈ writers' ↔ if x = writer then granted = true else x ∈ writers)
    (changed : ∀ t k, access' t k = if t = target ∧ k = key then some (owner, writers') else access t k) :
    Reflects (history ++ [commit]) access' := by
  constructor
  · intro t k caller
    rw [registeredBy_append, said, h.registered, changed]
    by_cases hsame : t = target ∧ k = key
    · obtain ⟨rfl, rfl⟩ := hsame
      simp [found]
    · simp [if_neg hsame]
  · intro t k x
    rw [changed]
    by_cases hsame : t = target ∧ k = key
    · obtain ⟨rfl, rfl⟩ := hsame
      rw [if_pos ⟨rfl, rfl⟩]
      by_cases hx : x = writer
      · subst hx
        rw [lastGranted_append_of_decided said]
        simp [decided]
      · have hother : ∀ granted, commit.event? ≠ some (.decided t k x granted) := by
          simp [said, Ne.symm hx]
        rw [lastGranted_append_of_other hother, h.granted, found]
        simp [decided, hx]
    · have hother : ∀ granted, commit.event? ≠ some (.decided t k x granted) := by
        intro granted' heq
        rw [said] at heq
        cases heq
        exact hsame ⟨rfl, rfl⟩
      rw [lastGranted_append_of_other hother, h.granted, if_neg hsame]

/-- The write law: a record's owner may write and so may every writer. -/
theorem writes_iff (h : Reflects history access) (target : Target) (key caller : Int) :
    (∃ owner writers, access target key = some (owner, writers) ∧ (owner = caller ∨ caller ∈ writers)) ↔
      (∃ owner, RegisteredBy history target key owner) ∧
        (RegisteredBy history target key caller ∨ LastGranted history target key caller) := by
  simp only [h.registered, h.granted]
  constructor
  · rintro ⟨owner, writers, hfound, hmay⟩
    refine ⟨⟨owner, writers, hfound⟩, ?_⟩
    rcases hmay with rfl | hwriter
    · exact Or.inl ⟨writers, hfound⟩
    · exact Or.inr ⟨owner, writers, hfound, hwriter⟩
  · rintro ⟨-, ⟨writers, hfound⟩ | ⟨owner, writers, hfound, hwriter⟩⟩
    · exact ⟨caller, writers, hfound, Or.inl rfl⟩
    · exact ⟨owner, writers, hfound, Or.inr hwriter⟩

/-- A record is registered by one caller. -/
theorem registered_unique (h : Reflects history access) {other : Int}
    (first : RegisteredBy history target key owner) (second : RegisteredBy history target key other) :
    owner = other := by
  obtain ⟨writers, hfirst⟩ := (h.registered target key owner).mp first
  obtain ⟨writers', hsecond⟩ := (h.registered target key other).mp second
  rw [hfirst] at hsecond
  cases hsecond
  rfl

end Reflects

namespace Store

variable {s : Store} {n : NamespaceRecord} {r : ResourceRecord} {key : Int} {writers : Writers}

theorem access?_empty : Store.empty.access? = fun _ _ => none := by
  funext target key
  cases target <;> rfl

theorem access?_space (found : s.namespaces.records.get? key = some n) :
    s.access? .space key = some (n.owner, n.writers) := by
  simp [access?, found]

theorem access?_resource (found : s.resources.records.get? key = some r) :
    s.access? .resource key = some (r.owner, r.writers) := by
  simp [access?, found]

theorem access?_addNamespace (t : Target) (k : Int) : (s.addNamespace n).access? t k =
    if t = .space ∧ k = n.selector then some (n.owner, n.writers) else s.access? t k := by
  cases t with
  | resource => simp [access?, addNamespace]
  | space =>
      by_cases hk : k = n.selector <;> simp [access?, addNamespace, Table.get?_put, hk]

theorem access?_addResource (t : Target) (k : Int) : (s.addResource r).access? t k =
    if t = .resource ∧ k = r.selector then some (r.owner, r.writers) else s.access? t k := by
  cases t with
  | space => simp [access?, addResource]
  | resource =>
      by_cases hk : k = r.selector <;> simp [access?, addResource, Table.get?_put, hk]

theorem access?_setWriters (t : Target) (k : Int) : (s.setWriters key n writers).access? t k =
    if t = .space ∧ k = key then some (n.owner, writers) else s.access? t k := by
  cases t with
  | resource => simp [access?, setWriters]
  | space =>
      by_cases hk : k = key <;>
        simp [access?, setWriters, NamespaceTable.setWriters, Table.get?_put, hk]

theorem access?_setResource (t : Target) (k : Int) : (s.setResource key r).access? t k =
    if t = .resource ∧ k = key then some (r.owner, r.writers) else s.access? t k := by
  cases t with
  | space => simp [access?, setResource]
  | resource =>
      by_cases hk : k = key <;> simp [access?, setResource, ResourceTable.set, Table.get?_put, hk]

end Store

/-- Adding a writer decides that it writes, and nothing about others. -/
theorem mem_insert_decides (writers : Writers) (writer x : Int) :
    x ∈ IntSet.insert writer writers ↔ if x = writer then true = true else x ∈ writers := by
  rw [IntSet.mem_insert]
  by_cases hx : x = writer <;> simp [hx]

/-- Removing a writer decides that it does not write, and nothing about others. -/
theorem mem_erase_decides (writers : Writers) (writer x : Int) :
    x ∈ IntSet.erase writer writers ↔ if x = writer then false = true else x ∈ writers := by
  rw [IntSet.mem_erase]
  by_cases hx : x = writer <;> simp [hx]

/-- Every change makes the tables hold what the longer history says. -/
theorem reflects_kept : Core.KeptByChanges fun history store => Reflects history store.access? := by
  intro history core flow effect sound before makes changes
  cases makes with
  | registerNamespace named account chosen accepted freeKey freeName =>
      exact before.register rfl (by simp [Store.access?, freeKey]) Store.access?_addNamespace
  | registerResource named known acceptedSpace found chosen accepted writable fresh freeKey freeTag =>
      subst fresh
      exact before.register rfl (by simp [Store.access?, freeKey]) Store.access?_addResource
  | @upgradeResource _ key _ r s accepted found owned upgraded =>
      -- The upgraded record has the owner and the writers of the old one.
      have hsame : (core.store.setResource key s).access? = core.store.access? := by
        funext t k
        rw [Store.access?_setResource, upgraded]
        by_cases hk : t = .resource ∧ k = key
        · rw [if_pos hk, hk.1, hk.2, Store.access?_resource found]
        · rw [if_neg hk]
      simp only [hsame]
      exact before.silent rfl
  | grantWriter accepted found owned =>
      exact before.settle rfl (Store.access?_resource found) (mem_insert_decides _ _) Store.access?_setResource
  | revokeWriter accepted found owned =>
      exact before.settle rfl (Store.access?_resource found) (mem_erase_decides _ _) Store.access?_setResource
  | grantNamespaceWriter accepted found owned =>
      exact before.settle rfl (Store.access?_space found) (mem_insert_decides _ _) Store.access?_setWriters
  | revokeNamespaceWriter accepted found owned =>
      exact before.settle rfl (Store.access?_space found) (mem_erase_decides _ _) Store.access?_setWriters
  | authorizeWrite | authorizeUpgrade | resolveKind | checkOwner | checkWriteAccess
  | authorizeNamespaceWrite => cases changes

namespace World

variable {entries : List Moment} {now : Moment}

/-- The tables hold what the committed history says. -/
theorem Run.reflects (run : Run entries now) : Reflects now.history now.world.core.store.access? :=
  run.keeps (Store.access?_empty ▸ Reflects.fresh) reflects_kept

/-- A world lets a flow through. -/
def Allows (w : World) (flow : Flow) : Prop := ∃ answer, (decide flow w).1 = .ok answer

theorem allows_iff {w : World} (sound : w.core.store.Sound) {flow : Flow} :
    w.Allows flow ↔ ∃ effect, w.core.Makes flow effect := by
  unfold Allows
  simp only [decide_fst, map_eq_ok_iff, Core.attempt_eq_ok_iff sound]
  constructor
  · rintro ⟨-, effect, hmakes, -⟩
    exact ⟨effect, hmakes⟩
  · rintro ⟨effect, hmakes⟩
    exact ⟨effect.answer, effect, hmakes, rfl⟩

theorem allows_write_iff {w : World} (sound : w.core.store.Sound) {key : Int}
    (accepted : w.core.policy.validator.accepts key = true) (caller : Int) :
    w.Allows (.authorizeWrite caller (.int key)) ↔ ∃ owner writers,
      w.core.store.access? .resource key = some (owner, writers) ∧ (owner = caller ∨ caller ∈ writers) := by
  rw [allows_iff sound]
  constructor
  · rintro ⟨_, hmakes⟩
    cases hmakes with
    | authorizeWrite _ found writes => exact ⟨_, _, Store.access?_resource found, writes⟩
  · rintro ⟨owner, writers, hfound, hmay⟩
    obtain ⟨r, found, heq⟩ := Option.map_eq_some_iff.mp hfound
    cases heq
    exact ⟨_, .authorizeWrite accepted found hmay⟩

theorem allows_namespaceWrite_iff {w : World} (sound : w.core.store.Sound) {key : Int}
    (accepted : w.core.policy.validator.accepts key = true) (caller : Int) :
    w.Allows (.authorizeNamespaceWrite caller (.int key)) ↔ ∃ owner writers,
      w.core.store.access? .space key = some (owner, writers) ∧ (owner = caller ∨ caller ∈ writers) := by
  rw [allows_iff sound]
  constructor
  · rintro ⟨_, hmakes⟩
    cases hmakes with
    | authorizeNamespaceWrite _ found writes => exact ⟨_, _, Store.access?_space found, writes⟩
  · rintro ⟨owner, writers, hfound, hmay⟩
    obtain ⟨n, found, heq⟩ := Option.map_eq_some_iff.mp hfound
    cases heq
    exact ⟨_, .authorizeNamespaceWrite accepted found hmay⟩

/-- Upgrading and owning are decided alike: by the owner, whatever the writers are. -/
theorem allows_owner_iff {w : World} (sound : w.core.store.Sound) {key : Int}
    (accepted : w.core.policy.validator.accepts key = true) (caller : Int) :
    (w.Allows (.authorizeUpgrade caller (.int key)) ↔
      ∃ writers, w.core.store.access? .resource key = some (caller, writers)) ∧
    (w.Allows (.checkOwner caller (.int key)) ↔
      ∃ writers, w.core.store.access? .resource key = some (caller, writers)) := by
  rw [allows_iff sound, allows_iff sound]
  constructor
  · constructor
    · rintro ⟨_, hmakes⟩
      cases hmakes with
      | authorizeUpgrade _ found owned => exact ⟨_, owned ▸ Store.access?_resource found⟩
    · rintro ⟨writers, hfound⟩
      obtain ⟨r, found, heq⟩ := Option.map_eq_some_iff.mp hfound
      cases heq
      exact ⟨_, .authorizeUpgrade accepted found rfl⟩
  · constructor
    · rintro ⟨_, hmakes⟩
      cases hmakes with
      | checkOwner _ found owned => exact ⟨_, owned ▸ Store.access?_resource found⟩
    · rintro ⟨writers, hfound⟩
      obtain ⟨r, found, heq⟩ := Option.map_eq_some_iff.mp hfound
      cases heq
      exact ⟨_, .checkOwner accepted found rfl⟩

/-- Access is exactly what the committed history grants. For an accepted selector, writing is allowed
to the caller that registered it and to those whose last grant or revocation is a grant; upgrading
and owning only to the caller that registered it. -/
theorem access_iff_history (run : Run entries now) {key : Int}
    (accepted : now.world.core.policy.validator.accepts key = true) (caller : Int) :
    (now.world.Allows (.authorizeWrite caller (.int key)) ↔
      (∃ owner, RegisteredBy now.history .resource key owner) ∧
        (RegisteredBy now.history .resource key caller ∨ LastGranted now.history .resource key caller)) ∧
    (now.world.Allows (.authorizeUpgrade caller (.int key)) ↔
      RegisteredBy now.history .resource key caller) ∧
    (now.world.Allows (.checkOwner caller (.int key)) ↔
      RegisteredBy now.history .resource key caller) ∧
    (now.world.Allows (.authorizeNamespaceWrite caller (.int key)) ↔
      (∃ owner, RegisteredBy now.history .space key owner) ∧
        (RegisteredBy now.history .space key caller ∨ LastGranted now.history .space key caller)) ∧
    (∀ target owner other, RegisteredBy now.history target key owner →
      RegisteredBy now.history target key other → owner = other) := by
  have hreflects := run.reflects
  obtain ⟨hupgrade, howner⟩ := allows_owner_iff run.sound accepted caller
  refine ⟨?_, ?_, ?_, ?_, ?_⟩
  · rw [allows_write_iff run.sound accepted, hreflects.writes_iff]
  · rw [hupgrade, hreflects.registered]
  · rw [howner, hreflects.registered]
  · rw [allows_namespaceWrite_iff run.sound accepted, hreflects.writes_iff]
  · intro target owner other first second
    exact hreflects.registered_unique first second

/-- The owner grants one writer, and another one in a transaction that is rolled back. -/
def granting : List Step :=
  [.call (.flow (.grantWriter 1 (.int 8) 2)),
    .attempt (.transaction [.call (.flow (.grantWriter 1 (.int 8) 3)), .call (.raise "stop")])]

/-- The granted writer may write but not upgrade, and the one of the rollback may not even write. -/
theorem access_iff_history_granting :
    let w := (Step.runEach granting stocked).2
    w.Allows (.authorizeWrite 2 (.int 8)) ∧ ¬ w.Allows (.authorizeUpgrade 2 (.int 8)) ∧
      ¬ w.Allows (.authorizeWrite 3 (.int 8)) := by
  intro w
  have hrun := run_each granting run_stocked
  have haccepted : w.core.policy.validator.accepts 8 = true := by decide +kernel
  obtain ⟨hwrite, hupgrade, -⟩ := access_iff_history hrun haccepted 2
  obtain ⟨hother, -⟩ := access_iff_history hrun haccepted 3
  rw [hwrite, hupgrade, hother]
  unfold RegisteredBy LastGranted
  have hevents : Commit.events (Step.commitsEach registering bare ++ Step.commitsEach granting stocked) =
      [.registered .space 7 1, .registered .resource 8 1, .decided .resource 8 2 true] := by
    decide +kernel
  rw [hevents]
  refine ⟨⟨⟨1, by decide⟩, Or.inr (by decide)⟩, by decide, ?_⟩
  rintro ⟨-, howner | hgranted⟩
  · exact absurd howner (by decide)
  · exact absurd hgranted (by decide)

end World

end OwnershipRegistry
