import OwnershipRegistry.Manifest.Plan
import OwnershipRegistry.Proofs.Run

/-!
# Records persist

No step removes a record, and none changes more of it than its writers, its
class and its version. These change by committed flows of the record's owner
alone, so the class and the version of a resource are those of its committed
upgrades.
-/

namespace OwnershipRegistry

/-- Grants and revocations that a caller asks for, on the record at a selector. -/
inductive Flow.Decides (caller key : Int) : Target → Flow → Prop
  | grantWriter (writer : Int) : Decides caller key .resource (.grantWriter caller (.int key) writer)
  | revokeWriter (writer : Int) : Decides caller key .resource (.revokeWriter caller (.int key) writer)
  | grantNamespaceWriter (writer : Int) :
      Decides caller key .space (.grantNamespaceWriter caller (.int key) writer)
  | revokeNamespaceWriter (writer : Int) :
      Decides caller key .space (.revokeNamespaceWriter caller (.int key) writer)

/-- Upgrades that a caller asks for, of the resource at a selector. -/
def Flow.Upgrades (caller key : Int) (flow : Flow) : Prop :=
  ∃ classHash, flow = .upgradeResource caller (.int key) classHash

/-- The class of a resource and its version. -/
def ResourceRecord.edition (r : ResourceRecord) : Option Int × Nat := (r.classHash, r.version)

/-- A value differs after changes only where the changes have a flow of a sort. -/
def OnlyBy {α : Type} (changes : List Commit) (sort : Flow → Prop) (before after : α) : Prop :=
  after ≠ before → ∃ c ∈ changes, sort c.flow

variable {changes more : List Commit} {key : Int}

theorem OnlyBy.refl {α : Type} {sort : Flow → Prop} (a : α) : OnlyBy changes sort a a :=
  fun differ => absurd rfl differ

theorem OnlyBy.trans {α : Type} {sort : Flow → Prop} {a b c : α} (h : OnlyBy changes sort a b)
    (h' : OnlyBy more sort b c) : OnlyBy (changes ++ more) sort a c := by
  intro differ
  by_cases hfirst : b = a
  · obtain ⟨change, hmem, hsort⟩ := h' (hfirst ▸ differ)
    exact ⟨change, List.mem_append_right _ hmem, hsort⟩
  · obtain ⟨change, hmem, hsort⟩ := h hfirst
    exact ⟨change, List.mem_append_left _ hmem, hsort⟩

/-- The namespace at a selector after changes: only its owner decides about its writers. -/
structure NamespaceRecord.Continued (changes : List Commit) (key : Int) (n n' : NamespaceRecord) :
    Prop where
  name : n'.name = n.name
  selector : n'.selector = n.selector
  owner : n'.owner = n.owner
  writers : OnlyBy changes (Flow.Decides n.owner key .space) n.writers n'.writers

/-- The resource at a selector after changes: only its owner decides about its writers and upgrades
it. -/
structure ResourceRecord.Continued (changes : List Commit) (key : Int) (r r' : ResourceRecord) :
    Prop where
  space : r'.space = r.space
  name : r'.name = r.name
  selector : r'.selector = r.selector
  spaceSelector : r'.spaceSelector = r.spaceSelector
  owner : r'.owner = r.owner
  kind : r'.kind = r.kind
  writers : OnlyBy changes (Flow.Decides r.owner key .resource) r.writers r'.writers
  edition : OnlyBy changes (Flow.Upgrades r.owner key) r.edition r'.edition

namespace NamespaceRecord

variable {n n' n'' : NamespaceRecord}

theorem Continued.refl (n : NamespaceRecord) : n.Continued changes key n := ⟨rfl, rfl, rfl, .refl _⟩

theorem Continued.trans (h : n.Continued changes key n') (h' : n'.Continued more key n'') :
    n.Continued (changes ++ more) key n'' where
  name := h'.name.trans h.name
  selector := h'.selector.trans h.selector
  owner := h'.owner.trans h.owner
  writers := h.writers.trans (h.owner ▸ h'.writers)

/-- A decision about the writers by the owner continues a namespace. -/
theorem continued_of_decides {flow : Flow} (decides : flow.Decides n.owner key .space) (answer : Answer)
    (writers : Writers) : n.Continued [⟨flow, answer⟩] key { n with writers } :=
  ⟨rfl, rfl, rfl, fun _ => ⟨_, List.mem_cons_self, decides⟩⟩

end NamespaceRecord

namespace ResourceRecord

variable {r r' r'' : ResourceRecord}

theorem Continued.refl (r : ResourceRecord) : r.Continued changes key r :=
  ⟨rfl, rfl, rfl, rfl, rfl, rfl, .refl _, .refl _⟩

theorem Continued.trans (h : r.Continued changes key r') (h' : r'.Continued more key r'') :
    r.Continued (changes ++ more) key r'' where
  space := h'.space.trans h.space
  name := h'.name.trans h.name
  selector := h'.selector.trans h.selector
  spaceSelector := h'.spaceSelector.trans h.spaceSelector
  owner := h'.owner.trans h.owner
  kind := h'.kind.trans h.kind
  writers := h.writers.trans (h.owner ▸ h'.writers)
  edition := h.edition.trans (h.owner ▸ h'.edition)

/-- A decision about the writers by the owner continues a resource. -/
theorem continued_of_decides {flow : Flow} (decides : flow.Decides r.owner key .resource) (answer : Answer)
    (writers : Writers) : r.Continued [⟨flow, answer⟩] key { r with writers } :=
  ⟨rfl, rfl, rfl, rfl, rfl, rfl, fun _ => ⟨_, List.mem_cons_self, decides⟩, .refl r.edition⟩

/-- An upgrade by the owner continues a resource. -/
theorem continued_of_upgrades {flow : Flow} (upgrades : flow.Upgrades r.owner key) (answer : Answer)
    (classHash : Option Int) (version : Nat) :
    r.Continued [⟨flow, answer⟩] key { r with classHash, version } :=
  ⟨rfl, rfl, rfl, rfl, rfl, rfl, .refl r.writers, fun _ => ⟨_, List.mem_cons_self, upgrades⟩⟩

end ResourceRecord

namespace Store

/-- Every record of a store is there after changes, continued. -/
structure Persists (changes : List Commit) (s s' : Store) : Prop where
  spaces : ∀ key n, s.namespaces.records.get? key = some n →
    ∃ n', s'.namespaces.records.get? key = some n' ∧ n.Continued changes key n'
  resources : ∀ key r, s.resources.records.get? key = some r →
    ∃ r', s'.resources.records.get? key = some r' ∧ r.Continued changes key r'

namespace Persists

variable {s s' s'' : Store} {n : NamespaceRecord} {r r' : ResourceRecord} {writers : Writers}

theorem refl (s : Store) : s.Persists changes s where
  spaces _ n h := ⟨n, h, .refl n⟩
  resources _ r h := ⟨r, h, .refl r⟩

theorem trans (h : s.Persists changes s') (h' : s'.Persists more s'') :
    s.Persists (changes ++ more) s'' where
  spaces key n hn := by
    obtain ⟨n', hn', hfirst⟩ := h.spaces key n hn
    obtain ⟨n'', hn'', hsecond⟩ := h'.spaces key n' hn'
    exact ⟨n'', hn'', hfirst.trans hsecond⟩
  resources key r hr := by
    obtain ⟨r', hr', hfirst⟩ := h.resources key r hr
    obtain ⟨r'', hr'', hsecond⟩ := h'.resources key r' hr'
    exact ⟨r'', hr'', hfirst.trans hsecond⟩

/-- A registration under a free selector overwrites no namespace. -/
theorem addNamespace (free : s.namespaces.records.get? n.selector = none) :
    s.Persists changes (s.addNamespace n) where
  spaces _ old h := ⟨old, Table.get?_put_of_free n free h, .refl old⟩
  resources _ r h := ⟨r, h, .refl r⟩

/-- A registration under a free selector overwrites no resource. -/
theorem addResource (free : s.resources.records.get? r.selector = none) :
    s.Persists changes (s.addResource r) where
  spaces _ n h := ⟨n, h, .refl n⟩
  resources _ old h := ⟨old, Table.get?_put_of_free r free h, .refl old⟩

/-- Changing the writers of one namespace continues it, and leaves the others as they are. -/
theorem setWriters (found : s.namespaces.records.get? key = some n)
    (continued : n.Continued changes key { n with writers }) :
    s.Persists changes (s.setWriters key n writers) where
  spaces other old h := by
    by_cases hkey : other = key
    · subst hkey
      obtain rfl : n = old := Option.some.inj (found.symm.trans h)
      exact ⟨_, Table.get?_put_self _ _ _, continued⟩
    · exact ⟨old, (Table.get?_put_of_ne _ _ hkey).trans h, .refl old⟩
  resources _ r h := ⟨r, h, .refl r⟩

/-- Changing one resource continues it, and leaves the others as they are. -/
theorem setResource (found : s.resources.records.get? key = some r)
    (continued : r.Continued changes key r') : s.Persists changes (s.setResource key r') where
  spaces _ n h := ⟨n, h, .refl n⟩
  resources other old h := by
    by_cases hkey : other = key
    · subst hkey
      obtain rfl : r = old := Option.some.inj (found.symm.trans h)
      exact ⟨r', Table.get?_put_self _ _ _, continued⟩
    · exact ⟨old, (Table.get?_put_of_ne _ _ hkey).trans h, .refl old⟩

end Persists

end Store

/-- Every change continues all records. -/
theorem Core.Makes.persists {core : Core} {flow : Flow} {effect : Effect} (h : core.Makes flow effect)
    (changing : flow.mutates = true) : core.store.Persists [⟨flow, effect.answer⟩] effect.store := by
  cases h with
  | registerNamespace _ _ _ _ freeKey _ => exact Store.Persists.addNamespace freeKey
  | registerResource _ _ _ _ _ _ _ fresh freeKey _ =>
      subst fresh
      exact Store.Persists.addResource freeKey
  | upgradeResource _ found owned upgraded =>
      subst owned upgraded
      exact Store.Persists.setResource found (ResourceRecord.continued_of_upgrades ⟨_, rfl⟩ _ _ _)
  | grantWriter _ found owned =>
      subst owned
      exact Store.Persists.setResource found (ResourceRecord.continued_of_decides (.grantWriter _) _ _)
  | revokeWriter _ found owned =>
      subst owned
      exact Store.Persists.setResource found (ResourceRecord.continued_of_decides (.revokeWriter _) _ _)
  | grantNamespaceWriter _ found owned =>
      subst owned
      exact Store.Persists.setWriters found
        (NamespaceRecord.continued_of_decides (.grantNamespaceWriter _) _ _)
  | revokeNamespaceWriter _ found owned =>
      subst owned
      exact Store.Persists.setWriters found
        (NamespaceRecord.continued_of_decides (.revokeNamespaceWriter _) _ _)
  | authorizeWrite | authorizeUpgrade | resolveKind | checkOwner | checkWriteAccess
  | authorizeNamespaceWrite => cases changing

/-- The records of a store persist through every change. -/
theorem Store.persists_kept (s : Store) : Core.KeptByChanges fun changes store => s.Persists changes store :=
  fun _ _ _ _ _ before makes changing => before.trans (makes.persists changing)

/-- The records persist through every step, with nothing but what the step commits. -/
theorem Store.persists_step {w : World} (sound : w.core.store.Sound) (step : Step) :
    w.core.store.Persists (step.commits w) (step.run w).2.core.store :=
  ((Step.Composes.ofKept w.core.store.persists_kept).holds step w [] sound (.refl _)).2

namespace Commit

/-- The class that a change gives to the resource at a selector. -/
def upgrade? (key : Int) : Commit → Option Int
  | ⟨.upgradeResource _ (.int k) classHash, _⟩ => if k = key then some classHash else none
  | _ => none

/-- The classes that a history gives to the resource at a selector, in order. -/
def upgrades (history : List Commit) (key : Int) : List Int := history.filterMap (upgrade? key)

theorem upgrades_append (history : List Commit) (commit : Commit) (key : Int) :
    upgrades (history ++ [commit]) key = upgrades history key ++ (commit.upgrade? key).toList := by
  unfold upgrades
  rw [List.filterMap_append]
  cases h : commit.upgrade? key <;> simp [h]

end Commit

/-- The edition of the resource at a selector. -/
def Store.edition? (s : Store) (key : Int) : Option (Option Int × Nat) :=
  (s.resources.records.get? key).map (·.edition)

namespace Store

variable {s : Store} {r : ResourceRecord} {key : Int}

theorem edition?_of_found (found : s.resources.records.get? key = some r) :
    s.edition? key = some r.edition := by
  simp [edition?, found]

theorem edition?_addResource (k : Int) :
    (s.addResource r).edition? k = if k = r.selector then some r.edition else s.edition? k := by
  by_cases hk : k = r.selector <;> simp [edition?, addResource, Table.get?_put, hk]

theorem edition?_setResource (k : Int) :
    (s.setResource key r).edition? k = if k = key then some r.edition else s.edition? k := by
  by_cases hk : k = key <;> simp [edition?, setResource, ResourceTable.set, Table.get?_put, hk]

/-- Changing a resource in something else leaves all editions as they are. -/
theorem edition?_setResource_of_same {old : ResourceRecord} (found : s.resources.records.get? key = some old)
    (same : r.edition = old.edition) : (s.setResource key r).edition? = s.edition? := by
  funext k
  rw [edition?_setResource]
  by_cases hk : k = key
  · rw [if_pos hk, hk, edition?_of_found found, same]
  · rw [if_neg hk]

end Store

/-- Editions are what the history says: the last class that was given, and one version more than
there were upgrades. -/
structure Edited (history : List Commit) (edition : Int → Option (Option Int × Nat)) : Prop where
  registered : ∀ key e, edition key = some e →
    e = ((Commit.upgrades history key).getLast?, 1 + (Commit.upgrades history key).length)
  unregistered : ∀ key, edition key = none → Commit.upgrades history key = []

namespace Edited

variable {history : List Commit} {commit : Commit} {edition edition' : Int → Option (Option Int × Nat)}
  {key classHash : Int}

theorem fresh : Edited [] fun _ => none where
  registered _ _ h := nomatch h
  unregistered _ _ := rfl

/-- A change that is no upgrade adds none. -/
theorem upgrades_of_silent (said : ∀ k, commit.upgrade? k = none) (k : Int) :
    Commit.upgrades (history ++ [commit]) k = Commit.upgrades history k := by
  rw [Commit.upgrades_append, said, Option.toList_none, List.append_nil]

/-- A change that is no upgrade changes no edition. -/
theorem silent (h : Edited history edition) (said : ∀ k, commit.upgrade? k = none)
    (same : edition' = edition) : Edited (history ++ [commit]) edition' := by
  subst same
  constructor
  · intro k e he
    rw [upgrades_of_silent said]
    exact h.registered k e he
  · intro k hk
    rw [upgrades_of_silent said]
    exact h.unregistered k hk

/-- A registration starts with the first edition. -/
theorem register (h : Edited history edition) (said : ∀ k, commit.upgrade? k = none)
    (free : edition key = none) (changed : ∀ k, edition' k = if k = key then some (none, 1) else edition k) :
    Edited (history ++ [commit]) edition' := by
  constructor
  · intro k e he
    rw [upgrades_of_silent said]
    rw [changed] at he
    by_cases hk : k = key
    · rw [if_pos hk] at he
      rw [hk, h.unregistered key free]
      exact (Option.some.inj he).symm
    · rw [if_neg hk] at he
      exact h.registered k e he
  · intro k hk
    rw [upgrades_of_silent said]
    rw [changed] at hk
    by_cases hkey : k = key
    · rw [if_pos hkey] at hk
      cases hk
    · rw [if_neg hkey] at hk
      exact h.unregistered k hk

/-- An upgrade gives one resource its next edition. -/
theorem upgrade (h : Edited history edition)
    (said : ∀ k, commit.upgrade? k = if k = key then some classHash else none) {old : Option Int × Nat}
    (found : edition key = some old)
    (changed : ∀ k, edition' k = if k = key then some (some classHash, old.2 + 1) else edition k) :
    Edited (history ++ [commit]) edition' := by
  have hother : ∀ k, k ≠ key → Commit.upgrades (history ++ [commit]) k = Commit.upgrades history k := by
    intro k hk
    rw [Commit.upgrades_append, said, if_neg hk, Option.toList_none, List.append_nil]
  have hthis : Commit.upgrades (history ++ [commit]) key = Commit.upgrades history key ++ [classHash] := by
    rw [Commit.upgrades_append, said, if_pos rfl, Option.toList_some]
  constructor
  · intro k e he
    rw [changed] at he
    by_cases hk : k = key
    · rw [if_pos hk] at he
      have hold := h.registered key old found
      rw [hk, hthis, List.getLast?_concat, List.length_append, ← Option.some.inj he, hold]
      rfl
    · rw [if_neg hk] at he
      rw [hother k hk]
      exact h.registered k e he
  · intro k hk
    rw [changed] at hk
    by_cases hkey : k = key
    · rw [if_pos hkey] at hk
      cases hk
    · rw [if_neg hkey] at hk
      rw [hother k hkey]
      exact h.unregistered k hk

end Edited

/-- Every change makes the editions what the longer history says. -/
theorem edited_kept : Core.KeptByChanges fun history store => Edited history store.edition? := by
  intro history core flow effect sound before makes changes
  cases makes with
  | registerNamespace => exact before.silent (fun _ => rfl) rfl
  | registerResource named known acceptedSpace found chosen accepted writable fresh freeKey freeTag =>
      subst fresh
      exact before.register (fun _ => rfl) (by simp [Store.edition?, freeKey]) Store.edition?_addResource
  | upgradeResource accepted found owned upgraded =>
      subst upgraded
      refine before.upgrade (fun k => ?_) (Store.edition?_of_found found) Store.edition?_setResource
      simp only [Commit.upgrade?, eq_comm]
  | grantWriter accepted found owned =>
      exact before.silent (fun _ => rfl) (Store.edition?_setResource_of_same found rfl)
  | revokeWriter accepted found owned =>
      exact before.silent (fun _ => rfl) (Store.edition?_setResource_of_same found rfl)
  | grantNamespaceWriter => exact before.silent (fun _ => rfl) rfl
  | revokeNamespaceWriter => exact before.silent (fun _ => rfl) rfl
  | authorizeWrite | authorizeUpgrade | resolveKind | checkOwner | checkWriteAccess
  | authorizeNamespaceWrite => cases changes

namespace World

variable {entries : List Moment} {now : Moment}

/-- The editions of a run are what its committed history says. -/
theorem Run.edited (run : Run entries now) : Edited now.history now.world.core.store.edition? :=
  run.keeps Edited.fresh edited_kept

/-- Records persist through every step, and only their owners change them: where the writers or the
edition of a record differ, the step has committed a decision or an upgrade of exactly this record
by its owner. The edition of a resource counts its committed upgrades and names the last one. No
member is ever deleted. -/
theorem records_persist (run : Run entries now) :
    (∀ step : Step,
      now.world.core.store.Persists (step.commits now.world) (step.run now.world).2.core.store) ∧
    (∀ key r, now.world.core.store.resources.records.get? key = some r →
      r.version = 1 + (Commit.upgrades now.history key).length ∧
        r.classHash = (Commit.upgrades now.history key).getLast?) ∧
    (∀ (w : World) (caller : Int) (resource member : Value),
      (decide (.deleteMember caller resource member) w).1 = .error (.denied .memberDeletion)) := by
  refine ⟨Store.persists_step run.sound, ?_, ?_⟩
  · intro key r found
    have hedition := run.edited.registered key r.edition (Store.edition?_of_found found)
    exact ⟨congrArg Prod.snd hedition, congrArg Prod.fst hedition⟩
  · intro w caller resource member
    rw [decide_fst]
    rfl

/-- The owner upgrades a resource, and once more in a transaction that is rolled back. -/
def upgrading : List Step :=
  [.call (.flow (.upgradeResource 1 (.int 8) 5)),
    .attempt (.transaction [.call (.flow (.upgradeResource 1 (.int 8) 6)), .call (.raise "stop")])]

/-- The upgrade that was rolled back leaves no version behind. -/
theorem records_persist_upgrading :
    ∃ r, (Step.runEach upgrading stocked).2.core.store.resources.records.get? 8 = some r ∧
      r.version = 2 ∧ r.classHash = some 5 := by
  have hrun := run_each upgrading run_stocked
  obtain ⟨-, hedition, -⟩ := records_persist hrun
  have hupgrades : Commit.upgrades
      (Step.commitsEach registering bare ++ Step.commitsEach upgrading stocked) 8 = [5] := by
    decide +kernel
  have hthere : ((Step.runEach upgrading stocked).2.core.store.resources.records.get? 8).isSome = true := by
    decide +kernel
  obtain ⟨r, found⟩ := Option.isSome_iff_exists.mp hthere
  obtain ⟨hversion, hclass⟩ := hedition 8 r found
  rw [hupgrades] at hversion hclass
  exact ⟨r, found, hversion, hclass⟩

end World

end OwnershipRegistry
