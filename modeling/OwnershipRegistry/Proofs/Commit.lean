import OwnershipRegistry.Proofs.Flow
import OwnershipRegistry.World.Basic

/-!
# Committed flows

A flow that succeeds and changes the state is committed with its answer. What
a flow does depends on the tables, the version and the policy alone, so it does
the same inside and outside of transactions.
-/

namespace OwnershipRegistry

/-- A change that was made: the flow that made it, and its answer. -/
structure Commit where
  flow : Flow
  answer : Answer

namespace Core

/-- Cores that flows cannot tell apart. They may differ in their transactions. -/
structure Same (a b : Core) : Prop where
  defaultNamespace : a.defaultNamespace = b.defaultNamespace
  policy : a.policy = b.policy
  store : a.store = b.store
  version : a.version = b.version

/-- The core after a flow. A flow that fails leaves it as it is. -/
def after (core : Core) (flow : Flow) : Core :=
  match core.attempt flow with
  | .ok effect => World.commitTo core effect.store flow.mutates
  | .error _ => core

/-- The change that a flow makes, if it makes one. -/
def commits (core : Core) (flow : Flow) : List Commit :=
  match core.attempt flow with
  | .ok effect => if flow.mutates then [⟨flow, effect.answer⟩] else []
  | .error _ => []

/-- The core after several flows. -/
def afterAll (core : Core) (flows : List Flow) : Core := flows.foldl after core

/-- The changes that several flows make, one flow after the other. -/
def commitsAll (core : Core) : List Flow → List Commit
  | [] => []
  | flow :: rest => core.commits flow ++ (core.after flow).commitsAll rest

/-- Every one of several flows succeeds in its turn. -/
def Passes (core : Core) : List Flow → Prop
  | [] => True
  | flow :: rest => (∃ effect, core.attempt flow = .ok effect) ∧ (core.after flow).Passes rest

variable {a b c core : Core} {flow : Flow} {effect : Effect} {flows : List Flow}

theorem Same.refl (core : Core) : core.Same core := ⟨rfl, rfl, rfl, rfl⟩

theorem Same.symm (h : a.Same b) : b.Same a :=
  ⟨h.defaultNamespace.symm, h.policy.symm, h.store.symm, h.version.symm⟩

theorem Same.trans (h : a.Same b) (h' : b.Same c) : a.Same c :=
  ⟨h.defaultNamespace.trans h'.defaultNamespace, h.policy.trans h'.policy,
    h.store.trans h'.store, h.version.trans h'.version⟩

/-- Transactions have no influence on what a flow does. -/
theorem Same.attempt_eq (h : a.Same b) (flow : Flow) : a.attempt flow = b.attempt flow := by
  obtain ⟨hdefault, hpolicy, hstore, hversion⟩ := h
  cases a
  cases b
  subst hdefault hpolicy hstore hversion
  cases flow <;> rfl

theorem after_of_ok (h : core.attempt flow = .ok effect) :
    core.after flow = World.commitTo core effect.store flow.mutates := by
  rw [after, h]

theorem after_of_error {failure : Failure} (h : core.attempt flow = .error failure) :
    core.after flow = core := by
  rw [after, h]

theorem after_store (h : core.attempt flow = .ok effect) : (core.after flow).store = effect.store := by
  rw [after_of_ok h]
  cases hm : flow.mutates <;> rfl

theorem after_policy (core : Core) (flow : Flow) : (core.after flow).policy = core.policy := by
  cases h : core.attempt flow with
  | error failure => rw [after_of_error h]
  | ok effect =>
      rw [after_of_ok h]
      cases hm : flow.mutates <;> rfl

theorem after_defaultNamespace (core : Core) (flow : Flow) :
    (core.after flow).defaultNamespace = core.defaultNamespace := by
  cases h : core.attempt flow with
  | error failure => rw [after_of_error h]
  | ok effect =>
      rw [after_of_ok h]
      cases hm : flow.mutates <;> rfl

theorem afterAll_policy (core : Core) (flows : List Flow) : (core.afterAll flows).policy = core.policy := by
  induction flows generalizing core with
  | nil => rfl
  | cons flow rest ih => exact (ih (core.after flow)).trans (after_policy core flow)

/-- The version counts the changes. -/
theorem after_version (core : Core) (flow : Flow) :
    (core.after flow).version = core.version + (core.commits flow).length := by
  unfold commits
  cases h : core.attempt flow with
  | error failure => rw [after_of_error h, List.length_nil, Nat.add_zero]
  | ok effect =>
      rw [after_of_ok h]
      cases hm : flow.mutates <;> rfl

theorem afterAll_version (core : Core) (flows : List Flow) :
    (core.afterAll flows).version = core.version + (core.commitsAll flows).length := by
  induction flows generalizing core with
  | nil => rfl
  | cons flow rest ih =>
      have hrest := ih (core.after flow)
      rw [after_version] at hrest
      rw [commitsAll, List.length_append, ← Nat.add_assoc]
      exact hrest

/-- Flows enter and leave no transactions. -/
theorem after_depth (core : Core) (flow : Flow) : (core.after flow).depth = core.depth := by
  cases h : core.attempt flow with
  | error failure => rw [after_of_error h]
  | ok effect =>
      rw [after_of_ok h]
      cases hm : flow.mutates <;> rfl

theorem afterAll_depth (core : Core) (flows : List Flow) : (core.afterAll flows).depth = core.depth := by
  induction flows generalizing core with
  | nil => rfl
  | cons flow rest ih => exact (ih (core.after flow)).trans (after_depth core flow)

/-- Outside of transactions no change waits for an end. -/
theorem after_pending_outside (outside : core.depth = 0) (flow : Flow) :
    (core.after flow).pending = core.pending := by
  cases h : core.attempt flow with
  | error failure => rw [after_of_error h]
  | ok effect =>
      rw [after_of_ok h]
      cases hm : flow.mutates with
      | false => rfl
      | true => exact if_pos outside

/-- Inside of a transaction all changes wait for its end. -/
theorem after_pending_inside (inside : core.depth ≠ 0) (flow : Flow) :
    (core.after flow).pending = core.pending + (core.commits flow).length := by
  unfold commits
  cases h : core.attempt flow with
  | error failure => rw [after_of_error h, List.length_nil, Nat.add_zero]
  | ok effect =>
      rw [after_of_ok h]
      cases hm : flow.mutates with
      | false => rfl
      | true => exact if_neg inside

theorem afterAll_pending_inside (inside : core.depth ≠ 0) (flows : List Flow) :
    (core.afterAll flows).pending = core.pending + (core.commitsAll flows).length := by
  induction flows generalizing core with
  | nil => rfl
  | cons flow rest ih =>
      have hinside : (core.after flow).depth ≠ 0 := by rwa [after_depth]
      have hrest := ih hinside
      rw [after_pending_inside inside] at hrest
      rw [commitsAll, List.length_append, ← Nat.add_assoc]
      exact hrest

/-- A flow leaves cores that it cannot tell apart the same. -/
theorem Same.after (h : a.Same b) (flow : Flow) : (a.after flow).Same (b.after flow) := by
  have hattempt := h.attempt_eq flow
  cases hb : b.attempt flow with
  | error failure =>
      rw [after_of_error (hattempt.trans hb), after_of_error hb]
      exact h
  | ok effect =>
      rw [after_of_ok (hattempt.trans hb), after_of_ok hb]
      cases hm : flow.mutates with
      | false => exact ⟨h.defaultNamespace, h.policy, rfl, h.version⟩
      | true => exact ⟨h.defaultNamespace, h.policy, rfl, congrArg (· + 1) h.version⟩

theorem Same.afterAll (h : a.Same b) (flows : List Flow) : (a.afterAll flows).Same (b.afterAll flows) := by
  induction flows generalizing a b with
  | nil => exact h
  | cons flow rest ih => exact ih (h.after flow)

theorem Same.passes (h : a.Same b) (passes : b.Passes flows) : a.Passes flows := by
  induction flows generalizing a b with
  | nil => trivial
  | cons flow rest ih =>
      obtain ⟨⟨effect, hflow⟩, hrest⟩ := passes
      exact ⟨⟨effect, (h.attempt_eq flow).trans hflow⟩, ih (h.after flow) hrest⟩

theorem afterAll_singleton (core : Core) (flow : Flow) : core.afterAll [flow] = core.after flow := rfl

theorem afterAll_append (core : Core) (flows more : List Flow) :
    core.afterAll (flows ++ more) = (core.afterAll flows).afterAll more :=
  List.foldl_append

theorem passes_append {more : List Flow} :
    core.Passes (flows ++ more) ↔ core.Passes flows ∧ (core.afterAll flows).Passes more := by
  induction flows generalizing core with
  | nil => simp [Passes, afterAll]
  | cons flow rest ih =>
      have hstep : core.afterAll (flow :: rest) = (core.after flow).afterAll rest := rfl
      rw [List.cons_append, Passes, Passes, ih, hstep, and_assoc]

/-- The first of several flows that succeed makes what it puts, and the others follow. -/
theorem makes_of_passes (sound : core.store.Sound) (passes : core.Passes (flow :: flows)) :
    ∃ effect, core.Makes flow effect ∧ (core.after flow).store = effect.store ∧
      (core.after flow).Passes flows := by
  obtain ⟨⟨effect, hattempt⟩, hrest⟩ := passes
  exact ⟨effect, (attempt_eq_ok_iff sound).mp hattempt, after_store hattempt, hrest⟩

/-- One flow succeeds and puts a store exactly when it makes an effect with that store. -/
theorem passes_singleton_iff (sound : core.store.Sound) {s : Store} :
    (core.Passes [flow] ∧ (core.afterAll [flow]).store = s) ↔
      ∃ effect, core.Makes flow effect ∧ effect.store = s := by
  constructor
  · rintro ⟨hpasses, rfl⟩
    obtain ⟨effect, hmakes, hstore, -⟩ := makes_of_passes sound hpasses
    exact ⟨effect, hmakes, hstore.symm⟩
  · rintro ⟨effect, hmakes, rfl⟩
    have hattempt := (attempt_eq_ok_iff sound).mpr hmakes
    exact ⟨⟨⟨effect, hattempt⟩, trivial⟩, after_store hattempt⟩

/-- A change that succeeds is committed. -/
theorem commits_of_mutates (h : core.attempt flow = .ok effect) (changes : flow.mutates = true) :
    core.commits flow = [⟨flow, effect.answer⟩] := by
  rw [commits, h]
  exact if_pos changes

/-- A check that succeeds commits nothing. -/
theorem commits_of_check (check : flow.mutates = false) : core.commits flow = [] := by
  unfold commits
  cases core.attempt flow with
  | error failure => rfl
  | ok effect => simp [check]

/-- Of flows that all succeed, the changes are committed. -/
theorem commitsAll_length_of_passes (passes : core.Passes flows) :
    (core.commitsAll flows).length = flows.countP (·.mutates) := by
  induction flows generalizing core with
  | nil => rfl
  | cons flow rest ih =>
      obtain ⟨⟨effect, hattempt⟩, hrest⟩ := passes
      rw [commitsAll, List.length_append, ih hrest, List.countP_cons]
      cases hm : flow.mutates with
      | false => simp [commits_of_check hm]
      | true =>
          rw [commits_of_mutates hattempt hm]
          simp [Nat.add_comm]

/-- What every change keeps, about the changes so far and the tables. -/
def KeptByChanges (Q : List Commit → Store → Prop) : Prop :=
  ∀ (history : List Commit) (core : Core) (flow : Flow) (effect : Effect),
    core.store.Sound → Q history core.store → core.Makes flow effect → flow.mutates = true →
      Q (history ++ [⟨flow, effect.answer⟩]) effect.store

theorem keptByChanges_true : KeptByChanges fun _ _ => True := fun _ _ _ _ _ _ _ _ => trivial

/-- A flow keeps what every change keeps. -/
theorem after_keeps {Q : List Commit → Store → Prop} (kept : KeptByChanges Q) (history : List Commit)
    (sound : core.store.Sound) (before : Q history core.store) (flow : Flow) :
    (core.after flow).store.Sound ∧ Q (history ++ core.commits flow) (core.after flow).store := by
  cases h : core.attempt flow with
  | error failure =>
      rw [after_of_error h, commits, h, List.append_nil]
      exact ⟨sound, before⟩
  | ok effect =>
      have hmakes := (attempt_eq_ok_iff sound).mp h
      rw [after_store h]
      refine ⟨hmakes.sound sound, ?_⟩
      cases hm : flow.mutates with
      | true =>
          rw [commits_of_mutates h hm]
          exact kept history core flow effect sound before hmakes hm
      | false =>
          rw [commits_of_check hm, List.append_nil, hmakes.store_eq hm]
          exact before

/-- Several flows keep what every change keeps. -/
theorem afterAll_keeps {Q : List Commit → Store → Prop} (kept : KeptByChanges Q) (history : List Commit)
    (sound : core.store.Sound) (before : Q history core.store) (flows : List Flow) :
    (core.afterAll flows).store.Sound ∧ Q (history ++ core.commitsAll flows) (core.afterAll flows).store := by
  induction flows generalizing core history with
  | nil => simpa [afterAll, commitsAll] using ⟨sound, before⟩
  | cons flow rest ih =>
      obtain ⟨hsound, hkept⟩ := after_keeps kept history sound before flow
      have hrest := ih _ hsound hkept
      rw [List.append_assoc] at hrest
      exact hrest

theorem sound_after (sound : core.store.Sound) (flow : Flow) : (core.after flow).store.Sound :=
  (after_keeps keptByChanges_true [] sound trivial flow).1

theorem sound_afterAll (sound : core.store.Sound) (flows : List Flow) :
    (core.afterAll flows).store.Sound :=
  (afterAll_keeps keptByChanges_true [] sound trivial flows).1

end Core

namespace World

/-- A request for a flow answers what the flow answers. -/
theorem decide_fst (flow : Flow) (w : World) :
    (decide flow w).1 = (w.core.attempt flow).map (·.answer) := by
  unfold decide
  cases h : w.core.attempt flow with
  | ok effect => simp [Except.map]
  | error failure => cases failure <;> simp [Except.map]

/-- A request for a flow changes the core and the journal. -/
theorem decide_snd (flow : Flow) (w : World) :
    (decide flow w).2 = { w with core := w.core.after flow, journal := (decide flow w).2.journal } := by
  unfold decide
  cases h : w.core.attempt flow with
  | ok effect => simp [Core.after_of_ok h]
  | error failure => cases failure <;> simp [Core.after_of_error h]

theorem decide_core (flow : Flow) (w : World) : (decide flow w).2.core = w.core.after flow := by
  rw [decide_snd]

end World

end OwnershipRegistry
