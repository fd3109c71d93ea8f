import OwnershipRegistry.Proofs.Access

/-!
# Write tokens

A write token says at which version its caller passed the check. Rolling back
restores the version too, so a version can come again with another history. It
comes again with the same history, and the token holds good, where the run was
not rolled back below the version in between.
-/

namespace OwnershipRegistry.World

/-- How a run goes on from a moment without reloading, and without being rolled back below a
version. Like a run, it has the entries of the open transactions beside it. -/
inductive Onward (floor : Nat) (entries : List Moment) (now : Moment) : List Moment → Moment → Prop
  | here : Onward floor entries now entries now
  | called {inner : List Moment} {later : Moment} (h : Onward floor entries now inner later) (c : Call)
      (kept : c ≠ .reload) :
      Onward floor entries now inner ⟨(c.run later.world).2, later.history ++ c.commits later.world⟩
  | entered {inner : List Moment} {later : Moment} (h : Onward floor entries now inner later) :
      Onward floor entries now (later :: inner) ⟨later.world.opened, later.history⟩
  | concluded {entry : Moment} {inner : List Moment} {later : Moment}
      (h : Onward floor entries now (entry :: inner) later) :
      Onward floor entries now inner ⟨later.world.conclude, later.history⟩
  | rolledBack {entry : Moment} {inner : List Moment} {later : Moment}
      (h : Onward floor entries now (entry :: inner) later) (high : floor ≤ entry.world.core.version) :
      Onward floor entries now inner ⟨rollBack entry.world later.world, entry.history⟩

variable {floor : Nat} {entries inner : List Moment} {now later : Moment} {w : World}

/-- A run that goes on is a run. -/
theorem Onward.run (h : Onward floor entries now inner later) (start : Run entries now) :
    Run inner later := by
  induction h with
  | here => exact start
  | called _ c _ ih => exact ih.called c
  | entered _ ih => exact ih.entered
  | concluded _ ih => exact ih.concluded
  | rolledBack _ _ ih => exact ih.rolledBack

/-- Nothing but reloading changes which selectors are accepted. -/
theorem run_validator (sound : w.core.store.Sound) {c : Call} (kept : c ≠ .reload) :
    (c.run w).2.core.policy.validator = w.core.policy.validator := by
  cases h : c.isRule with
  | false => rw [(Call.run_of_not_rule sound h).1.policy]
  | true =>
      cases c with
      | register | write => rfl
      | reload => exact absurd rfl kept
      | _ => cases h

theorem Onward.validator (h : Onward floor entries now inner later) (start : Run entries now) :
    later.world.core.policy.validator = now.world.core.policy.validator := by
  induction h with
  | here => rfl
  | called h c kept ih => exact (run_validator (h.run start).sound kept).trans ih
  | entered _ ih => exact ih
  | @concluded entry inner later _ ih =>
      rw [(conclude_sameState later.world).rules.policy]
      exact ih
  | @rolledBack entry inner later _ _ ih =>
      rw [(rollBack_sameRules entry.world later.world).policy]
      exact ih

/-- A history stays the beginning of the later ones, as long as it is the beginning of the histories
of all entries to which the run may be rolled back. -/
theorem Onward.begins (h : Onward floor entries now inner later)
    (start : ∀ entry ∈ entries, floor ≤ entry.world.core.version → now.history <+: entry.history) :
    now.history <+: later.history ∧
      ∀ entry ∈ inner, floor ≤ entry.world.core.version → now.history <+: entry.history := by
  induction h with
  | here => exact ⟨List.prefix_refl _, start⟩
  | called _ c _ ih => exact ⟨ih.1.trans (List.prefix_append _ _), ih.2⟩
  | entered _ ih =>
      refine ⟨ih.1, fun entry hmem high => ?_⟩
      rcases List.mem_cons.mp hmem with rfl | hmem
      · exact ih.1
      · exact ih.2 entry hmem high
  | concluded _ ih => exact ⟨ih.1, fun entry hmem => ih.2 entry (List.mem_cons_of_mem _ hmem)⟩
  | @rolledBack entry inner later _ high ih =>
      -- Only entries with the version of the floor or a later one are returned to.
      exact ⟨ih.2 entry List.mem_cons_self high, fun other hmem => ih.2 other (List.mem_cons_of_mem _ hmem)⟩

/-- An entry that has the version of a moment inside it has its history, too. -/
theorem Run.begins_entry (run : Run entries now) {entry : Moment} (hmem : entry ∈ entries)
    (high : now.world.core.version ≤ entry.world.core.version) : now.history <+: entry.history := by
  have hbegins := (List.pairwise_cons.mp run.nested).1 entry hmem
  have hentry := run.version_all entry (List.mem_cons_of_mem _ hmem)
  rw [run.version_eq, hentry] at high
  have hsame : entry.history = now.history := hbegins.eq_of_length_le high
  exact hsame ▸ List.prefix_refl _

/-- Where a version comes again with its history, the same callers may write. -/
theorem Onward.allows (h : Onward floor entries now inner later) (run : Run entries now)
    (start : ∀ entry ∈ entries, floor ≤ entry.world.core.version → now.history <+: entry.history)
    (same : later.world.core.version = now.world.core.version) {key caller : Int}
    (accepted : now.world.core.policy.validator.accepts key = true)
    (allowed : now.world.Allows (.authorizeWrite caller (.int key))) :
    later.world.Allows (.authorizeWrite caller (.int key)) := by
  have hlater := h.run run
  have hhistory : now.history = later.history := by
    rw [run.version_eq, hlater.version_eq] at same
    exact (h.begins start).1.eq_of_length same.symm
  have haccepted : later.world.core.policy.validator.accepts key = true := by
    rw [h.validator run]
    exact accepted
  rw [allows_write_iff run.sound accepted, run.reflects.writes_iff, hhistory] at allowed
  rw [allows_write_iff hlater.sound haccepted, hlater.reflects.writes_iff]
  exact allowed

/-- A token that is issued names its caller, an accepted selector and the version. -/
theorem token_of_issued (sound : w.core.store.Sound) {caller : Int} {resource : Value}
    {token : WriteToken} (issued : (decide (.authorizeWrite caller resource) w).1 = .ok (.token token)) :
    resource = .int token.selector ∧ token.caller = caller ∧ token.stateVersion = w.core.version ∧
      w.core.policy.validator.accepts token.selector = true := by
  rw [decide_fst, map_eq_ok_iff] at issued
  obtain ⟨effect, hattempt, hanswer⟩ := issued
  have hmakes := (Core.attempt_eq_ok_iff sound).mp hattempt
  cases hmakes with
  | authorizeWrite accepted found writes =>
      cases hanswer
      exact ⟨rfl, rfl, rfl, accepted⟩

/-- A write token holds good at its version: at every later moment with the version of the token, its
caller may write again, as long as the run is not reloaded, nor rolled back below that version. A
token that was issued outside of transactions holds good whatever is rolled back. -/
theorem token_trustworthy (run : Run entries now) {caller : Int} {resource : Value} {token : WriteToken}
    (issued : (decide (.authorizeWrite caller resource) now.world).1 = .ok (.token token)) :
    (∀ inner later, Onward token.stateVersion entries now inner later →
      later.world.core.version = token.stateVersion →
        later.world.Allows (.authorizeWrite token.caller (.int token.selector))) ∧
    (entries = [] → ∀ inner later, Onward 0 entries now inner later →
      later.world.core.version = token.stateVersion →
        later.world.Allows (.authorizeWrite token.caller (.int token.selector))) := by
  obtain ⟨rfl, rfl, hversion, haccepted⟩ := token_of_issued run.sound issued
  have hallowed : now.world.Allows (.authorizeWrite token.caller (.int token.selector)) := ⟨_, issued⟩
  rw [hversion]
  constructor
  · intro inner later onward same
    exact onward.allows run (fun entry => run.begins_entry) same haccepted hallowed
  · rintro rfl inner later onward same
    exact onward.allows run (fun entry hmem => absurd hmem List.not_mem_nil) same haccepted hallowed

/-- Calls that are no reloads go on from a moment. -/
theorem Onward.each (h : Onward floor entries now inner later) (calls : List Call)
    (kept : ∀ c ∈ calls, c ≠ .reload) :
    Onward floor entries now inner ⟨(Step.runEach (calls.map .call) later.world).2,
      later.history ++ Step.commitsEach (calls.map .call) later.world⟩ := by
  induction calls generalizing later with
  | nil =>
      rw [List.map_nil, Step.runEach, Step.commitsEach, List.append_nil]
      exact h
  | cons c rest ih =>
      have hrest := ih (h.called c (kept c List.mem_cons_self))
        fun c hmem => kept c (List.mem_cons_of_mem _ hmem)
      rw [List.append_assoc] at hrest
      exact hrest

/-- The moment at which the stocked world is reached. -/
def stockedMoment : Moment := ⟨stocked, Step.commitsEach registering bare⟩

/-- The call by which the owner of the stocked resource grants a writer. -/
def grantTo (writer : Int) : Call := .flow (.grantWriter 1 (.int 8) writer)

/-- The moment inside of a transaction that has granted the writer 2. -/
def granted : Moment :=
  ⟨((grantTo 2).run stocked.opened).2, stockedMoment.history ++ (grantTo 2).commits stocked.opened⟩

/-- The world in which this transaction is rolled back. -/
def undone : World := rollBack stocked granted.world

/-- The moment at which the writer 3 is granted there instead. -/
def regranted : Moment := ⟨((grantTo 3).run undone).2, stockedMoment.history ++ (grantTo 3).commits undone⟩

/-- The owner's token holds good after the transaction was rolled back. -/
theorem token_trustworthy_stocked : ∃ token,
    (decide (.authorizeWrite 1 (.int 8)) stocked).1 = .ok (.token token) ∧
      undone.Allows (.authorizeWrite token.caller (.int token.selector)) := by
  have hissued : (decide (.authorizeWrite 1 (.int 8)) stocked).1 =
      .ok (.token ⟨1, 8, "game-player", 2⟩) := by rfl
  have honward : Onward 0 [] stockedMoment [] ⟨undone, stockedMoment.history⟩ :=
    (Onward.here.entered.called (grantTo 2) nofun).rolledBack (Nat.zero_le _)
  exact ⟨_, hissued, (token_trustworthy run_stocked hissued).2 rfl _ _ honward rfl⟩

/-- In a run without reloads, a token that was issued in a transaction does not hold good at its own
version, which came again with another grant after the transaction was rolled back. -/
theorem token_outlives_rollBack : ∃ entries now token later,
    Run [] ⟨bare, []⟩ ∧ Onward 0 [] ⟨bare, []⟩ entries now ∧
      (decide (.authorizeWrite 2 (.int 8)) now.world).1 = .ok (.token token) ∧
      Onward 0 entries now [] later ∧ later.world.core.version = token.stateVersion ∧
      ¬ later.world.Allows (.authorizeWrite token.caller (.int token.selector)) := by
  have hstocked : Onward 0 [] ⟨bare, []⟩ [] stockedMoment :=
    Onward.here.each [.register ⟨.account, 1, none⟩, .flow (.registerNamespace 1 "game" (some (.int 7))),
      .flow (.registerResource 1 (.int 7) "player" "model" (some (.int 8)))] (by simp)
  have hgranted : Onward 0 [] ⟨bare, []⟩ [stockedMoment] granted :=
    hstocked.entered.called (grantTo 2) nofun
  have hissued : (decide (.authorizeWrite 2 (.int 8)) granted.world).1 =
      .ok (.token ⟨2, 8, "game-player", 3⟩) := by rfl
  have honward : Onward 0 [stockedMoment] granted [] regranted :=
    (Onward.here.rolledBack (Nat.zero_le _)).called (grantTo 3) nofun
  refine ⟨_, granted, _, regranted, run_bare, hgranted, hissued, honward, rfl, ?_⟩
  rintro ⟨answer, hanswer⟩
  have hdenied : (decide (.authorizeWrite 2 (.int 8)) regranted.world).1.isOk = false := by
    decide +kernel
  change (decide (.authorizeWrite 2 (.int 8)) regranted.world).1 = .ok answer at hanswer
  rw [hanswer] at hdenied
  cases hdenied

end OwnershipRegistry.World
