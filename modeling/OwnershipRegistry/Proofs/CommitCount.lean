import OwnershipRegistry.Proofs.Outcome

/-!
# Commits and the version

Outside of transactions every change is counted as a commit at once, so the
counter equals the version. While a transaction is open the counter stands
still at its value from before the outermost one was entered. The version is
ahead of it by the changes since then that no inner transaction has taken back.
-/

namespace OwnershipRegistry

namespace Core

variable {core : Core} {flow : Flow} {flows : List Flow} {c : Commit}

/-- Only flows that change the state are committed. -/
theorem mutates_of_mem_commits (h : c ∈ core.commits flow) : c.flow.mutates = true := by
  cases hm : flow.mutates with
  | false =>
      rw [commits_of_check hm] at h
      cases h
  | true =>
      cases hattempt : core.attempt flow with
      | error failure =>
          rw [commits, hattempt] at h
          cases h
      | ok effect =>
          rw [commits_of_mutates hattempt hm] at h
          obtain rfl := List.mem_singleton.mp h
          exact hm

theorem mutates_of_mem_commitsAll (h : c ∈ core.commitsAll flows) : c.flow.mutates = true := by
  induction flows generalizing core with
  | nil => cases h
  | cons flow rest ih =>
      rcases List.mem_append.mp h with hfirst | hrest
      · exact mutates_of_mem_commits hfirst
      · exact ih hrest

end Core

namespace World

variable {start : Journal} {entries : List Moment} {now entry : Moment} {ds : List Decision}

/-- The history of a run consists of changes. -/
theorem Run.history_mutates (run : Run entries now) : ∀ c ∈ now.history, c.flow.mutates = true := by
  have hall := run.all (P := fun moment => ∀ c ∈ moment.history, c.flow.mutates = true)
    (fun w _ _ c hmem => absurd hmem List.not_mem_nil)
    (fun now call _ hnow c hmem => by
      rcases List.mem_append.mp hmem with hbefore | hmade
      · exact hnow c hbefore
      · exact Core.mutates_of_mem_commitsAll hmade)
    (fun now w _ _ hnow => hnow)
  exact (hall now List.mem_cons_self).2

/-- The outermost of the open transactions was entered outside of all transactions. -/
theorem Leveled.outermost {moments : List Moment} (h : Leveled moments)
    (last : moments.getLast? = some entry) : entry.world.Settled 0 := by
  induction moments with
  | nil => cases last
  | cons now rest ih =>
      cases rest with
      | nil =>
          obtain rfl : now = entry := Option.some.inj last
          exact h.1
      | cons next more =>
          apply ih h.2
          rwa [List.getLast?_cons_cons] at last

/-- What the history has since an open transaction was entered. -/
theorem Run.changes_since (run : Run entries now) (opened : entry ∈ entries) :
    ∃ changes, now.history = entry.history ++ changes ∧ ∀ c ∈ changes, c.flow.mutates = true := by
  obtain ⟨changes, hchanges⟩ := (List.pairwise_cons.mp run.nested).1 entry opened
  refine ⟨changes, hchanges.symm, fun c hmem => ?_⟩
  apply run.history_mutates
  rw [← hchanges]
  exact List.mem_append_right _ hmem

/-- Steps go on with the decisions of a run, and the history grows by what they commit. -/
theorem counted_composes (start : Journal) : Step.Composes fun w changes w' =>
    ∀ entries history ds, Counted start entries ⟨w, history⟩ ds →
      ∃ more, Counted start entries ⟨w', history ++ changes⟩ (ds ++ more) where
  call c w entries history ds run := ⟨_, run.called c⟩
  refl w entries history ds run := ⟨[], by rwa [List.append_nil, List.append_nil]⟩
  trans first second entries history ds run := by
    obtain ⟨more, hfirst⟩ := first entries history ds run
    obtain ⟨rest, hsecond⟩ := second entries _ _ hfirst
    rw [List.append_assoc, List.append_assoc] at hsecond
    exact ⟨more ++ rest, hsecond⟩
  conclude inside entries history ds run := by
    obtain ⟨more, hinside⟩ := inside _ history ds run.entered
    exact ⟨more, hinside.concluded⟩
  rollBack inside entries history ds run := by
    obtain ⟨more, hinside⟩ := inside _ history ds run.entered
    rw [List.append_nil]
    exact ⟨more, hinside.rolledBack⟩

/-- Steps that are run one after the other continue a run with its decisions. -/
theorem counted_each (steps : List Step) (run : Counted start entries now ds) :
    ∃ more, Counted start entries
      ⟨(Step.runEach steps now.world).2, now.history ++ Step.commitsEach steps now.world⟩ (ds ++ more) :=
  (counted_composes start).holds_each steps now.world entries now.history ds run

/-- From fresh counters on, what is counted as commits or waits to be is the version. -/
theorem Counted.owed_eq_version {mirrored : Bool} (fresh : start.metrics = .fresh mirrored)
    (run : Counted start entries now ds) :
    ∀ moment ∈ now :: entries, moment.world.owed = moment.world.core.version := by
  intro moment hmem
  rw [run.owed_all.1 moment hmem, run.run.version_all moment hmem, fresh]
  exact Nat.zero_add _

/-- Commits and the version stay in step. From fresh counters on, the commits equal the version
outside of all transactions, also after any further steps. While transactions are open the commits
are those from before the outermost one was entered, and the version is ahead of them by the changes
that were made in it since and that no inner rollback has undone. -/
theorem commits_in_step {mirrored : Bool} (fresh : start.metrics = .fresh mirrored)
    (run : Counted start entries now ds) :
    (entries = [] → now.world.journal.metrics.commits = now.world.core.version ∧
      ∀ steps : List Step, (Step.runEach steps now.world).2.journal.metrics.commits =
          (Step.runEach steps now.world).2.core.version ∧
        (Step.runEach steps now.world).2.journal.metrics.commits =
          now.world.journal.metrics.commits + (Step.commitsEach steps now.world).length) ∧
    (∀ outermost, entries.getLast? = some outermost →
      now.world.journal.metrics.commits = outermost.world.journal.metrics.commits ∧
      outermost.world.journal.metrics.commits = outermost.world.core.version ∧
      ∃ changes, now.history = outermost.history ++ changes ∧
        (∀ c ∈ changes, c.flow.mutates = true) ∧
        now.world.core.version = now.world.journal.metrics.commits + changes.length) := by
  constructor
  · rintro rfl
    have houtside : ∀ {now ds}, Counted start [] now ds →
        now.world.journal.metrics.commits = now.world.core.version := by
      intro now ds run
      have howed := run.owed_eq_version fresh now List.mem_cons_self
      rwa [owed, run.run.settled.pending rfl, Nat.add_zero] at howed
    refine ⟨houtside run, fun steps => ?_⟩
    obtain ⟨more, hafter⟩ := counted_each steps run
    refine ⟨houtside hafter, ?_⟩
    calc (Step.runEach steps now.world).2.journal.metrics.commits
        = (Step.runEach steps now.world).2.core.version := houtside hafter
      _ = (now.history ++ Step.commitsEach steps now.world).length := hafter.run.version_eq
      _ = now.world.core.version + (Step.commitsEach steps now.world).length := by
          rw [List.length_append, run.run.version_eq]
      _ = now.world.journal.metrics.commits + (Step.commitsEach steps now.world).length := by
          rw [houtside run]
  · intro outermost hlast
    have hopen : outermost ∈ entries := List.mem_of_getLast? hlast
    have hcommits := run.owed_all.2 outermost hopen
    have hsettled : outermost.world.Settled 0 := run.run.leveled.2.outermost hlast
    have hentry : outermost.world.journal.metrics.commits = outermost.world.core.version := by
      have howed := run.owed_eq_version fresh outermost (List.mem_cons_of_mem _ hopen)
      rwa [owed, hsettled.pending rfl, Nat.add_zero] at howed
    obtain ⟨changes, hhistory, hmutates⟩ := run.run.changes_since hopen
    refine ⟨hcommits.symm, hentry, changes, hhistory, hmutates, ?_⟩
    calc now.world.core.version
        = now.history.length := run.run.version_eq
      _ = outermost.history.length + changes.length := by rw [hhistory, List.length_append]
      _ = outermost.world.core.version + changes.length := by
          rw [run.run.version_all outermost (List.mem_cons_of_mem _ hopen)]
      _ = now.world.journal.metrics.commits + changes.length := by rw [← hentry, hcommits]

/-- A writer is granted in a transaction on the stocked world, and another one in a transaction inside
of it that is rolled back. The two registrations are counted, the first grant is ahead of them, and the
second has left no trace. -/
theorem commits_in_step_nested :
    let grant (writer : Int) : Call := .flow (.grantWriter 1 (.int 8) writer)
    let inside := ((grant 2).run stocked.opened).2
    let back := rollBack inside ((grant 3).run inside.opened).2
    Reachable back ∧ stocked.journal.metrics.commits = stocked.core.version ∧
      stocked.core.version = 2 ∧ back.journal.metrics.commits = 2 ∧ back.core.version = 3 := by
  intro grant inside back
  obtain ⟨ds, hstocked⟩ := counted_each registering (.created create_bare)
  have hback := ((hstocked.entered.called (grant 2)).entered.called (grant 3)).rolledBack
  have houtside := ((commits_in_step rfl hstocked).1 rfl).1
  obtain ⟨hcommits, -, -⟩ := (commits_in_step rfl hback).2 _ rfl
  have hversions : stocked.core.version = 2 ∧ back.core.version = 3 := by decide +kernel
  exact ⟨⟨_, _, hback.run⟩, houtside, hversions.1,
    hcommits.trans (houtside.trans hversions.1), hversions.2⟩

end World

end OwnershipRegistry
