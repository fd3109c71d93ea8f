import OwnershipRegistry.Proofs.Settled
import OwnershipRegistry.World.Step

/-!
# Runs and their committed history

A run starts with a fresh world and goes on by calls, and by entering and
leaving transactions. Beside every world stands the history of the changes that
are committed in it; rolling back restores the history of the entry.
-/

namespace OwnershipRegistry

open World (SameRules SameState applicationFlows)

namespace Documents

variable {d : Documents} {path other : String}

/-- A document that was put at a path, unless there is a directory, is read there. -/
theorem at?_write (contents : Contents) (ordinary : d.isDirectory path = false) :
    (d.write path (some contents)).at? path = some contents := by
  have hordinary : (d.write path (some contents)).isDirectory path = false := ordinary
  rw [at?, hordinary]
  exact Table.get?_put_self _ _ _

/-- Elsewhere the same is read as before. -/
theorem at?_write_of_ne (contents : Contents) (apart : Path.resolved other ≠ Path.resolved path) :
    (d.write path (some contents)).at? other = d.at? other := by
  have hcontents : (d.write path (some contents)).contents.get? (Path.resolved other) = _ :=
    Table.get?_put_of_ne _ _ apart
  rw [at?, at?, hcontents]
  rfl

end Documents

namespace Call

/-- The flows that a call does. An application that fails does none. -/
def flows (w : World) : Call → List Flow
  | .flow f => [f]
  | .apply d caller =>
    match d.manifest w.settings with
    | .error _ => []
    | .ok m =>
      match (World.apply m caller w).1 with
      | .ok p => applicationFlows p m caller w.opened.core
      | .error _ => []
  | _ => []

/-- The changes that a call makes. -/
def commits (w : World) (c : Call) : List Commit := w.core.commitsAll (c.flows w)

/-- Whether a call is about the rules: the policy, or the documents that it is read from. -/
def isRule : Call → Bool
  | .register _ | .reload | .write _ _ => true
  | _ => false

variable {c : Call} {w : World}

theorem declared_snd (d : Declaration) (request : Manifest → Request Plan) (w : World) :
    (declared d request w).2 = match d.manifest w.settings with
      | .error _ => w
      | .ok m => (request m w).2 := by
  unfold declared
  cases d.manifest w.settings <;> rfl

/-- An application does its flows and changes nothing else, whether it succeeds or fails. -/
theorem run_apply (sound : w.core.store.Sound) (d : Declaration) (caller : Int) :
    SameRules (run (.apply d caller) w).2 w ∧
      (run (.apply d caller) w).2.core.Same (w.core.afterAll (flows w (.apply d caller))) := by
  have hrun : (run (.apply d caller) w).2 = _ := declared_snd d (fun m => World.apply m caller) w
  rw [hrun, flows]
  cases hm : d.manifest w.settings with
  | error failure => exact ⟨SameRules.refl w, Core.Same.refl w.core⟩
  | ok m =>
      cases happly : World.apply m caller w with
      | mk outcome after =>
          cases outcome with
          | ok p =>
              obtain ⟨-, -, hsame, hrules⟩ := World.apply_eq_ok happly
              simp only [happly]
              exact ⟨hrules, hsame⟩
          | error failure =>
              have hsame := World.apply_eq_error sound happly
              simp only [happly]
              exact ⟨hsame.rules, hsame.core⟩

/-- A plan changes the journal alone. -/
theorem run_plan_sameState (d : Declaration) (w : World) : SameState (run (.plan d) w).2 w := by
  have hrun : (run (.plan d) w).2 = _ := declared_snd d World.plan w
  rw [hrun]
  cases d.manifest w.settings with
  | error failure => exact SameState.refl w
  | ok m => exact World.plan_sameState m w

/-- Calls that are not about the rules do their flows and change nothing else. -/
theorem run_of_not_rule (sound : w.core.store.Sound) (h : c.isRule = false) :
    SameRules (c.run w).2 w ∧ (c.run w).2.core.Same (w.core.afterAll (c.flows w)) := by
  cases c with
  | flow f =>
      have hafter : (run (.flow f) w).2.core = w.core.afterAll [f] := World.decide_core f w
      exact ⟨World.decide_sameRules f w, hafter ▸ Core.Same.refl _⟩
  | apply d caller => exact run_apply sound d caller
  | plan d =>
      have hstill := run_plan_sameState d w
      exact ⟨hstill.rules, hstill.core⟩
  | register | reload | write => cases h
  | _ => exact ⟨⟨rfl, rfl, rfl, rfl, rfl⟩, ⟨rfl, rfl, rfl, rfl⟩⟩

/-- Calls about the rules do no flows and leave the tables and their version as they are. -/
theorem run_of_rule (h : c.isRule = true) : c.flows w = [] ∧
    (c.run w).2.core.store = w.core.store ∧ (c.run w).2.core.version = w.core.version := by
  cases c with
  | register => exact ⟨rfl, rfl, rfl⟩
  | reload =>
      have hstill : (World.reload w).2.core.store = w.core.store ∧
          (World.reload w).2.core.version = w.core.version := by
        unfold World.reload
        obtain ⟨outcome, journal⟩ := World.configuration w.securityPath w.documents w.journal
        cases outcome <;> exact ⟨rfl, rfl⟩
      exact ⟨rfl, hstill⟩
  | write => exact ⟨rfl, rfl, rfl⟩
  | _ => cases h

/-- The tables change by the flows alone. -/
theorem run_store (sound : w.core.store.Sound) (c : Call) :
    (c.run w).2.core.store = (w.core.afterAll (c.flows w)).store := by
  cases h : c.isRule with
  | false => exact (run_of_not_rule sound h).2.store
  | true =>
      obtain ⟨hnone, hstore, -⟩ := run_of_rule (w := w) h
      rw [hnone]
      exact hstore

/-- The version grows by the number of changes. -/
theorem run_version (sound : w.core.store.Sound) (c : Call) :
    (c.run w).2.core.version = w.core.version + (c.commits w).length := by
  unfold commits
  cases h : c.isRule with
  | false =>
      have hsame := (run_of_not_rule sound h).2
      rw [hsame.version, Core.afterAll_version]
  | true =>
      obtain ⟨hnone, -, hversion⟩ := run_of_rule (w := w) h
      rw [hnone, hversion]
      rfl

/-- Calls leave all transactions that they enter. -/
theorem run_settled {level : Nat} (h : w.Settled level) (c : Call) : (c.run w).2.Settled level := by
  cases c with
  | flow f => exact h.decide f
  | apply d caller =>
      have hrun : (run (.apply d caller) w).2 = _ := declared_snd d (fun m => World.apply m caller) w
      rw [hrun]
      cases d.manifest w.settings with
      | error failure => exact h
      | ok m => exact h.apply m caller
  | plan d =>
      have hrun : (run (.plan d) w).2 = _ := declared_snd d World.plan w
      rw [hrun]
      cases d.manifest w.settings with
      | error failure => exact h
      | ok m =>
          simp only [World.plan]
          cases Plan.of w.core.store w.core.version m <;> exact ⟨h.depth, h.pending⟩
  | reload =>
      simp only [run, silent, World.reload]
      obtain ⟨outcome, journal⟩ := World.configuration w.securityPath w.documents w.journal
      cases outcome <;> exact ⟨h.depth, h.pending⟩
  | _ => exact ⟨h.depth, h.pending⟩

end Call

namespace Step

variable {step : Step} {rest body : List Step} {w : World} {failure : Failure}

/-- A transaction ends at the world that its body ends at, closed. -/
theorem run_transaction (body : List Step) (w : World) : (run (.transaction body) w).2 =
    World.close w (runAll body w.opened).2.2 (runAll body w.opened).2.1 := rfl

/-- The failure that leaves a transaction is the one that left its body. -/
theorem escaping_transaction (body : List Step) (w : World) :
    (run (.transaction body) w).1.escaping = (runAll body w.opened).2.1 := rfl

/-- A failure that goes on from a step ends the body. -/
theorem runAll_of_escaping (h : (run step w).1.escaping = some failure) :
    runAll (step :: rest) w = ([(run step w).1], some failure, (run step w).2) := by
  rw [runAll]
  simp only [h]

/-- A body goes on after a step from which no failure goes on. -/
theorem runAll_of_returning (h : (run step w).1.escaping = none) :
    runAll (step :: rest) w = ((run step w).1 :: (runAll rest (run step w).2).1,
      (runAll rest (run step w).2).2) := by
  rw [runAll]
  simp only [h]

mutual

/-- The changes that a step commits. A transaction that is rolled back commits nothing. -/
def commits : Step → World → List Commit
  | .call c, w => c.commits w
  | .attempt step, w => commits step w
  | .transaction body, w =>
    match (runAll body w.opened).2.1 with
    | none => commitsAll body w.opened
    | some _ => []

/-- The changes that the steps of a body commit. -/
def commitsAll : List Step → World → List Commit
  | [], _ => []
  | step :: rest, w =>
    commits step w ++
      match (run step w).1.escaping with
      | some _ => []
      | none => commitsAll rest (run step w).2

end

/-- The changes that steps commit that are run one after the other, whatever becomes of each. -/
def commitsEach : List Step → World → List Commit
  | [], _ => []
  | step :: rest, w => commits step w ++ commitsEach rest (run step w).2

/-- A relation between a world, changes that are committed in it, and the world after them, that
passes from the calls of a step to the step. -/
structure Composes (P : World → List Commit → World → Prop) : Prop where
  call : ∀ (c : Call) (w : World), P w (c.commits w) (c.run w).2
  refl : ∀ w : World, P w [] w
  trans : ∀ {u v w : World} {changes more : List Commit},
    P u changes v → P v more w → P u (changes ++ more) w
  conclude : ∀ {w last : World} {changes : List Commit},
    P w.opened changes last → P w changes last.conclude
  rollBack : ∀ {w last : World} {changes : List Commit},
    P w.opened changes last → P w [] (World.rollBack w last)

namespace Composes

variable {P : World → List Commit → World → Prop}

mutual

/-- What passes from calls to steps holds of every step. -/
theorem holds (h : Composes P) : ∀ (step : Step) (w : World), P w (step.commits w) (step.run w).2
  | .call c, w => by
      rw [Step.run, Step.commits]
      exact h.call c w
  | .attempt step, w => by
      rw [Step.run, Step.commits]
      exact Composes.holds h step w
  | .transaction body, w => by
      have hinside := Composes.holds_body h body w.opened
      rw [run_transaction, Step.commits]
      cases hfailure : (runAll body w.opened).2.1 with
      | none => exact h.conclude hinside
      | some failure => exact h.rollBack hinside

/-- What passes from calls to steps holds of every body, up to the first step from which a failure
goes on. -/
theorem holds_body (h : Composes P) : ∀ (body : List Step) (w : World),
    P w (commitsAll body w) (runAll body w).2.2
  | [], w => by
      rw [runAll, commitsAll]
      exact h.refl w
  | step :: rest, w => by
      have hstep := Composes.holds h step w
      have hrest := Composes.holds_body h rest (step.run w).2
      rw [commitsAll]
      cases hescaping : (step.run w).1.escaping with
      | some failure =>
          rw [runAll_of_escaping hescaping, List.append_nil]
          exact hstep
      | none =>
          rw [runAll_of_returning hescaping]
          exact h.trans hstep hrest

end

/-- What passes from calls to steps holds of steps that are run one after the other. -/
theorem holds_each (h : Composes P) (steps : List Step) (w : World) :
    P w (commitsEach steps w) (runEach steps w).2 := by
  induction steps generalizing w with
  | nil => exact h.refl w
  | cons step rest ih => exact h.trans (h.holds step w) (ih (step.run w).2)

/-- What every change keeps passes from calls to steps. -/
theorem ofKept {Q : List Commit → Store → Prop} (kept : Core.KeptByChanges Q) :
    Composes fun w changes w' => ∀ history, w.core.store.Sound → Q history w.core.store →
      w'.core.store.Sound ∧ Q (history ++ changes) w'.core.store where
  call c w history sound before := by
    have hstore : (c.run w).2.core.store = _ := Call.run_store sound c
    rw [hstore]
    exact Core.afterAll_keeps kept history sound before (c.flows w)
  refl w history sound before := by
    rw [List.append_nil]
    exact ⟨sound, before⟩
  trans first second history sound before := by
    obtain ⟨hsound, hbefore⟩ := first history sound before
    rw [← List.append_assoc]
    exact second _ hsound hbefore
  conclude {w last changes} inside history sound before := by
    have hstore : last.conclude.core.store = _ := (World.conclude_sameState last).store
    rw [hstore]
    exact inside history sound before
  rollBack {w last changes} inside history sound before := by
    have hstore : (World.rollBack w last).core.store = _ := World.rollBack_store sound last
    rw [hstore, List.append_nil]
    exact ⟨sound, before⟩

end Composes

end Step

/-- A world, and the changes that are committed in it. -/
structure Moment where
  world : World
  history : List Commit

namespace World

/-- The runs of worlds, with the moments at which the open transactions were entered, the innermost
first. -/
inductive Run : List Moment → Moment → Prop
  | created {journal : Journal} {settings : Except Failure Settings} {space path : String}
      {documents : Documents} {w : World} (h : create journal settings space path documents = .ok w) :
      Run [] ⟨w, []⟩
  | called {entries : List Moment} {now : Moment} (h : Run entries now) (c : Call) :
      Run entries ⟨(c.run now.world).2, now.history ++ c.commits now.world⟩
  | entered {entries : List Moment} {now : Moment} (h : Run entries now) :
      Run (now :: entries) ⟨now.world.opened, now.history⟩
  | concluded {entry : Moment} {entries : List Moment} {now : Moment} (h : Run (entry :: entries) now) :
      Run entries ⟨now.world.conclude, now.history⟩
  | rolledBack {entry : Moment} {entries : List Moment} {now : Moment} (h : Run (entry :: entries) now) :
      Run entries ⟨rollBack entry.world now.world, entry.history⟩

/-- A world that some run reaches, inside of transactions or outside. -/
def Reachable (w : World) : Prop := ∃ entries history, Run entries ⟨w, history⟩

variable {entries : List Moment} {now : Moment} {w : World}

/-- A fresh world has no tables, nothing has changed in it, and it is outside of transactions. -/
theorem create_fresh {journal : Journal} {settings : Except Failure Settings} {space path : String}
    {documents : Documents} (h : create journal settings space path documents = .ok w) :
    w.core.store = .empty ∧ w.core.version = 0 ∧ w.Settled 0 := by
  unfold create at h
  obtain ⟨config, -, rfl⟩ := map_eq_ok_iff.mp h
  exact ⟨rfl, rfl, rfl, fun _ => rfl⟩

/-- What is about the tables, the version and the history alone, holds of fresh worlds and is kept by
calls, holds at every moment of a run: now, and at the entry of every open transaction, to which the
run may return. -/
theorem Run.all {P : Moment → Prop}
    (fresh : ∀ w : World, w.core.store = .empty → w.core.version = 0 → P ⟨w, []⟩)
    (called : ∀ (now : Moment) (c : Call), now.world.core.store.Sound → P now →
      P ⟨(c.run now.world).2, now.history ++ c.commits now.world⟩)
    (still : ∀ (now : Moment) (w : World), w.core.store = now.world.core.store →
      w.core.version = now.world.core.version → P now → P ⟨w, now.history⟩)
    (run : Run entries now) :
    ∀ moment ∈ now :: entries, moment.world.core.store.Sound ∧ P moment := by
  induction run with
  | @created _ _ _ _ _ w h =>
      obtain ⟨hstore, hversion, -⟩ := create_fresh h
      exact List.forall_mem_singleton.mpr ⟨hstore ▸ Store.sound_empty, fresh w hstore hversion⟩
  | @called entries now h c ih =>
      obtain ⟨⟨hsound, hnow⟩, hentries⟩ := List.forall_mem_cons.mp ih
      have hstore : (c.run now.world).2.core.store = _ := Call.run_store hsound c
      refine List.forall_mem_cons.mpr ⟨⟨?_, called now c hsound hnow⟩, hentries⟩
      exact hstore ▸ Core.sound_afterAll hsound (c.flows now.world)
  | @entered entries now h ih =>
      obtain ⟨hsound, hnow⟩ := ih now List.mem_cons_self
      exact List.forall_mem_cons.mpr ⟨⟨hsound, still now _ rfl rfl hnow⟩, ih⟩
  | @concluded entry entries now h ih =>
      obtain ⟨⟨hsound, hnow⟩, hentries⟩ := List.forall_mem_cons.mp ih
      have hsame := conclude_sameState now.world
      refine List.forall_mem_cons.mpr ⟨⟨hsame.store ▸ hsound, ?_⟩, (List.forall_mem_cons.mp hentries).2⟩
      exact still now _ hsame.store hsame.version hnow
  | @rolledBack entry entries now h ih =>
      -- The run returns to its entry, of which it was shown already.
      obtain ⟨⟨hsound, hentry⟩, hentries⟩ := List.forall_mem_cons.mp (List.forall_mem_cons.mp ih).2
      have hstore : (rollBack entry.world now.world).core.store = _ := rollBack_store hsound now.world
      refine List.forall_mem_cons.mpr ⟨⟨hstore ▸ hsound, ?_⟩, hentries⟩
      exact still entry _ hstore (rollBack_version entry.world now.world) hentry

/-- What holds of empty tables and is kept by every change holds at the end of a run. -/
theorem Run.keeps {Q : List Commit → Store → Prop} (fresh : Q [] .empty)
    (kept : Core.KeptByChanges Q) (run : Run entries now) : Q now.history now.world.core.store := by
  have hall := run.all (P := fun moment => Q moment.history moment.world.core.store)
    (fun w hstore _ => hstore ▸ fresh)
    (fun now c hsound hnow => by
      have hstore : (c.run now.world).2.core.store = _ := Call.run_store hsound c
      exact hstore ▸ (Core.afterAll_keeps kept now.history hsound hnow (c.flows now.world)).2)
    (fun now w hstore _ hnow => hstore ▸ hnow)
  exact (hall now List.mem_cons_self).2

theorem Run.sound (run : Run entries now) : now.world.core.store.Sound :=
  (run.all (P := fun _ => True) (fun _ _ _ => trivial) (fun _ _ _ _ => trivial) (fun _ _ _ _ _ => trivial)
    now List.mem_cons_self).1

/-- At every moment of a run, the version counts the committed changes. -/
theorem Run.version_all (run : Run entries now) :
    ∀ moment ∈ now :: entries, moment.world.core.version = moment.history.length := by
  have hall := run.all (P := fun moment => moment.world.core.version = moment.history.length)
    (fun w _ hversion => hversion)
    (fun now c hsound hnow => by
      rw [List.length_append, ← hnow]
      exact Call.run_version hsound c)
    (fun now w _ hversion hnow => hversion.trans hnow)
  exact fun moment hmem => (hall moment hmem).2

theorem Run.version_eq (run : Run entries now) : now.world.core.version = now.history.length :=
  run.version_all now List.mem_cons_self

/-- The history of every open transaction's entry is a beginning of those of the moments inside. -/
theorem Run.nested (run : Run entries now) :
    (now :: entries).Pairwise fun inner outer => outer.history <+: inner.history := by
  induction run with
  | created h => exact List.pairwise_singleton _ _
  | called h c ih =>
      obtain ⟨hnow, hentries⟩ := List.pairwise_cons.mp ih
      refine List.pairwise_cons.mpr ⟨fun entry hmem => ?_, hentries⟩
      exact (hnow entry hmem).trans (List.prefix_append _ _)
  | @entered entries now h ih =>
      obtain ⟨hnow, hentries⟩ := List.pairwise_cons.mp ih
      refine List.pairwise_cons.mpr ⟨fun entry hmem => ?_, ih⟩
      rcases List.mem_cons.mp hmem with rfl | hmem
      · exact List.prefix_refl _
      · exact hnow entry hmem
  | concluded h ih =>
      obtain ⟨hnow, hentries⟩ := List.pairwise_cons.mp ih
      refine List.pairwise_cons.mpr ⟨fun entry hmem => ?_, (List.pairwise_cons.mp hentries).2⟩
      exact hnow entry (List.mem_cons_of_mem _ hmem)
  | rolledBack h ih =>
      obtain ⟨hentry, hentries⟩ := List.pairwise_cons.mp (List.pairwise_cons.mp ih).2
      exact List.pairwise_cons.mpr ⟨hentry, hentries⟩

/-- Moments, each of them inside of as many transactions as there are moments after it. -/
def Leveled : List Moment → Prop
  | [] => True
  | now :: entries => now.world.Settled entries.length ∧ Leveled entries

/-- Every moment of a run is inside of the transactions that were entered before it. -/
theorem Run.leveled (run : Run entries now) : Leveled (now :: entries) := by
  induction run with
  | created h => exact ⟨(create_fresh h).2.2, trivial⟩
  | called h c ih => exact ⟨Call.run_settled ih.1 c, ih.2⟩
  | entered h ih => exact ⟨ih.1.opened, ih⟩
  | concluded h ih => exact ⟨ih.1.conclude, ih.2.2⟩
  | rolledBack h ih => exact ⟨ih.1.rollBack ih.2.1, ih.2.2⟩

theorem Run.settled (run : Run entries now) : now.world.Settled entries.length := run.leveled.1

theorem Reachable.sound (h : Reachable w) : w.core.store.Sound := by
  obtain ⟨entries, history, run⟩ := h
  exact run.sound

/-- Runs go on from one world to another, and the history grows by the changes in between. -/
theorem run_composes : Step.Composes fun w changes w' =>
    ∀ entries history, Run entries ⟨w, history⟩ → Run entries ⟨w', history ++ changes⟩ where
  call c w entries history run := run.called c
  refl w entries history run := by rwa [List.append_nil]
  trans first second entries history run := by
    rw [← List.append_assoc]
    exact second entries _ (first entries history run)
  conclude inside entries history run := (inside _ history run.entered).concluded
  rollBack inside entries history run := by
    rw [List.append_nil]
    exact (inside _ history run.entered).rolledBack

/-- A step continues a run, and adds what it commits to the history. -/
theorem run_step (step : Step) (run : Run entries now) :
    Run entries ⟨(step.run now.world).2, now.history ++ step.commits now.world⟩ :=
  run_composes.holds step now.world entries now.history run

/-- Steps that are run one after the other continue a run. -/
theorem run_each (steps : List Step) (run : Run entries now) :
    Run entries ⟨(Step.runEach steps now.world).2, now.history ++ Step.commitsEach steps now.world⟩ :=
  run_composes.holds_each steps now.world entries now.history run

/-- The world that is created where there are no documents. Unknown callers are contracts in it. -/
def bare : World :=
  let documents : Documents := ⟨.empty, []⟩
  let (policy, warnings) := Policy.ofConfig {}
  { core := { defaultNamespace := "world", policy }
    journal := (configuration "s" documents (.fresh false)).2.warn warnings
    settings := .error (.missingManifest "s")
    securityPath := "s"
    documents }

/-- Paths of one part are resolved. -/
theorem resolved_paths : Path.resolved "s" = "s" ∧ Path.resolved "m" = "m" := by
  have hsecurity : Path.parts "s" = ["s"] := by
    unfold Path.parts String.splitOn
    rw [String.splitOnAux, String.splitOnAux]
    decide
  have hmanifest : Path.parts "m" = ["m"] := by
    unfold Path.parts String.splitOn
    rw [String.splitOnAux, String.splitOnAux]
    decide
  unfold Path.resolved Path.names
  rw [hsecurity, hmanifest]
  decide +kernel

/-- There is no document at a path where there are no documents. -/
theorem absent_bare : Documents.at? ⟨.empty, []⟩ "s" = none := by
  unfold Documents.at? Documents.isDirectory
  rw [resolved_paths.1]
  decide +kernel

/-- Where there is no security document, the configuration is that of the defaults, with a warning. -/
theorem configuration_of_absent {path : String} {documents : Documents} (absent : documents.at? path = none)
    (j : Journal) : configuration path documents j =
      (.ok {}, j.note .warning "world_registry.access"
        (.str "Security config not found at %s; using defaults") [.str (Path.tidy path)]) := by
  unfold configuration
  rw [absent]

theorem configuration_bare (j : Journal) : configuration "s" ⟨.empty, []⟩ j =
    (.ok {}, j.note .warning "world_registry.access"
      (.str "Security config not found at %s; using defaults") [.str (Path.tidy "s")]) :=
  configuration_of_absent absent_bare j

/-- A document that was written where there was none is the one that is read. -/
theorem configuration_written (contents : Contents) (j : Journal) :
    configuration "s" (Documents.write ⟨.empty, []⟩ "s" (some contents)) j =
      (contents.bind SecurityConfig.ofDocument, j) := by
  have hread : Documents.at? (Documents.write ⟨.empty, []⟩ "s" (some contents)) "s" = some contents := by
    apply Documents.at?_write
    rw [Documents.isDirectory, resolved_paths.1]
    decide +kernel
  rw [configuration, hread]

theorem create_bare :
    create (.fresh false) (.error (.missingManifest "s")) "world" "s" ⟨.empty, []⟩ = .ok bare := by
  unfold create bare
  simp only [configuration_bare]
  rfl

/-- The bare world starts a run. -/
theorem run_bare : Run [] ⟨bare, []⟩ := .created create_bare

/-- The account 1 registers a namespace and a resource in it. -/
def registering : List Step :=
  [.call (.register ⟨.account, 1, none⟩),
    .call (.flow (.registerNamespace 1 "game" (some (.int 7)))),
    .call (.flow (.registerResource 1 (.int 7) "player" "model" (some (.int 8))))]

/-- The world with the namespace at 7 and the resource at 8. -/
def stocked : World := (Step.runEach registering bare).2

theorem run_stocked : Run [] ⟨stocked, Step.commitsEach registering bare⟩ := run_each registering run_bare

theorem reachable_stocked : Reachable stocked := ⟨[], _, run_stocked⟩

end World

end OwnershipRegistry
