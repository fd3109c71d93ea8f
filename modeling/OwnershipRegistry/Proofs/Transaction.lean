import OwnershipRegistry.Proofs.Run

/-!
# Transactions

A transaction that a failure leaves restores the tables, and one that returns
has done no more than what lasts of its body: the committed flows, in order,
among the calls about the rules. Done again outside of any transaction, what
lasts has the same outcomes and leads to the same tables.
-/

namespace OwnershipRegistry

open World (SameRules SameState)

/-- A call and what came of it. -/
structure Deed where
  call : Call
  outcome : Except Failure Answer

namespace Deed

/-- The deed of a committed flow. -/
def ofCommit (c : Commit) : Deed := ⟨.flow c.flow, .ok c.answer⟩

/-- Whether a deed is about the rules. Rolling back does not undo such deeds. -/
def isRule (d : Deed) : Bool := d.call.isRule

/-- The step that does a deed again. -/
def step (d : Deed) : Step := .call d.call

/-- Deeds can be done again, one after the other, with the same outcomes. -/
def Replays : List Deed → World → World → Prop
  | [], v, v' => v' = v
  | d :: rest, v, v' => (d.call.run v).1 = d.outcome ∧ Replays rest (d.call.run v).2 v'

end Deed

/-- What lasts of a call: the call itself where it is about the rules, and else the flows that it
commits. -/
def Call.lasting (w : World) (c : Call) : List Deed :=
  if c.isRule then [⟨c, (c.run w).1⟩] else (c.commits w).map .ofCommit

namespace Step

mutual

/-- What lasts of a step. Of a transaction that is rolled back, only what is about the rules. -/
def lasting : Step → World → List Deed
  | .call c, w => c.lasting w
  | .attempt step, w => lasting step w
  | .transaction body, w =>
    match (runAll body w.opened).2.1 with
    | none => lastingAll body w.opened
    | some _ => (lastingAll body w.opened).filter (·.isRule)

/-- What lasts of the steps of a body. -/
def lastingAll : List Step → World → List Deed
  | [], _ => []
  | step :: rest, w =>
    lasting step w ++
      match (run step w).1.escaping with
      | some _ => []
      | none => lastingAll rest (run step w).2

end

/-- Deeds that can be done again have their outcomes again when they are run as steps. -/
theorem runEach_of_replays {deeds : List Deed} {v v' : World} (h : Deed.Replays deeds v v') :
    (runEach (deeds.map (·.step)) v).2 = v' ∧
      (runEach (deeds.map (·.step)) v).1.map (·.outcome) = deeds.map (·.outcome) := by
  induction deeds generalizing v with
  | nil => exact ⟨h.symm, rfl⟩
  | cons d rest ih =>
      obtain ⟨houtcome, hrest⟩ := h
      obtain ⟨hlast, houtcomes⟩ := ih hrest
      exact ⟨hlast, congrArg₂ List.cons houtcome houtcomes⟩

end Step

namespace Query

/-- Whether a question is about the tables and their version alone. -/
def isLookup : Query → Bool
  | .version | .namespaceAt _ | .resourceAt _ | .resourceOfTag _ | .selectorOf _ | .namespaces
  | .resources | .snapshot | .namespaceNamed _ | .resourceTagged _ => true
  | _ => false

/-- Lookups see the tables and their version alone. -/
theorem answer_eq_of_isLookup {q : Query} {w v : World} (h : q.isLookup = true)
    (store : w.core.store = v.core.store) (version : w.core.version = v.core.version) :
    q.answer w = q.answer v := by
  cases q with
  | defaultNamespace | reserved | isValid | directory | findings | metrics | exposition | denials =>
      cases h
  | _ => simp only [answer, store, version]

end Query

namespace World

/-- A world as it is outside of transactions. -/
def outside (w : World) : World := { w with core := { w.core with depth := 0, pending := 0 } }

theorem outside_sameState (w : World) : SameState w.outside w := ⟨⟨rfl, rfl, rfl, rfl, rfl⟩, rfl, rfl⟩

/-- Deeds that last between two worlds. From every world in the state of the first, they can be done
again and lead to the state of the second. From every world under the rules of the first, those
among them that are about the rules lead to the rules of the second, and to the same tables. -/
structure Lasts (deeds : List Deed) (w w' : World) : Prop where
  replay : ∀ v, SameState v w → ∃ v', Deed.Replays deeds v v' ∧ SameState v' w'
  rules : ∀ v, SameRules v w → ∃ v', Deed.Replays (deeds.filter (·.isRule)) v v' ∧ SameRules v' w' ∧
    v'.core.store = v.core.store ∧ v'.core.version = v.core.version

variable {deeds more : List Deed} {u v w w' last : World} {c : Call} {f : Flow}

theorem replays_append (h : Deed.Replays deeds u v) (h' : Deed.Replays more v w) :
    Deed.Replays (deeds ++ more) u w := by
  induction deeds generalizing u with
  | nil =>
      obtain rfl : v = u := h
      exact h'
  | cons d rest ih => exact ⟨h.1, ih h.2⟩

/-- Nothing lasts between worlds in the same state. -/
theorem Lasts.nil (h : SameState w' w) : Lasts [] w w' where
  replay v hv := ⟨v, rfl, hv.trans h.symm⟩
  rules v hv := ⟨v, rfl, hv.trans h.rules.symm, rfl, rfl⟩

theorem Lasts.append (h : Lasts deeds u v) (h' : Lasts more v w) : Lasts (deeds ++ more) u w where
  replay x hx := by
    obtain ⟨y, hdeeds, hy⟩ := h.replay x hx
    obtain ⟨z, hmore, hz⟩ := h'.replay y hy
    exact ⟨z, replays_append hdeeds hmore, hz⟩
  rules x hx := by
    obtain ⟨y, hdeeds, hy, hstore, hversion⟩ := h.rules x hx
    obtain ⟨z, hmore, hz, hstore', hversion'⟩ := h'.rules y hy
    rw [List.filter_append]
    exact ⟨z, replays_append hdeeds hmore, hz, hstore'.trans hstore, hversion'.trans hversion⟩

/-- What lasts depends on the states at both ends alone. -/
theorem Lasts.congr (h : Lasts deeds u v) (hu : SameState w u) (hv : SameState w' v) :
    Lasts deeds w w' where
  replay x hx := by
    obtain ⟨y, hdeeds, hy⟩ := h.replay x (hx.trans hu)
    exact ⟨y, hdeeds, hy.trans hv.symm⟩
  rules x hx := by
    obtain ⟨y, hdeeds, hy, hstill⟩ := h.rules x (hx.trans hu.rules)
    exact ⟨y, hdeeds, hy.trans hv.rules.symm, hstill⟩

/-- What is read of the rules does not depend on the journal. -/
theorem configuration_fst (path : String) (documents : Documents) (journal journal' : Journal) :
    (configuration path documents journal).1 = (configuration path documents journal').1 := by
  unfold configuration
  cases documents.at? path <;> rfl

/-- Under the same rules, reloading comes out the same and sets the same rules. -/
theorem reload_congr (same : SameRules v w) :
    (reload v).1 = (reload w).1 ∧ SameRules (reload v).2 (reload w).2 := by
  obtain ⟨hdefault, hpolicy, hsettings, hpath, hdocuments⟩ := same
  have houtcome : (configuration v.securityPath v.documents v.journal).1 =
      (configuration w.securityPath w.documents w.journal).1 := by
    rw [hpath, hdocuments]
    exact configuration_fst w.securityPath w.documents v.journal w.journal
  unfold reload
  generalize configuration v.securityPath v.documents v.journal = read at houtcome ⊢
  generalize configuration w.securityPath w.documents w.journal = read' at houtcome ⊢
  obtain ⟨outcome, journal⟩ := read
  obtain ⟨outcome', journal'⟩ := read'
  obtain rfl : outcome = outcome' := houtcome
  cases outcome with
  | error failure => exact ⟨rfl, hdefault, hpolicy, hsettings, hpath, hdocuments⟩
  | ok config => exact ⟨rfl, hdefault, rfl, hsettings, hpath, hdocuments⟩

/-- Under the same rules, a call about the rules comes out the same and sets the same rules. -/
theorem run_rule_congr (h : c.isRule = true) (same : SameRules v w) :
    (c.run v).1 = (c.run w).1 ∧ SameRules (c.run v).2 (c.run w).2 := by
  cases c with
  | register r =>
      obtain ⟨hdefault, hpolicy, hsettings, hpath, hdocuments⟩ := same
      refine ⟨rfl, hdefault, ?_, hsettings, hpath, hdocuments⟩
      change { v.core.policy with directory := v.core.policy.directory.register r } =
        { w.core.policy with directory := w.core.policy.directory.register r }
      rw [hpolicy]
  | reload =>
      obtain ⟨houtcome, hrules⟩ := reload_congr same
      simp only [Call.run, Call.silent]
      exact ⟨by rw [houtcome], hrules⟩
  | write path contents =>
      obtain ⟨hdefault, hpolicy, hsettings, hpath, hdocuments⟩ := same
      refine ⟨rfl, hdefault, hpolicy, hsettings, hpath, ?_⟩
      exact congrArg (fun d => d.write path contents) hdocuments
  | _ => cases h

/-- A call about the rules lasts. -/
theorem Lasts.rule (h : c.isRule = true) (w : World) : Lasts [⟨c, (c.run w).1⟩] w (c.run w).2 := by
  have hkeeps : ∀ v : World, (c.run v).2.core.store = v.core.store ∧
      (c.run v).2.core.version = v.core.version := fun v => (Call.run_of_rule h).2
  constructor
  · intro v hv
    obtain ⟨houtcome, hrules⟩ := run_rule_congr h hv.rules
    refine ⟨(c.run v).2, ⟨houtcome, rfl⟩, hrules, ?_, ?_⟩
    · rw [(hkeeps v).1, (hkeeps w).1, hv.store]
    · rw [(hkeeps v).2, (hkeeps w).2, hv.version]
  · intro v hv
    obtain ⟨houtcome, hrules⟩ := run_rule_congr h hv
    have hfilter : List.filter (·.isRule) [(⟨c, (c.run w).1⟩ : Deed)] = [⟨c, (c.run w).1⟩] :=
      List.filter_cons_of_pos h
    rw [hfilter]
    exact ⟨(c.run v).2, ⟨houtcome, rfl⟩, hrules, hkeeps v⟩

/-- A committed flow lasts, and nothing lasts of any other. -/
theorem Lasts.flow (sound : w.core.store.Sound) (rules : SameRules w' w)
    (core : w'.core.Same (w.core.after f)) : Lasts ((w.core.commits f).map .ofCommit) w w' := by
  cases hattempt : w.core.attempt f with
  | error failure =>
      rw [Core.after_of_error hattempt] at core
      rw [Core.commits, hattempt]
      exact Lasts.nil (rules.sameState core)
  | ok effect =>
      rw [Core.after_of_ok hattempt] at core
      rw [Core.commits, hattempt]
      cases hm : f.mutates with
      | false =>
          have hstore := ((Core.attempt_eq_ok_iff sound).mp hattempt).store_eq hm
          rw [hm] at core
          exact Lasts.nil ⟨rules, core.store.trans hstore, core.version⟩
      | true =>
          constructor
          · intro v hv
            have hafter := (hv.core.after f).trans ((Core.after_of_ok hattempt) ▸ core.symm)
            have hanswer : ((Call.flow f).run v).1 = .ok effect.answer := by
              rw [Call.run, decide_fst, hv.core.attempt_eq f, hattempt]
              rfl
            have hcore : ((Call.flow f).run v).2.core.Same w'.core := by
              rw [Call.run, decide_core]
              exact hafter
            refine ⟨((Call.flow f).run v).2, ⟨hanswer, rfl⟩, ?_⟩
            exact (((decide_sameRules f v).trans hv.rules).trans rules.symm).sameState hcore
          · exact fun v hv => ⟨v, rfl, hv.trans rules.symm, rfl, rfl⟩

/-- The committed ones of several flows last. -/
theorem Lasts.flows {flows : List Flow} (sound : w.core.store.Sound) (rules : SameRules w' w)
    (core : w'.core.Same (w.core.afterAll flows)) :
    Lasts ((w.core.commitsAll flows).map .ofCommit) w w' := by
  induction flows generalizing w with
  | nil => exact Lasts.nil (rules.sameState core)
  | cons f rest ih =>
      -- The flows after the first one start in this world.
      let next : World := { w with core := w.core.after f }
      have hrules : SameRules next w :=
        ⟨Core.after_defaultNamespace w.core f, Core.after_policy w.core f, rfl, rfl, rfl⟩
      have hfirst : Lasts _ w next := Lasts.flow sound hrules (Core.Same.refl _)
      have hrest : Lasts _ next w' := ih (Core.sound_after sound f) (rules.trans hrules.symm) core
      rw [Core.commitsAll, List.map_append]
      exact hfirst.append hrest

theorem Lasts.call (sound : w.core.store.Sound) (c : Call) : Lasts (c.lasting w) w (c.run w).2 := by
  unfold Call.lasting
  cases h : c.isRule with
  | true => exact Lasts.rule h w
  | false =>
      obtain ⟨hrules, hcore⟩ := Call.run_of_not_rule sound h
      exact Lasts.flows sound hrules hcore

/-- What lasts of a body lasts of the transaction that returns. -/
theorem Lasts.conclude (h : Lasts deeds w.opened last) : Lasts deeds w last.conclude :=
  h.congr (opened_sameState w).symm (conclude_sameState last)

/-- What is about the rules lasts of a transaction that is rolled back. -/
theorem Lasts.rollBack (sound : w.core.store.Sound) (h : Lasts deeds w.opened last) :
    Lasts (deeds.filter (·.isRule)) w (rollBack w last) := by
  have hopened := (opened_sameState w).symm.rules
  have hrolled := (rollBack_sameRules w last).symm
  constructor
  · intro v hv
    obtain ⟨v', hdeeds, hrules, hstore, hversion⟩ := h.rules v (hv.rules.trans hopened)
    refine ⟨v', hdeeds, hrules.trans hrolled, ?_, ?_⟩
    · rw [hstore, hv.store, rollBack_store sound]
    · rw [hversion, hv.version, rollBack_version]
  · intro v hv
    obtain ⟨v', hdeeds, hrules, hstill⟩ := h.rules v (hv.trans hopened)
    rw [List.filter_filter]
    simp only [Bool.and_self]
    exact ⟨v', hdeeds, hrules.trans hrolled, hstill⟩

mutual

/-- What lasts of a step leads from its entry to its end. -/
theorem step_lasts : ∀ (step : Step) {entries : List Moment} {now : Moment}, Run entries now →
    Lasts (step.lasting now.world) now.world (step.run now.world).2
  | .call c, _, _, run => by
      rw [Step.lasting, Step.run]
      exact Lasts.call run.sound c
  | .attempt step, _, _, run => by
      rw [Step.lasting, Step.run]
      exact step_lasts step run
  | .transaction body, _, now, run => by
      have hinside := steps_last body run.entered
      rw [Step.lasting, Step.run_transaction]
      cases hfailure : (Step.runAll body now.world.opened).2.1 with
      | none => exact hinside.conclude
      | some failure => exact hinside.rollBack run.sound

/-- What lasts of a body leads from its entry to its end. -/
theorem steps_last : ∀ (body : List Step) {entries : List Moment} {now : Moment}, Run entries now →
    Lasts (Step.lastingAll body now.world) now.world (Step.runAll body now.world).2.2
  | [], _, now, _ => by
      rw [Step.lastingAll, Step.runAll]
      exact Lasts.nil (SameState.refl now.world)
  | step :: rest, _, now, run => by
      have hstep := step_lasts step run
      have hrest := steps_last rest (run_step step run)
      rw [Step.lastingAll]
      cases hescaping : (step.run now.world).1.escaping with
      | some failure =>
          rw [Step.runAll_of_escaping hescaping, List.append_nil]
          exact hstep
      | none =>
          rw [Step.runAll_of_returning hescaping]
          exact hstep.append hrest

end

/-- A transaction that a failure leaves has the tables, the answers to all lookups and the version
of its entry. A transaction that returns has the tables and the version to which what lasts of its
body leads from the entry outside of any transaction, with the same outcomes. -/
theorem transaction_all_or_nothing (h : Reachable w) (body : List Step) :
    (∀ failure, (Step.run (.transaction body) w).1.escaping = some failure →
      (Step.run (.transaction body) w).2.core.store = w.core.store ∧
      (Step.run (.transaction body) w).2.core.version = w.core.version ∧
      ∀ q : Query, q.isLookup = true → q.answer (Step.run (.transaction body) w).2 = q.answer w) ∧
    ((Step.run (.transaction body) w).1.escaping = none →
      let deeds := Step.lastingAll body w.opened
      let alone := Step.runEach (deeds.map (·.step)) w.outside
      (Step.run (.transaction body) w).2.core.store = alone.2.core.store ∧
      (Step.run (.transaction body) w).2.core.version = alone.2.core.version ∧
      alone.1.map (·.outcome) = deeds.map (·.outcome)) := by
  obtain ⟨entries, history, run⟩ := h
  rw [Step.escaping_transaction, Step.run_transaction]
  constructor
  · intro failure hfailure
    rw [hfailure]
    have hstore := rollBack_store run.sound (Step.runAll body w.opened).2.2
    have hversion := rollBack_version w (Step.runAll body w.opened).2.2
    exact ⟨hstore, hversion, fun q hq => Query.answer_eq_of_isLookup hq hstore hversion⟩
  · intro hnone
    rw [hnone]
    have hlasts := (steps_last body run.entered).conclude
    obtain ⟨last, hdeeds, hlast⟩ := hlasts.replay w.outside (outside_sameState w)
    obtain ⟨hend, houtcomes⟩ := Step.runEach_of_replays hdeeds
    refine ⟨?_, ?_, houtcomes⟩
    · rw [hend]
      exact hlast.store.symm
    · rw [hend]
      exact hlast.version.symm

/-- A grant lasts and so does a registration of a caller, but not the upgrade beside it, which is
undone by a failure that goes no further. A failure that leaves the transaction undoes the grant. -/
theorem transaction_all_or_nothing_stocked :
    let grant : Step := .call (.flow (.grantWriter 1 (.int 8) 2))
    let upgrade : Step := .call (.flow (.upgradeResource 1 (.int 8) 5))
    let register : Step := .call (.register ⟨.account, 3, none⟩)
    let body := [grant, .attempt (.transaction [upgrade, register, .call (.raise "stop")])]
    let deeds := Step.lastingAll body stocked.opened
    deeds.length = 2 ∧
      (Step.run (.transaction body) stocked).2.core.store =
        (Step.runEach (deeds.map (·.step)) stocked.outside).2.core.store ∧
      (Step.run (.transaction [grant, .call (.raise "stop")]) stocked).2.core.store = stocked.core.store := by
  intro grant upgrade register body deeds
  have hreturns : (Step.run (.transaction body) stocked).1.escaping = none := by rfl
  have hfails : (Step.run (.transaction [grant, .call (.raise "stop")]) stocked).1.escaping =
      some (.raised "stop") := by rfl
  refine ⟨by decide +kernel, ?_, ?_⟩
  · exact ((transaction_all_or_nothing reachable_stocked body).2 hreturns).1
  · exact ((transaction_all_or_nothing reachable_stocked _).1 _ hfails).1

end World

end OwnershipRegistry
