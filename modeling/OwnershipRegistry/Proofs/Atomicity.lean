import OwnershipRegistry.Proofs.Convergence
import OwnershipRegistry.Proofs.Refusal
import OwnershipRegistry.Proofs.Transaction

/-!
# Atomic applications

An application makes and counts exactly the changes of its plan, or it makes
none. The books do not go back: they keep the flows that were let through and
the one that was denied.
-/

namespace OwnershipRegistry

/-- How many changes a plan makes. -/
def Plan.size (p : Plan) : Nat := p.registrations.length + p.grants.length + p.revokes.length

namespace World

variable {m : Manifest} {p : Plan} {caller : Int} {failure : Failure} {flows : List Flow} {u v w w' : World}

/-- The changes of a plan were made, and counted once each: at once, or at the end of the
transaction around them. -/
structure Accounted (p : Plan) (w w' : World) : Prop where
  version : w'.core.version = w.core.version + p.size
  outside : w.core.depth = 0 → w'.journal.metrics.commits = w.journal.metrics.commits + p.size
  inside : w.core.depth ≠ 0 → w'.journal.metrics.commits = w.journal.metrics.commits ∧
    w'.core.pending = w.core.pending + p.size

/-- No change was made, none can be looked up, and none was counted or waits for an end. -/
structure Undone (w w' : World) : Prop where
  store : w'.core.store = w.core.store
  version : w'.core.version = w.core.version
  lookups : ∀ q : Query, q.isLookup = true → q.answer w' = q.answer w
  commits : w'.journal.metrics.commits = w.journal.metrics.commits
  pending : w'.core.pending = w.core.pending

/-- Flows were let through, then one was denied, and the books keep all of them: each is counted
under its name, and the denied one is recorded. -/
structure Attempted (done : List Flow) (flow : Flow) (denial : Denial) (w w' : World) : Prop where
  passes : w.core.Passes done
  denied : (w.core.afterAll done).attempt flow = .error (.denied denial)
  books : w'.journal.books =
    (w.journal.books.allowAll w.core done).deny w.journal.context w.journal.requestId flow denial
  tally : ∀ name, w'.journal.metrics.tally name =
    ⟨(w.journal.metrics.tally name).allow + done.countP (·.name = name),
      (w.journal.metrics.tally name).deny + if name = flow.name then 1 else 0⟩
  recorded : w'.journal.denials =
    w.journal.denials.push (denial.entry w.journal.context w.journal.requestId flow)

/-- Planning writes to the log alone. -/
theorem plan_core_books (m : Manifest) (w : World) :
    (plan m w).2.core = w.core ∧ (plan m w).2.journal.books = w.journal.books := by
  unfold plan
  cases Plan.of w.core.store w.core.version m with
  | error failure => exact ⟨rfl, rfl⟩
  | ok made => exact ⟨rfl, rfl⟩

/-- Flows that stop were attempted up to one that was denied, where they fail by denials alone. -/
theorem Stopped.attempted (h : Stopped flows w w' failure)
    (denies : ∀ flow ∈ flows, ∀ core : Core, OnlyDenies (core.attempt flow)) :
    ∃ done flow rest denial, flows = done ++ flow :: rest ∧ failure = .denied denial ∧
      Attempted done flow denial w w' := by
  obtain ⟨done, flow, rest, v, hflows, hdid, hfails⟩ := h
  have hmem : flow ∈ flows := by simp [hflows]
  have hattempt : v.core.attempt flow = .error failure := by
    have hanswer : (decide flow v).1 = .error failure := congrArg Prod.fst hfails
    rw [decide_fst] at hanswer
    exact map_eq_error_iff.mp hanswer
  obtain ⟨denial, rfl⟩ := denies flow hmem v.core failure hattempt
  have hbooks := decide_books_of_denied hattempt
  rw [hfails, hdid.books, hdid.surroundings.context, hdid.surroundings.requestId] at hbooks
  have hmetrics : w'.journal.metrics = _ := congrArg Books.metrics hbooks
  have hdenials : w'.journal.denials = _ := congrArg Books.denials hbooks
  refine ⟨done, flow, rest, denial, hflows, rfl, hdid.passes, hdid.core ▸ hattempt, hbooks, fun name => ?_, ?_⟩
  · rw [hmetrics, Books.deny, Metrics.tally_decide, Books.tally_allowAll]
    by_cases hname : name = flow.name
    · rw [if_pos hname, if_pos hname]
      rfl
    · rw [if_neg hname, if_neg hname]
      rfl
  · rw [hdenials, Books.deny, Books.allowAll_denials]
    rfl

/-- Inside of a transaction, neither flows that are let through nor denials count commits. -/
theorem Attempted.commits {done : List Flow} {flow : Flow} {denial : Denial}
    (h : Attempted done flow denial w w') (inside : w.core.depth ≠ 0) :
    w'.journal.metrics.commits = w.journal.metrics.commits := by
  have hmetrics : w'.journal.metrics = _ := congrArg Books.metrics h.books
  rw [hmetrics]
  exact Books.commits_allowAll_inside inside w.journal.books done

/-- All flows of a transaction that succeeds are accounted for by their changes. -/
theorem Did.accounted {level : Nat} (settled : w.Settled level) (did : Did flows w.opened v)
    (size : flows.countP (·.mutates) = p.size) : Accounted p w v.conclude := by
  have hinside : w.opened.core.depth ≠ 0 := Nat.succ_ne_zero w.core.depth
  have hcount : (w.opened.core.commitsAll flows).length = p.size :=
    (Core.commitsAll_length_of_passes did.passes).trans size
  have hversion : v.core.version = w.core.version + p.size := by
    rw [did.core, Core.afterAll_version, hcount]
    rfl
  have hpending : v.core.pending = w.core.pending + p.size := by
    rw [did.core, Core.afterAll_pending_inside hinside, hcount]
    rfl
  have hdepth : v.core.depth - 1 = w.core.depth := by
    rw [did.core, Core.afterAll_depth]
    rfl
  have hcommits : v.journal.metrics.commits = w.journal.metrics.commits := by
    have hmetrics : v.journal.metrics = _ := congrArg Books.metrics did.books
    rw [hmetrics]
    exact Books.commits_allowAll_inside hinside w.opened.journal.books flows
  refine ⟨(conclude_sameState v).version.trans hversion, fun houtside => ?_, fun hnested => ?_⟩
  · -- Nothing waited at the entry, so what is counted at the end is what was done in between.
    have hnone : w.core.pending = 0 := settled.pending (settled.depth.symm.trans houtside)
    simp only [conclude, hdepth, houtside, if_true, Metrics.commit, hcommits, hpending, hnone, Nat.zero_add]
  · simp only [conclude, hdepth, hnested, if_false]
    exact ⟨hcommits, hpending⟩

/-- A rollback undoes what was done since its entry, except for the books. -/
theorem undone_of_rollBack (sound : w.core.store.Sound)
    (commits : v.journal.metrics.commits = w.journal.metrics.commits) : Undone w (rollBack w v) where
  store := rollBack_store sound v
  version := rfl
  lookups _ hq := Query.answer_eq_of_isLookup hq (rollBack_store sound v) rfl
  commits := commits
  pending := rfl

/-- Planning changes nothing but the log. An application of a manifest that was read answers the plan
and accounts for exactly its changes, or it undoes everything but the books. It fails as its plan
does, or because one of its flows was denied. -/
theorem apply_atomic (reachable : Reachable w) {declared : Value} (read : Manifest.ofValue declared = .ok m)
    (caller : Int) :
    ((plan m w).2.core = w.core ∧ (plan m w).2.journal.books = w.journal.books) ∧
    (∀ p w', apply m caller w = (.ok p, w') → (plan m w).1 = .ok p ∧ Accounted p w w') ∧
    (∀ failure w', apply m caller w = (.error failure, w') → Undone w w' ∧
      (((plan m w).1 = .error failure ∧ w'.journal.books = w.journal.books) ∨
        ∃ p done flow rest denial, (plan m w).1 = .ok p ∧
          applicationFlows p m caller w.opened.core = done ++ flow :: rest ∧
          failure = .denied denial ∧ Attempted done flow denial w.opened w')) := by
  have hsound := reachable.sound
  obtain ⟨entries, history, run⟩ := reachable
  refine ⟨plan_core_books m w, fun p w' happly => ?_, fun failure w' happly => ?_⟩
  · obtain ⟨hof, last, hdid, rfl⟩ := apply_did happly
    obtain ⟨_, hplan⟩ := plan_of_eq_ok hof
    have haccounted := hdid.accounted run.settled (countP_application hof caller w.opened.core)
    exact ⟨congrArg Prod.fst hplan, haccounted.version, haccounted.outside, haccounted.inside⟩
  · obtain ⟨last, rfl, hlast⟩ := apply_stopped happly
    rcases hlast with ⟨hof, rfl⟩ | ⟨p, hof, hstopped⟩
    · refine ⟨undone_of_rollBack hsound rfl, Or.inl ⟨?_, rfl⟩⟩
      exact congrArg Prod.fst (plan_of_eq_error hof)
    · obtain ⟨_, hplan⟩ := plan_of_eq_ok hof
      obtain ⟨done, flow, rest, denial, hflows, rfl, hattempted⟩ := hstopped.attempted fun flow hflow core =>
        Core.onlyDenies_of_plain
          (plain_of_application hsound hof (Manifest.named_of_ofValue read) hflow) core
      have hundone := undone_of_rollBack hsound (hattempted.commits (Nat.succ_ne_zero w.core.depth))
      exact ⟨hundone, Or.inr ⟨p, done, flow, rest, denial, congrArg Prod.fst hplan, hflows, rfl,
        hattempted.passes, hattempted.denied, hattempted.books, hattempted.tally, hattempted.recorded⟩⟩

/-- A manifest that declares a resource of the stocked world under another kind, beside a new
namespace. -/
def conflicting : Manifest :=
  { version := 1, defaultNamespace := none, namespaces := [⟨"arena", none⟩]
    resources := [⟨"game-player", .event, none⟩] }

/-- The owner's application of the manifest about the stocked world makes six changes. That of the
conflicting one is denied after its registration, which is undone and stays counted. -/
theorem apply_atomic_stocked :
    (∃ p w', apply arena 1 stocked = (.ok p, w') ∧ p.size = 6 ∧ Accounted p stocked w') ∧
    (∃ failure w', apply conflicting 1 stocked = (.error failure, w') ∧ Undone stocked w' ∧
      w'.journal.denials.entries.length = 1 ∧
      stocked.journal.metrics.tally "register_namespace" = ⟨1, 0⟩ ∧
      w'.journal.metrics.tally "register_namespace" = ⟨2, 0⟩) := by
  have harena : Manifest.ofValue arena.toValue = .ok arena := by rfl
  have hconflicting : Manifest.ofValue conflicting.toValue = .ok conflicting := by rfl
  constructor
  · have hsize : (apply arena 1 stocked).1.toOption.map (·.size) = some 6 := by decide +kernel
    obtain ⟨p, w', happly, hsize⟩ := ok_of_toOption_map hsize
    exact ⟨p, w', happly, hsize, ((apply_atomic reachable_stocked harena 1).2.1 p w' happly).2⟩
  · have hends : (apply conflicting 1 stocked).1.toOption = none ∧
        (apply conflicting 1 stocked).2.journal.denials.entries.length = 1 ∧
        stocked.journal.metrics.tally "register_namespace" = ⟨1, 0⟩ ∧
        (apply conflicting 1 stocked).2.journal.metrics.tally "register_namespace" = ⟨2, 0⟩ := by
      unfold stocked bare
      simp only [configuration_bare]
      decide +kernel
    cases h : apply conflicting 1 stocked with
    | mk outcome w' =>
        rw [h] at hends
        cases outcome with
        | ok p => cases hends.1
        | error failure =>
            exact ⟨failure, w', rfl,
              ((apply_atomic reachable_stocked hconflicting 1).2.2 failure w' h).1, hends.2⟩

end World

end OwnershipRegistry
