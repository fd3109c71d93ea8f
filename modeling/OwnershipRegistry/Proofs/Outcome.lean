import OwnershipRegistry.Proofs.Accounting

/-!
# The three outcomes of a flow

A flow is let through, or it is refused, or it is not well formed. Each time
the tables, the counters and the buffer of recent denials change by exactly
what the outcome says. Along a run this adds up: the denials by kind are the
denied decisions, and all decisions together are those that were made, also the
ones in transactions that were rolled back.
-/

namespace OwnershipRegistry

namespace Context

variable {c : Context} {name : String}

theorem get?_set (c : Context) (key name : String) (value : Value) : (c.set key value).get? name =
    if name = key then (match value with | .null => none | v => some v) else c.get? name := by
  cases value with
  | null => exact Table.get?_erase c key name
  | _ => exact Table.get?_put c key name _

/-- Inside of a flow the context names the flow, and its caller in hexadecimal if there is one. -/
theorem enter_flow (c : Context) (flow : String) (caller : Option Int) :
    (c.enter flow caller).get? "flow" = some (.str flow) := by
  simp [enter, update, get?_set]

theorem enter_caller (c : Context) (flow : String) (caller : Option Int) :
    (c.enter flow caller).get? "caller" = caller.map fun n => .str (Numeral.hex n) := by
  cases caller <;> simp [enter, update, get?_set, callerField]

/-- Inside of a flow all other fields are the ambient ones. -/
theorem enter_of_ne (c : Context) (flow : String) (caller : Option Int) (notFlow : name ≠ "flow")
    (notCaller : name ≠ "caller") : (c.enter flow caller).get? name = c.get? name := by
  simp [enter, update, get?_set, notFlow, notCaller]

end Context

namespace Denial

variable {context : Context}

/-- The ambient fields stand in an entry over what is always there, and under its details. -/
theorem entry_get? (distinct : context.keys.Nodup) (denial : Denial) (request : Value) (flow : Flow)
    {name : String} (other : name = "details" → denial.details = []) :
    (denial.entry context request flow).get? name =
      ((context.enter flow.name flow.caller?).get? name).or (Table.get? (.ofEntries
        [("event", .str denial.kind), ("message", .str denial.message), ("request_id", request)]) name) := by
  have hdistinct : (context.enter flow.name flow.caller?).keys.Nodup := Context.nodup_update distinct _
  have hoverlaid := Table.get?_putAll (t := .ofEntries [("event", .str denial.kind),
    ("message", .str denial.message), ("request_id", request)]) hdistinct name
  unfold entry DenialBuffer.entry
  by_cases hdetails : (Value.ofFields (denial.shownDetails.map fun d => (d.1, .str d.2))).isFalsy = true
  · simp only [hdetails, if_true]
    exact hoverlaid
  · have hname : name ≠ "details" := by
      intro hname
      apply hdetails
      rw [shownDetails, other hname]
      rfl
    simp only [hdetails]
    exact (Table.get?_put_of_ne _ _ hname).trans hoverlaid

/-- What is neither always there nor a detail is an ambient field. -/
theorem entry_get?_ambient (distinct : context.keys.Nodup) (denial : Denial) (request : Value) (flow : Flow)
    {name : String} (other : name = "details" → denial.details = [])
    (unset : name ∉ ["event", "message", "request_id"]) :
    (denial.entry context request flow).get? name = (context.enter flow.name flow.caller?).get? name := by
  have hbase : Table.get? (.ofEntries [("event", .str denial.kind), ("message", .str denial.message),
      ("request_id", request)]) name = none := by
    simp only [List.mem_cons, List.not_mem_nil, or_false, not_or] at unset
    simp [Table.ofEntries, Table.get?_put, unset]
  rw [entry_get? distinct denial request flow other, hbase, Option.or_none]

/-- The entry of a denial about some values holds their texts. -/
theorem entry_get?_details {denial : Denial} (about : denial.details ≠ []) (context : Context)
    (request : Value) (flow : Flow) : (denial.entry context request flow).get? "details" =
      some (.ofFields (denial.shownDetails.map fun d => (d.1, .str d.2))) := by
  have hdetails : (Value.ofFields (denial.shownDetails.map fun d => (d.1, .str d.2))).isFalsy = false := by
    simp [Value.ofFields, Value.isFalsy, shownDetails, about]
  unfold entry DenialBuffer.entry
  simp only [hdetails]
  exact Table.get?_put_self _ _ _

end Denial

/-- An entry that records the denial of a flow: it names the flow, its caller in hexadecimal if there
is one, and the texts of the details if there are any. -/
structure Records (flow : Flow) (denial : Denial) (entry : Context) : Prop where
  flowNamed : entry.get? "flow" = some (.str flow.name)
  callerNamed : entry.get? "caller" = flow.caller?.map fun n => .str (Numeral.hex n)
  detailed : denial.details ≠ [] → entry.get? "details" =
    some (.ofFields (denial.shownDetails.map fun d => (d.1, .str d.2)))

theorem Denial.entry_records {context : Context} (distinct : context.keys.Nodup) (denial : Denial)
    (request : Value) (flow : Flow) : Records flow denial (denial.entry context request flow) where
  flowNamed := by
    rw [denial.entry_get?_ambient distinct request flow (by nofun) (by decide)]
    exact Context.enter_flow _ _ _
  callerNamed := by
    rw [denial.entry_get?_ambient distinct request flow (by nofun) (by decide)]
    exact Context.enter_caller _ _ _
  detailed about := Denial.entry_get?_details about context request flow

/-- A flow was let through. It is counted, and it is a commit where it is a change outside of
transactions; nothing else is counted and nothing is recorded. -/
structure LetThrough (flow : Flow) (w w' : World) : Prop where
  version : w'.core.version = w.core.version + if flow.mutates then 1 else 0
  still : flow.mutates = false → w'.core.store = w.core.store
  books : Books.Grown [.allowed flow] w.journal.books w'.journal.books
  commits : w'.journal.metrics.commits =
    w.journal.metrics.commits + if flow.mutates ∧ w.core.depth = 0 then 1 else 0

/-- A flow was refused. The core is as it was; the denial is counted, also under its kind, and one
entry at the front of the buffer records it. -/
structure Refused (flow : Flow) (denial : Denial) (w w' : World) : Prop where
  core : w'.core = w.core
  commits : w'.journal.metrics.commits = w.journal.metrics.commits
  recorded : ∃ entry, Records flow denial entry ∧
    Books.Grown [.denied flow denial entry] w.journal.books w'.journal.books ∧
    w'.journal.denials.entries = (entry :: w.journal.denials.entries).take w.journal.denials.capacity

/-- How the request of a flow ends: the flow is let through or refused, or it is not well formed and
everything is as it was. -/
def Ends (flow : Flow) (w : World) : Except Failure Answer × World → Prop
  | (.ok _, w') => LetThrough flow w w'
  | (.error (.denied denial), w') => Refused flow denial w w'
  | (.error failure, w') => failure.Malformed ∧ w' = w

/-- A request that ends in a denial was refused. -/
theorem Ends.refused {flow : Flow} {denial : Denial} {w : World} {result : Except Failure Answer × World}
    (h : Ends flow w result) (denied : result.1 = .error (.denied denial)) : Refused flow denial w result.2 := by
  obtain ⟨outcome, w'⟩ := result
  obtain rfl : outcome = .error (.denied denial) := denied
  exact h

namespace World

variable {w : World}

theorem decide_letThrough {flow : Flow} {effect : Effect} (sound : w.core.store.Sound)
    (h : w.core.attempt flow = .ok effect) : LetThrough flow w (decide flow w).2 where
  version := by
    rw [decide_core, Core.after_of_ok h]
    unfold commitTo
    cases flow.mutates <;> rfl
  still check := by
    rw [decide_core, Core.after_store h]
    exact ((Core.attempt_eq_ok_iff sound).mp h).store_eq check
  books := by
    rw [decide_books_of_ok h]
    exact Books.grown_allow _ _ flow
  commits := by
    have hcommits : (decide flow w).2.journal.metrics.commits =
        w.journal.metrics.commits + commitsAtOnce w.core flow.mutates :=
      congrArg (·.metrics.commits) (decide_books_of_ok h)
    rw [hcommits, commitsAtOnce]
    simp

theorem decide_refused {flow : Flow} {denial : Denial} (distinct : w.journal.context.keys.Nodup)
    (h : w.core.attempt flow = .error (.denied denial)) : Refused flow denial w (decide flow w).2 where
  core := by rw [decide_core, Core.after_of_error h]
  commits := congrArg (·.metrics.commits) (decide_books_of_denied h)
  recorded := by
    have hbooks := decide_books_of_denied h
    refine ⟨_, denial.entry_records distinct w.journal.requestId flow, ?_, ?_⟩
    · rw [hbooks]
      exact Books.Grown.post _ (.denied flow denial _)
    · exact congrArg (·.denials.entries) hbooks

/-- Every request of a flow ends in one of the three ways. -/
theorem decide_ends (sound : w.core.store.Sound) (distinct : w.journal.context.keys.Nodup) (flow : Flow) :
    Ends flow w (decide flow w) := by
  cases h : w.core.attempt flow with
  | ok effect =>
      have hanswer : (decide flow w).1 = .ok effect.answer := by
        rw [decide_fst, h]
        rfl
      have hthrough := decide_letThrough sound h
      cases hend : decide flow w with
      | mk outcome w' =>
          rw [hend] at hanswer hthrough
          obtain rfl : outcome = .ok effect.answer := hanswer
          exact hthrough
  | error failure =>
      cases Core.failsAs_attempt sound flow failure h with
      | denied denial =>
          have hanswer : (decide flow w).1 = .error (.denied denial) := by
            rw [decide_fst, h]
            rfl
          have hrefused := decide_refused distinct h
          cases hend : decide flow w with
          | mk outcome w' =>
              rw [hend] at hanswer hrefused
              obtain rfl : outcome = .error (.denied denial) := hanswer
              exact hrefused
      | malformed hmalformed =>
          unfold decide
          rw [h]
          cases hmalformed with
          | name name => exact ⟨.name name, rfl⟩
          | tag tag => exact ⟨.tag tag, rfl⟩
          | kind word => exact ⟨.kind word, rfl⟩
          | number => exact ⟨.number, rfl⟩

/-- The runs of worlds with the decisions that were made in them, from a journal on. Rolling back
returns to the entry of the transaction, but it takes no decision back. -/
inductive Counted (start : Journal) : List Moment → Moment → List Decision → Prop
  | created {settings : Except Failure Settings} {space path : String} {documents : Documents} {w : World}
      (h : create start settings space path documents = .ok w) : Counted start [] ⟨w, []⟩ []
  | called {entries : List Moment} {now : Moment} {ds : List Decision} (h : Counted start entries now ds)
      (c : Call) : Counted start entries ⟨(c.run now.world).2, now.history ++ c.commits now.world⟩
        (ds ++ c.decisions now.world)
  | entered {entries : List Moment} {now : Moment} {ds : List Decision} (h : Counted start entries now ds) :
      Counted start (now :: entries) ⟨now.world.opened, now.history⟩ ds
  | concluded {entry : Moment} {entries : List Moment} {now : Moment} {ds : List Decision}
      (h : Counted start (entry :: entries) now ds) : Counted start entries ⟨now.world.conclude, now.history⟩ ds
  | rolledBack {entry : Moment} {entries : List Moment} {now : Moment} {ds : List Decision}
      (h : Counted start (entry :: entries) now ds) :
      Counted start entries ⟨rollBack entry.world now.world, entry.history⟩ ds

namespace Counted

variable {start : Journal} {entries : List Moment} {now : Moment} {ds : List Decision}

theorem run (h : Counted start entries now ds) : Run entries now := by
  induction h with
  | created h => exact .created h
  | called h c ih => exact ih.called c
  | entered h ih => exact ih.entered
  | concluded h ih => exact ih.concluded
  | rolledBack h ih => exact ih.rolledBack

/-- The books grow by the decisions of a run. -/
theorem grown (h : Counted start entries now ds) :
    Books.Grown ds start.books now.world.journal.books := by
  induction h with
  | created h => exact (noted_create h).grown
  | called h c ih => exact ih.trans (c.grown _)
  | entered h ih => exact ih
  | concluded h ih =>
      have hgrown := ih.trans (grown_conclude _)
      rwa [List.append_nil] at hgrown
  | rolledBack h ih => exact ih

/-- The names of the ambient fields stay distinct along a run. -/
theorem distinct (fresh : start.context.keys.Nodup) (h : Counted start entries now ds) :
    now.world.journal.context.keys.Nodup := by
  induction h with
  | created h => exact (noted_create h).context ▸ fresh
  | called h c ih => exact Call.run_distinct ih c
  | entered h ih => exact ih
  | @concluded entry entries now ds h ih => exact (conclude_context now.world).symm ▸ ih
  | rolledBack h ih => exact ih

/-- What is counted as commits or waits to be is what the history has, now and at the entry of every
open transaction; nothing was counted since those. -/
theorem owed_all (h : Counted start entries now ds) :
    (∀ moment ∈ now :: entries, moment.world.owed = start.metrics.commits + moment.history.length) ∧
      ∀ entry ∈ entries, entry.world.journal.metrics.commits = now.world.journal.metrics.commits := by
  induction h with
  | @created _ _ _ _ w h =>
      refine ⟨List.forall_mem_singleton.mpr ?_, fun entry hmem => absurd hmem List.not_mem_nil⟩
      have hcommits : w.journal.metrics.commits = start.metrics.commits :=
        congrArg (·.metrics.commits) (noted_create h).books
      have hpending : w.core.pending = 0 := (create_fresh h).2.2.pending rfl
      rw [owed, hcommits, hpending]
      rfl
  | @called entries now ds h c ih =>
      obtain ⟨howed, hsame⟩ := ih
      obtain ⟨hnow, hentries⟩ := List.forall_mem_cons.mp howed
      obtain ⟨hrun, hinside⟩ := Call.owed_run c now.world
      refine ⟨List.forall_mem_cons.mpr ⟨?_, hentries⟩, fun entry hmem => ?_⟩
      · rw [hrun, hnow, List.length_append, Nat.add_assoc]
      · have hnested : now.world.core.depth ≠ 0 := by
          rw [h.run.settled.depth]
          exact (List.length_pos_of_mem hmem).ne'
        exact (hsame entry hmem).trans (hinside hnested).symm
  | @entered entries now ds h ih =>
      obtain ⟨howed, hsame⟩ := ih
      refine ⟨List.forall_mem_cons.mpr ⟨(List.forall_mem_cons.mp howed).1, howed⟩, ?_⟩
      exact List.forall_mem_cons.mpr ⟨rfl, hsame⟩
  | @concluded entry entries now ds h ih =>
      obtain ⟨howed, hsame⟩ := ih
      obtain ⟨hnow, hentries⟩ := List.forall_mem_cons.mp howed
      refine ⟨List.forall_mem_cons.mpr ⟨?_, (List.forall_mem_cons.mp hentries).2⟩, fun outer hmem => ?_⟩
      · exact (owed_conclude now.world).trans hnow
      · have hnested : now.world.core.depth - 1 ≠ 0 := by
          rw [h.run.settled.depth]
          exact (List.length_pos_of_mem hmem).ne'
        exact (hsame outer (List.mem_cons_of_mem _ hmem)).trans (commits_conclude_inside hnested).symm
  | @rolledBack entry entries now ds h ih =>
      -- Nothing was counted since the entry, so what was owed then is owed again.
      obtain ⟨howed, hsame⟩ := ih
      obtain ⟨hentry, hentries⟩ := List.forall_mem_cons.mp (List.forall_mem_cons.mp howed).2
      obtain ⟨hcommits, hothers⟩ := List.forall_mem_cons.mp hsame
      have hback : (rollBack entry.world now.world).owed = entry.world.owed :=
        congrArg (· + entry.world.core.pending) hcommits.symm
      exact ⟨List.forall_mem_cons.mpr ⟨hback.trans hentry, hentries⟩, hothers⟩

/-- Outside of transactions, the commits are the changes of the history. -/
theorem commits_eq (h : Counted start entries now ds) (outside : entries = []) :
    now.world.journal.metrics.commits = start.metrics.commits + now.world.core.version := by
  have howed := h.owed_all.1 now List.mem_cons_self
  have hpending : now.world.core.pending = 0 := h.run.settled.pending (by rw [outside]; rfl)
  rw [owed, hpending, Nat.add_zero, ← h.run.version_eq] at howed
  exact howed

end Counted

/-- Counters that agree with each other and with the decisions that were made: the denials by kind
are the denied decisions, and all decisions are counted in total and one by one. -/
structure Balanced (ds : List Decision) (m : Metrics) : Prop where
  kinds : m.denials.values.sum = m.denied
  decisions : m.allowed + m.denied = ds.length
  total : m.snapshot.lookup "total_decisions" = some (.int ds.length)
  tally : ∀ name verdict, (m.tally name).of verdict = ds.countP (·.isOn name verdict)
  kind : ∀ kind, Metrics.count m.denials kind = ds.countP (·.kind? = some kind)

/-- Counters that were fresh are balanced by the decisions by which they grew. -/
theorem balanced_of_grown {ds : List Decision} {b b' : Books} {mirrored : Bool}
    (fresh : b.metrics = .fresh mirrored) (grown : Books.Grown ds b b') : Balanced ds b'.metrics := by
  have hdecided : ∀ verdict, b'.metrics.decided verdict = ds.countP (·.verdict = verdict) := by
    intro verdict
    rw [grown.decided, fresh]
    exact Nat.zero_add _
  have hdenials : b'.metrics.denials.values.sum = ds.countP (·.verdict = .deny) := by
    have hgrown := grown.denied
    rw [Table.total, List.map_id, fresh] at hgrown
    exact hgrown.trans (Nat.zero_add _)
  have hlength : b'.metrics.allowed + b'.metrics.denied = ds.length := by
    rw [Metrics.allowed_eq, Metrics.denied_eq, hdecided, hdecided]
    exact Decision.countP_verdicts ds
  constructor
  · rw [hdenials, Metrics.denied_eq, hdecided]
  · exact hlength
  · have htotal : b'.metrics.snapshot.lookup "total_decisions" =
        some (.int (b'.metrics.allowed + b'.metrics.denied)) := rfl
    rw [htotal, ← hlength, Int.natCast_add]
  · intro name verdict
    rw [grown.tally, fresh]
    cases verdict <;> exact Nat.zero_add _
  · intro kind
    rw [grown.kinds, fresh]
    exact Nat.zero_add _

variable {start : Journal} {entries : List Moment} {now : Moment} {ds : List Decision}

/-- Every flow ends in one of three ways at every moment of a run, and is accounted for accordingly.
Along the run the books grow by the decisions that were made, also in transactions that were rolled
back, and outside of transactions the commits are the changes of the version. From fresh counters on,
the totals agree. -/
theorem flows_accounted (fresh : start.context.keys.Nodup) (run : Counted start entries now ds) :
    (∀ flow, Ends flow now.world (decide flow now.world)) ∧
      Books.Grown ds start.books now.world.journal.books ∧
      (entries = [] →
        now.world.journal.metrics.commits = start.metrics.commits + now.world.core.version) ∧
      (∀ mirrored, start.metrics = .fresh mirrored → Balanced ds now.world.journal.metrics) := by
  refine ⟨fun flow => ?_, run.grown, run.commits_eq, fun mirrored hmetrics => ?_⟩
  · exact decide_ends run.run.sound (run.distinct fresh) flow
  · exact balanced_of_grown hmetrics run.grown

/-- A namespace is registered in a transaction that is rolled back, after a caller who is no account
was refused another one. Both decisions stay counted, and the refusal stays recorded with its flow, its
caller and the texts of its details. -/
theorem flows_accounted_rolledBack :
    let game : Flow := .registerNamespace 1 "game" (some (.int 7))
    let arena : Flow := .registerNamespace 2 "arena" none
    ∃ w ds, Reachable w ∧ w.core.store = .empty ∧ w.core.version = 0 ∧
      w.journal.metrics.tally game.name = ⟨1, 1⟩ ∧
      Metrics.count w.journal.metrics.denials "caller_not_account" = 1 ∧
      Balanced ds w.journal.metrics ∧ ds.length = 2 ∧ Ends arena w (decide arena w) ∧
      ∃ entry, w.journal.denials.entries = [entry] ∧
        entry.get? "flow" = some (.str "register_namespace") ∧ entry.get? "caller" = some (.str "0x2") ∧
        entry.get? "details" = some (.ofFields [("caller", .str "0x2")]) := by
  intro game arena
  have hbare : Counted (.fresh false) [] ⟨bare, []⟩ [] := .created create_bare
  have hinside := (hbare.called (.register ⟨.account, 1, none⟩)).entered
  have hback := ((hinside.called (.flow arena)).called (.flow game)).rolledBack
  have hfresh : (Journal.fresh false).context.keys.Nodup := List.nodup_nil
  obtain ⟨hends, -, -, hbalanced⟩ := flows_accounted hfresh hback
  have htotals := hbalanced false rfl
  have hrefused : Refused arena (.notAccount 2) _ _ := ((flows_accounted hfresh hinside).1 arena).refused (by rfl)
  obtain ⟨entry, hrecords, -, hentries⟩ := hrefused.recorded
  refine ⟨_, _, ⟨_, _, hback.run⟩, rfl, rfl, ?_, ?_, htotals, rfl, hends arena, entry, ?_,
    hrecords.flowNamed, hrecords.callerNamed, hrecords.detailed (by decide)⟩
  · have hallow := htotals.tally game.name .allow
    have hdeny := htotals.tally game.name .deny
    exact congrArg₂ Tally.mk (hallow.trans (by rfl)) (hdeny.trans (by rfl))
  · exact (htotals.kind "caller_not_account").trans (by rfl)
  · have hempty : bare.journal.denials = ⟨Journal.defaultCapacity, []⟩ :=
      congrArg (·.denials) (noted_create create_bare).books
    exact hentries.trans (congrArg (fun b : DenialBuffer => (entry :: b.entries).take b.capacity) hempty)

end World

end OwnershipRegistry
