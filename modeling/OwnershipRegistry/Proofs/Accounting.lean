import OwnershipRegistry.Proofs.Decision
import OwnershipRegistry.Proofs.Run

/-!
# Every decision is accounted for

A flow that is let through or denied is a decision. The books grow by the
decisions that are made and by nothing else, and rolling a transaction back
takes none of them out again. So the totals always agree with each other, and
with the decisions.
-/

namespace OwnershipRegistry

open World (Did Stopped SameSurroundings applicationFlows)

/-- A decision about a flow: it was let through, or it was denied, and an entry records it. -/
inductive Decision where
  | allowed (flow : Flow)
  | denied (flow : Flow) (denial : Denial) (entry : Context)

namespace Decision

/-- The flow that a decision is about. -/
def flow : Decision → Flow
  | allowed flow => flow
  | denied flow _ _ => flow

/-- How a decision came out. -/
def verdict : Decision → Verdict
  | allowed _ => .allow
  | denied _ _ _ => .deny

/-- The kind under which a denial is counted. -/
def kind? : Decision → Option String
  | allowed _ => none
  | denied _ denial _ => some denial.kind

/-- The entry that records a denial. -/
def record? : Decision → Option Context
  | allowed _ => none
  | denied _ _ entry => some entry

/-- Whether a decision with a verdict is about a flow of a name. -/
def isOn (name : String) (verdict : Verdict) (d : Decision) : Bool :=
  d.flow.name = name && d.verdict = verdict

/-- Every denial is of a kind that is counted. -/
theorem kind?_ne (d : Decision) : d.kind? ≠ some "" := by
  cases d with
  | allowed => exact nofun
  | denied flow denial entry =>
      intro h
      have hempty : denial.kind = "" := Option.some.inj h
      cases denial <;> simp [Denial.kind] at hempty

/-- Every decision comes out in one of two ways. -/
theorem countP_verdicts (ds : List Decision) :
    ds.countP (·.verdict = .allow) + ds.countP (·.verdict = .deny) = ds.length := by
  induction ds with
  | nil => rfl
  | cons d rest ih =>
      cases d with
      | allowed => simp [verdict] at ih ⊢; omega
      | denied => simp [verdict] at ih ⊢; omega

end Decision

theorem Verdict.word_inj {v v' : Verdict} : v.word = v'.word ↔ v = v' := by
  cases v <;> cases v' <;> decide

/-- The part of a tally for a verdict. -/
def Tally.of (t : Tally) : Verdict → Nat
  | .allow => t.allow
  | .deny => t.deny

theorem Tally.add_of (t : Tally) (verdict other : Verdict) :
    (t.add verdict).of other = t.of other + if verdict = other then 1 else 0 := by
  cases verdict <;> cases other <;> rfl

namespace Metrics

/-- How often a key was counted. -/
def count {κ : Type} [DecidableEq κ] (t : Table κ Nat) (key : κ) : Nat := (t.get? key).getD 0

/-- The number of decisions with a verdict. -/
def decided (m : Metrics) (verdict : Verdict) : Nat := m.decisions.total (·.of verdict)

theorem allowed_eq (m : Metrics) : m.allowed = m.decided .allow := List.sum_eq_foldl.symm

theorem denied_eq (m : Metrics) : m.denied = m.decided .deny := List.sum_eq_foldl.symm

section Counts

variable {κ : Type} [DecidableEq κ]

theorem count_increment (t : Table κ Nat) (key other : κ) :
    count (increment t key) other = count t other + if key = other then 1 else 0 := by
  unfold count increment
  rw [Table.get?_put]
  by_cases hkey : key = other
  · simp [hkey]
  · have hne : ¬ other = key := fun h => hkey h.symm
    simp [hkey, hne]

theorem total_increment (t : Table κ Nat) (key : κ) : (increment t key).total id = t.total id + 1 := by
  have htotal := Table.total_put id t key ((t.get? key).getD 0 + 1)
  rw [Option.map_id, id_eq, id_eq] at htotal
  unfold increment
  omega

end Counts

variable {kind? : Option String}

theorem count_countKind (named : kind? ≠ some "") (t : Table String Nat) (kind : String) :
    count (countKind t kind?) kind = count t kind + if kind? = some kind then 1 else 0 := by
  cases kind? with
  | none => simp [countKind]
  | some counted =>
      have hnamed : counted ≠ "" := fun h => named (h ▸ rfl)
      rw [countKind, if_neg hnamed, count_increment]
      simp

theorem total_countKind (named : kind? ≠ some "") (t : Table String Nat) :
    (countKind t kind?).total id = t.total id + if kind?.isSome then 1 else 0 := by
  cases kind? with
  | none => simp [countKind]
  | some counted =>
      have hnamed : counted ≠ "" := fun h => named (h ▸ rfl)
      rw [countKind, if_neg hnamed, total_increment]
      rfl

theorem decided_decide (m : Metrics) (flow : String) (verdict other : Verdict) (kind : Option String) :
    (m.decide flow verdict kind).decided other = m.decided other + if verdict = other then 1 else 0 := by
  have htotal := Table.total_put (·.of other) m.decisions flow (((m.decisions.get? flow).getD {}).add verdict)
  have hold : ((m.decisions.get? flow).map (·.of other)).getD 0 = ((m.decisions.get? flow).getD {}).of other := by
    cases m.decisions.get? flow with
    | some t => rfl
    | none => cases other <;> rfl
  rw [Tally.add_of, hold] at htotal
  have hafter : (m.decide flow verdict kind).decisions =
      m.decisions.put flow (((m.decisions.get? flow).getD {}).add verdict) := rfl
  unfold decided
  rw [hafter]
  omega

end Metrics

namespace Books

/-- The books after a decision. -/
def post (b : Books) (d : Decision) : Books where
  metrics := b.metrics.decide d.flow.name d.verdict d.kind?
  denials := (d.record?.map b.denials.push).getD b.denials

/-- Books that have grown by decisions: each is counted under its flow and its verdict, and in the
mirror where there is one. Each denial is counted under its kind, too, and pushed into the buffer.
Nothing is said about commits. -/
structure Grown (ds : List Decision) (b b' : Books) : Prop where
  tally : ∀ name verdict, (b'.metrics.tally name).of verdict =
    (b.metrics.tally name).of verdict + ds.countP (·.isOn name verdict)
  kinds : ∀ kind, Metrics.count b'.metrics.denials kind =
    Metrics.count b.metrics.denials kind + ds.countP (·.kind? = some kind)
  decided : ∀ verdict, b'.metrics.decided verdict =
    b.metrics.decided verdict + ds.countP (·.verdict = verdict)
  denied : b'.metrics.denials.total id = b.metrics.denials.total id + ds.countP (·.verdict = .deny)
  mirrored : b'.metrics.mirrored = b.metrics.mirrored
  mirroredTally : ∀ name verdict, Metrics.count b'.metrics.mirror.decisions (name, verdict.word) =
    Metrics.count b.metrics.mirror.decisions (name, verdict.word) +
      if b.metrics.mirrored then ds.countP (·.isOn name verdict) else 0
  mirroredKinds : ∀ kind, Metrics.count b'.metrics.mirror.denials kind =
    Metrics.count b.metrics.mirror.denials kind +
      if b.metrics.mirrored then ds.countP (·.kind? = some kind) else 0
  buffer : b'.denials = (ds.filterMap (·.record?)).foldl DenialBuffer.push b.denials

namespace Grown

variable {ds more : List Decision} {b b' b'' : Books}

theorem refl (b : Books) : Grown [] b b where
  tally _ _ := rfl
  kinds _ := rfl
  decided _ := rfl
  denied := rfl
  mirrored := rfl
  mirroredTally _ _ := by simp
  mirroredKinds _ := by simp
  buffer := rfl

/-- Counting commits is no decision. -/
theorem commit (b : Books) (n : Nat) : Grown [] b { b with metrics := b.metrics.commit n } :=
  ⟨(refl b).tally, (refl b).kinds, (refl b).decided, rfl, rfl, (refl b).mirroredTally,
    (refl b).mirroredKinds, rfl⟩

theorem trans (h : Grown ds b b') (h' : Grown more b' b'') : Grown (ds ++ more) b b'' where
  tally name verdict := by rw [h'.tally, h.tally, List.countP_append, Nat.add_assoc]
  kinds kind := by rw [h'.kinds, h.kinds, List.countP_append, Nat.add_assoc]
  decided verdict := by rw [h'.decided, h.decided, List.countP_append, Nat.add_assoc]
  denied := by rw [h'.denied, h.denied, List.countP_append, Nat.add_assoc]
  mirrored := h'.mirrored.trans h.mirrored
  mirroredTally name verdict := by
    rw [h'.mirroredTally, h.mirroredTally, h.mirrored, List.countP_append, Nat.add_assoc]
    cases b.metrics.mirrored <;> rfl
  mirroredKinds kind := by
    rw [h'.mirroredKinds, h.mirroredKinds, h.mirrored, List.countP_append, Nat.add_assoc]
    cases b.metrics.mirrored <;> rfl
  buffer := by rw [h'.buffer, h.buffer, List.filterMap_append, List.foldl_append]

/-- The books grow by one decision. -/
theorem post (b : Books) (d : Decision) : Grown [d] b (b.post d) where
  tally name verdict := by
    have htally : (b.post d).metrics.tally name = _ := Metrics.tally_decide _ _ _ _ _
    rw [htally, List.countP_singleton]
    by_cases hname : name = d.flow.name
    · simp [hname, Tally.add_of, Decision.isOn]
    · simp [hname, Ne.symm hname, Decision.isOn]
  kinds kind := by
    have hcount : Metrics.count (b.post d).metrics.denials kind = _ := Metrics.count_countKind d.kind?_ne _ _
    rw [hcount, List.countP_singleton]
    simp
  decided verdict := by
    have hdecided : (b.post d).metrics.decided verdict = _ := Metrics.decided_decide _ _ _ _ _
    rw [hdecided, List.countP_singleton]
    simp
  denied := by
    have htotal : (b.post d).metrics.denials.total id = _ := Metrics.total_countKind d.kind?_ne _
    rw [htotal, List.countP_singleton]
    cases d <;> rfl
  mirrored := rfl
  mirroredTally name verdict := by
    simp only [Books.post, Metrics.decide]
    cases b.metrics.mirrored with
    | false => rfl
    | true =>
        simp only [if_true]
        rw [Metrics.count_increment, List.countP_singleton]
        simp [Decision.isOn, Verdict.word_inj]
  mirroredKinds kind := by
    simp only [Books.post, Metrics.decide]
    cases b.metrics.mirrored with
    | false => rfl
    | true =>
        simp only [if_true]
        rw [Metrics.count_countKind d.kind?_ne, List.countP_singleton]
        simp
  buffer := by
    cases d <;> rfl

end Grown

/-- Letting a flow through is a decision, whatever is committed at once. -/
theorem grown_allow (b : Books) (commits : Nat) (flow : Flow) : Grown [.allowed flow] b (b.allow commits flow) :=
  (Grown.commit b commits).trans (Grown.post _ (.allowed flow))

theorem grown_allowAll (b : Books) (core : Core) (flows : List Flow) :
    Grown (flows.map .allowed) b (b.allowAll core flows) := by
  induction flows generalizing b with
  | nil => exact Grown.refl b
  | cons flow rest ih => exact (b.grown_allow (World.commitsAtOnce core flow.mutates) flow).trans (ih _)

end Books

namespace Core

/-- The decisions about flows that are requested one after the other, up to the first one that fails,
with the ambient context and the request. A flow that is not well formed is not decided. -/
def decisions (context : Context) (request : Value) (core : Core) : List Flow → List Decision
  | [] => []
  | flow :: rest =>
    match core.attempt flow with
    | .ok _ => .allowed flow :: (core.after flow).decisions context request rest
    | .error (.denied denial) => [.denied flow denial (denial.entry context request flow)]
    | .error _ => []

variable {context : Context} {request : Value} {core : Core} {done : List Flow} {flow : Flow}

/-- Flows that all succeed are all let through, and the decisions go on with those after them. -/
theorem decisions_append (passes : core.Passes done) (more : List Flow) :
    core.decisions context request (done ++ more) =
      done.map .allowed ++ (core.afterAll done).decisions context request more := by
  induction done generalizing core with
  | nil => rfl
  | cons flow rest ih =>
      obtain ⟨⟨effect, hattempt⟩, hrest⟩ := passes
      rw [List.cons_append, decisions, hattempt]
      exact congrArg (Decision.allowed flow :: ·) (ih hrest)

theorem decisions_of_passes (passes : core.Passes done) :
    core.decisions context request done = done.map .allowed := by
  have happend : core.decisions context request (done ++ []) = _ := decisions_append passes []
  rwa [List.append_nil, decisions, List.append_nil] at happend

/-- Nothing is decided after a flow that fails. -/
theorem decisions_of_error {failure : Failure} (fails : core.attempt flow = .error failure)
    (more : List Flow) : core.decisions context request (flow :: more) = core.decisions context request [flow] := by
  rw [decisions, decisions, fails]
  cases failure <;> rfl

end Core

namespace World

variable {w w' : World} {flow : Flow} {flows : List Flow} {failure : Failure}

/-- The decisions about flows that are requested in a world one after the other. -/
def decisions (w : World) (flows : List Flow) : List Decision :=
  w.core.decisions w.journal.context w.journal.requestId flows

/-- The books grow by the decision about a flow. -/
theorem grown_decide (flow : Flow) (w : World) :
    Books.Grown (w.decisions [flow]) w.journal.books (decide flow w).2.journal.books := by
  unfold decisions Core.decisions
  cases h : w.core.attempt flow with
  | ok effect =>
      rw [decide_books_of_ok h]
      exact Books.grown_allow _ _ flow
  | error failure =>
      cases failure with
      | denied denial =>
          rw [decide_books_of_denied h]
          exact Books.Grown.post _ (.denied flow denial _)
      | _ =>
          unfold decide
          rw [h]
          exact Books.Grown.refl _

theorem Did.grown (h : Did flows w w') :
    Books.Grown (w.decisions flows) w.journal.books w'.journal.books := by
  rw [h.books, decisions, Core.decisions_of_passes h.passes]
  exact Books.grown_allowAll _ _ flows

/-- Flows that stop are decided up to the one that stopped them. -/
theorem Stopped.grown (h : Stopped flows w w' failure) :
    Books.Grown (w.decisions flows) w.journal.books w'.journal.books := by
  obtain ⟨done, flow, rest, v, rfl, hdid, hfails⟩ := h
  have hattempt : v.core.attempt flow = .error failure := by
    have hanswer : (decide flow v).1 = .error failure := congrArg Prod.fst hfails
    rw [decide_fst] at hanswer
    exact map_eq_error_iff.mp hanswer
  have hlast := grown_decide flow v
  have hdone := hdid.grown
  rw [decisions, Core.decisions_of_passes hdid.passes] at hdone
  rw [hfails, decisions, ← Core.decisions_of_error hattempt rest, hdid.surroundings.context,
    hdid.surroundings.requestId, hdid.core] at hlast
  rw [decisions, Core.decisions_append hdid.passes]
  exact hdone.trans hlast

theorem Stopped.surroundings (h : Stopped flows w w' failure) : SameSurroundings w' w := by
  obtain ⟨done, flow, rest, v, -, hdid, hfails⟩ := h
  have hlast := decide_surroundings flow v
  rw [hfails] at hlast
  exact hlast.trans hdid.surroundings

/-- The books do not depend on how a transaction ends, but for the commits. -/
theorem grown_conclude (w : World) : Books.Grown [] w.journal.books w.conclude.journal.books := by
  unfold conclude
  by_cases hlast : w.core.depth - 1 = 0
  · simp only [hlast, if_true]
    exact Books.Grown.commit _ _
  · simp only [hlast, if_false]
    exact Books.Grown.refl _

theorem conclude_context (w : World) : w.conclude.journal.context = w.journal.context := by
  unfold conclude
  by_cases hlast : w.core.depth - 1 = 0
  · simp only [hlast, if_true]
  · simp only [hlast, if_false]

end World

namespace Call

/-- The decisions that a call makes. An application decides about its flows up to the first one that
fails, and a failure takes none of these decisions back. -/
def decisions (w : World) : Call → List Decision
  | .flow f => w.decisions [f]
  | .apply d caller =>
    match d.manifest w.settings with
    | .error _ => []
    | .ok m =>
      match Plan.of w.core.store w.core.version m with
      | .error _ => []
      | .ok p => w.opened.decisions (applicationFlows p m caller w.opened.core)
  | _ => []

end Call

namespace Journal

/-- A journal in which something was logged: its books and its ambient fields are as they were. -/
structure Noted (j j' : Journal) : Prop where
  books : j'.books = j.books
  context : j'.context = j.context

variable {j j' : Journal}

theorem noted_warn (j : Journal) (warnings : List Fields) : Noted j (j.warn warnings) := by
  unfold warn
  induction warnings generalizing j with
  | nil => exact ⟨rfl, rfl⟩
  | cons warning rest ih => exact ⟨(ih _).books, (ih _).context⟩

theorem noted_configuration (path : String) (documents : Documents) (j : Journal) :
    Noted j (World.configuration path documents j).2 := by
  unfold World.configuration
  cases documents.at? path <;> exact ⟨rfl, rfl⟩

theorem Noted.refl (j : Journal) : Noted j j := ⟨rfl, rfl⟩

theorem Noted.trans {j'' : Journal} (h : Noted j j') (h' : Noted j' j'') : Noted j j'' :=
  ⟨h'.books.trans h.books, h'.context.trans h.context⟩

theorem Noted.grown (h : Noted j j') : Books.Grown [] j.books j'.books := by
  rw [h.books]
  exact Books.Grown.refl _

end Journal

namespace World

variable {w : World} {m : Manifest} {caller : Int}

/-- Reading the configuration again is logged. -/
theorem noted_reload (w : World) : w.journal.Noted (reload w).2.journal := by
  have hread := Journal.noted_configuration w.securityPath w.documents w.journal
  unfold reload
  generalize configuration w.securityPath w.documents w.journal = read at hread
  obtain ⟨outcome, journal⟩ := read
  cases outcome with
  | error failure => exact hread
  | ok config => exact hread.trans (Journal.noted_warn _ _)

/-- Planning is logged. -/
theorem noted_plan (m : Manifest) (w : World) : w.journal.Noted (plan m w).2.journal := by
  unfold plan
  cases Plan.of w.core.store w.core.version m <;> exact ⟨rfl, rfl⟩

/-- A fresh world has the books and the ambient fields of the journal that it is given. -/
theorem noted_create {journal : Journal} {settings : Except Failure Settings} {space path : String}
    {documents : Documents} (h : create journal settings space path documents = .ok w) :
    journal.Noted w.journal := by
  have hread := Journal.noted_configuration path documents journal
  unfold create at h
  obtain ⟨config, -, rfl⟩ := map_eq_ok_iff.mp h
  exact hread.trans (Journal.noted_warn _ _)

/-- An application that can be planned decides about its flows, and leaves the ambient fields. -/
theorem grown_apply (m : Manifest) (caller : Int) (w : World) :
    Books.Grown
      (match Plan.of w.core.store w.core.version m with
        | .error _ => []
        | .ok p => w.opened.decisions (applicationFlows p m caller w.opened.core))
      w.journal.books (apply m caller w).2.journal.books ∧
    (apply m caller w).2.journal.context = w.journal.context := by
  cases happly : apply m caller w with
  | mk outcome w' =>
      cases outcome with
      | ok p =>
          obtain ⟨hof, last, hdid, rfl⟩ := apply_did happly
          rw [hof]
          have hgrown := hdid.grown.trans (grown_conclude last)
          rw [List.append_nil] at hgrown
          exact ⟨hgrown, (conclude_context last).trans hdid.surroundings.context⟩
      | error failure =>
          obtain ⟨last, rfl, ⟨hof, rfl⟩ | ⟨p, hof, hstopped⟩⟩ := apply_stopped happly
          · rw [hof]
            exact ⟨Books.Grown.refl _, rfl⟩
          · rw [hof]
            exact ⟨hstopped.grown, hstopped.surroundings.context⟩

end World

namespace Context

/-- Setting ambient fields keeps their names distinct. -/
theorem nodup_set {c : Context} (distinct : c.keys.Nodup) (name : String) (value : Value) :
    (c.set name value).keys.Nodup := by
  cases value with
  | null => exact Table.nodup_keys_erase distinct name
  | _ => exact Table.nodup_keys_put distinct name _

theorem nodup_update {c : Context} (distinct : c.keys.Nodup) (fields : Fields) :
    (c.update fields).keys.Nodup := by
  unfold update
  induction fields generalizing c with
  | nil => exact distinct
  | cons field rest ih => exact ih (nodup_set distinct field.1 field.2)

/-- A change of the ambient fields: some are set or removed, or all are forgotten. -/
inductive Edit where
  | update (fields : Fields)
  | clear

/-- The context after a change. -/
def Edit.apply (c : Context) : Edit → Context
  | .update fields => c.update fields
  | .clear => .empty

/-- The context after several changes, in order. -/
def edited (c : Context) (edits : List Edit) : Context := edits.foldl Edit.apply c

theorem edited_append (c : Context) (edits later : List Edit) :
    c.edited (edits ++ later) = (c.edited edits).edited later :=
  List.foldl_append

theorem nodup_edited {c : Context} (distinct : c.keys.Nodup) (edits : List Edit) :
    (c.edited edits).keys.Nodup := by
  induction edits generalizing c with
  | nil => exact distinct
  | cons edit rest ih =>
      cases edit with
      | update fields => exact ih (nodup_update distinct fields)
      | clear => exact ih List.nodup_nil

end Context

namespace Call

variable {w : World}

theorem noted_run_plan (d : Declaration) (w : World) : w.journal.Noted (run (.plan d) w).2.journal := by
  have hrun : (run (.plan d) w).2 = _ := declared_snd d World.plan w
  rw [hrun]
  cases d.manifest w.settings with
  | error failure => exact Journal.Noted.refl _
  | ok m => exact World.noted_plan m w

theorem noted_run_register (r : Registration) (w : World) :
    w.journal.Noted (run (.register r) w).2.journal :=
  Journal.noted_warn _ _

theorem noted_run_reload (w : World) : w.journal.Noted (run .reload w).2.journal := World.noted_reload w

/-- The books grow by the decisions that a call makes. -/
theorem grown (c : Call) (w : World) :
    Books.Grown (c.decisions w) w.journal.books (c.run w).2.journal.books := by
  cases c with
  | flow f => exact World.grown_decide f w
  | apply d caller =>
      have hrun : (run (.apply d caller) w).2 = _ := declared_snd d (fun m => World.apply m caller) w
      rw [hrun, decisions]
      cases d.manifest w.settings with
      | error failure => exact Books.Grown.refl _
      | ok m => exact (World.grown_apply m caller w).1
  | plan d => exact (noted_run_plan d w).grown
  | register r => exact (noted_run_register r w).grown
  | reload => exact (noted_run_reload w).grown
  | _ => exact Books.Grown.refl _

/-- What a call does to the ambient fields. Only three kinds of calls do anything to them. -/
def edits : Call → List Context.Edit
  | .setRequest id => [.update [("request_id", id), ("correlation_id", id)]]
  | .updateContext fields => [.update fields]
  | .clearContext => [.clear]
  | _ => []

/-- The ambient fields after a call are what the call makes of those before. -/
theorem run_context (c : Call) (w : World) :
    (c.run w).2.journal.context = w.journal.context.edited c.edits := by
  cases c with
  | flow f => exact (World.decide_surroundings f w).context
  | apply d caller =>
      have hrun : (run (.apply d caller) w).2 = _ := declared_snd d (fun m => World.apply m caller) w
      rw [hrun]
      cases d.manifest w.settings with
      | error failure => rfl
      | ok m => exact (World.grown_apply m caller w).2
  | plan d => exact (noted_run_plan d w).context
  | register r => exact (noted_run_register r w).context
  | reload => exact (noted_run_reload w).context
  | _ => rfl

/-- Calls keep the names of the ambient fields distinct. -/
theorem run_distinct (distinct : w.journal.context.keys.Nodup) (c : Call) :
    (c.run w).2.journal.context.keys.Nodup := by
  rw [run_context]
  exact Context.nodup_edited distinct c.edits

end Call

namespace World

variable {w w' : World} {flows : List Flow} {failure : Failure}

/-- The changes that are counted as commits, and those that wait for the end of a transaction. -/
def owed (w : World) : Nat := w.journal.metrics.commits + w.core.pending

/-- A flow is owed the change that it makes. -/
theorem owed_decide (flow : Flow) (w : World) :
    (decide flow w).2.owed = w.owed + (w.core.commits flow).length := by
  cases h : w.core.attempt flow with
  | error failure =>
      have hcore : (decide flow w).2.core = w.core := by rw [decide_core, Core.after_of_error h]
      have hcommits : (decide flow w).2.journal.metrics.commits = w.journal.metrics.commits := by
        unfold decide
        rw [h]
        cases failure <;> rfl
      rw [owed, hcore, hcommits, Core.commits, h]
      rfl
  | ok effect =>
      have hmetrics : (decide flow w).2.journal.metrics.commits =
          w.journal.metrics.commits + commitsAtOnce w.core flow.mutates :=
        congrArg (·.metrics.commits) (decide_books_of_ok h)
      rw [owed, hmetrics, decide_core, Core.after_of_ok h, Core.commits, h, owed]
      unfold commitsAtOnce commitTo
      cases flow.mutates with
      | false => rfl
      | true =>
          by_cases hdepth : w.core.depth = 0
          · simp [hdepth]
            omega
          · simp [hdepth]
            omega

/-- Inside of a transaction, flows count no commits. -/
theorem commits_decide_inside (inside : w.core.depth ≠ 0) (flow : Flow) :
    (decide flow w).2.journal.metrics.commits = w.journal.metrics.commits := by
  have howed := owed_decide flow w
  rw [owed, owed, decide_core, Core.after_pending_inside inside] at howed
  omega

theorem Did.commits_inside (h : Did flows w w') (inside : w.core.depth ≠ 0) :
    w'.journal.metrics.commits = w.journal.metrics.commits := by
  have hmetrics : w'.journal.metrics = _ := congrArg Books.metrics h.books
  rw [hmetrics]
  exact Books.commits_allowAll_inside inside w.journal.books flows

theorem Stopped.commits_inside (h : Stopped flows w w' failure) (inside : w.core.depth ≠ 0) :
    w'.journal.metrics.commits = w.journal.metrics.commits := by
  obtain ⟨done, flow, rest, v, -, hdid, hfails⟩ := h
  have hinside : v.core.depth ≠ 0 := by rwa [hdid.core, Core.afterAll_depth]
  have hlast := commits_decide_inside hinside flow
  rw [hfails] at hlast
  exact hlast.trans (hdid.commits_inside inside)

/-- The outermost transaction counts what waited for its end, and no other one counts anything. -/
theorem owed_conclude (w : World) : w.conclude.owed = w.owed := by
  unfold conclude owed
  by_cases hlast : w.core.depth - 1 = 0
  · simp only [hlast, if_true]
    rfl
  · simp only [hlast, if_false]

theorem commits_conclude_inside (inside : w.core.depth - 1 ≠ 0) :
    w.conclude.journal.metrics.commits = w.journal.metrics.commits := by
  unfold conclude
  simp only [inside, if_false]

end World

namespace Call

open World (owed)

variable {w : World}

/-- An application is owed the changes of its flows if it succeeds, and else none. Inside of a
transaction it counts no commits. -/
theorem owed_apply (m : Manifest) (caller : Int) (w : World) :
    (World.apply m caller w).2.owed = w.owed + (w.core.commitsAll
      (match (World.apply m caller w).1 with
        | .ok p => applicationFlows p m caller w.opened.core
        | .error _ => [])).length ∧
    (w.core.depth ≠ 0 →
      (World.apply m caller w).2.journal.metrics.commits = w.journal.metrics.commits) := by
  have hinside : w.opened.core.depth ≠ 0 := Nat.succ_ne_zero w.core.depth
  cases happly : World.apply m caller w with
  | mk outcome w' =>
      cases outcome with
      | ok p =>
          have hpasses := (World.apply_eq_ok happly).2.1
          obtain ⟨-, last, hdid, rfl⟩ := World.apply_did happly
          have hcommits := hdid.commits_inside hinside
          have hcount : (w.core.commitsAll (applicationFlows p m caller w.opened.core)).length =
              (w.opened.core.commitsAll (applicationFlows p m caller w.opened.core)).length := by
            rw [Core.commitsAll_length_of_passes hpasses, Core.commitsAll_length_of_passes hdid.passes]
          have hpending : last.core.pending = _ := hdid.core ▸ Core.afterAll_pending_inside hinside _
          have howed : last.conclude.noteApplied.owed = last.owed := World.owed_conclude last
          have hdepth : last.core.depth - 1 = w.core.depth := by
            rw [hdid.core, Core.afterAll_depth]
            rfl
          refine ⟨?_, fun hnested => ?_⟩
          · rw [howed, owed, hcommits, hpending, hcount, ← Nat.add_assoc]
            rfl
          · have hstill := World.commits_conclude_inside (hdepth.symm ▸ hnested)
            exact hstill.trans hcommits
      | error failure =>
          have hcommits : w'.journal.metrics.commits = w.journal.metrics.commits := by
            obtain ⟨last, rfl, ⟨-, rfl⟩ | ⟨p, -, hstopped⟩⟩ := World.apply_stopped happly
            · rfl
            · exact hstopped.commits_inside hinside
          have hpending : w'.core.pending = w.core.pending := by
            obtain ⟨last, rfl, -⟩ := World.apply_stopped happly
            rfl
          refine ⟨?_, fun _ => hcommits⟩
          rw [owed, hcommits, hpending]
          rfl

/-- A call that only logs is owed nothing. -/
theorem owed_of_noted {c : Call} (noted : w.journal.Noted (c.run w).2.journal)
    (pending : (c.run w).2.core.pending = w.core.pending) (none : c.commits w = []) :
    (c.run w).2.owed = w.owed + (c.commits w).length ∧
      (w.core.depth ≠ 0 → (c.run w).2.journal.metrics.commits = w.journal.metrics.commits) := by
  have hcommits : (c.run w).2.journal.metrics.commits = w.journal.metrics.commits :=
    congrArg (·.metrics.commits) noted.books
  refine ⟨?_, fun _ => hcommits⟩
  rw [owed, hcommits, pending, none]
  rfl

/-- Calls are owed the changes that they make, and inside of a transaction they count no commits. -/
theorem owed_run (c : Call) (w : World) : (c.run w).2.owed = w.owed + (c.commits w).length ∧
    (w.core.depth ≠ 0 → (c.run w).2.journal.metrics.commits = w.journal.metrics.commits) := by
  cases c with
  | flow f =>
      refine ⟨?_, fun hinside => World.commits_decide_inside hinside f⟩
      have hcommits : commits w (.flow f) = w.core.commits f := List.append_nil _
      rw [hcommits]
      exact World.owed_decide f w
  | apply d caller =>
      have hrun : (run (.apply d caller) w).2 = _ := declared_snd d (fun m => World.apply m caller) w
      rw [hrun, commits, flows]
      cases d.manifest w.settings with
      | error failure => exact ⟨rfl, fun _ => rfl⟩
      | ok m => exact owed_apply m caller w
  | plan d =>
      refine owed_of_noted (noted_run_plan d w) ?_ rfl
      have hrun : (run (.plan d) w).2 = _ := declared_snd d World.plan w
      rw [hrun]
      cases d.manifest w.settings with
      | error failure => rfl
      | ok m =>
          simp only [World.plan]
          cases Plan.of w.core.store w.core.version m <;> rfl
  | register r => exact owed_of_noted (noted_run_register r w) rfl rfl
  | reload =>
      refine owed_of_noted (noted_run_reload w) ?_ rfl
      simp only [run, silent, World.reload]
      cases (World.configuration w.securityPath w.documents w.journal).1 <;> rfl
  | _ => exact ⟨rfl, fun _ => rfl⟩

end Call

end OwnershipRegistry
