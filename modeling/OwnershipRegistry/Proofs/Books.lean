import OwnershipRegistry.Proofs.Commit
import OwnershipRegistry.Proofs.Table

/-!
# The books

What a journal keeps of the flows that were requested: the counters and the
recent denials. A flow that is let through is counted, and one that is denied
is counted and recorded. The log is no part of the books.
-/

namespace OwnershipRegistry

/-- The counters and the recent denials. -/
structure Books where
  metrics : Metrics
  denials : DenialBuffer

/-- The books of a journal. -/
def Journal.books (j : Journal) : Books := ⟨j.metrics, j.denials⟩

/-- The entry for a flow that was denied, with the ambient context and the request. -/
def Denial.entry (denial : Denial) (context : Context) (request : Value) (flow : Flow) : Context :=
  DenialBuffer.entry (context.enter flow.name flow.caller?) request denial.kind denial.message
    (.ofFields (denial.shownDetails.map fun d => (d.1, .str d.2)))

namespace Metrics

/-- The decisions about the flows of a name. -/
def tally (m : Metrics) (name : String) : Tally := (m.decisions.get? name).getD {}

theorem tally_decide (m : Metrics) (flow name : String) (verdict : Verdict) (kind : Option String) :
    (m.decide flow verdict kind).tally name =
      if name = flow then (m.tally name).add verdict else m.tally name := by
  unfold tally decide
  rw [Table.get?_put]
  by_cases hname : name = flow
  · rw [if_pos hname, if_pos hname, hname]
    rfl
  · rw [if_neg hname, if_neg hname]

end Metrics

namespace Books

/-- The books after a flow was let through, with the commits that it counted at once. -/
def allow (b : Books) (commits : Nat) (flow : Flow) : Books :=
  { b with metrics := (b.metrics.commit commits).decide flow.name .allow none }

/-- The books after a flow was denied, with the ambient context and the request. -/
def deny (b : Books) (context : Context) (request : Value) (flow : Flow) (denial : Denial) : Books where
  metrics := b.metrics.decide flow.name .deny (some denial.kind)
  denials := b.denials.push (denial.entry context request flow)

/-- The books after several flows were let through in a core. -/
def allowAll (b : Books) (core : Core) (flows : List Flow) : Books :=
  flows.foldl (fun b flow => b.allow (World.commitsAtOnce core flow.mutates) flow) b

variable {b : Books} {core other : Core} {flows more : List Flow}

theorem allowAll_append (b : Books) (core : Core) (flows more : List Flow) :
    b.allowAll core (flows ++ more) = (b.allowAll core flows).allowAll core more :=
  List.foldl_append

/-- How many commits are counted at once depends on the transactions alone. -/
theorem allowAll_congr (same : core.depth = other.depth) : b.allowAll core flows = b.allowAll other flows := by
  unfold allowAll World.commitsAtOnce
  rw [same]

theorem allowAll_denials (b : Books) (core : Core) (flows : List Flow) :
    (b.allowAll core flows).denials = b.denials := by
  induction flows generalizing b with
  | nil => rfl
  | cons flow rest ih => exact ih _

/-- Every flow that was let through is counted once under its name. -/
theorem tally_allowAll (b : Books) (core : Core) (flows : List Flow) (name : String) :
    (b.allowAll core flows).metrics.tally name =
      ⟨(b.metrics.tally name).allow + flows.countP (·.name = name), (b.metrics.tally name).deny⟩ := by
  induction flows generalizing b with
  | nil => rfl
  | cons flow rest ih =>
      have hrest := ih (b.allow (World.commitsAtOnce core flow.mutates) flow)
      have hfirst : (b.allow (World.commitsAtOnce core flow.mutates) flow).metrics.tally name =
          if name = flow.name then (b.metrics.tally name).add .allow else b.metrics.tally name :=
        Metrics.tally_decide _ flow.name name .allow none
      rw [hfirst] at hrest
      refine hrest.trans ?_
      rw [List.countP_cons]
      by_cases hname : name = flow.name
      · subst hname
        simp only [if_true, Tally.add, decide_true, Tally.mk.injEq, and_true]
        omega
      · simp [hname, Ne.symm hname]

/-- Inside of a transaction no commits are counted. -/
theorem commits_allowAll_inside (inside : core.depth ≠ 0) (b : Books) (flows : List Flow) :
    (b.allowAll core flows).metrics.commits = b.metrics.commits := by
  induction flows generalizing b with
  | nil => rfl
  | cons flow rest ih =>
      have hnone : World.commitsAtOnce core flow.mutates = 0 := by simp [World.commitsAtOnce, inside]
      refine (ih (b.allow (World.commitsAtOnce core flow.mutates) flow)).trans ?_
      rw [hnone]
      rfl

end Books

namespace Journal

/-- Writing to the log leaves the books, the context and the request as they are. -/
theorem noteAll_books (j : Journal) (notices : List Notice) :
    (j.noteAll notices).books = j.books ∧ (j.noteAll notices).requestId = j.requestId := by
  unfold noteAll
  induction notices generalizing j with
  | nil => exact ⟨rfl, rfl⟩
  | cons notice rest ih => exact ih _

end Journal

namespace World

/-- Worlds whose journals stand in the same surroundings: their entries are made alike. -/
structure SameSurroundings (w v : World) : Prop where
  context : w.journal.context = v.journal.context
  requestId : w.journal.requestId = v.journal.requestId

variable {u v w : World} {flow : Flow}

theorem SameSurroundings.refl (w : World) : SameSurroundings w w := ⟨rfl, rfl⟩

theorem SameSurroundings.trans (h : SameSurroundings u v) (h' : SameSurroundings v w) :
    SameSurroundings u w :=
  ⟨h.context.trans h'.context, h.requestId.trans h'.requestId⟩

/-- A request leaves the surroundings as they are. -/
theorem decide_surroundings (flow : Flow) (w : World) : SameSurroundings (decide flow w).2 w := by
  unfold decide
  cases h : w.core.attempt flow with
  | error failure =>
      cases failure with
      | denied denial => exact ⟨rfl, rfl⟩
      | _ => exact ⟨rfl, rfl⟩
  | ok effect =>
      have hnotes := (w.journal.enter flow.name flow.caller?).noteAll_books effect.notices
      exact ⟨rfl, hnotes.2⟩

/-- A flow that is let through is counted. -/
theorem decide_books_of_ok {effect : Effect} (h : w.core.attempt flow = .ok effect) :
    (decide flow w).2.journal.books =
      w.journal.books.allow (commitsAtOnce w.core flow.mutates) flow := by
  unfold decide
  rw [h]
  have hnotes := ((w.journal.enter flow.name flow.caller?).noteAll_books effect.notices).1
  obtain ⟨hmetrics, hdenials⟩ := Books.mk.inj hnotes
  simp only [journalAllowance, Journal.books, Journal.leave, Journal.noteEvent, Journal.note, Books.allow]
  rw [hmetrics, hdenials]
  rfl

/-- A flow that is denied is counted and recorded. -/
theorem decide_books_of_denied {denial : Denial} (h : w.core.attempt flow = .error (.denied denial)) :
    (decide flow w).2.journal.books =
      w.journal.books.deny w.journal.context w.journal.requestId flow denial := by
  unfold decide
  rw [h]
  rfl

end World

end OwnershipRegistry
