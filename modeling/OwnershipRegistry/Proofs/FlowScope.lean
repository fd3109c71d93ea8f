import OwnershipRegistry.Journal.Step
import OwnershipRegistry.Proofs.Outcome

/-!
# The scope of a flow

A block tags what is logged inside of it with a flow and its caller. It keeps
the ambient fields that it found and puts them back when it is left, by
returning or by a failure. So what happens inside, in further blocks or
outside of them, cannot be seen in the ambient fields afterwards; inside, a
block changes them by its own steps alone. A request of a flow is such a block.
-/

namespace OwnershipRegistry

namespace Context

variable {ambient inside : Context}

/-- The context at the start of a block: it names the flow and its caller in hexadecimal, or no caller
if there is none. All other fields are the ambient ones. -/
structure Tagged (flow : String) (caller : Option Int) (ambient inside : Context) : Prop where
  flowNamed : inside.get? "flow" = some (.str flow)
  callerNamed : inside.get? "caller" = caller.map fun n => .str (Numeral.hex n)
  others : ∀ name, name ≠ "flow" → name ≠ "caller" → inside.get? name = ambient.get? name

theorem tagged_enter (flow : String) (caller : Option Int) (ambient : Context) :
    Tagged flow caller ambient (ambient.enter flow caller) where
  flowNamed := enter_flow ambient flow caller
  callerNamed := enter_caller ambient flow caller
  others _ notFlow notCaller := enter_of_ne ambient flow caller notFlow notCaller

end Context

/-- The outcome of a step of a journal. -/
def JournalTrace.outcome : JournalTrace → Except Failure Value
  | .of outcome _ _ => outcome

namespace JournalStep

/-- What a step of a journal does to the ambient fields. A flow does nothing to them. -/
def edits : JournalStep → List Context.Edit
  | .setRequest id => [.update [("request_id", id), ("correlation_id", id)]]
  | .updateContext fields => [.update fields]
  | .clearContext => [.clear]
  | _ => []

theorem run_context (step : JournalStep) (j : Journal) :
    (step.run j).2.context = j.context.edited step.edits := by
  cases step with
  | flow name caller body =>
      rw [run]
      cases flowCaller caller with
      | error failure => rfl
      | ok caller => exact Journal.within_context name caller (runEach body) j
  | _ => rfl

end JournalStep

namespace World

variable {α : Type}

/-- A world at the start of a block. -/
def entered (w : World) (flow : String) (caller : Option Int) : World :=
  { w with journal := w.journal.enter flow caller }

/-- Run a request inside of a block. The block ends as the request does, and puts the context back. -/
def inFlow (flow : String) (caller : Option Int) (body : Request α) : Request α := fun w =>
  let (outcome, after) := body (w.entered flow caller)
  (outcome, { after with journal := after.journal.leave w.journal.context })

@[simp] theorem inFlow_context (flow : String) (caller : Option Int) (body : Request α) (w : World) :
    (inFlow flow caller body w).2.journal.context = w.journal.context := rfl

/-- What the request of a flow does inside of its block. -/
def decideInside (flow : Flow) : Request Answer := fun w =>
  match w.core.attempt flow with
  | .error (.denied denial) =>
    (.error (.denied denial), { w with journal := journalDenial w.journal flow w.core.version denial })
  | .error failure => (.error failure, w)
  | .ok effect =>
    let core := commitTo w.core effect.store flow.mutates
    (.ok effect.answer,
      { w with
        core
        journal := journalAllowance (w.journal.noteAll effect.notices) flow core.version
          (commitsAtOnce w.core flow.mutates) })

/-- The request of a flow is a block that is tagged with it. -/
theorem decide_eq_inFlow (flow : Flow) : decide flow = inFlow flow.name flow.caller? (decideInside flow) := by
  funext w
  have hcore : (w.entered flow.name flow.caller?).core = w.core := rfl
  simp only [decide, inFlow, decideInside, hcore]
  cases w.core.attempt flow with
  | error failure => cases failure <;> rfl
  | ok effect => rfl

end World

/-- What can happen around and inside of blocks: calls, steps of the journal, and bodies whose failure
goes no further, that are undone by one, or that are a block. -/
inductive Activity where
  | call (call : Call)
  | journal (step : JournalStep)
  | attempt (body : List Activity)
  | transaction (body : List Activity)
  | block (flow : String) (caller : Option Int) (body : List Activity)

namespace Activity

mutual

/-- Run an activity. -/
def run : Activity → Request Unit
  | .call c, w =>
    let (outcome, after) := c.run w
    (outcome.map fun _ => (), after)
  | .journal step, w =>
    let (trace, after) := step.run w.journal
    (trace.outcome.map fun _ => (), { w with journal := after })
  | .attempt body, w => (.ok (), (runAll body w).2)
  | .transaction body, w => World.transaction (runAll body) w
  | .block flow caller body, w => World.inFlow flow caller (runAll body) w

/-- Run the activities of a body up to the first one that fails. -/
def runAll : List Activity → Request Unit
  | [], w => (.ok (), w)
  | activity :: rest, w =>
    match run activity w with
    | (.ok _, after) => runAll rest after
    | (.error failure, after) => (.error failure, after)

end

mutual

/-- What an activity does to the ambient fields by its own steps, up to where it stops. The steps
inside of blocks are not among them. -/
def edits : Activity → World → List Context.Edit
  | .call c, _ => c.edits
  | .journal step, _ => step.edits
  | .attempt body, w => editsAll body w
  | .transaction body, w => editsAll body w.opened
  | .block .., _ => []

/-- What a body does to the ambient fields by its own steps. -/
def editsAll : List Activity → World → List Context.Edit
  | [], _ => []
  | activity :: rest, w =>
    edits activity w ++
      match run activity w with
      | (.ok _, after) => editsAll rest after
      | (.error _, _) => []

end

end Activity

namespace World

variable {α : Type}

/-- The end of a transaction leaves the ambient fields, whether it is undone or not. -/
theorem close_context (before after : World) (failure : Option Failure) :
    (close before after failure).journal.context = after.journal.context := by
  cases failure with
  | none => exact conclude_context after
  | some failure => rfl

theorem transaction_context (body : Request α) (w : World) :
    (transaction body w).2.journal.context = (body w.opened).2.journal.context := by
  unfold transaction
  cases hbody : body w.opened with
  | mk outcome after => cases outcome <;> exact close_context w after _

end World

namespace Activity

mutual

/-- The ambient fields after an activity are what its own steps make of those before. -/
theorem run_context : ∀ (activity : Activity) (w : World),
    (activity.run w).2.journal.context = w.journal.context.edited (activity.edits w)
  | .call c, w => by
      rw [run, edits]
      exact c.run_context w
  | .journal step, w => by
      rw [run, edits]
      exact step.run_context w.journal
  | .attempt body, w => by
      rw [run, edits]
      exact runAll_context body w
  | .transaction body, w => by
      rw [run, edits, World.transaction_context]
      exact runAll_context body w.opened
  | .block flow caller body, w => by
      rw [run, edits]
      exact World.inFlow_context flow caller (runAll body) w

theorem runAll_context : ∀ (body : List Activity) (w : World),
    (runAll body w).2.journal.context = w.journal.context.edited (editsAll body w)
  | [], w => by
      rw [runAll, editsAll]
      rfl
  | activity :: rest, w => by
      have hfirst := run_context activity w
      rw [runAll, editsAll, Context.edited_append, ← hfirst]
      cases hrun : activity.run w with
      | mk outcome after =>
          cases outcome with
          | ok _ => exact runAll_context rest after
          | error failure => rfl

end

/-- A block of any activities starts with the ambient fields tagged by its flow and caller, and inside of
it they change by the own steps of its body alone. It ends as its body does, with all that the body
left but for the ambient fields: those are again what they were before the block. So every request of
a flow, being such a block, leaves the ambient fields and the request however it ends. -/
theorem block_restores (flow : String) (caller : Option Int) (body : List Activity) (w : World) :
    let inside := w.entered flow caller
    let (outcome, last) := runAll body inside
    let ended := run (.block flow caller body) w
    Context.Tagged flow caller w.journal.context inside.journal.context ∧
      last.journal.context = inside.journal.context.edited (editsAll body inside) ∧
      ended = (outcome, { last with journal := { last.journal with context := w.journal.context } }) ∧
      ended.2.journal.context = w.journal.context ∧
      ∀ (f : Flow) (v : World), World.decide f v = World.inFlow f.name f.caller? (World.decideInside f) v ∧
        World.SameSurroundings (World.decide f v).2 v := by
  refine ⟨Context.tagged_enter flow caller w.journal.context, runAll_context body _, ?_, ?_, fun f v => ⟨?_, ?_⟩⟩
  · rw [run]
    rfl
  · rw [run]
    exact World.inFlow_context flow caller (runAll body) w
  · rw [World.decide_eq_inFlow]
  · exact World.decide_surroundings f v

end Activity

end OwnershipRegistry
