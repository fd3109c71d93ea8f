import OwnershipRegistry.Journal.Basic

/-! # Steps of a journal

A journal is used in steps: denials are recorded and listed, ambient fields are set and read,
and flows scope the steps inside them. Whatever happens inside a flow, the ambient fields are
the same after it as before; the request and the recorded denials stay. -/

namespace OwnershipRegistry

/-- A step of a journal. -/
inductive JournalStep where
  | deny (event message : String) (details : Value)
  | denials
  | forgetDenials
  | setRequest (id : Value)
  | request
  | context
  | updateContext (fields : Fields)
  | clearContext
  | flow (name : String) (caller : Value) (body : List JournalStep)
deriving Inhabited

/-- What happened in a step: its outcome, the ambient fields afterwards, and for a flow the
traces of the steps inside. -/
inductive JournalTrace where
  | of (outcome : Except Failure Value) (context : Context) (inner : Option (List JournalTrace))

/-- The caller of a flow, if it is one. -/
def flowCaller : Value → Except Failure (Option Int)
  | .null => .ok none
  | .int n => .ok (some n)
  | .bool b => .ok (some (if b then 1 else 0))
  | _ => .error .wrongShape

namespace JournalStep

/-- A step that is done and answers. -/
def done (answer : Value) (after : Journal) : JournalTrace × Journal :=
  (.of (.ok answer) after.context none, after)

mutual

/-- Run a step. A flow answers the ambient fields at its start. -/
def run : JournalStep → Journal → JournalTrace × Journal
  | .deny event message details, j =>
    let after := j.deny event message details
    done (.int after.denials.entries.length) after
  | .denials, j => done (DenialBuffer.listing j.denials.entries) j
  | .forgetDenials, j => done .null { j with denials := j.denials.clear }
  | .setRequest id, j => done .null (j.setRequest id)
  | .request, j => done j.requestId j
  | .context, j => done (.ofFields j.context.entries) j
  | .updateContext fields, j => done .null (j.update fields)
  | .clearContext, j => done .null j.clearContext
  | .flow name caller body, j =>
    match flowCaller caller with
    | .error failure => (.of (.error failure) j.context none, j)
    | .ok caller =>
      let ambient := (j.enter name caller).context
      let (traces, after) := Journal.within name caller (runEach body) j
      (.of (.ok (.ofFields ambient.entries)) after.context (some traces), after)

/-- Run steps one after the other, whatever becomes of each. -/
def runEach : List JournalStep → Journal → List JournalTrace × Journal
  | [], j => ([], j)
  | step :: rest, j =>
    let (trace, after) := run step j
    let (traces, last) := runEach rest after
    (trace :: traces, last)

end

end JournalStep

end OwnershipRegistry
