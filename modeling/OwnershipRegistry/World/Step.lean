import OwnershipRegistry.World.Application
import OwnershipRegistry.World.Query

/-! # Steps

A world is used in steps: single calls, and transactions around further steps. A failure inside
a transaction leaves it and undoes it, unless the failing step is an attempt, whose failure goes
no further. Running a step gives its trace, which has an entry for every step that ran. -/

namespace OwnershipRegistry

/-- A manifest as it is handed over: a record of its fields, or a document. -/
inductive Declaration where
  | record (fields : Value)
  | document (contents : Contents)

/-- The manifest that is declared. -/
def Declaration.manifest (settings : Except Failure Settings) : Declaration → Except Failure Manifest
  | .record fields => Manifest.ofValue fields
  | .document contents => contents.bind (Manifest.ofDocument settings)

/-- A single call. -/
inductive Call where
  | flow (flow : Flow)
  | query (query : Query)
  | register (registration : Registration)
  | plan (declaration : Declaration)
  | apply (declaration : Declaration) (caller : Int)
  | reload
  /-- Replace a document, or remove it. -/
  | write (path : String) (contents : Option Contents)
  | setRequest (id : Value)
  | updateContext (fields : Fields)
  | clearContext
  /-- Take the records out of the log. -/
  | drain
  /-- A failure between requests. -/
  | raise (message : String)
deriving Inhabited

namespace Call

/-- A request that only touches the journal. -/
def onJournal (change : Journal → Journal) : Request Answer := fun w =>
  (.ok .nothing, { w with journal := change w.journal })

/-- A request for a declared manifest. -/
def declared (declaration : Declaration) (request : Manifest → Request Plan) : Request Answer := fun w =>
  match declaration.manifest w.settings with
  | .error failure => (.error failure, w)
  | .ok m =>
    let (outcome, after) := request m w
    (outcome.map .plan, after)

/-- A request whose answer says nothing. -/
def silent (request : Request Unit) : Request Answer := fun w =>
  let (outcome, after) := request w
  (outcome.map fun _ => .nothing, after)

/-- What a call does. -/
def run : Call → Request Answer
  | .flow f => World.decide f
  | .query q => fun w => (q.answer w, w)
  | .register r => silent (World.registerCaller r)
  | .plan d => declared d World.plan
  | .apply d caller => declared d fun m => World.apply m caller
  | .reload => silent World.reload
  | .write path contents => fun w => (.ok .nothing, { w with documents := w.documents.write path contents })
  | .setRequest id => onJournal fun j => j.setRequest id
  | .updateContext fields => onJournal fun j => j.update fields
  | .clearContext => onJournal Journal.clearContext
  | .drain => fun w =>
    let (records, journal) := w.journal.drain
    (.ok (.records records), { w with journal })
  | .raise message => fun w => (.error (.raised message), w)

end Call

/-- A step. -/
inductive Step where
  | call (call : Call)
  /-- A step whose failure goes no further. -/
  | attempt (step : Step)
  | transaction (body : List Step)
deriving Inhabited

/-- What happened in a step: its outcome, the failure that goes on from it, the core afterwards,
and for a transaction the traces of the steps that ran inside. -/
inductive Trace where
  | of (outcome : Except Failure Answer) (escaping : Option Failure) (core : Core)
      (inner : Option (List Trace))

namespace Trace

/-- The outcome of a step. -/
def outcome : Trace → Except Failure Answer
  | .of outcome _ _ _ => outcome

/-- The failure that goes on from a step. -/
def escaping : Trace → Option Failure
  | .of _ escaping _ _ => escaping

/-- The core after a step. -/
def core : Trace → Core
  | .of _ _ core _ => core

/-- The traces inside a transaction. -/
def inner : Trace → Option (List Trace)
  | .of _ _ _ inner => inner

/-- A trace whose failure goes no further. -/
def contained : Trace → Trace
  | .of outcome _ core inner => .of outcome none core inner

end Trace

/-- The failure of an outcome. -/
def failure? {α : Type} : Except Failure α → Option Failure
  | .ok _ => none
  | .error failure => some failure

/-- The outcome of a transaction that a failure may have left. -/
def conclusion : Option Failure → Except Failure Answer
  | none => .ok .nothing
  | some failure => .error failure

namespace Step

mutual

/-- Run a step. -/
def run : Step → World → Trace × World
  | .call c, w =>
    let (outcome, after) := c.run w
    (.of outcome (failure? outcome) after.core none, after)
  | .attempt step, w =>
    let (trace, after) := run step w
    (trace.contained, after)
  | .transaction body, w =>
    let (traces, failure, last) := runAll body w.opened
    let after := World.close w last failure
    (.of (conclusion failure) failure after.core (some traces), after)

/-- Run steps up to the first one from which a failure goes on. -/
def runAll : List Step → World → List Trace × Option Failure × World
  | [], w => ([], none, w)
  | step :: rest, w =>
    let (trace, after) := run step w
    match trace.escaping with
    | some failure => ([trace], some failure, after)
    | none =>
      let (traces, failure, last) := runAll rest after
      (trace :: traces, failure, last)

end

/-- Run steps one after the other, whatever becomes of each. -/
def runEach : List Step → World → List Trace × World
  | [], w => ([], w)
  | step :: rest, w =>
    let (trace, after) := run step w
    let (traces, last) := runEach rest after
    (trace :: traces, last)

end Step

end OwnershipRegistry
