import OwnershipRegistry.Journal.Denials
import OwnershipRegistry.Journal.Exposition
import OwnershipRegistry.Journal.Record

/-! # The journal

Everything that is written down about requests and never decides one: the counters, the recent
denials, the log, and the ambient context with its request. -/

namespace OwnershipRegistry

/-- The journal of a process. -/
structure Journal where
  metrics : Metrics
  denials : DenialBuffer
  context : Context := .empty
  requestId : Value := .null
  log : List LogRecord := []

namespace Journal

/-- The capacity of the denial buffer, unless one is given. -/
def defaultCapacity : Nat := 200

/-- A journal in which nothing is written. -/
def fresh (mirrored : Bool) : Journal :=
  { metrics := .fresh mirrored, denials := ⟨defaultCapacity, []⟩ }

/-- Log a message with the ambient context. -/
def note (j : Journal) (level : Level) (logger : String) (message : Value) (arguments : List Value) : Journal :=
  { j with log := j.log ++
    [{ level, logger, message, arguments, context := j.context, requestId := j.requestId }] }

/-- Log an event with its fields. -/
def noteEvent (j : Journal) (level : Level) (logger : String) (fields : Fields) : Journal :=
  j.note level logger (.ofFields fields) []

/-- Record a denial with the ambient context. -/
def deny (j : Journal) (event message : String) (details : Value) : Journal :=
  { j with denials := j.denials.push (DenialBuffer.entry j.context j.requestId event message details) }

/-- Set several ambient fields. -/
def update (j : Journal) (fields : Fields) : Journal := { j with context := j.context.update fields }

/-- Forget the ambient fields; the request stays. -/
def clearContext (j : Journal) : Journal := { j with context := .empty }

/-- Name the current request, also in the ambient fields. -/
def setRequest (j : Journal) (id : Value) : Journal :=
  { j with requestId := id }.update [("request_id", id), ("correlation_id", id)]

/-- Enter a flow: its name and caller are put into the context. -/
def enter (j : Journal) (flow : String) (caller : Option Int) : Journal :=
  { j with context := j.context.enter flow caller }

/-- Put a context back. -/
def leave (j : Journal) (context : Context) : Journal := { j with context }

/-- Run a body inside a flow. Whatever the body does, the ambient context stands again after it. -/
def within {α : Type} (flow : String) (caller : Option Int) (body : Journal → α × Journal) (j : Journal) :
    α × Journal :=
  let (result, after) := body (j.enter flow caller)
  (result, after.leave j.context)

@[simp] theorem within_context {α : Type} (flow : String) (caller : Option Int) (body : Journal → α × Journal)
    (j : Journal) : (within flow caller body j).2.context = j.context := rfl

/-- Take all records out of the log. -/
def drain (j : Journal) : List LogRecord × Journal := (j.log, { j with log := [] })

end Journal

end OwnershipRegistry
