import OwnershipRegistry.Documents
import OwnershipRegistry.Security.Inquiry
import OwnershipRegistry.World.Flow

/-! # The world

The core together with the journal and the documents it is configured from. A request gives an
answer or a failure, and the world after it. Failures change the journal at most: the tables and
the version stay. -/

namespace OwnershipRegistry

/-- The core, its journal, and where its configuration comes from. -/
structure World where
  core : Core
  journal : Journal
  settings : Except Failure Settings
  securityPath : String
  /-- The documents as they stand now. -/
  documents : Documents

/-- A request: an answer or a failure, and the world after it. -/
abbrev Request (α : Type) := World → Except Failure α × World

namespace World

/-- The configuration that the security document gives now. -/
def configuration (path : String) (documents : Documents) (j : Journal) :
    Except Failure SecurityConfig × Journal :=
  match documents.at? path with
  | none =>
    (.ok {}, j.note .warning "world_registry.access"
      (.str "Security config not found at %s; using defaults") [.str (Path.tidy path)])
  | some contents => (contents.bind SecurityConfig.ofDocument, j)

/-- A world with nothing registered. The log of a configuration that cannot be read is lost. -/
def create (journal : Journal) (settings : Except Failure Settings) (defaultNamespace path : String)
    (documents : Documents) : Except Failure World :=
  let (config, journal) := configuration path documents journal
  config.map fun config =>
    let (policy, warnings) := Policy.ofConfig config
    { core := { defaultNamespace, policy }, journal := journal.warn warnings, settings,
      securityPath := path, documents }

/-- A world as its settings describe it. -/
def ofSettings (journal : Journal) (settings : Except Failure Settings) (documents : Documents) :
    Except Failure World := do
  let s ← settings
  create journal settings s.defaultNamespace (Path.resolved s.securityPath) documents

/-- The fields of a logged decision. A denial's details stand over the fields before them. -/
def decisionFields (flow : Flow) (verdict : Verdict) (version : Nat) (extra : Fields) : Fields :=
  (Table.ofEntries ([("event", .str "access.decision"), ("flow", .str flow.name),
    ("caller", Context.callerField flow.caller?), ("decision", .str verdict.word),
    ("version", .int version)] ++ extra)).entries

/-- The journal after a denial: counted, recorded and logged. -/
def journalDenial (j : Journal) (flow : Flow) (version : Nat) (denial : Denial) : Journal :=
  let details : Fields := denial.shownDetails.map fun d => (d.1, .str d.2)
  let j := { j with metrics := j.metrics.decide flow.name .deny (some denial.kind) }
  let j := j.deny denial.kind denial.message (.ofFields details)
  j.noteEvent .info "world_registry.access"
    (decisionFields flow .deny version (("error", .str denial.kind) :: details))

/-- The journal after a flow was let through: counted and logged. -/
def journalAllowance (j : Journal) (flow : Flow) (version commits : Nat) : Journal :=
  let j := { j with metrics := (j.metrics.commit commits).decide flow.name .allow none }
  j.noteEvent .info "world_registry.access" (decisionFields flow .allow version [])

/-- The core after a change: one version more, and inside a transaction one more change that
waits for its end. -/
def commitTo (core : Core) (store : Store) (mutates : Bool) : Core :=
  if mutates then
    { core with
      store
      version := core.version + 1
      pending := if core.depth = 0 then core.pending else core.pending + 1 }
  else { core with store }

/-- How many commits a flow counts at once: changes outside transactions do. -/
def commitsAtOnce (core : Core) (mutates : Bool) : Nat := if mutates && core.depth == 0 then 1 else 0

/-- Request a flow. -/
def decide (flow : Flow) : Request Answer := fun w =>
  let ambient := w.journal.context
  let j := w.journal.enter flow.name flow.caller?
  match w.core.attempt flow with
  | .error (.denied denial) =>
    (.error (.denied denial),
      { w with journal := (journalDenial j flow w.core.version denial).leave ambient })
  | .error failure => (.error failure, w)
  | .ok effect =>
    let core := commitTo w.core effect.store flow.mutates
    let j := j.noteAll effect.notices
    (.ok effect.answer,
      { w with
        core
        journal := (journalAllowance j flow core.version (commitsAtOnce w.core flow.mutates)).leave ambient })

/-- Enter a transaction. -/
def opened (w : World) : World := { w with core := { w.core with depth := w.core.depth + 1 } }

/-- Leave a transaction that failed: tables, version and waiting changes are those from before
it; policy and journal stay as they are. -/
def rollBack (before after : World) : World :=
  { after with
    core := { after.core with
      store := .ofSnapshot (before.core.store.snapshot before.core.version)
      version := before.core.version
      pending := before.core.pending
      depth := after.core.depth - 1 }
    journal := after.journal.noteEvent .warning "world_registry.access"
      [("event", .str "access.transaction.rolled_back"), ("version", .int before.core.version)] }

/-- Leave a transaction that succeeded: the outermost one counts the changes that waited. -/
def conclude (w : World) : World :=
  let depth := w.core.depth - 1
  if depth = 0 then
    { w with
      core := { w.core with depth, pending := 0 }
      journal := { w.journal with metrics := w.journal.metrics.commit w.core.pending } }
  else { w with core := { w.core with depth } }

/-- Leave a transaction that was entered from a world. -/
def close (before after : World) : Option Failure → World
  | none => after.conclude
  | some _ => rollBack before after

/-- Run a request as a transaction: all of it or nothing. -/
def transaction {α : Type} (body : Request α) : Request α := fun w =>
  match body w.opened with
  | (.ok a, after) => (.ok a, close w after none)
  | (.error failure, after) => (.error failure, close w after (some failure))

/-- Read the configuration again. A failure leaves the policy as it is. -/
def reload : Request Unit := fun w =>
  let (config, journal) := configuration w.securityPath w.documents w.journal
  match config with
  | .error failure => (.error failure, { w with journal })
  | .ok config =>
    let (policy, warnings) := Policy.ofConfig config
    (.ok (), { w with core := { w.core with policy }, journal := journal.warn warnings })

/-- Register a caller in the directory. -/
def registerCaller (r : Registration) : Request Unit := fun w =>
  let (directory, journal) := w.journal.register w.core.policy.directory r
  (.ok (), { w with
    core := { w.core with policy := { w.core.policy with directory } }
    journal })

end World

end OwnershipRegistry
