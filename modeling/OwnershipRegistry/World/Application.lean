import OwnershipRegistry.World.Basic

/-! # Applying a manifest

A plan is carried out as one caller in one transaction: the registrations first, then a check
that every declared resource is of its declared kind, then the grants, then the revocations.
The first refusal undoes all of it. -/

namespace OwnershipRegistry.World

/-- One request after the other; the first failure ends both. -/
def andThen {α β : Type} (first : Request α) (next : α → Request β) : Request β := fun w =>
  match first w with
  | (.ok a, after) => next a after
  | (.error failure, after) => (.error failure, after)

/-- A request for each item of a list, in order. -/
def each {α : Type} (request : α → Request Unit) : List α → Request Unit
  | [] => fun w => (.ok (), w)
  | a :: rest => andThen (request a) fun _ => each request rest

/-- Request a flow for what it does; its answer is not looked at. -/
def perform (flow : Flow) : Request Unit := fun w =>
  let (answer, after) := decide flow w
  (answer.map fun _ => (), after)

/-- Plan a manifest. Nothing changes, but the plan's sizes are logged. -/
def plan (m : Manifest) : Request Plan := fun w =>
  match Plan.of w.core.store w.core.version m with
  | .error failure => (.error failure, w)
  | .ok plan =>
    (.ok plan, { w with
      journal := w.journal.noteEvent .info "world_registry.manifest"
        (("event", .str "manifest.planned") :: plan.sizes) })

/-- The flow that makes a planned registration. A resource's namespace is found by its name at
the time of the registration. -/
def registrationFlow (store : Store) (caller : Int) : PlannedRegistration → Except Failure Flow
  | .space name selector => .ok (.registerNamespace caller name (some (.int selector)))
  | .resource tag selector space kind =>
    (Tag.split tag none).map fun pair =>
      .registerResource caller (.int (store.namespaceSelector space)) pair.2 kind.word (some (.int selector))

/-- Make a planned registration. -/
def carryOut (caller : Int) (item : PlannedRegistration) : Request Unit := fun w =>
  match registrationFlow w.core.store caller item with
  | .ok flow => perform flow w
  | .error failure => (.error failure, w)

/-- Check that a declared resource that is registered is of the declared kind. -/
def confirmKind (spec : ResourceSpec) : Request Unit := fun w =>
  match w.core.store.resources.getByTag? spec.tag with
  | some record => perform (.resolveKind (.int record.selector) spec.kind.word) w
  | none => (.ok (), w)

/-- The flow that makes a planned grant. -/
def grantFlow (caller : Int) (c : WriterChange) : Flow :=
  match c.target with
  | .space => .grantNamespaceWriter caller (.int c.selector) c.writer
  | .resource => .grantWriter caller (.int c.selector) c.writer

/-- The flow that makes a planned revocation. -/
def revokeFlow (caller : Int) (c : WriterChange) : Flow :=
  match c.target with
  | .space => .revokeNamespaceWriter caller (.int c.selector) c.writer
  | .resource => .revokeWriter caller (.int c.selector) c.writer

/-- Plan a manifest and carry the plan out. -/
def planAndCarryOut (m : Manifest) (caller : Int) : Request Plan :=
  andThen (plan m) fun plan =>
  andThen (each (carryOut caller) plan.registrations) fun _ =>
  andThen (each confirmKind m.resources) fun _ =>
  andThen (each (fun c => perform (grantFlow caller c)) plan.grants) fun _ =>
  andThen (each (fun c => perform (revokeFlow caller c)) plan.revokes) fun _ =>
  fun w => (.ok plan, w)

/-- Log that a manifest was applied. -/
def noteApplied (w : World) : World :=
  { w with
    journal := w.journal.noteEvent .info "world_registry.manifest"
      [("event", .str "manifest.applied"), ("version", .int w.core.version)] }

/-- Apply a manifest as a caller. -/
def apply (m : Manifest) (caller : Int) : Request Plan :=
  andThen (transaction (planAndCarryOut m caller)) fun plan => fun w => (.ok plan, w.noteApplied)

end OwnershipRegistry.World
