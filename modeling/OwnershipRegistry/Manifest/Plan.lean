import OwnershipRegistry.Manifest.Basic
import OwnershipRegistry.Registry.Store

/-! # Plans

What applying a manifest would change: which namespaces and resources it registers, and which
writers it grants and revokes. Writers that the manifest leaves undeclared are not touched. -/

namespace OwnershipRegistry

/-- What a change is about. -/
inductive Target where
  | space
  | resource
deriving DecidableEq

/-- The word for a target. -/
def Target.word : Target → String
  | .space => "namespace"
  | .resource => "resource"

/-- A registration that a plan makes. -/
inductive PlannedRegistration where
  | space (name : String) (selector : Int)
  | resource (tag : String) (selector : Int) (space : String) (kind : ResourceKind)
deriving DecidableEq

/-- A writer that a plan grants or revokes. -/
structure WriterChange where
  target : Target
  name : String
  selector : Int
  writer : Int
deriving DecidableEq

/-- A plan. -/
structure Plan where
  registrations : List PlannedRegistration
  grants : List WriterChange
  revokes : List WriterChange
deriving DecidableEq

namespace Plan

/-- The plan that changes nothing. -/
def empty : Plan := ⟨[], [], []⟩

/-- One plan after the other. -/
def append (p q : Plan) : Plan :=
  ⟨p.registrations ++ q.registrations, p.grants ++ q.grants, p.revokes ++ q.revokes⟩

/-- Whether a plan changes nothing. -/
def isEmpty (p : Plan) : Bool := p.registrations.isEmpty && p.grants.isEmpty && p.revokes.isEmpty

/-- The changes that turn the current writers into the declared ones. -/
def writerChanges (target : Target) (name : String) (selector : Int) (current : IntSet) :
    Option (List Int) → List WriterChange × List WriterChange
  | none => ([], [])
  | some declared =>
    let wanted := IntSet.ofList declared
    ((wanted.minus current).map fun w => ⟨target, name, selector, w⟩,
      (current.minus wanted).map fun w => ⟨target, name, selector, w⟩)

/-- The part of a plan for one declared namespace. -/
def forNamespace (store : Store) (spec : NamespaceSpec) : Plan :=
  let selector := store.namespaceSelector spec.name
  let record? := store.namespaces.records.get? selector
  let current := match record? with
    | some record => record.writers
    | none => []
  let (grants, revokes) := writerChanges .space spec.name selector current spec.writers
  ⟨if record?.isNone then [.space spec.name selector] else [], grants, revokes⟩

/-- The part of a plan for one declared resource. -/
def forResource (store : Store) (version : Nat) (spec : ResourceSpec) : Except Failure Plan :=
  (Tag.split spec.tag none).map fun pair =>
    match (store.snapshot version).resourceByTag spec.tag with
    | none =>
      let selector : Int := Selector.ofNames pair.1 pair.2
      let (grants, revokes) := writerChanges .resource spec.tag selector [] spec.writers
      ⟨[.resource spec.tag selector pair.1 spec.kind], grants, revokes⟩
    | some record =>
      let (grants, revokes) := writerChanges .resource spec.tag record.selector record.writers spec.writers
      ⟨[], grants, revokes⟩

/-- The parts of a plan for declared resources. -/
def forResources (store : Store) (version : Nat) : List ResourceSpec → Except Failure Plan
  | [] => .ok empty
  | spec :: rest => do
    let first ← forResource store version spec
    let later ← forResources store version rest
    pure (first.append later)

/-- The parts of a plan for declared namespaces. -/
def forNamespaces (store : Store) (specs : List NamespaceSpec) : Plan :=
  specs.foldr (fun spec later => (forNamespace store spec).append later) empty

/-- What applying a manifest to a store would change. -/
def of (store : Store) (version : Nat) (m : Manifest) : Except Failure Plan :=
  (forResources store version m.resources).map (forNamespaces store m.namespaces).append

/-- The sizes of a plan's parts, as they are logged. -/
def sizes (p : Plan) : Fields :=
  [("registrations", .int p.registrations.length), ("grants", .int p.grants.length),
    ("revokes", .int p.revokes.length)]

end Plan

/-- A registration as a plan prints it. -/
structure PrintedRegistration where
  target : String
  name : String
  selector : String
  kind : Option String
deriving DecidableEq

/-- A writer change as a plan prints it. -/
structure PrintedChange where
  target : String
  name : String
  selector : String
  writer : String
deriving DecidableEq

/-- A plan as it is printed: selectors and writers in hexadecimal. -/
structure PrintedPlan where
  registrations : List PrintedRegistration
  grants : List PrintedChange
  revokes : List PrintedChange
deriving DecidableEq

/-- Print a registration. -/
def PlannedRegistration.print : PlannedRegistration → PrintedRegistration
  | .space name selector => ⟨Target.space.word, name, Numeral.hex selector, none⟩
  | .resource tag selector _ kind => ⟨Target.resource.word, tag, Numeral.hex selector, some kind.word⟩

/-- Print a writer change. -/
def WriterChange.print (c : WriterChange) : PrintedChange :=
  ⟨c.target.word, c.name, Numeral.hex c.selector, Numeral.hex c.writer⟩

/-- Print a plan. -/
def Plan.print (p : Plan) : PrintedPlan :=
  ⟨p.registrations.map (·.print), p.grants.map (·.print), p.revokes.map (·.print)⟩

namespace PrintedPlan

/-- A printed registration as a value. -/
def registrationValue (r : PrintedRegistration) : Value :=
  .ofFields [("target", .str r.target), ("name", .str r.name), ("selector", .str r.selector),
    ("kind", match r.kind with | some k => .str k | none => .null)]

/-- A printed change as a value. -/
def changeValue (c : PrintedChange) : Value :=
  .ofFields [("target", .str c.target), ("name", .str c.name), ("selector", .str c.selector),
    ("writer", .str c.writer)]

/-- The fields of a printed plan. -/
def fields (p : PrintedPlan) : Fields :=
  [("registrations", .list (p.registrations.map registrationValue)),
    ("grants", .list (p.grants.map changeValue)),
    ("revokes", .list (p.revokes.map changeValue))]

end PrintedPlan

end OwnershipRegistry
