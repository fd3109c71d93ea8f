import OwnershipRegistry.Value.Slots
import OwnershipRegistry.Yaml.Collection
import OwnershipRegistry.Yaml.Merge

/-! # From nodes to values

Every node stands for one value, which is made when the node is first met. A scalar is read at
once; a collection is empty until its turn comes. Collections are filled in the order in which
they were met, and those met on the way wait for the next round, so the faults inside a collection
come after those beside it. -/

namespace OwnershipRegistry.Yaml

open Quoted (unreadable)

/-- The state of reading: the graph, what its nodes stand for so far, the collections, and those
that wait to be filled, by the numbers of node and collection, last one first. -/
structure Reader where
  graph : Graph
  made : Array (Option Item)
  collections : Collections := #[]
  waiting : List (Nat × Nat) := []

/-- A step of reading. -/
abbrev Reads := StateT Reader (Except Failure)

namespace Reader

/-- The text of a node as a scalar. A mapping has the text under its first default key. -/
def scalarText (g : Graph) : Nat → Nat → Except Failure (List Nat)
  | 0, _ => .error .endless
  | depth + 1, number =>
    match g.contentAt number with
    | .scalar text => .ok text
    | .sequence _ => unreadable
    | .mapping entries =>
      match entries.find? fun e => g.kindAt e.1 == .default with
      | some (_, value) => scalarText g depth value
      | none => unreadable

/-- A value that is no number is the same as no other one, unless all of its form share it. -/
def marked (number : Nat) : Value → Value
  | .float x => .float (if x == .nan then .markedNaN (number + 1) else x)
  | v => v

/-- The value of a node as a scalar. Only a scalar itself can be a point in time. -/
def scalarValue (g : Graph) (number : Nat) : Except Failure Value := do
  let text ← scalarText g (g.size + 1) number
  let kind := g.kindAt number
  match kind, g.contentAt number with
  | .timestamp, .mapping _ => .error .wrongShape
  | _, _ => (Scalar.value kind text).map (marked number)

/-- Whether nodes of a kind are collections. -/
def isCollection : Kind → Bool
  | .sequence | .pairs | .mapping | .set => true
  | _ => false

/-- Add a collection: its item. -/
def add (c : Collection) : Reads Item := do
  let r ← get
  set { r with collections := r.collections.push c }
  pure (.collection r.collections.size)

/-- Add an empty collection for a node, which waits to be filled. -/
def addFor (number : Nat) : Reads Item := do
  let r ← get
  set { r with waiting := (number, r.collections.size) :: r.waiting }
  add (.list [])

/-- What a node stands for. -/
def item (number : Nat) : Reads Item := do
  let r ← get
  match r.made[number]? with
  | some (some item) => pure item
  | _ =>
    let kind := r.graph.kindAt number
    let item ← if isCollection kind then addFor number
      else if [Kind.merge, .default, .unknown].contains kind then unreadable
      else (fun v => Item.value v) <$> scalarValue r.graph number
    modify fun r => { r with made := r.made.setIfInBounds number (some item) }
    pure item

/-- The items of a sequence. -/
def listItems (number : Nat) : Reads (List Item) := do
  match (← get).graph.contentAt number with
  | .sequence items => items.mapM item
  | _ => unreadable

/-- The items of a sequence of mappings with one entry each. -/
def pairItems (number : Nat) : Reads (List Item) := do
  match (← get).graph.contentAt number with
  | .sequence items => items.mapM fun n => do
    match (← get).graph.contentAt n with
    | .mapping [(key, value)] =>
      let key ← item key
      let value ← item value
      add (.tuple [key, value])
    | _ => unreadable
  | _ => unreadable

/-- The entries of a mapping, after it has taken in its merges. A collection is no key. -/
def dictEntries (number : Nat) : Reads (List (Value × Item)) := do
  let r ← get
  match r.graph.contentAt number with
  | .mapping _ =>
    let graph ← r.graph.merge number
    set { r with graph }
    (graph.entriesAt number).foldlM (fun entries e => do
      match ← item e.1 with
      | .value key => pure (Value.put entries key (← item e.2))
      | .collection _ => unreadable) []
  | _ => unreadable

/-- Fill the collection of a node. -/
def fill (number collection : Nat) : Reads Unit := do
  let c ← match (← get).graph.kindAt number with
    | .sequence => Collection.list <$> listItems number
    | .pairs => Collection.list <$> pairItems number
    | .set => (fun entries => Collection.set (Slots.order (entries.map (·.1)))) <$> dictEntries number
    | _ => Collection.dict <$> dictEntries number
  modify fun r => { r with collections := r.collections.setIfInBounds collection c }

/-- Fill the collections that wait, round after round. Every round but the last one has a node that
was met for the first time. -/
def fillAll : Nat → Reads Unit
  | 0 => pure ()
  | rounds + 1 => do
    let r ← get
    if r.waiting.isEmpty then pure ()
    else
      set { r with waiting := [] }
      r.waiting.reverse.forM fun w => fill w.1 w.2
      fillAll rounds

/-- What a node stands for, with all collections filled. -/
def root (number : Nat) : Reads Item := do
  let item ← item number
  fillAll ((← get).graph.size + 1)
  pure item

end Reader

/-- The value of a node, or the first fault that is met. -/
def Graph.valueOf (g : Graph) (number : Nat) : Except Failure Value := do
  let (item, r) ← (Reader.root number).run { graph := g, made := Array.replicate g.size none }
  pure (r.collections.valueOf item)

end OwnershipRegistry.Yaml
