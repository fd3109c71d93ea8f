import OwnershipRegistry.Value

/-! # Collections

While a document is read its collections are known by numbers, since they may contain themselves.
In the end each becomes a value: first those that lead to no collection that contains itself, from
the inside out; the rest are links into one table. -/

namespace OwnershipRegistry.Yaml

/-- What stands inside a collection: a value, or a collection by its number. -/
inductive Item where
  | value (v : Value)
  | collection (number : Nat)

/-- What a collection consists of. -/
inductive Collection where
  | list (items : List Item)
  | tuple (items : List Item)
  | dict (entries : List (Value × Item))
  | set (keys : List Value)

/-- The collections of a document by number. -/
abbrev Collections := Array Collection

/-- The values of the collections that have one without links. -/
abbrev Finished := Array (Option Value)

namespace Item

/-- The value of an item, if it has one without links. -/
def value? (finished : Finished) : Item → Option Value
  | .value v => some v
  | .collection number => (finished[number]?).getD none

/-- The value of an item; a collection that has none yet is a link. -/
def linked (finished : Finished) : Item → Value
  | .value v => v
  | .collection number => ((finished[number]?).getD none).getD (.link [] number)

end Item

namespace Collection

/-- The value of a collection, if all its items have one. -/
def value? (finished : Finished) : Collection → Option Value
  | .list items => (items.mapM fun (i : Item) => i.value? finished).map .list
  | .tuple items => (items.mapM fun (i : Item) => i.value? finished).map .tuple
  | .dict entries => (entries.mapM fun (e : Value × Item) => (e.2.value? finished).map fun v => (e.1, v)).map .dict
  | .set keys => some (.set keys)

/-- The value of a collection, with links. -/
def linked (finished : Finished) : Collection → Value
  | .list items => .list (items.map fun (i : Item) => i.linked finished)
  | .tuple items => .tuple (items.map fun (i : Item) => i.linked finished)
  | .dict entries => .dict (entries.map fun (e : Value × Item) => (e.1, e.2.linked finished))
  | .set keys => .set keys

end Collection

namespace Collections

/-- Finish every collection whose items are finished, the last one first. -/
def finishRound (cs : Collections) (finished : Finished) : Finished :=
  (List.range cs.size).foldr (fun number finished =>
    match finished[number]?, cs[number]? with
    | some none, some c => finished.setIfInBounds number (c.value? finished)
    | _, _ => finished) finished

/-- Finish collections until a round finishes none. Each round before finishes one at least. -/
def finishFrom (cs : Collections) : Nat → Finished → Finished
  | 0, finished => finished
  | rounds + 1, finished =>
    let after := cs.finishRound finished
    if after.countP Option.isSome = finished.countP Option.isSome then finished
    else finishFrom cs rounds after

/-- The collections that can be finished. -/
def finish (cs : Collections) : Finished := cs.finishFrom cs.size (Array.replicate cs.size none)

/-- The table of the collections that cannot be finished. -/
def table (cs : Collections) (finished : Finished) : List (Nat × Value) :=
  (List.range cs.size).filterMap fun number =>
    match finished[number]?, cs[number]? with
    | some none, some c => some (number, c.linked finished)
    | _, _ => none

/-- The value of an item. -/
def valueOf (cs : Collections) (item : Item) : Value :=
  let finished := cs.finish
  match item.value? finished, item with
  | some v, _ => v
  | none, .collection number => .link (cs.table finished) number
  | none, .value v => v

end Collections

end OwnershipRegistry.Yaml
