import OwnershipRegistry.Yaml.Node

/-! # Merges

An entry with a merge key is no entry of its own. Its value is a mapping, or a sequence of
mappings, whose entries the mapping around takes in before its own; of several mappings the first
one comes last, so that it prevails. What is taken in stays in the graph, so every mention of a
mapping sees it, and a mapping that merges itself takes in what it has at that moment. -/

namespace OwnershipRegistry.Yaml.Graph

open Quoted (unreadable)

/-- The kind of a node. -/
def kindAt (g : Graph) (number : Nat) : Kind :=
  match g[number]? with
  | some node => node.kind
  | none => .unknown

/-- The content of a node. -/
def contentAt (g : Graph) (number : Nat) : Content :=
  match g[number]? with
  | some node => node.content
  | none => .scalar []

/-- The entries of a mapping. -/
def entriesAt (g : Graph) (number : Nat) : List (Nat × Nat) :=
  match g.contentAt number with
  | .mapping entries => entries
  | _ => []

/-- Give a mapping its entries. -/
def setEntries (g : Graph) (number : Nat) (entries : List (Nat × Nat)) : Graph :=
  g.modify number fun node => { node with content := .mapping entries }

/-- The number of all entries of all mappings. -/
def entryCount (g : Graph) : Nat :=
  g.foldl (fun count node => match node.content with | .mapping entries => count + entries.length | _ => count) 0

/-- The value of the first merge, and the entries without it. -/
def firstMerge? (g : Graph) : List (Nat × Nat) → Option (Nat × List (Nat × Nat))
  | [] => none
  | (key, value) :: rest =>
    if g.kindAt key = .merge then some (value, rest)
    else (firstMerge? g rest).map fun m => (m.1, (key, value) :: m.2)

/-- Inside a mapping that was looked through, a default key is a text like others. -/
def settleKeys (g : Graph) (entries : List (Nat × Nat)) : Graph :=
  entries.foldl (fun g e =>
    if g.kindAt e.1 = .default then g.modify e.1 fun node => { node with kind := .text } else g) g

/-- Take in the merges of a mapping; `taken` are the entries taken in so far. Every merge that is
entered was removed before, so their number bounds the depth. -/
def mergeFrom : Nat → Nat → List (Nat × Nat) → Graph → Except Failure Graph
  | 0, _, _, _ => unreadable
  | depth + 1, number, taken, g => do
    let own := g.entriesAt number
    match g.firstMerge? own with
    | none => pure ((g.settleKeys own).setEntries number (taken ++ own))
    | some (value, rest) =>
      let g := g.setEntries number rest
      match g.contentAt value with
      | .scalar _ => unreadable
      | .mapping _ =>
        let g ← mergeFrom depth value [] g
        mergeFrom depth number (taken ++ g.entriesAt value) g
      | .sequence items =>
        let (g, more) ← items.foldlM (fun (g, more) item =>
          match g.contentAt item with
          | .mapping _ => do
            let g ← mergeFrom depth item [] g
            pure (g, g.entriesAt item ++ more)
          | _ => unreadable) (g, [])
        mergeFrom depth number (taken ++ more) g

/-- Take in the merges of a mapping. -/
def merge (g : Graph) (number : Nat) : Except Failure Graph := mergeFrom (g.entryCount + 1) number [] g

end OwnershipRegistry.Yaml.Graph
