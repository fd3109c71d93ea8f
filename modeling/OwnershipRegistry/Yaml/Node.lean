import OwnershipRegistry.Yaml.Lexer
import OwnershipRegistry.Yaml.Scalar

/-! # Nodes

A document is a graph of scalars, sequences and mappings, each of a kind. Nodes are known by
numbers, so an alias is another mention of the node that its anchor names, even inside that node
itself. The graph is read off the tokens by one function for every place where a node can stand;
a token is looked at only when it has to be. -/

namespace OwnershipRegistry.Yaml

open Quoted (unreadable)

/-- What a node is made of: a text given by codes, or other nodes. -/
inductive Content where
  | scalar (text : List Nat)
  | sequence (items : List Nat)
  | mapping (entries : List (Nat × Nat))

/-- A node of a document. -/
structure Node where
  kind : Kind
  content : Content

/-- The nodes of a document by number. -/
abbrev Graph := Array Node

namespace Node

/-- The node where nothing is written. -/
def empty : Node := ⟨.null, .scalar []⟩

/-- The state of reading: the tokens ahead and what ends them, the nodes so far, and those that
anchors name. -/
structure Source where
  tokens : List Token
  fault : Option Failure
  graph : Graph := #[]
  anchors : List (String × Nat) := []

/-- The handles of tags and what they abbreviate. -/
abbrev Handles := List (String × String)

/-- The handles that every document knows. -/
def standardHandles : Handles := [("!", "!"), ("!!", Kind.space)]

namespace Source

/-- The next token; a text without a fault ends with the end of the stream again and again. -/
def peek (s : Source) : Except Failure Token :=
  match s.tokens, s.fault with
  | t :: _, _ => .ok t
  | [], some failure => .error failure
  | [], none => .ok .streamEnd

/-- The source behind the next token. -/
def next (s : Source) : Source := { s with tokens := s.tokens.drop 1 }

/-- Let an anchor name a node. -/
def name (s : Source) (anchor : Option String) (number : Nat) : Source :=
  match anchor with
  | some a => { s with anchors := (a, number) :: s.anchors }
  | none => s

/-- Whether an anchor is free. -/
def isFree (s : Source) (anchor : Option String) : Bool :=
  anchor.all fun a => (s.anchors.lookup a).isNone

/-- Add a node, and let an anchor name it: its number, and the source after that. -/
def add (s : Source) (anchor : Option String) (node : Node) : Nat × Source :=
  (s.graph.size, { s with graph := s.graph.push node }.name anchor s.graph.size)

/-- Give a node its content. -/
def fill (s : Source) (number : Nat) (content : Content) : Source :=
  { s with graph := s.graph.modify number fun node => { node with content } }

end Source

/-- What is written in front of a node. -/
structure Properties where
  anchor : Option String := none
  tag : Option TagMark := none

/-- The anchor and the tag in front of a node, in either order. -/
def properties (s : Source) : Except Failure (Properties × Source) := do
  match ← s.peek with
  | .anchor a =>
    match ← s.next.peek with
    | .tag t => pure (⟨some a, some t⟩, s.next.next)
    | _ => pure (⟨some a, none⟩, s.next)
  | .tag t =>
    match ← s.next.peek with
    | .anchor a => pure (⟨some a, some t⟩, s.next.next)
    | _ => pure (⟨none, some t⟩, s.next)
  | _ => pure ({}, s)

/-- A tag written out. A sign alone is not a tag. -/
def expand (handles : Handles) : Option TagMark → Except Failure (Option String)
  | none => .ok none
  | some ⟨none, suffix⟩ => .ok (some suffix)
  | some ⟨some handle, suffix⟩ =>
    match handles.lookup handle with
    | some expansion => .ok (some (expansion ++ suffix))
    | none => unreadable

/-- The kind of a scalar: a sign alone makes a text show its kind by its form, like a plain one. -/
def scalarKind (tag : Option String) (plain : Bool) (text : List Nat) : Kind :=
  match tag with
  | none => if plain then Scalar.kindOf text else .text
  | some tag => if tag = "!" then Scalar.kindOf text else Kind.ofTag tag

/-- The kind of a collection. -/
def collectionKind (tag : Option String) (kind : Kind) : Kind :=
  match tag with
  | none => kind
  | some tag => if tag = "!" then kind else Kind.ofTag tag

/-- Whether an optional node is left out in a block mapping. -/
def endsBlockEntry : Token → Bool
  | .key | .value | .blockEnd => true
  | _ => false

/-- Whether an item is left out in a block sequence. -/
def endsBlockItem : Token → Bool
  | .blockEntry | .blockEnd => true
  | _ => false

/-- Whether an item is left out in a sequence that is not indented. -/
def endsLooseItem (t : Token) : Bool := endsBlockItem t || endsBlockEntry t

/-- Whether a key is left out in brackets. -/
def endsFlowKey (close : Token → Bool) : Token → Bool
  | .value | .flowEntry => true
  | t => close t

/-- Whether a value is left out in brackets. -/
def endsFlowValue (close : Token → Bool) : Token → Bool
  | .flowEntry => true
  | t => close t

/-- The closing bracket of a sequence. -/
def closesSequence : Token → Bool
  | .flowSequenceEnd => true
  | _ => false

/-- The closing bracket of a mapping. -/
def closesMapping : Token → Bool
  | .flowMappingEnd => true
  | _ => false

/-- Where a node stands. -/
inductive Position where
  | flow
  | block
  /-- In a block mapping, where a sequence need not be indented. -/
  | entry
deriving DecidableEq

mutual

/-- Read a node: its number, and the source behind it. -/
def read (handles : Handles) (position : Position) : Nat → Source → Except Failure (Nat × Source)
  | 0, _ => unreadable
  | fuel + 1, s => do
    match ← s.peek with
    | .alias a =>
      match s.anchors.lookup a with
      | some number => pure (number, s.next)
      | none => unreadable
    | _ =>
      let (p, s) ← properties s
      let tag ← expand handles p.tag
      let t ← s.peek
      if !s.isFree p.anchor then unreadable
      else
        let sequence (start : Source) (items : Source → Except Failure (List Nat × Source)) :
            Except Failure (Nat × Source) := do
          let (number, s) := start.add p.anchor ⟨collectionKind tag .sequence, .sequence []⟩
          let (numbers, s) ← items s
          pure (number, s.fill number (.sequence numbers))
        let mapping (start : Source) (entries : Source → Except Failure (List (Nat × Nat) × Source)) :
            Except Failure (Nat × Source) := do
          let (number, s) := start.add p.anchor ⟨collectionKind tag .mapping, .mapping []⟩
          let (numbers, s) ← entries s
          pure (number, s.fill number (.mapping numbers))
        match position, t with
        | _, .scalar text plain => pure (s.next.add p.anchor ⟨scalarKind tag plain text, .scalar text⟩)
        | _, .flowSequenceStart => sequence s.next (flowItems handles true fuel)
        | _, .flowMappingStart => mapping s.next (flowEntries handles true fuel)
        | .entry, .blockEntry => sequence s (looseItems handles fuel)
        | .block, .blockSequenceStart | .entry, .blockSequenceStart =>
          sequence s.next (blockItems handles fuel)
        | .block, .blockMappingStart | .entry, .blockMappingStart =>
          mapping s.next (blockEntries handles fuel)
        | _, _ =>
          if p.anchor.isSome || p.tag.isSome then
            pure (s.add p.anchor ⟨scalarKind tag true [], .scalar []⟩)
          else unreadable

/-- Read a node that may be left out. -/
def optional (handles : Handles) (position : Position) (isMissing : Token → Bool) :
    Nat → Source → Except Failure (Nat × Source)
  | 0, _ => unreadable
  | fuel + 1, s => do
    if isMissing (← s.peek) then pure (s.add none empty) else read handles position fuel s

/-- Read the items of a block sequence up to its end. -/
def blockItems (handles : Handles) : Nat → Source → Except Failure (List Nat × Source)
  | 0, _ => unreadable
  | fuel + 1, s => do
    match ← s.peek with
    | .blockEntry =>
      let (item, s) ← optional handles .block endsBlockItem fuel s.next
      let (items, s) ← blockItems handles fuel s
      pure (item :: items, s)
    | .blockEnd => pure ([], s.next)
    | _ => unreadable

/-- Read the items of a sequence that is not indented, up to the first token that is no item. -/
def looseItems (handles : Handles) : Nat → Source → Except Failure (List Nat × Source)
  | 0, _ => unreadable
  | fuel + 1, s => do
    match ← s.peek with
    | .blockEntry =>
      let (item, s) ← optional handles .block endsLooseItem fuel s.next
      let (items, s) ← looseItems handles fuel s
      pure (item :: items, s)
    | _ => pure ([], s)

/-- Read the entries of a block mapping up to its end. -/
def blockEntries (handles : Handles) : Nat → Source → Except Failure (List (Nat × Nat) × Source)
  | 0, _ => unreadable
  | fuel + 1, s => do
    match ← s.peek with
    | .key =>
      let (key, s) ← optional handles .entry endsBlockEntry fuel s.next
      let (value, s) ← optionalValue handles .entry endsBlockEntry fuel s
      let (entries, s) ← blockEntries handles fuel s
      pure ((key, value) :: entries, s)
    | .blockEnd => pure ([], s.next)
    | _ => unreadable

/-- Read a value behind its mark; both may be left out. -/
def optionalValue (handles : Handles) (position : Position) (isMissing : Token → Bool) :
    Nat → Source → Except Failure (Nat × Source)
  | 0, _ => unreadable
  | fuel + 1, s => do
    match ← s.peek with
    | .value => optional handles position isMissing fuel s.next
    | _ => pure (s.add none empty)

/-- Read an entry of brackets behind the mark of its key. -/
def flowPair (handles : Handles) (close : Token → Bool) : Nat → Source → Except Failure ((Nat × Nat) × Source)
  | 0, _ => unreadable
  | fuel + 1, s => do
    let (key, s) ← optional handles .flow (endsFlowKey close) fuel s
    let (value, s) ← optionalValue handles .flow (endsFlowValue close) fuel s
    pure ((key, value), s)

/-- Read the items of a sequence in brackets. A pair among them is a mapping of its own. -/
def flowItems (handles : Handles) (first : Bool) : Nat → Source → Except Failure (List Nat × Source)
  | 0, _ => unreadable
  | fuel + 1, s => do
    match first, ← s.peek with
    | _, .flowSequenceEnd => pure ([], s.next)
    | false, .flowEntry => flowItem handles fuel s.next
    | true, _ => flowItem handles fuel s
    | false, _ => unreadable

/-- Read an item of a sequence in brackets, and those behind it; it may be left out before the
closing bracket. -/
def flowItem (handles : Handles) : Nat → Source → Except Failure (List Nat × Source)
  | 0, _ => unreadable
  | fuel + 1, s => do
    match ← s.peek with
    | .flowSequenceEnd => pure ([], s.next)
    | .key =>
      let (pair, s) ← flowPair handles closesSequence fuel s.next
      let (item, s) := s.add none ⟨.mapping, .mapping [pair]⟩
      let (items, s) ← flowItems handles false fuel s
      pure (item :: items, s)
    | _ =>
      let (item, s) ← read handles .flow fuel s
      let (items, s) ← flowItems handles false fuel s
      pure (item :: items, s)

/-- Read the entries of a mapping in brackets. -/
def flowEntries (handles : Handles) (first : Bool) : Nat → Source → Except Failure (List (Nat × Nat) × Source)
  | 0, _ => unreadable
  | fuel + 1, s => do
    match first, ← s.peek with
    | _, .flowMappingEnd => pure ([], s.next)
    | false, .flowEntry => flowEntry handles fuel s.next
    | true, _ => flowEntry handles fuel s
    | false, _ => unreadable

/-- Read an entry of a mapping in brackets, and those behind it. A node alone is a key without a
value. -/
def flowEntry (handles : Handles) : Nat → Source → Except Failure (List (Nat × Nat) × Source)
  | 0, _ => unreadable
  | fuel + 1, s => do
    match ← s.peek with
    | .flowMappingEnd => pure ([], s.next)
    | .key =>
      let (pair, s) ← flowPair handles closesMapping fuel s.next
      let (entries, s) ← flowEntries handles false fuel s
      pure (pair :: entries, s)
    | _ =>
      let (key, s) ← read handles .flow fuel s
      let (value, s) := s.add none empty
      let (entries, s) ← flowEntries handles false fuel s
      pure ((key, value) :: entries, s)

end

end Node

end OwnershipRegistry.Yaml
