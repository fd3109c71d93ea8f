import OwnershipRegistry.Documents
import OwnershipRegistry.Yaml.Reading

/-! # Documents

A text holds at most one document, which directives may precede. An empty text holds none and
stands for null. -/

namespace OwnershipRegistry.Yaml

open Quoted (unreadable)
open Node (Handles Source)

/-- A text with its line ends made one: a carriage return, alone or before a line feed, is one. -/
def withLineFeeds : List Char → List Char
  | [] => []
  | '\r' :: '\n' :: rest => '\n' :: withLineFeeds rest
  | '\r' :: rest => '\n' :: withLineFeeds rest
  | c :: rest => c :: withLineFeeds rest

/-- Whether a document may hold a character. -/
def isAllowed (c : Char) : Bool :=
  let n := c.toNat
  n == 0x9 || n == 0xa || n == 0xd || (0x20 ≤ n && n ≤ 0x7e) || n == 0x85 || (0xa0 ≤ n && n ≤ 0xfffd)
    || 0x10000 ≤ n

/-- Read directives: the handles that they define. No handle and no version is given twice, and
the major version is one. -/
def directives (versioned : Bool) (handles : Handles) : Nat → Source → Except Failure (Handles × Source)
  | 0, _ => unreadable
  | fuel + 1, s => do
    match ← s.peek with
    | .directive (.version major) =>
      if versioned || major ≠ 1 then unreadable else directives true handles fuel s.next
    | .directive (.handle handle expansion) =>
      if (handles.lookup handle).isSome then unreadable
      else directives versioned ((handle, expansion) :: handles) fuel s.next
    | .directive .other => directives versioned handles fuel s.next
    | _ => pure (handles, s)

/-- Read a document's start: the handles that its directives define. -/
def documentStart (s : Source) : Except Failure (Handles × Source) := do
  let (handles, s) ← directives false [] (s.tokens.length + 1) s
  match ← s.peek with
  | .documentStart => pure (handles ++ Node.standardHandles, s.next)
  | _ => unreadable

/-- Drop the marks of document ends. -/
def dropEnds : Nat → Source → Except Failure Source
  | 0, s => .ok s
  | fuel + 1, s => do
    match ← s.peek with
    | .documentEnd => dropEnds fuel s.next
    | _ => pure s

/-- Make sure that the text ends. A further document is begun to be read, which may fail otherwise,
but is not allowed. -/
def ending (s : Source) : Except Failure Unit := do
  let s ← dropEnds (s.tokens.length + 1) s
  match ← s.peek with
  | .streamEnd => pure ()
  | _ =>
    discard (documentStart s)
    unreadable

/-- Whether a document that was begun holds nothing. -/
def isBare : Token → Bool
  | .directive _ | .documentStart | .documentEnd | .streamEnd => true
  | _ => false

/-- Read the root node of a document. -/
def rootNode (handles : Handles) (mayBeBare : Bool) (s : Source) : Except Failure (Nat × Source) := do
  if mayBeBare && isBare (← s.peek) then pure (s.add none .empty)
  else Node.read handles .block (8 * s.tokens.length + 16) s

/-- The root node of the document that tokens hold, if they hold one, and the graph. -/
def node? (tokens : Tokens) : Except Failure (Option (Nat × Graph)) := do
  let s : Source := { tokens := tokens.list, fault := tokens.fault }
  let content (handles : Handles) (mayBeBare : Bool) (s : Source) : Except Failure (Option (Nat × Graph)) := do
    let (root, s) ← rootNode handles mayBeBare s
    ending s
    pure (some (root, s.graph))
  match ← s.peek with
  | .streamEnd => pure none
  | .directive _ | .documentStart =>
    let (handles, s) ← documentStart s
    content handles true s
  | _ => content Node.standardHandles false s

/-- The document that a text holds. -/
def load (text : String) : Contents := do
  let cs := withLineFeeds text.toList
  if cs.all isAllowed then
    match ← node? (Lexer.read cs) with
    | some (root, graph) => graph.valueOf root
    | none => pure .null
  else unreadable

end OwnershipRegistry.Yaml
