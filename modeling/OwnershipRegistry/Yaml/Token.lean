import OwnershipRegistry.Failure

/-! # Tokens

The marks and texts of a document, in the order of the text. Block structure, which the text
shows by indentation, is made explicit by marks of its own. -/

namespace OwnershipRegistry.Yaml

/-- A line of instructions before a document. -/
inductive Directive where
  | version (major : Int)
  /-- A handle, and the start of the tags that it abbreviates. -/
  | handle (handle expansion : String)
  | other

/-- A tag as it is written: a handle, unless the tag is written out, and what follows it. -/
structure TagMark where
  handle : Option String
  suffix : String

/-- A token. A scalar's text is given by codes, some of which may be of no character. -/
inductive Token where
  | directive (directive : Directive)
  | documentStart
  | documentEnd
  | streamEnd
  | blockSequenceStart
  | blockMappingStart
  | blockEnd
  | flowSequenceStart
  | flowSequenceEnd
  | flowMappingStart
  | flowMappingEnd
  | blockEntry
  | flowEntry
  | key
  | value
  | anchor (name : String)
  | alias (name : String)
  | tag (mark : TagMark)
  | scalar (text : List Nat) (plain : Bool)

/-- The tokens of a text, up to the fault that keeps those behind them from being read. -/
structure Tokens where
  list : List Token
  fault : Option Failure := none

end OwnershipRegistry.Yaml
