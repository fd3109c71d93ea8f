import OwnershipRegistry.Journal.Record
import OwnershipRegistry.Manifest.Plan

/-! # Answers -/

namespace OwnershipRegistry

/-- What a request answers. -/
inductive Answer where
  | nothing
  | flag (b : Bool)
  | value (v : Value)
  | exposition (text : String)
  | namespace (r : NamespaceRecord)
  | resource (r : ResourceRecord)
  | namespaces (rs : List NamespaceRecord)
  | resources (rs : List ResourceRecord)
  | token (t : WriteToken)
  | snapshot (s : Snapshot)
  | plan (p : Plan)
  | records (rs : List LogRecord)

/-- What was found, or nothing. -/
def Answer.ofOption {α : Type} (answer : α → Answer) : Option α → Answer
  | some a => answer a
  | none => .nothing

end OwnershipRegistry
