/-! # Issues found in a document

Each issue says where in the document it is and what is wrong there. The words of the faults are
those of the validation library whose rules `Reading` states. A rule of the record's own is
reported with its wording behind a fixed beginning. -/

namespace OwnershipRegistry.Schema

/-- A step of the way to a part of a document. -/
inductive Place where
  | field (name : String)
  | item (index : Nat)
deriving DecidableEq

/-- What is wrong at a place. -/
inductive Fault where
  | missing
  | notText
  | notUnicode
  | notChoice
  | notList
  | notRecord
  | notInteger
  | notNumeral
  | numeralTooLong
  | fractional
  | notFinite
  | notTruth
  | unreadableTruth
  | tooSmall
  /-- A rule of the record itself is broken, with the rule's own wording. -/
  | rule (text : String)
deriving DecidableEq

/-- The word under which a fault is reported. -/
def Fault.word : Fault → String
  | .missing => "missing"
  | .notText => "string_type"
  | .notUnicode => "string_unicode"
  | .notChoice => "literal_error"
  | .notList => "list_type"
  | .notRecord => "model_type"
  | .notInteger => "int_type"
  | .notNumeral => "int_parsing"
  | .numeralTooLong => "int_parsing_size"
  | .fractional => "int_from_float"
  | .notFinite => "finite_number"
  | .notTruth => "bool_type"
  | .unreadableTruth => "bool_parsing"
  | .tooSmall => "greater_than"
  | .rule _ => "value_error"

/-- The text that a broken rule is reported with. -/
def Fault.note? : Fault → Option String
  | .rule text => some ("Value error, " ++ text)
  | _ => none

/-- A fault and its place. -/
structure Issue where
  place : List Place
  fault : Fault
deriving DecidableEq

end OwnershipRegistry.Schema
