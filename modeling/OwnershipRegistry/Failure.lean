import OwnershipRegistry.Denial
import OwnershipRegistry.Schema.Issue

/-! # Failures

Everything that a request can end in instead of an answer. Only denials are decisions of the
access control core; the others say that the request itself, or a document it reads, is not
well formed. -/

namespace OwnershipRegistry

/-- Why a request has no answer. -/
inductive Failure where
  | denied (denial : Denial)
  | invalidName (name : String)
  | invalidTag (tag : String)
  /-- A resource kind that does not exist. -/
  | unknownKind (kind : String)
  /-- A value that cannot be an address. -/
  | invalidAddress (value : Value)
  | badNumeral (error : Numeral.Error)
  /-- An integer with too many digits to be written. -/
  | numberTooLong
  /-- A scalar of a document that its notation promises and its digits do not keep. -/
  | badScalar (text : String)
  /-- A number that is too large for the place it is meant for. -/
  | outOfRange (text : String)
  /-- A scalar of a document that leads to itself without end. -/
  | endless
  /-- A scalar of a document that is promised as a number and holds nothing. -/
  | noDigits
  /-- A scalar of a document that is promised as one of some words and is none. -/
  | unknownWord (codes : List Nat)
  /-- A document that breaks the rules of its record. -/
  | invalidDocument (issues : List Schema.Issue)
  /-- A document that cannot be read at all. -/
  | unreadableDocument
  | missingManifest (path : String)
  /-- A path at which there is a directory and no document. -/
  | directory (path : String)
  /-- A manifest that declares a tag twice. -/
  | duplicateResource (tag : String)
  /-- A manifest that declares a namespace twice. -/
  | duplicateNamespace
  | unknownLevel (name : String)
  /-- A buffer of fewer than no entries. -/
  | negativeCapacity
  /-- A failure raised between requests. -/
  | raised (message : String)
  /-- A value of a shape that nothing here can use. -/
  | wrongShape
  /-- A document that is no mapping where fields are looked up. -/
  | noFields

namespace Failure

/-- An integer that does not fit a type of machine integers. -/
def beyond (type : String) : Failure := .outOfRange ("Python int too large to convert to C " ++ type)

/-- An integer beyond the floating point numbers. -/
def beyondReals : Failure := .outOfRange "int too large to convert to float"

/-- A text with codes of no character, which no text of characters can hold. -/
def unencodable : Failure := .badScalar "surrogates not allowed"

/-- The message of a failure. -/
def message : Failure → String
  | .denied denial => denial.message
  | .invalidName name =>
    "Invalid name `" ++ name ++ "`: only ASCII letters, digits and underscores are allowed."
  | .invalidTag tag => "Invalid tag `" ++ tag ++ "`: expected `namespace-name`."
  | .unknownKind kind => "Unknown resource kind: " ++ kind
  | .invalidAddress value => "Invalid address: " ++ value.shown
  | .badNumeral error => error.message
  | .numberTooLong => Numeral.excess ""
  | .badScalar text => text
  | .outOfRange text => text
  | .endless => "maximum recursion depth exceeded"
  | .noDigits => "string index out of range"
  | .unknownWord codes => Text.quotedCodes codes
  | .missingManifest path => "World manifest not found: " ++ path
  | .directory path => "[Errno 21] Is a directory: " ++ Text.quoted path
  | .duplicateResource tag => "Duplicate resource detected: " ++ tag
  | .duplicateNamespace => "Duplicate namespace detected"
  | .unknownLevel name => "Unknown level: " ++ Text.quoted name
  | .negativeCapacity => "maxlen must be non-negative"
  | .raised message => message
  | .invalidDocument issues => "The document breaks its rules in " ++ toString issues.length ++ " places."
  | .unreadableDocument => "The document is not well formed."
  | .wrongShape => "A value has the wrong shape."
  | .noFields => "The document is no mapping."

/-- Whether a failure is a refusal of permission. -/
def isDenial : Failure → Bool
  | .denied _ => true
  | _ => false

/-- The parts of a failure of the system; a denial has all of them, and all are empty. -/
def systemParts : List String := ["errno", "strerror", "filename", "filename2"]

/-- The part of a denial that holds all of its details. -/
def detailsPart : String := "_details"

/-- A named part of a failure. The parts that all denials have go before their details. -/
def attribute? (f : Failure) (name : String) : Option Value :=
  if name = "args" then some (.list [.str f.message])
  else match f with
  | .denied denial =>
    if name = "kind" then some (.str denial.kind)
    else if name = "template" then some (.str denial.wording.source)
    else if name = detailsPart then some (.ofFields denial.details)
    else if systemParts.contains name then some .null
    else denial.details.lookup name
  | .invalidName text => if name = "name" then some (.str text) else none
  | .invalidTag text => if name = "tag" then some (.str text) else none
  | _ => none

end Failure

/-- The plain text of a value, unless one of its integers is too long to be written, or it is itself a
text that is not of characters alone. -/
def Value.written : Value → Except Failure String
  | .codes _ => .error .unencodable
  | v => if v.isWritable then .ok v.plain else .error .numberTooLong

theorem Value.written_eq_ok {v : Value} {text : String} (h : v.written = .ok text) : text = v.plain := by
  unfold written at h
  split at h
  · cases h
  · split at h
    · exact (Except.ok.inj h).symm
    · cases h

/-- The text that messages give to a value, unless it cannot be written. -/
def Value.writtenFelt : Value → Except Failure String
  | .int n => .ok (Numeral.hex n)
  | v => v.written

/-- Turn a refusal into a failure. -/
def Denial.orFail {α : Type} : Except Denial α → Except Failure α
  | .ok a => .ok a
  | .error d => .error (.denied d)

@[simp] theorem Denial.orFail_ok {α : Type} (a : α) : Denial.orFail (.ok a) = .ok a := rfl

@[simp] theorem Denial.orFail_error {α : Type} (d : Denial) :
    Denial.orFail (.error d : Except Denial α) = .error (.denied d) := rfl

end OwnershipRegistry
