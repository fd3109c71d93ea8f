import OwnershipRegistry.Registry.Permissions
import OwnershipRegistry.Security.Config

/-! # The caller directory

What each known caller is and how it is labelled. The last registration of a caller decides its
kind; the last label that is not empty stays. -/

namespace OwnershipRegistry

/-- A caller to be put into the directory. -/
structure Registration where
  kind : CallerKind
  address : Int
  label : Option String
deriving DecidableEq

/-- The known callers and their labels, and the kind of all others. -/
structure Directory where
  unknownKind : CallerKind
  kinds : Table Int CallerKind
  labels : Table Int String

namespace Directory

/-- A directory without callers. -/
def empty (unknownKind : CallerKind) : Directory := ⟨unknownKind, .empty, .empty⟩

/-- The labels after a registration: an empty label changes nothing. -/
def relabel (labels : Table Int String) (address : Int) : Option String → Table Int String
  | some label => if label = "" then labels else labels.put address label
  | none => labels

/-- Register a caller. -/
def register (d : Directory) (r : Registration) : Directory :=
  { d with kinds := d.kinds.put r.address r.kind, labels := relabel d.labels r.address r.label }

/-- The warning that a registration changes the kind of a known caller. -/
def reclassification? (d : Directory) (r : Registration) : Option Fields :=
  match d.kinds.get? r.address with
  | some previous =>
    if previous = r.kind then none
    else some [("event", .str "identity.reclassified"), ("caller", .str (Numeral.hex r.address)),
      ("previous", .str previous.word), ("kind", .str r.kind.word)]
  | none => none

/-- Register several callers, with the warnings on the way. -/
def registerAll (d : Directory) : List Registration → Directory × List Fields
  | [] => (d, [])
  | r :: rest =>
    let (last, warnings) := registerAll (d.register r) rest
    (last, (d.reclassification? r).toList ++ warnings)

/-- The registrations that a configuration makes: accounts first, then contracts. -/
def registrations (config : SecurityConfig) : List Registration :=
  (config.accounts.map fun e => ⟨.account, e.address, e.label⟩)
    ++ config.contracts.map fun e => ⟨.contract, e.address, e.label⟩

/-- The directory of a configuration, with the warnings on the way. -/
def ofConfig (config : SecurityConfig) : Directory × List Fields :=
  registerAll (empty config.default.unknownKind) (registrations config)

/-- What a caller is. -/
def kindOf (d : Directory) (caller : Int) : CallerKind := (d.kinds.get? caller).getD d.unknownKind

/-- Whether a caller is an account. -/
def isAccount (d : Directory) (caller : Int) : Bool := d.kindOf caller = .account

/-- Refuse a caller that is no account. -/
def requireAccount (d : Directory) (caller : Int) : Except Denial Unit :=
  if d.isAccount caller then .ok () else .error (.notAccount caller)

/-- The permissions of a caller. -/
def permissions (d : Directory) (caller : Int) : Permissions := ⟨caller, d.isAccount caller⟩

/-- The label of a caller, if it has one. -/
def label? (d : Directory) (caller : Int) : Option String := d.labels.get? caller

/-- All known callers, ascending. -/
def knownCallers (d : Directory) : List Int := IntSet.ofList d.kinds.keys

/-- What an audit finds about the callers: that there is no account, and who has no label. -/
def findings (d : Directory) : List String :=
  let callers := d.knownCallers
  (if callers.any d.isAccount then []
    else ["No account callers configured; namespace registration will be refused."])
    ++ (callers.filter fun c => (d.label? c).isNone).map fun c =>
      "Caller '" ++ Numeral.hex c ++ "' has no label."

end Directory

end OwnershipRegistry
