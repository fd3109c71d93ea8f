import OwnershipRegistry.Schema.Address

/-! # The security configuration

Which callers are accounts and which are contracts, what unknown callers count as, which
selectors nobody may use, and whether registering a resource asks for write access. -/

namespace OwnershipRegistry

/-- What a caller is. -/
inductive CallerKind where
  | account
  | contract
deriving DecidableEq, Inhabited

namespace CallerKind

/-- The word for a kind of caller. -/
def word : CallerKind → String
  | .account => "account"
  | .contract => "contract"

/-- The kind that a word names. -/
def ofWord? (word : String) : Option CallerKind :=
  if word = "account" then some .account
  else if word = "contract" then some .contract
  else none

end CallerKind

/-- A caller that the configuration names. -/
structure CallerEntry where
  address : Int
  label : Option String
deriving DecidableEq

/-- What holds unless something else is said. -/
structure DefaultSecurity where
  unknownKind : CallerKind := .contract
  reserved : List Int := []
  enforceNamespaceWrite : Bool := false
deriving DecidableEq

/-- The whole configuration. -/
structure SecurityConfig where
  version : Int := 1
  default : DefaultSecurity := {}
  accounts : List CallerEntry := []
  contracts : List CallerEntry := []
deriving DecidableEq

open Schema

/-- Read a caller entry. -/
def CallerEntry.read (entries : List (Value × Value)) : Reading CallerEntry :=
  CallerEntry.mk <$> required entries "address" Schema.address
    <*> defaulted entries "label" none (nullable text)

/-- Read the reserved selectors; null stands for none. -/
def reservedSelectors : Value → Reading (List Int)
  | .null => .done []
  | v => addresses v

/-- Read the defaults. -/
def DefaultSecurity.read (entries : List (Value × Value)) : Reading DefaultSecurity :=
  DefaultSecurity.mk <$> defaulted entries "unknown_caller_kind" .contract (choice CallerKind.ofWord?)
    <*> defaulted entries "reserved_selectors" [] reservedSelectors
    <*> defaulted entries "enforce_namespace_write_on_register" false truth

/-- Read a configuration. -/
def SecurityConfig.read (entries : List (Value × Value)) : Reading SecurityConfig :=
  SecurityConfig.mk <$> defaulted entries "version" 1 integer
    <*> defaulted entries "default" {} (record DefaultSecurity.read)
    <*> defaulted entries "accounts" [] (list (record CallerEntry.read))
    <*> defaulted entries "contracts" [] (list (record CallerEntry.read))

/-- The configuration that a document gives; an absent document gives the default one. -/
def SecurityConfig.ofDocument (document : Value) : Except Failure SecurityConfig :=
  if document.isFalsy then .ok {} else (topLevel SecurityConfig.read document).result

/-- A caller entry as a value. -/
def CallerEntry.toValue (e : CallerEntry) : Value :=
  .ofFields [("address", .int e.address),
    ("label", match e.label with | some label => .str label | none => .null)]

/-- The defaults as a value. -/
def DefaultSecurity.toValue (d : DefaultSecurity) : Value :=
  .ofFields [("unknown_caller_kind", .str d.unknownKind.word),
    ("reserved_selectors", .list (d.reserved.map .int)),
    ("enforce_namespace_write_on_register", .bool d.enforceNamespaceWrite)]

/-- A configuration as a value. -/
def SecurityConfig.toValue (c : SecurityConfig) : Value :=
  .ofFields [("version", .int c.version), ("default", c.default.toValue),
    ("accounts", .list (c.accounts.map (·.toValue))),
    ("contracts", .list (c.contracts.map (·.toValue)))]

end OwnershipRegistry
