import OwnershipRegistry.Failure

/-! # Building denials from arguments

A denial can be built from the word for its kind and the values it is about, which are given in
order or by name. -/

namespace OwnershipRegistry.Denial

/-- The names of the values that each kind of denial is about, in order. A denial of no
particular kind takes any values, but only by name. -/
def parameters? (kind : String) : Option (List String) :=
  [("namespace_already_registered", ["namespace"]),
    ("namespace_not_registered", ["namespace"]),
    ("no_namespace_write_access", ["caller", "selector", "name"]),
    ("model_already_registered", ["namespace", "name"]),
    ("resource_not_registered", ["selector"]),
    ("not_owner", ["caller", "selector"]),
    ("not_owner_upgrade", ["caller", "selector"]),
    ("caller_not_account", ["caller"]),
    ("invalid_resource_selector", ["selector"]),
    ("resource_conflict", ["name", "expected_kind"]),
    ("no_model_write_access", ["tag", "caller"]),
    ("delete_entity_member", [])].lookup kind

/-- The denial of a kind about the given values, if they are of the right number and shape. -/
def ofValues? (kind : String) (values : List Value) : Option Denial :=
  match kind, values with
  | "namespace_already_registered", [.str space] => some (.namespaceTaken space)
  | "namespace_not_registered", [space] => some (.namespaceUnknown space)
  | "no_namespace_write_access", [.int caller, selector, .str name] =>
    some (.namespaceWriteRefused caller selector name)
  | "model_already_registered", [.str space, .str name] => some (.resourceTaken space name)
  | "resource_not_registered", [selector] => some (.resourceUnknown selector)
  | "not_owner", [.int caller, selector] => some (.notOwner caller selector)
  | "not_owner_upgrade", [.int caller, selector] => some (.notOwnerForUpgrade caller selector)
  | "caller_not_account", [.int caller] => some (.notAccount caller)
  | "invalid_resource_selector", [selector] => some (.badSelector selector)
  | "resource_conflict", [.str name, .str expected] => some (.kindConflict name expected)
  | "no_model_write_access", [.str tag, .int caller] => some (.writeRefused tag caller)
  | "delete_entity_member", [] => some .memberDeletion
  | _, _ => none

/-- The values of the parameters that are left after those given in order. Every named value has
to be one of them. -/
def bound? (parameters : List String) (named : Fields) : Option (List Value) :=
  if named.all fun f => parameters.contains f.1 then parameters.mapM fun p => named.lookup p else none

/-- The denial itself, which no named value may stand for. -/
def ownName : String := "self"

/-- The denial that a kind makes of its arguments, whether or not its message can be written. -/
def ofArguments? (kind : String) (values : List Value) (named : Fields) : Option Denial :=
  match parameters? kind with
  | some parameters =>
    (bound? (parameters.drop values.length) named).bind fun rest => ofValues? kind (values ++ rest)
  | none => if values.isEmpty && named.all fun f => f.1 != ownName then some (.other named) else none

/-- The denial that a kind makes of its arguments. -/
def ofArguments (kind : String) (values : List Value) (named : Fields) : Except Failure Denial :=
  match ofArguments? kind values named with
  | some denial => if denial.hasMessage then .ok denial else .error .numberTooLong
  | none => .error .wrongShape

end OwnershipRegistry.Denial
