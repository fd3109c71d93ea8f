import OwnershipRegistry.Value.Text

/-! # Denials

Why a request is refused. Every denial carries the values it is about; its message, its kind
and its details are computed from them. -/

namespace OwnershipRegistry

/-- A piece of a message: fixed text, or the text of a detail. -/
inductive Piece where
  | text (s : String)
  | detail (name : String)

/-- The wording of a message. -/
abbrev Wording := List Piece

namespace Wording

/-- The wording with its details named between braces. -/
def source : Wording → String
  | [] => ""
  | .text s :: rest => s ++ source rest
  | .detail name :: rest => "\x7b" ++ name ++ "\x7d" ++ source rest

/-- The wording with its details filled in. -/
def fill (details : List (String × String)) : Wording → String
  | [] => ""
  | .text s :: rest => s ++ fill details rest
  | .detail name :: rest => (details.lookup name).getD "" ++ fill details rest

end Wording

/-- A refusal of the access control core. -/
inductive Denial where
  /-- A refusal of no particular kind, with any details. -/
  | other (details : Fields)
  | namespaceTaken (space : String)
  | namespaceUnknown (space : Value)
  | namespaceWriteRefused (caller : Int) (selector : Value) (name : String)
  | resourceTaken (space name : String)
  | resourceUnknown (selector : Value)
  | notOwner (caller : Int) (selector : Value)
  | notOwnerForUpgrade (caller : Int) (selector : Value)
  | notAccount (caller : Int)
  | badSelector (selector : Value)
  | kindConflict (name expected : String)
  | writeRefused (tag : String) (caller : Int)
  | memberDeletion

namespace Denial

/-- The kinds of denials, under which they are counted and logged. -/
def kind : Denial → String
  | .other _ => "access_control"
  | .namespaceTaken _ => "namespace_already_registered"
  | .namespaceUnknown _ => "namespace_not_registered"
  | .namespaceWriteRefused _ _ _ => "no_namespace_write_access"
  | .resourceTaken _ _ => "model_already_registered"
  | .resourceUnknown _ => "resource_not_registered"
  | .notOwner _ _ => "not_owner"
  | .notOwnerForUpgrade _ _ => "not_owner_upgrade"
  | .notAccount _ => "caller_not_account"
  | .badSelector _ => "invalid_resource_selector"
  | .kindConflict _ _ => "resource_conflict"
  | .writeRefused _ _ => "no_model_write_access"
  | .memberDeletion => "delete_entity_member"

/-- The values that a denial is about, by name. -/
def details : Denial → Fields
  | .other details => details
  | .namespaceTaken space => [("namespace", .str space)]
  | .namespaceUnknown space => [("namespace", space)]
  | .namespaceWriteRefused caller selector name =>
    [("caller", .int caller), ("selector", selector), ("name", .str name)]
  | .resourceTaken space name => [("namespace", .str space), ("name", .str name)]
  | .resourceUnknown selector => [("selector", selector)]
  | .notOwner caller selector => [("caller", .int caller), ("selector", selector)]
  | .notOwnerForUpgrade caller selector => [("caller", .int caller), ("selector", selector)]
  | .notAccount caller => [("caller", .int caller)]
  | .badSelector selector => [("selector", selector)]
  | .kindConflict name expected => [("name", .str name), ("expected_kind", .str expected)]
  | .writeRefused tag caller => [("tag", .str tag), ("caller", .int caller)]
  | .memberDeletion => []

/-- The wording of each kind of denial. -/
def wording : Denial → Wording
  | .other _ => []
  | .namespaceTaken _ => [.text "Namespace `", .detail "namespace", .text "` is already registered."]
  | .namespaceUnknown _ => [.text "Namespace `", .detail "namespace", .text "` is not registered."]
  | .namespaceWriteRefused _ _ _ =>
    [.text "Caller `", .detail "caller", .text "` has no write access on namespace `", .detail "name",
      .text "`."]
  | .resourceTaken _ _ =>
    [.text "Resource `", .detail "namespace", .text "-", .detail "name", .text "` is already registered."]
  | .resourceUnknown _ => [.text "Resource `", .detail "selector", .text "` is not registered."]
  | .notOwner _ _ =>
    [.text "Caller `", .detail "caller", .text "` is not the owner of the resource `",
      .detail "selector", .text "`."]
  | .notOwnerForUpgrade _ _ =>
    [.text "Caller `", .detail "caller", .text "` cannot upgrade the resource `",
      .detail "selector", .text "` (not owner)."]
  | .notAccount _ => [.text "Caller `", .detail "caller", .text "` is not an account."]
  | .badSelector _ => [.text "Invalid resource selector `", .detail "selector", .text "`."]
  | .kindConflict _ _ =>
    [.text "Resource `", .detail "name", .text "` is registered but not as ", .detail "expected_kind",
      .text "."]
  | .writeRefused _ _ =>
    [.text "Caller `", .detail "caller", .text "` has no write access on model `", .detail "tag",
      .text "`."]
  | .memberDeletion => [.text "Cannot delete an entity member."]

/-- The details as messages show them. -/
def shownDetails (d : Denial) : List (String × String) := d.details.map fun f => (f.1, f.2.felt)

/-- Whether every detail has a text for messages. -/
def hasMessage (d : Denial) : Bool := d.details.all fun f => f.2.hasFelt

/-- The same denial about a selector as it was given. A namespace that is not there is named by
the selector's text. -/
def about (selector : Value) : Denial → Denial
  | .namespaceUnknown _ => .namespaceUnknown (.str selector.felt)
  | .namespaceWriteRefused caller _ name => .namespaceWriteRefused caller selector name
  | .resourceUnknown _ => .resourceUnknown selector
  | .notOwner caller _ => .notOwner caller selector
  | .notOwnerForUpgrade caller _ => .notOwnerForUpgrade caller selector
  | d => d

/-- The message of a denial. -/
def message (d : Denial) : String := d.wording.fill d.shownDetails

end Denial

end OwnershipRegistry
