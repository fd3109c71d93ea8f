import OwnershipRegistry.Table
import OwnershipRegistry.Value.Text

/-! # The log context

Fields that everything logged or recorded carries along. A flow sees the ambient context with
its own name and caller put in; the ambient context stands again when the flow ends. -/

namespace OwnershipRegistry

/-- The ambient fields, in the order in which they were first set. -/
abbrev Context := Table String Value

namespace Context

/-- Set one field; null removes it. -/
def set (c : Context) (name : String) (value : Value) : Context :=
  match value with
  | .null => c.erase name
  | v => c.put name v

/-- Set several fields, in order. -/
def update (c : Context) (fields : Fields) : Context := fields.foldl (fun c f => c.set f.1 f.2) c

/-- The text of an optional caller. -/
def callerField : Option Int → Value
  | some caller => .str (Numeral.hex caller)
  | none => .null

/-- The context inside a flow. -/
def enter (c : Context) (flow : String) (caller : Option Int) : Context :=
  c.update [("flow", .str flow), ("caller", callerField caller)]

end Context

end OwnershipRegistry
