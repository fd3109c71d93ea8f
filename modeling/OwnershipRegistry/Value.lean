import OwnershipRegistry.Calendar
import OwnershipRegistry.Decimal.Shortest
import OwnershipRegistry.Numeral

/-! # Document values

What a configuration document, a log message or an unchecked argument can hold. A mapping
keeps its entries in the order in which their keys were first written. A value that contains
itself is a link: a number, and a table that gives the value of every number. -/

namespace OwnershipRegistry

/-- A value of a document. -/
inductive Value where
  | null
  | bool (b : Bool)
  | int (n : Int)
  | float (x : Binary64)
  | str (s : String)
  /-- A text with codes that are of no character. Documents can hold such a text, and no field of their
  records accepts one; what requests and the log are given is text of characters. -/
  | codes (cs : List Nat)
  | bytes (bs : List UInt8)
  | day (d : Day)
  | instant (t : Instant)
  | list (xs : List Value)
  | tuple (xs : List Value)
  | set (xs : List Value)
  | dict (entries : List (Value × Value))
  /-- A list, tuple or mapping by its number. Links inside the table's values leave the table out. -/
  | link (table : List (Nat × Value)) (number : Nat)
deriving Inhabited

/-- The fields of a document record, by name. -/
abbrev Fields := List (String × Value)

namespace Value

/-- A record as a mapping. -/
def ofFields (fields : Fields) : Value := .dict (fields.map fun f => (.str f.1, f.2))

mutual

/-- A value whose links are links into a table. -/
def within (table : List (Nat × Value)) : Value → Value
  | .list xs => .list (withinItems table xs)
  | .tuple xs => .tuple (withinItems table xs)
  | .dict entries => .dict (withinEntries table entries)
  | .link _ number => .link table number
  | v => v

/-- Items whose links are links into a table. -/
def withinItems (table : List (Nat × Value)) : List Value → List Value
  | [] => []
  | x :: xs => within table x :: withinItems table xs

/-- Entries whose links are links into a table. -/
def withinEntries (table : List (Nat × Value)) : List (Value × Value) → List (Value × Value)
  | [] => []
  | (k, v) :: rest => (k, within table v) :: withinEntries table rest

end

/-- The value that a link leads to; any other value is itself. -/
def followed : Value → Value
  | .link table number => ((table.lookup number).getD .null).within table
  | v => v

/-- The text of codes. -/
def ofCodes (cs : List Nat) : Value :=
  if cs.all fun c => c.isValidChar then .str (String.ofList (cs.map Char.ofNat)) else .codes cs

/-- Whether a value counts as absent: null, false, zero, or empty. -/
def isFalsy : Value → Bool
  | .null => true
  | .bool b => !b
  | .int n => n == 0
  | .float x => x.isZero
  | .str s => s.isEmpty
  | .codes cs => cs.isEmpty
  | .bytes bs => bs.isEmpty
  | .list xs => xs.isEmpty
  | .tuple xs => xs.isEmpty
  | .set xs => xs.isEmpty
  | .dict entries => entries.isEmpty
  | .day _ | .instant _ | .link _ _ => false

mutual

/-- Whether a value can be the key of a mapping. -/
def isKey : Value → Bool
  | .list _ | .set _ | .dict _ | .link _ _ => false
  | .tuple xs => areKeys xs
  | _ => true

/-- Whether all values of a list can be keys. -/
def areKeys : List Value → Bool
  | [] => true
  | x :: xs => isKey x && areKeys xs

end

/-- The integer that a scalar counts as among numbers: whole floats and truth values are
numbers too. -/
def number? : Value → Option Int
  | .int n => some n
  | .bool b => some (if b then 1 else 0)
  | .float x => x.toInt?
  | _ => none

mutual

/-- Whether two values are the same key of a mapping. Numbers agree by value. -/
def sameKey : Value → Value → Bool
  | .null, .null => true
  | .str s, .str t => s == t
  | .codes a, .codes b => a == b
  | .bytes a, .bytes b => a == b
  | .day a, .day b => a == b
  | .instant a, .instant b => a.same b
  | .tuple xs, .tuple ys => sameKeys xs ys
  | .float x, .float y => x.sameNumber y
  | x, y => match x.number?, y.number? with
    | some m, some n => m == n
    | _, _ => false

/-- Whether two lists hold the same keys in the same order. -/
def sameKeys : List Value → List Value → Bool
  | [], [] => true
  | x :: xs, y :: ys => sameKey x y && sameKeys xs ys
  | _, _ => false

end

/-- The value under a key. -/
def lookup (key : Value) (entries : List (Value × Value)) : Option Value :=
  (entries.find? fun e => sameKey e.1 key).map (·.2)

/-- Put a value under a key: in place where the key stands already, at the end otherwise. -/
def put {α : Type} (entries : List (Value × α)) (key : Value) (value : α) : List (Value × α) :=
  match entries with
  | [] => [(key, value)]
  | e :: rest => if sameKey e.1 key then (e.1, value) :: rest else e :: put rest key value

/-- Put a value under a key of a mapping, which may be a link. Other values have no keys. -/
def withEntry (v key value : Value) : Value :=
  match v with
  | .dict entries => .dict (put entries key value)
  | .link table number =>
    .link (table.map fun row =>
      match row with
      | (n, .dict entries) => (n, .dict (if n = number then put entries key value else entries))
      | row => row) number
  | v => v

/-- Put all entries, in order. -/
def putAll (entries more : List (Value × Value)) : List (Value × Value) :=
  more.foldl (fun acc e => put acc e.1 e.2) entries

end Value

end OwnershipRegistry
