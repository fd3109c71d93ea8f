import OwnershipRegistry.Schema.Reading

/-! # Addresses in documents

An address or a selector is an integer, or a text that holds a marked numeral. This is a rule of
the records' own, asked of a field before its reading, and a refusal is reported as a fault of that
field with the wording of the refusal. -/

namespace OwnershipRegistry

namespace Address

/-- The integer that a value gives as an address. -/
def ofValue : Value → Except Failure Int
  | .int n => .ok n
  | .str s => match Numeral.read .marked s with
    | .ok n => .ok n
    | .error e => .error (.badNumeral e)
  | .codes cs => match Numeral.readCodes .marked cs with
    | .ok n => .ok n
    | .error e => .error (.badNumeral e)
  | v => .error (if v.isWritable then .invalidAddress v else .numberTooLong)

/-- The addresses of a list; the first that is none fails. -/
def ofValues : List Value → Except Failure (List Int)
  | [] => .ok []
  | v :: vs => do
    let n ← ofValue v
    let ns ← ofValues vs
    pure (n :: ns)

theorem ofValue_int (n : Int) : ofValue (.int n) = .ok n := rfl

end Address

namespace Schema

/-- A rule that failed, as a fault. -/
def ruled {α : Type} : Except Failure α → Reading α
  | .ok a => .done a
  | .error failure => Reading.fault (.rule failure.message)

/-- Read an address. -/
def address (v : Value) : Reading Int := ruled (Address.ofValue v)

/-- What a value that can be looked through consists of: items, keys, characters or bytes. -/
def parts? (v : Value) : Option (List Value) :=
  match v.followed with
  | .list vs | .tuple vs | .set vs => some vs
  | .dict entries => some (entries.map (·.1))
  | .str s => some (s.toList.map fun c => .str (String.singleton c))
  | .codes cs => some (cs.map fun c => .ofCodes [c])
  | .bytes bs => some (bs.map fun b => .int b.toNat)
  | _ => none

/-- Read addresses out of whatever a value consists of. -/
def addresses (v : Value) : Reading (List Int) :=
  match parts? v with
  | some vs => ruled (Address.ofValues vs)
  | none => .unusable

end Schema

end OwnershipRegistry
