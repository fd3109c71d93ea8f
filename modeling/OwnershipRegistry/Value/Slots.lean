import OwnershipRegistry.Value

/-! # The order of a set

The members of a set stand in slots, whose number is a power of two, and a set is gone through slot
by slot. Where a member stands follows from its remainder by a prime: it takes the first slot that
is free on its way. Only numbers have a remainder; a set with other members keeps the order in
which they were written. -/

namespace OwnershipRegistry.Slots

/-- The prime, which is one less than a power of two. -/
def primeBits : Nat := 61

/-- The remainder of a magnitude times a power of two. Doubling is a rotation of the bits. -/
def scaledRemainder (magnitude : Nat) (scale : Int) : Nat :=
  magnitude * Nat.pow 2 (scale % primeBits).toNat % (Nat.pow 2 primeBits - 1)

/-- A remainder with a sign; minus one is not used. -/
def signed (negative : Bool) (remainder : Nat) : Int :=
  if negative then (if remainder = 1 then -2 else -remainder) else remainder

/-- The remainder of a number. The infinities share fixed ones. -/
def remainder? : Value → Option Int
  | .int n => some (signed (n < 0) (scaledRemainder n.natAbs 0))
  | .bool b => some (if b then 1 else 0)
  | .float x =>
    if x.isFinite then some (signed x.negative (scaledRemainder x.significand x.scale))
    else if x.isInfinite then some (signed x.negative 314159)
    else none
  | _ => none

/-- How many slots a set of some members has: up to four have eight, and more have at least twice
their number. -/
def count (members : Nat) : Nat := if members ≤ 4 then 8 else Nat.pow 2 ((2 * members).log2 + 1)

/-- The slots that are tried together: ten in a row where there are as many, otherwise one. -/
def row (slots slot : Nat) : List Nat := if slot + 9 < slots then List.range' slot 10 else [slot]

/-- The first free slot on a way of rows. What is left of the remainder sends the way on, and in
the end the way leads through all slots. -/
def free (isTaken : Nat → Bool) (slots : Nat) : Nat → Nat → Nat → Nat
  | 0, slot, _ => slot
  | steps + 1, slot, rest =>
    match (row slots slot).find? fun s => !isTaken s with
    | some s => s
    | none => free isTaken slots steps ((slot * 5 + 1 + rest / 32) % slots) (rest / 32)

/-- Put a member with its remainder into its slot. -/
def place (table : Array (Option Value)) (member : Value × Int) : Array (Option Value) :=
  let rest := (member.2 % Nat.pow 2 64).toNat
  let isTaken (slot : Nat) : Bool := ((table[slot]?).getD none).isSome
  table.setIfInBounds (free isTaken table.size (table.size + 13) (rest % table.size) rest) (some member.1)

/-- The members of a set in the order in which it is gone through. -/
def order (members : List Value) : List Value :=
  match members.mapM fun v => (remainder? v).map fun r => (v, r) with
  | some marked => ((marked.foldl place (Array.replicate (count members.length) none)).toList).filterMap id
  | none => members

end OwnershipRegistry.Slots
