import OwnershipRegistry.Failure

/-! # Bytes in text

Four characters of an alphabet of sixty-four stand for three bytes. Other characters between
them say nothing, and the last group is filled up with equals signs. -/

namespace OwnershipRegistry.Yaml.Binary

/-- The value of a character of the alphabet. -/
def digit? (c : Char) : Option Nat :=
  if 'A' ≤ c ∧ c ≤ 'Z' then some (c.toNat - 'A'.toNat)
  else if 'a' ≤ c ∧ c ≤ 'z' then some (c.toNat - 'a'.toNat + 26)
  else if '0' ≤ c ∧ c ≤ '9' then some (c.toNat - '0'.toNat + 52)
  else if c = '+' then some 62
  else if c = '/' then some 63
  else none

/-- How far a reading is: the digits of the present group, last one first, and the equals signs
behind them. -/
structure Group where
  digits : List Nat := []
  fillers : Nat := 0

/-- The number that the digits of a group make. -/
def Group.number (g : Group) : Nat := g.digits.reverse.foldl (fun acc d => acc * 64 + d) 0

/-- The bytes of a group of two, three or four digits. -/
def Group.bytes (g : Group) : List UInt8 :=
  match g.digits.length with
  | 4 => [UInt8.ofNat (g.number / 65536), UInt8.ofNat (g.number / 256), UInt8.ofNat g.number]
  | 3 => [UInt8.ofNat (g.number / 1024), UInt8.ofNat (g.number / 4)]
  | 2 => [UInt8.ofNat (g.number / 16)]
  | _ => []

/-- Read bytes; a group that is not filled up fails. -/
def readFrom (g : Group) : List Char → Option (List UInt8)
  | [] => if g.digits.isEmpty then some [] else none
  | c :: rest =>
    if c = '=' then
      if 2 ≤ g.digits.length then
        if 4 ≤ g.digits.length + g.fillers + 1 then some g.bytes
        else readFrom { g with fillers := g.fillers + 1 } rest
      else readFrom g rest
    else match digit? c with
      | none => readFrom g rest
      | some d =>
        let g : Group := ⟨d :: g.digits, 0⟩
        if g.digits.length = 4 then (readFrom {} rest).map (g.bytes ++ ·) else readFrom g rest

/-- The bytes that a text of codes stands for. -/
def read (codes : List Nat) : Except Failure Value :=
  if codes.all (· < 128) then
    match readFrom {} (codes.map Char.ofNat) with
    | some bytes => .ok (.bytes bytes)
    | none => .error .unreadableDocument
  else .error .unreadableDocument

end OwnershipRegistry.Yaml.Binary
