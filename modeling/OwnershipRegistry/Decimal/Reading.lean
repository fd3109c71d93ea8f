import OwnershipRegistry.Decimal.Binary64

/-! # Reading decimals

A decimal is a run of digits that a point may divide and an exponent of ten may follow. It
stands for the floating point number nearest to it. -/

namespace OwnershipRegistry.Decimal

/-- The leading digits of a text, as a number, with their count, and the rest. -/
def digitsOf (acc count : Nat) : List Char → Nat × Nat × List Char
  | c :: rest =>
    if c.isDigit then digitsOf (acc * 10 + (c.toNat - '0'.toNat)) (count + 1) rest
    else (acc, count, c :: rest)
  | [] => (acc, count, [])

/-- The exponent that ends a decimal; nothing stands for zero. -/
def exponentOf? : List Char → Option Int
  | [] => some 0
  | mark :: rest =>
    if mark = 'e' || mark = 'E' then
      let (negative, rest) := match rest with
        | '-' :: rest => (true, rest)
        | '+' :: rest => (false, rest)
        | rest => (false, rest)
      match digitsOf 0 0 rest with
      | (n, count, []) => if count = 0 then none else some (if negative then -(n : Int) else n)
      | _ => none
    else none

/-- The number that an unsigned decimal stands for. -/
def magnitudeOf? (negative : Bool) (cs : List Char) : Option Binary64 :=
  let (whole, wholeCount, rest) := digitsOf 0 0 cs
  let (digits, places, rest) := match rest with
    | '.' :: rest => digitsOf whole 0 rest
    | rest => (whole, 0, rest)
  if wholeCount + places = 0 then none
  else (exponentOf? rest).map fun e => Binary64.ofDecimal negative digits (e - places)

/-- The number that a decimal with an optional sign stands for. -/
def ofChars? : List Char → Option Binary64
  | '-' :: rest => magnitudeOf? true rest
  | '+' :: rest => magnitudeOf? false rest
  | rest => magnitudeOf? false rest

/-- The number that a text stands for, which may also name the numbers that have no digits. -/
def ofText? (text : String) : Option Binary64 :=
  if text = "nan" then some .nan
  else if text = "inf" then some (.infinity false)
  else if text = "-inf" then some (.infinity true)
  else ofChars? text.toList

end OwnershipRegistry.Decimal
