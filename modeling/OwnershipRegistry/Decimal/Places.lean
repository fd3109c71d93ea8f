import OwnershipRegistry.Decimal.Shortest

/-! # Decimals with a given number of places

The exact value of a number, rounded once to the wanted place, the even digit of two. -/

namespace OwnershipRegistry.Decimal

/-- The magnitude of a finite number as a ratio. -/
def ratio (x : Binary64) : Nat × Nat :=
  if 0 ≤ x.scale then (x.significand * Nat.pow 2 x.scale.toNat, 1)
  else (x.significand, Nat.pow 2 (-x.scale).toNat)

/-- The magnitude in units of `10 ^ k`, rounded. -/
def units (x : Binary64) (k : Int) : Nat :=
  let (num, den) := ratio x
  if 0 ≤ k then Binary64.nearestEven num (den * Nat.pow 10 k.toNat)
  else Binary64.nearestEven (num * Nat.pow 10 (-k).toNat) den

/-- Digits with a point before the last `places` of them. A point that nothing would follow is
left out unless it is kept. -/
def pointed (keepPoint : Bool) (places n : Nat) : String :=
  let digits := digitChars n
  let digits := List.replicate (places + 1 - digits.length) '0' ++ digits
  let whole := digits.length - places
  String.ofList (digits.take whole)
    ++ (if places = 0 && !keepPoint then "" else "." ++ String.ofList (digits.drop whole))

/-- The magnitude with a fixed number of places after the point. -/
def fixedText (places : Nat) (keepPoint : Bool) (x : Binary64) : String :=
  pointed keepPoint places (units x (-(places : Int)))

/-- The leading exponent and the digits of a magnitude rounded to `places + 1` digits. -/
def leadingDigits (places : Nat) (x : Binary64) : Int × Nat :=
  if x.isZero then (0, 0)
  else
    let (num, den) := ratio x
    let lead := leadingExponent num den
    let n := units x (lead - places)
    if n = Nat.pow 10 (places + 1) then (lead + 1, Nat.pow 10 places) else (lead, n)

/-- The magnitude in scientific notation. -/
def scientificText (mark : String) (places : Nat) (keepPoint : Bool) (x : Binary64) : String :=
  let (lead, n) := leadingDigits places x
  pointed keepPoint places n ++ exponentText mark lead

/-- Drop the zeros that end a fraction, and its point if nothing is left of it. -/
def withoutTrailingZeros (s : String) : String :=
  if s.toList.contains '.' then
    let kept := s.toList.reverse.dropWhile (· == '0')
    String.ofList ((if kept.head? == some '.' then kept.drop 1 else kept).reverse)
  else s

/-- The magnitude with a number of significant digits, in the shorter of both notations. -/
def generalText (mark : String) (digits : Nat) (keepZeros : Bool) (x : Binary64) : String :=
  let digits := max digits 1
  let (lead, n) := leadingDigits (digits - 1) x
  let tidy (s : String) : String := if keepZeros then s else withoutTrailingZeros s
  if -4 ≤ lead ∧ lead < digits then
    tidy (fixedText (((digits : Int) - 1 - lead).toNat) keepZeros x)
  else tidy (pointed keepZeros (digits - 1) n) ++ exponentText mark lead

end OwnershipRegistry.Decimal
