import OwnershipRegistry.Decimal.Binary64

/-! # The shortest decimal that reads back

A positive number `m · 2 ^ q` is the nearest double of a whole interval of reals. Its
shortest decimal is the one with the fewest digits inside that interval, and of those
the nearest to the number itself; of two at the same distance the even digit is taken. -/

namespace OwnershipRegistry.Decimal

/-- A positive decimal `digits · 10 ^ exponent`. -/
structure Digits where
  digits : Nat
  exponent : Int
deriving DecidableEq, Inhabited

/-- The digit characters of a natural number, `0` having one. -/
def digitChars (n : Nat) : List Char := Nat.toDigits 10 n

/-- How many digits a decimal is written with. -/
def Digits.count (d : Digits) : Nat := (digitChars d.digits).length

/-- The number of digits before the point when the decimal is written out. -/
def Digits.point (d : Digits) : Int := d.count + d.exponent

/-- A ratio of two naturals, scaled by a power of ten: `num / (den · 10 ^ k)`. -/
def scaledDown (num den : Nat) (k : Int) : Nat × Nat :=
  if 0 ≤ k then (num, den * Nat.pow 10 k.toNat) else (num * Nat.pow 10 (-k).toNat, den)

/-- The exponent of ten of the leading digit of `num / den`. -/
def leadingExponent (num den : Nat) : Int :=
  let guess : Int := ((digitChars num).length : Int) - (digitChars den).length
  let (a, b) := scaledDown num den guess
  if b ≤ a then guess else guess - 1

/-- The interval of reals around `m · 2 ^ q` that round to it, over a common denominator:
its lower end, the number, its upper end, the denominator, and whether the ends belong to it. -/
structure Interval where
  low : Nat
  mid : Nat
  high : Nat
  den : Nat
  closed : Bool

/-- The rounding interval of a finite positive number. The gap below a power of two is half
the gap above it. -/
def Interval.of (x : Binary64) : Interval :=
  let m := x.significand
  let halved := x.fraction = 0 && 1 < x.exponentField
  -- units of a quarter of the last place
  let low := if halved then 4 * m - 1 else 4 * m - 2
  let unit := x.scale - 2
  let up := if 0 ≤ unit then Nat.pow 2 unit.toNat else 1
  let den := if 0 ≤ unit then 1 else Nat.pow 2 (-unit).toNat
  ⟨low * up, 4 * m * up, (4 * m + 2) * up, den, m % 2 == 0⟩

/-- Whether `d · 10 ^ k` lies in the interval. -/
def Interval.contains (i : Interval) (d : Nat) (k : Int) : Bool :=
  let (value, factor) := if 0 ≤ k then (d * Nat.pow 10 k.toNat * i.den, 1) else (d * i.den, Nat.pow 10 (-k).toNat)
  if i.closed then i.low * factor ≤ value && value ≤ i.high * factor
  else i.low * factor < value && value < i.high * factor

/-- The nearer of the two neighbours of the number on the grid of `10 ^ k` that lie in the
interval, if one does. -/
def Interval.pick (i : Interval) (k : Int) : Option Nat :=
  let (a, b) := scaledDown i.mid i.den k
  let below := a / b
  let twice := 2 * (a % b)
  let first := if twice < b || (twice == b && below % 2 == 0) then below else below + 1
  let second := if first = below then below + 1 else below
  if i.contains first k then some first
  else if i.contains second k then some second
  else none

/-- Search the grids from coarse to fine; seventeen digits always suffice. -/
def search (i : Interval) (lead : Int) : Nat → Nat → Digits
  | 0, n => ⟨(i.pick (lead - n + 1)).getD 0, lead - n + 1⟩
  | fuel + 1, n =>
    match i.pick (lead - n + 1) with
    | some d => ⟨d, lead - n + 1⟩
    | none => search i lead fuel (n + 1)

/-- Drop trailing zeros. -/
def trimmed : Nat → Digits → Digits
  | 0, d => d
  | fuel + 1, d =>
    if d.digits ≠ 0 ∧ d.digits % 10 = 0 then trimmed fuel ⟨d.digits / 10, d.exponent + 1⟩ else d

/-- The shortest decimal of a finite nonzero number's magnitude. -/
def shortest (x : Binary64) : Digits :=
  let i := Interval.of x
  trimmed 20 (search i (leadingExponent i.mid i.den) 17 1)

/-- An exponent mark with a sign and at least two digits. -/
def exponentText (mark : String) (e : Int) : String :=
  let digits := String.ofList (digitChars e.natAbs)
  mark ++ (if e < 0 then "-" else "+") ++ (if e.natAbs < 10 then "0" ++ digits else digits)

/-- The text of a number as documents and messages show it: positional for leading exponents
from -4 to 15, always with a point or an exponent. -/
def text (x : Binary64) : String :=
  if x.isNaN then "nan"
  else
    let sign := if x.negative then "-" else ""
    if x.isInfinite then sign ++ "inf"
    else if x.isZero then sign ++ "0.0"
    else
      let d := shortest x
      let chars := digitChars d.digits
      let point := d.point
      let body :=
        if -4 < point ∧ point ≤ 16 then
          if point ≤ 0 then "0." ++ String.ofList (List.replicate (-point).toNat '0' ++ chars)
          else if chars.length ≤ point.toNat then
            String.ofList (chars ++ List.replicate (point.toNat - chars.length) '0') ++ ".0"
          else String.ofList (chars.take point.toNat) ++ "." ++ String.ofList (chars.drop point.toNat)
        else
          let fractionText := if chars.length ≤ 1 then "" else "." ++ String.ofList (chars.drop 1)
          String.ofList (chars.take 1) ++ fractionText ++ exponentText "e" (point - 1)
      sign ++ body

end OwnershipRegistry.Decimal
