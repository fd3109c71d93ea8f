/-! # Binary floating point numbers of 64 bits

A number is kept as its bit pattern. Everything said about it is computed from the
exact value `significand · 2 ^ scale` in integer arithmetic, so no rounding happens
except in `ofRatio`, which rounds once, to the nearest number and to the even one of two. -/

namespace OwnershipRegistry

/-- A double precision number, as its interchange bit pattern. -/
structure Binary64 where
  bits : UInt64
deriving DecidableEq, Inhabited

namespace Binary64

/-- The sign bit. -/
def negative (x : Binary64) : Bool := x.bits >>> 63 != 0

/-- The biased exponent field. -/
def exponentField (x : Binary64) : Nat := ((x.bits >>> 52) &&& 0x7ff).toNat

/-- The stored fraction field. -/
def fraction (x : Binary64) : Nat := (x.bits &&& 0xfffffffffffff).toNat

/-- Whether the pattern is not a number. -/
def isNaN (x : Binary64) : Bool := x.exponentField == 2047 && x.fraction != 0

/-- Whether the pattern is one of the two infinities. -/
def isInfinite (x : Binary64) : Bool := x.exponentField == 2047 && x.fraction == 0

/-- Whether the pattern is a real number. -/
def isFinite (x : Binary64) : Bool := x.exponentField != 2047

/-- The integer factor of a finite number. -/
def significand (x : Binary64) : Nat :=
  if x.exponentField = 0 then x.fraction else Nat.pow 2 52 + x.fraction

/-- The power of two that scales the significand of a finite number. -/
def scale (x : Binary64) : Int := (max x.exponentField 1 : Nat) - 1075

/-- Positive or negative infinity. -/
def infinity (negative : Bool) : Binary64 :=
  ⟨if negative then 0xfff0000000000000 else 0x7ff0000000000000⟩

/-- The canonical pattern that is not a number. -/
def nan : Binary64 := ⟨0x7ff8000000000000⟩

/-- The number with the given sign and magnitude fields. -/
private def pack (negative : Bool) (magnitude : Nat) : Binary64 :=
  ⟨(if negative then 0x8000000000000000 else 0) ||| UInt64.ofNat magnitude⟩

/-- The nearest integer to `num / den`, the even one of two. -/
def nearestEven (num den : Nat) : Nat :=
  let quotient := num / den
  let twice := 2 * (num % den)
  if twice < den then quotient
  else if den < twice then quotient + 1
  else quotient + quotient % 2

/-- The number nearest to `num / den`, the even one of two; too large a value is infinite. -/
def ofRatio (negative : Bool) (num den : Nat) : Binary64 :=
  if num = 0 || den = 0 then pack negative 0
  else
    let guess : Int := (num.log2 : Int) - den.log2 - 52
    let scaled (q : Int) : Nat × Nat :=
      if 0 ≤ q then (num, den * Nat.pow 2 q.toNat) else (num * Nat.pow 2 (-q).toNat, den)
    let exact := if Nat.pow 2 52 ≤ (scaled guess).1 / (scaled guess).2 then guess else guess - 1
    let q := max exact (-1074)
    let m := nearestEven (scaled q).1 (scaled q).2
    let (m, q) := if m = Nat.pow 2 53 then (Nat.pow 2 52, q + 1) else (m, q)
    if 971 < q then infinity negative
    else if m < Nat.pow 2 52 then pack negative m
    else pack negative ((q + 1075).toNat * Nat.pow 2 52 + (m - Nat.pow 2 52))

/-- The number nearest to `digits · 10 ^ exponent`. -/
def ofDecimal (negative : Bool) (digits : Nat) (exponent : Int) : Binary64 :=
  let size : Int := (digits.log2 : Int) + 1
  if digits = 0 then pack negative 0
  else if 0 ≤ exponent then
    if 400 < exponent then infinity negative
    else ofRatio negative (digits * Nat.pow 10 exponent.toNat) 1
  else if size * 4 + 1600 < -exponent then pack negative 0
  else ofRatio negative digits (Nat.pow 10 (-exponent).toNat)

/-- The number nearest to an integer. -/
def ofInt (n : Int) : Binary64 := ofRatio (n < 0) n.natAbs 1

/-- The number nearest to `n · 2 ^ q`, with a sign of its own. -/
def ofScaled (negative : Bool) (n : Nat) (q : Int) : Binary64 :=
  if 0 ≤ q then ofRatio negative (n * Nat.pow 2 q.toNat) 1 else ofRatio negative n (Nat.pow 2 (-q).toNat)

/-- The significand of a finite number with its sign. -/
def signed (x : Binary64) : Int := if x.negative then -(x.significand : Int) else x.significand

/-- The sum of two numbers, rounded. Opposite infinities have none; only negative zeros sum to a
negative zero. -/
def add (x y : Binary64) : Binary64 :=
  if x.isNaN || y.isNaN then nan
  else if x.isInfinite then (if y.isInfinite && x.negative != y.negative then nan else x)
  else if y.isInfinite then y
  else
    let q := min x.scale y.scale
    let n := x.signed * Nat.pow 2 (x.scale - q).toNat + y.signed * Nat.pow 2 (y.scale - q).toNat
    ofScaled (if n = 0 then x.negative && y.negative else n < 0) n.natAbs q

/-- The product of two numbers, rounded. Infinity has no product with zero. -/
def mul (x y : Binary64) : Binary64 :=
  let negative := x.negative != y.negative
  if x.isNaN || y.isNaN then nan
  else if x.isInfinite || y.isInfinite then
    (if x.significand = 0 || y.significand = 0 then nan else infinity negative)
  else ofScaled negative (x.significand * y.significand) (x.scale + y.scale)

/-- The number with the other sign. -/
def negated (x : Binary64) : Binary64 := ⟨x.bits ^^^ 0x8000000000000000⟩

/-- Whether the number is zero, of either sign. -/
def isZero (x : Binary64) : Bool := x.exponentField == 0 && x.fraction == 0

/-- The whole part of a finite number, cut toward zero. -/
def truncated (x : Binary64) : Int :=
  let whole : Nat :=
    if 0 ≤ x.scale then x.significand * Nat.pow 2 x.scale.toNat
    else x.significand / Nat.pow 2 (-x.scale).toNat
  if x.negative then -(whole : Int) else whole

/-- Whether a finite number has no fractional part. -/
def isWhole (x : Binary64) : Bool :=
  x.isFinite && (0 ≤ x.scale || x.significand % Nat.pow 2 (-x.scale).toNat == 0)

/-- The integer that a number is, if it is one. -/
def toInt? (x : Binary64) : Option Int :=
  if x.isWhole then some x.truncated else none

/-- A pattern that is not a number and bears a mark. -/
def markedNaN (mark : Nat) : Binary64 := ⟨nan.bits ||| UInt64.ofNat (mark + 1)⟩

/-- Numeric equality: the two zeros agree. What is not a number agrees with itself alone, which
a mark tells. -/
def sameNumber (x y : Binary64) : Bool :=
  if x.isNaN || y.isNaN then x != nan && x.bits == y.bits else x.bits == y.bits || (x.isZero && y.isZero)

end Binary64

end OwnershipRegistry
