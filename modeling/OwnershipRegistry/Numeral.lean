import OwnershipRegistry.Text.Blank
import OwnershipRegistry.Text.Digit
import OwnershipRegistry.Text.Quoted

/-! # Integer numerals

Selectors and addresses are written as integers of any size. `hex` is the form that messages
and plans use; `read` takes decimal numerals, or numerals whose radix their own mark selects. -/

namespace OwnershipRegistry.Numeral

/-- How the radix of a numeral is found. -/
inductive Style where
  /-- Always ten. -/
  | decimal
  /-- By the mark `0x`, `0o` or `0b`, and ten without one. -/
  | marked
  /-- Two, eight or sixteen, which the mark may say again. -/
  | binary (radix : Nat)
deriving DecidableEq

/-- Why a text is not a numeral. -/
inductive Error where
  /-- A text, given by codes, that is no numeral of a style. -/
  | malformed (style : Style) (codes : List Nat)
  | tooLong (digits : Nat)
deriving DecidableEq

/-- The longest decimal numeral that is read or written. -/
def maxDecimalDigits : Nat := 4300

/-- Whether an integer has a decimal numeral that is not too long to be written. -/
def isWritable (n : Int) : Bool := n.natAbs < Nat.pow 10 maxDecimalDigits

/-- How messages name a style. -/
def Style.base : Style → String
  | .decimal => "10"
  | .marked => "0"
  | .binary radix => toString radix

/-- The wording of the bound on decimal numerals, with a word on the value in between. -/
def excess (value : String) : String :=
  "Exceeds the limit (" ++ toString maxDecimalDigits ++ " digits) for integer string conversion" ++ value
    ++ "; use sys.set_int_max_str_digits() to increase the limit"

/-- The wording of an error; a malformed text is shown quoted and cut. -/
def Error.message : Error → String
  | .malformed style codes =>
    "invalid literal for int() with base " ++ style.base ++ ": " ++ Text.cut 200 (Text.quotedCodes codes)
  | .tooLong digits => excess (": value has " ++ toString digits ++ " digits")

/-- A nonnegative integer in lowercase hexadecimal with its mark. -/
def hexChars (n : Nat) : List Char := '0' :: 'x' :: Text.hexDigits n

/-- An integer in lowercase hexadecimal: the sign, the mark, the digits. -/
def hex (n : Int) : String :=
  String.ofList (if n < 0 then '-' :: hexChars n.natAbs else hexChars n.natAbs)

/-- The value of an ASCII digit or letter in a radix up to sixteen. -/
def digit? (radix : Nat) (c : Char) : Option Nat :=
  let value? :=
    if '0' ≤ c ∧ c ≤ '9' then some (c.toNat - '0'.toNat)
    else if 'a' ≤ c ∧ c ≤ 'f' then some (c.toNat - 'a'.toNat + 10)
    else if 'A' ≤ c ∧ c ≤ 'F' then some (c.toNat - 'A'.toNat + 10)
    else none
  value?.filter (· < radix)

/-- Read digits up to the end, with single underscores between them. The accumulator holds the
value and the number of digits so far. -/
def readDigits (radix : Nat) (value count : Nat) : List Char → Option (Nat × Nat)
  | [] => if count = 0 then none else some (value, count)
  | '_' :: c :: rest =>
    if count = 0 then none
    else (digit? radix c).bind fun d => readDigits radix (value * radix + d) (count + 1) rest
  | c :: rest => (digit? radix c).bind fun d => readDigits radix (value * radix + d) (count + 1) rest

/-- Read digits as `readDigits` does, from nothing. -/
def digits? (radix : Nat) (cs : List Char) : Option (Nat × Nat) := readDigits radix 0 0 cs

/-- The code of a character as the ASCII character that a numeral takes it for. -/
def asciiForm (code : Nat) : Char :=
  if code < 128 then Char.ofNat code
  else if Text.isBlank code then ' '
  else match Text.digitValue? code with
    | some d => Char.ofNat ('0'.toNat + d)
    | none => '?'

/-- Drop white space from both ends. -/
def trimBlanks (cs : List Char) : List Char :=
  ((cs.dropWhile Text.isAsciiBlank).reverse.dropWhile Text.isAsciiBlank).reverse

/-- One underscore may follow a radix mark. -/
def afterMark : List Char → List Char
  | '_' :: rest => rest
  | cs => cs

/-- The digits and underscores that a text begins with. -/
def run (radix : Nat) (cs : List Char) : List Char :=
  cs.takeWhile fun c => c == '_' || (digit? radix c).isSome

/-- The magnitude of a decimal numeral of bounded length. Its digits are counted before what may
follow them is looked at. -/
def decimalMagnitude (malformed : Error) (cs : List Char) : Except Error Nat :=
  let digits := run 10 cs
  match digits? 10 digits with
  | none => .error malformed
  | some (value, count) =>
    if maxDecimalDigits < count then .error (.tooLong count)
    else if digits.length < cs.length then .error malformed
    else .ok value

/-- The magnitude of a numeral in a radix that is a power of two. -/
def binaryMagnitude (malformed : Error) (radix : Nat) (cs : List Char) : Except Error Nat :=
  match digits? radix cs with
  | none => .error malformed
  | some (value, _) => .ok value

/-- The radix that a mark stands for. -/
def markRadix? (mark : Char) : Option Nat :=
  if mark = 'x' ∨ mark = 'X' then some 16
  else if mark = 'o' ∨ mark = 'O' then some 8
  else if mark = 'b' ∨ mark = 'B' then some 2
  else none

/-- The magnitude of the unsigned numeral `cs`; a marked style reads leading zeros in the value
zero only. -/
def magnitude (style : Style) (malformed : Error) (cs : List Char) : Except Error Nat :=
  match style, cs with
  | .decimal, _ => decimalMagnitude malformed cs
  | .marked, '0' :: mark :: rest =>
    match markRadix? mark with
    | some radix => binaryMagnitude malformed radix (afterMark rest)
    | none => do
      let value ← decimalMagnitude malformed cs
      if value = 0 then pure 0 else throw malformed
  | .marked, _ => decimalMagnitude malformed cs
  | .binary radix, '0' :: mark :: rest =>
    if markRadix? mark = some radix then binaryMagnitude malformed radix (afterMark rest)
    else binaryMagnitude malformed radix cs
  | .binary radix, _ => binaryMagnitude malformed radix cs

/-- Read an integer out of a text that is given by codes. -/
def readCodes (style : Style) (codes : List Nat) : Except Error Int :=
  let malformed : Error := .malformed style codes
  match trimBlanks (codes.map asciiForm) with
  | '-' :: cs => (magnitude style malformed cs).map fun n => -(n : Int)
  | '+' :: cs => (magnitude style malformed cs).map fun n => (n : Int)
  | cs => (magnitude style malformed cs).map fun n => (n : Int)

/-- Read an integer. -/
def read (style : Style) (text : String) : Except Error Int := readCodes style (Text.codes text)

end OwnershipRegistry.Numeral
