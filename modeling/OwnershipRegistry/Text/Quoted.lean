import OwnershipRegistry.Text.Printable

/-! # Quoted text

Text shown inside messages stands between single quotes, or between double quotes when it
holds single quotes and no double ones. What cannot be printed is shown by its code. -/

namespace OwnershipRegistry.Text

/-- The lowercase hexadecimal digits of a number. -/
def hexDigits (n : Nat) : List Char := Nat.toDigits 16 n

/-- A number in hexadecimal, filled with zeros up to a width. -/
def paddedHex (width n : Nat) : List Char :=
  let digits := hexDigits n
  List.replicate (width - digits.length) '0' ++ digits

/-- The escape that names a character by its code. -/
def codeEscape (code : Nat) : List Char :=
  if code < 0x100 then '\\' :: 'x' :: paddedHex 2 code
  else if code < 0x10000 then '\\' :: 'u' :: paddedHex 4 code
  else '\\' :: 'U' :: paddedHex 8 code

/-- The codes of the characters of a text. -/
def codes (s : String) : List Nat := s.toList.map Char.toNat

/-- The character of a code as it stands between the given quotes. -/
def quotedCode (quote : Char) (code : Nat) : List Char :=
  let c := Char.ofNat code
  if c == quote || c == '\\' then ['\\', c]
  else if c == '\n' then ['\\', 'n']
  else if c == '\r' then ['\\', 'r']
  else if c == '\t' then ['\\', 't']
  else if isPrintable code then [c]
  else codeEscape code

/-- The quote that a text is written between. -/
def quoteFor (codes : List Nat) : Char :=
  if codes.contains '\''.toNat && !codes.contains '"'.toNat then '"' else '\''

/-- A text of codes between quotes. Some of them may be of no character. -/
def quotedCodes (codes : List Nat) : String :=
  let q := quoteFor codes
  String.ofList (q :: codes.flatMap (quotedCode q) ++ [q])

/-- A text between quotes. -/
def quoted (s : String) : String := quotedCodes (codes s)

/-- A byte as it stands in a quoted byte sequence. -/
private def quotedByte (quote : Char) (b : UInt8) : List Char :=
  let c := Char.ofNat b.toNat
  if c == quote || c == '\\' then ['\\', c]
  else if c == '\n' then ['\\', 'n']
  else if c == '\r' then ['\\', 'r']
  else if c == '\t' then ['\\', 't']
  else if 0x20 ≤ b.toNat && b.toNat < 0x7f then [c]
  else '\\' :: 'x' :: paddedHex 2 b.toNat

/-- A byte sequence between quotes, marked as such. -/
def quotedBytes (bs : List UInt8) : String :=
  let q := quoteFor (bs.map (·.toNat))
  String.ofList ('b' :: q :: bs.flatMap (quotedByte q) ++ [q])

/-- The first `n` characters of a text. -/
def cut (n : Nat) (s : String) : String := String.ofList (s.toList.take n)

end OwnershipRegistry.Text
