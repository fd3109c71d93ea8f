import OwnershipRegistry.Failure

/-! # Values as JSON text

`compact` writes one line, characters outside ASCII as themselves: the form of log lines.
`indented` writes one item per line and ASCII only: the form of reports. Values that JSON
lacks are written as their plain text. A value that contains itself has no text in JSON, and
none has one that holds a text with codes of no character: what is written is text of
characters. -/

namespace OwnershipRegistry.Json

/-- Four lowercase hexadecimal digits after the mark of a code unit. -/
def unitEscape (n : Nat) : List Char := '\\' :: 'u' :: Text.paddedHex 4 n

/-- A character of a string: quotes, backslashes and control characters are escaped. -/
def stringChar (c : Char) : List Char :=
  if c == '"' then ['\\', '"']
  else if c == '\\' then ['\\', '\\']
  else if c == '\n' then ['\\', 'n']
  else if c == '\r' then ['\\', 'r']
  else if c == '\t' then ['\\', 't']
  else if c.toNat == 0x0c then ['\\', 'f']
  else if c.toNat == 0x08 then ['\\', 'b']
  else if c.toNat < 0x20 then unitEscape c.toNat
  else [c]

/-- A character of an ASCII string: what is not printable ASCII is given by its UTF-16 units. -/
def asciiStringChar (c : Char) : List Char :=
  let n := c.toNat
  if n < 0x7f then stringChar c
  else if n < 0x10000 then unitEscape n
  else unitEscape (0xd800 + (n - 0x10000) / 0x400) ++ unitEscape (0xdc00 + (n - 0x10000) % 0x400)

/-- A string between quotes. -/
def stringText (escape : Char → List Char) (s : String) : String :=
  String.ofList ('"' :: s.toList.flatMap escape ++ ['"'])

/-- A floating point number; the values that JSON lacks have names. -/
def floatText (x : Binary64) : String :=
  if x.isNaN then "NaN"
  else if x.isInfinite then (if x.negative then "-Infinity" else "Infinity")
  else Decimal.text x

/-- The digits of an integer, if they are not too many. -/
def intText (n : Int) : Except Failure String :=
  if Numeral.isWritable n then .ok (toString n) else .error .numberTooLong

/-- The text of a scalar that can be a key, before it is quoted. -/
def keyText : Value → Except Failure String
  | .str s => .ok s
  | .codes _ => .error .unencodable
  | .null => .ok "null"
  | .bool b => .ok (if b then "true" else "false")
  | .int n => intText n
  | .float x => .ok (floatText x)
  | _ => .error .wrongShape

/-- The failure of a value that contains itself. -/
def circular {α : Type} : Except Failure α := .error (.badScalar "Circular reference detected")

mutual

/-- A value on one line, unless a key is no scalar, an integer too long or a text not of characters. -/
def compact : Value → Except Failure String
  | .null => .ok "null"
  | .bool b => .ok (if b then "true" else "false")
  | .int n => intText n
  | .float x => .ok (floatText x)
  | .str s => .ok (stringText stringChar s)
  | .list xs => (compactItems xs).map fun items => "[" ++ items ++ "]"
  | .tuple xs => (compactItems xs).map fun items => "[" ++ items ++ "]"
  | .dict entries => (compactEntries entries).map fun fields => "\x7b" ++ fields ++ "\x7d"
  | .link _ _ => circular
  | v => v.written.map (stringText stringChar)

/-- Items on one line, separated. -/
def compactItems : List Value → Except Failure String
  | [] => .ok ""
  | [x] => compact x
  | x :: xs => do
    let first ← compact x
    let rest ← compactItems xs
    pure (first ++ ", " ++ rest)

/-- Entries on one line, separated. -/
def compactEntries : List (Value × Value) → Except Failure String
  | [] => .ok ""
  | [(k, v)] => do
    let key ← keyText k
    let value ← compact v
    pure (stringText stringChar key ++ ": " ++ value)
  | (k, v) :: entries => do
    let key ← keyText k
    let value ← compact v
    let rest ← compactEntries entries
    pure (stringText stringChar key ++ ": " ++ value ++ ", " ++ rest)

end

/-- A line break and the margin of a depth. -/
private def breakLine (depth : Nat) : String :=
  "\n" ++ String.ofList (List.replicate (2 * depth) ' ')

mutual

/-- A value over several lines, at a depth, unless a key is no scalar, an integer too long or a text not
of characters. -/
def indented (depth : Nat) : Value → Except Failure String
  | .str s => .ok (stringText asciiStringChar s)
  | .list [] | .tuple [] => .ok "[]"
  | .dict [] => .ok "\x7b\x7d"
  | .list xs => (indentedItems (depth + 1) xs).map fun items => "[" ++ items ++ breakLine depth ++ "]"
  | .tuple xs => (indentedItems (depth + 1) xs).map fun items => "[" ++ items ++ breakLine depth ++ "]"
  | .dict entries =>
    (indentedEntries (depth + 1) entries).map fun fields => "\x7b" ++ fields ++ breakLine depth ++ "\x7d"
  | .null => .ok "null"
  | .bool b => .ok (if b then "true" else "false")
  | .int n => intText n
  | .float x => .ok (floatText x)
  | .link _ _ => circular
  | v => v.written.map (stringText asciiStringChar)

/-- Items on lines of their own. -/
def indentedItems (depth : Nat) : List Value → Except Failure String
  | [] => .ok ""
  | x :: xs => do
    let first ← indented depth x
    let rest ← indentedItems depth xs
    pure (breakLine depth ++ first ++ (if xs.isEmpty then "" else ",") ++ rest)

/-- Entries on lines of their own. -/
def indentedEntries (depth : Nat) : List (Value × Value) → Except Failure String
  | [] => .ok ""
  | (k, v) :: entries => do
    let key ← keyText k
    let value ← indented depth v
    let rest ← indentedEntries depth entries
    pure (breakLine depth ++ stringText asciiStringChar key ++ ": " ++ value
      ++ (if entries.isEmpty then "" else ",") ++ rest)

end

end OwnershipRegistry.Json
