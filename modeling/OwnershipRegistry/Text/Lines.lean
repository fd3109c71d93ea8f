/-! # Lines -/

namespace OwnershipRegistry.Text

/-- Whether a character ends a line: the line feed, the carriage return, both tabs of a printer,
the separators of files, groups and records, and the line ends of other scripts. -/
def endsLine (c : Char) : Bool :=
  (0xa ≤ c.toNat && c.toNat ≤ 0xd) || (0x1c ≤ c.toNat && c.toNat ≤ 0x1e) || c.toNat == 0x85
    || c.toNat == 0x2028 || c.toNat == 0x2029

/-- Read lines; `line` holds the characters of the one that is begun, last one first. A carriage
return and a line feed end one line together, and a text need not end its last line. -/
def linesFrom (line : List Char) : List Char → List String
  | [] => if line.isEmpty then [] else [String.ofList line.reverse]
  | '\r' :: '\n' :: rest => String.ofList line.reverse :: linesFrom [] rest
  | c :: rest => if endsLine c then String.ofList line.reverse :: linesFrom [] rest else linesFrom (c :: line) rest

/-- The lines of a text. -/
def lines (text : String) : List String := linesFrom [] text.toList

/-- The last line of a text. -/
def lastLine (text : String) : String := (lines text).getLastD ""

end OwnershipRegistry.Text
