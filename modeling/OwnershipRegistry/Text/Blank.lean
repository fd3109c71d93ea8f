import OwnershipRegistry.Text.Ranges

/-! # Blank characters -/

namespace OwnershipRegistry.Text

/-- The ranges of characters that count as white space in a text of any script. -/
def blankRanges : Array (Nat × Nat) := #[
    (0x9, 0xd), (0x1c, 0x20), (0x85, 0x85), (0xa0, 0xa0), (0x1680, 0x1680), (0x2000, 0x200a),
    (0x2028, 0x2029), (0x202f, 0x202f), (0x205f, 0x205f), (0x3000, 0x3000)]

/-- Whether a code is of a character that is white space in a text of any script. -/
def isBlank (code : Nat) : Bool := inRanges blankRanges code

/-- Whether a character is white space in a pure ASCII text: the space, the tabs and the
line breaks, but none of the four separators. -/
def isAsciiBlank (c : Char) : Bool := c == ' ' || (0x9 ≤ c.toNat && c.toNat ≤ 0xd)

end OwnershipRegistry.Text
