import OwnershipRegistry.Yaml.Cursor

/-! # Plain text

A text without quotes runs up to a colon or a number sign that stands apart, or to a bracket or
comma inside brackets. It may go on over several lines, as long as they are indented. -/

namespace OwnershipRegistry.Yaml.Plain

/-- The marks that end a plain text inside brackets. -/
def isBracketMark (c : Char) : Bool := [',', '?', '[', ']', '\x7b', '\x7d'].contains c

/-- Whether a colon before a character ends a plain text. -/
def colonEnds (nested : Bool) (after : Char) : Bool :=
  endsWord after || (nested && [',', '[', ']', '\x7b', '\x7d'].contains after)

/-- The characters of a plain text up to a blank or its end. -/
def run (nested : Bool) : List Char → List Char
  | [] => []
  | c :: rest =>
    if endsWord c || (c == ':' && colonEnds nested (rest.headD '\x00')) || (nested && isBracketMark c) then []
    else c :: run nested rest

/-- The breaks after the first one of a gap; nothing if a document ends there. -/
def moreBreaks : Nat → Cursor → Option (List Char) × Cursor
  | 0, c => (some [], c)
  | fuel + 1, c =>
    let c := c.skip (· == ' ')
    if isBreak c.peek then
      let (first, c) := c.lineBreak
      if c.atSeparator then (none, c)
      else
        let (more, c) := moreBreaks fuel c
        (more.map (first ++ ·), c)
    else (some [], c)

/-- What stands between two runs of a plain text. -/
structure Gap where
  text : List Char
  cursor : Cursor
  /-- Whether a new line was begun. -/
  brokeLine : Bool

/-- The gap at a place; an empty one ends the text. -/
def gap (c : Cursor) : Gap :=
  let (blanks, c) := c.span (· == ' ')
  if isBreak c.peek then
    let (first, c) := c.lineBreak
    if c.atSeparator then ⟨[], c, true⟩
    else
      let (more, c) := moreBreaks c.rest.length c
      ⟨match more with | some breaks => folded first breaks | none => [], c, true⟩
  else ⟨blanks, c, false⟩

/-- Read runs and gaps; `pending` is the gap before the next run. -/
def readFrom (nested : Bool) (indent : Int) (acc : List Char) : Nat → Gap → Gap
  | 0, pending => ⟨acc, pending.cursor, pending.brokeLine⟩
  | fuel + 1, pending =>
    let c := pending.cursor
    let word := run nested c.rest
    if c.peek = '#' || word.isEmpty then ⟨acc, c, pending.brokeLine⟩
    else
      let acc := acc ++ pending.text ++ word
      let g := gap (c.advance word.length)
      if g.text.isEmpty || g.cursor.peek = '#' || (!nested && g.cursor.column < indent) then
        ⟨acc, g.cursor, g.brokeLine⟩
      else readFrom nested indent acc fuel g

/-- The plain text at a place: its characters, where it ends, and whether that is on a new line.
Outside brackets, lines that are indented less than `indent` do not belong to it. -/
def read (nested : Bool) (indent : Int) (c : Cursor) : Gap :=
  readFrom nested indent [] (c.rest.length + 1) ⟨[], c, false⟩

end OwnershipRegistry.Yaml.Plain
