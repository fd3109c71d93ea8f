/-! # Places in a text

A document is read from one place to the next. A place knows what is left of the text, how far
in it is, and its line and column. Past the end there is only the character NUL, which no
document holds. -/

namespace OwnershipRegistry.Yaml

/-- The line breaks of documents. -/
def isBreak (c : Char) : Bool :=
  c == '\n' || c == '\r' || c == '\u0085' || c == '\u2028' || c == '\u2029'

/-- Whether a line ends at a character. -/
def endsLine (c : Char) : Bool := c == '\x00' || isBreak c

/-- Whether a word ends at a character; tabs do not count everywhere. -/
def endsField (c : Char) : Bool := c == ' ' || endsLine c

/-- Whether a word ends at a character. -/
def endsWord (c : Char) : Bool := c == '\t' || endsField c

/-- A place in a text. -/
structure Cursor where
  rest : List Char
  index : Nat := 0
  line : Nat := 0
  column : Nat := 0

namespace Cursor

/-- The character at the place. -/
def peek (c : Cursor) : Char := c.rest.headD '\x00'

/-- The character some way behind the place. -/
def ahead (c : Cursor) (n : Nat) : Char := (c.rest.drop n).headD '\x00'

/-- The place behind the next character. A byte order mark takes no column. -/
def next (c : Cursor) : Cursor :=
  match c.rest with
  | [] => c
  | ch :: rest =>
    if isBreak ch then ⟨rest, c.index + 1, c.line + 1, 0⟩
    else ⟨rest, c.index + 1, c.line, if ch = '\ufeff' then c.column else c.column + 1⟩

/-- The place some characters further. -/
def advance : Nat → Cursor → Cursor
  | 0, c => c
  | n + 1, c => advance n c.next

/-- The characters up to the first one that fails a test, and the place there. -/
def span (test : Char → Bool) (c : Cursor) : List Char × Cursor :=
  let cs := c.rest.takeWhile test
  (cs, c.advance cs.length)

/-- The place of the first character that fails a test. -/
def skip (test : Char → Bool) (c : Cursor) : Cursor := (c.span test).2

/-- The place behind blanks and a comment up to the end of the line. -/
def skipComment (c : Cursor) : Cursor :=
  let c := c.skip (· == ' ')
  if c.peek = '#' then c.skip fun ch => !endsLine ch else c

/-- The line break at the place, as it is kept in texts, and the place behind it. -/
def lineBreak (c : Cursor) : List Char × Cursor :=
  match c.rest with
  | '\r' :: '\n' :: _ => (['\n'], c.advance 2)
  | ch :: _ =>
    if ch = '\u2028' || ch = '\u2029' then ([ch], c.next)
    else if isBreak ch then (['\n'], c.next)
    else ([], c)
  | [] => ([], c)

/-- Whether three of a character and then the end of a word stand at the place. -/
def marks (c : Cursor) (ch : Char) : Bool :=
  c.peek == ch && c.ahead 1 == ch && c.ahead 2 == ch && endsWord (c.ahead 3)

/-- Whether the mark of a document's start or end stands at the place. -/
def atSeparator (c : Cursor) : Bool := c.marks '-' || c.marks '.'

end Cursor

/-- What a line break inside a text becomes: a blank, unless more breaks follow it. -/
def folded (first breaks : List Char) : List Char :=
  (if first ≠ ['\n'] then first else if breaks.isEmpty then [' '] else []) ++ breaks

end OwnershipRegistry.Yaml
