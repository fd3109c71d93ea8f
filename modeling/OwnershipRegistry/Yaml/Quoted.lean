import OwnershipRegistry.Failure
import OwnershipRegistry.Yaml.Cursor

/-! # Quoted text

Between single quotes a quote is written twice; between double quotes a backslash starts an
escape. Line breaks are folded together with the blanks around them. -/

namespace OwnershipRegistry.Yaml.Quoted

/-- A document that is not well formed. -/
def unreadable {α : Type} : Except Failure α := .error .unreadableDocument

/-- The escapes of one letter. -/
def escapes : List (Char × Char) :=
  [('0', '\x00'), ('a', '\x07'), ('b', '\x08'), ('t', '\t'), ('\t', '\t'), ('n', '\n'), ('v', '\x0b'),
    ('f', '\x0c'), ('r', '\r'), ('e', '\x1b'), (' ', ' '), ('"', '"'), ('\\', '\\'), ('/', '/'),
    ('N', '\u0085'), ('_', '\u00a0'), ('L', '\u2028'), ('P', '\u2029')]

/-- How many hexadecimal digits follow an escape. -/
def codeLength? (c : Char) : Option Nat := [('x', 2), ('u', 4), ('U', 8)].lookup c

/-- The breaks after the first one of a fold. No document may end there. -/
def moreBreaks : Nat → Cursor → Except Failure (List Char × Cursor)
  | 0, c => .ok ([], c)
  | fuel + 1, c =>
    if c.atSeparator then unreadable
    else
      let c := c.skip fun ch => ch == ' ' || ch == '\t'
      if isBreak c.peek then do
        let (first, c) := c.lineBreak
        let (more, c) ← moreBreaks fuel c
        pure (first ++ more, c)
      else .ok ([], c)

/-- The code that hexadecimal digits give. It need not be of a character, but must not lie beyond
them all. -/
def coded (digits : List Char) : Except Failure Nat :=
  match Numeral.digits? 16 digits with
  | some (n, _) =>
    if n < 0x110000 then .ok n
    else if n < Nat.pow 2 31 then .error (.badScalar "chr() arg not in range(0x110000)")
    else .error (.beyond "int")
  | none => unreadable

/-- The codes of the escape after a backslash. -/
def escape (c : Cursor) : Except Failure (List Nat × Cursor) :=
  match escapes.lookup c.peek with
  | some ch => .ok ([ch.toNat], c.next)
  | none =>
    match codeLength? c.peek with
    | some n =>
      let digits := c.next.rest.take n
      if digits.length = n && digits.all fun d => (Numeral.digit? 16 d).isSome then do
        let code ← coded digits
        pure ([code], c.advance (n + 1))
      else unreadable
    | none =>
      if isBreak c.peek then do
        let c := c.lineBreak.2
        let (breaks, c) ← moreBreaks (c.rest.length + 1) c
        pure (breaks.map Char.toNat, c)
      else unreadable

/-- Blanks inside a quoted text; a line break among them is folded. -/
def blanks (c : Cursor) : Except Failure (List Char × Cursor) :=
  let (spaces, c) := c.span fun ch => ch == ' ' || ch == '\t'
  if c.peek = '\x00' then unreadable
  else if isBreak c.peek then do
    let (first, c) := c.lineBreak
    let (breaks, c) ← moreBreaks (c.rest.length + 1) c
    pure (folded first breaks, c)
  else .ok (spaces, c)

/-- Read up to the closing quote; `acc` holds the codes so far, last one first. -/
def readFrom (double : Bool) (acc : List Nat) : Nat → Cursor → Except Failure (List Nat × Cursor)
  | 0, _ => unreadable
  | fuel + 1, c =>
    let ch := c.peek
    if !double && ch == '\'' && c.ahead 1 == '\'' then readFrom double (ch.toNat :: acc) fuel (c.advance 2)
    else if ch = (if double then '"' else '\'') then .ok (acc.reverse, c.next)
    else if double && ch == '\\' then do
      let (more, c) ← escape c.next
      readFrom double (more.reverse ++ acc) fuel c
    else if endsWord ch then do
      let (more, c) ← blanks c
      readFrom double ((more.map Char.toNat).reverse ++ acc) fuel c
    else readFrom double (ch.toNat :: acc) fuel c.next

/-- The codes of the quoted text at a place, which holds the opening quote. -/
def read (double : Bool) (c : Cursor) : Except Failure (List Nat × Cursor) :=
  readFrom double [] (c.rest.length + 1) c.next

end OwnershipRegistry.Yaml.Quoted
