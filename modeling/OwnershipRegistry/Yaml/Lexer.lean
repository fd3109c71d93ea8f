import OwnershipRegistry.Yaml.Block
import OwnershipRegistry.Yaml.Mark
import OwnershipRegistry.Yaml.Plain

/-! # From text to tokens

Tokens are read one after the other. A token that may turn out to be the key of a mapping is
remembered until a colon confirms it; the marks of the key, and of a mapping that begins with
it, are then put in front of it. A fault ends the reading; the tokens that nothing behind them
could change any more are given all the same. -/

namespace OwnershipRegistry.Yaml

open Quoted (unreadable)

/-- A token that may be a key, by its number and place. -/
structure PossibleKey where
  number : Nat
  /-- Whether nothing but a key can stand there. -/
  required : Bool
  index : Nat
  line : Nat
  column : Nat

/-- A lexer on its way through a text. -/
structure Lexer where
  cursor : Cursor
  /-- The tokens so far, last one first. -/
  tokens : List Token := []
  /-- How many brackets are open. -/
  nesting : Nat := 0
  indent : Int := -1
  /-- The indentations around the present one. -/
  outer : List Int := []
  /-- Whether a key may begin here. -/
  keyAllowed : Bool := true
  /-- The last possible key at each nesting. -/
  keys : List (Nat × PossibleKey) := []

namespace Lexer

/-- The column of the lexer. -/
def column (l : Lexer) : Int := l.cursor.column

/-- Whether the lexer is outside all brackets. -/
def inBlock (l : Lexer) : Bool := l.nesting == 0

/-- Add a token. -/
def push (l : Lexer) (t : Token) : Lexer := { l with tokens := t :: l.tokens }

/-- Add a token of some characters. -/
def pushMark (l : Lexer) (t : Token) (length : Nat) : Lexer :=
  { l.push t with cursor := l.cursor.advance length }

/-- Put a token in front of the token of a number. -/
def insert (l : Lexer) (number : Nat) (t : Token) : Lexer :=
  let later := l.tokens.length - number
  { l with tokens := l.tokens.take later ++ t :: l.tokens.drop later }

/-- Forget the possible key at the present nesting; a required one must not be forgotten. -/
def dropKey (l : Lexer) : Except Failure Lexer :=
  match l.keys.lookup l.nesting with
  | some key =>
    if key.required then unreadable else .ok { l with keys := l.keys.filter fun k => k.1 != l.nesting }
  | none => .ok l

/-- The longest way from a key to its colon. -/
def keyReach : Nat := 1024

/-- Whether a possible key is out of reach: on another line or too far back. -/
def isStale (c : Cursor) (key : PossibleKey) : Bool :=
  key.line != c.line || key.index + keyReach < c.index

/-- Forget the possible keys that are out of reach. -/
def dropStale (l : Lexer) : Except Failure Lexer :=
  if l.keys.any fun k => isStale l.cursor k.2 && k.2.required then unreadable
  else .ok { l with keys := l.keys.filter fun k => !isStale l.cursor k.2 }

/-- Remember the next token as a possible key, if one may begin here. -/
def offerKey (l : Lexer) : Except Failure Lexer :=
  if l.keyAllowed then do
    let required := l.inBlock && l.indent == l.column
    let key : PossibleKey :=
      ⟨l.tokens.length, required, l.cursor.index, l.cursor.line, l.cursor.column⟩
    let l ← l.dropKey
    pure { l with keys := (l.nesting, key) :: l.keys }
  else .ok l

/-- Close the blocks that are indented deeper than a column. -/
def unwindTo (column : Int) (tokens : List Token) (indent : Int) : List Int → List Token × Int × List Int
  | [] => (tokens, indent, [])
  | next :: outer =>
    if column < indent then unwindTo column (.blockEnd :: tokens) next outer
    else (tokens, indent, next :: outer)

/-- Close the blocks that are indented deeper than a column; inside brackets none is. -/
def unwind (l : Lexer) (column : Int) : Lexer :=
  if l.inBlock then
    let (tokens, indent, outer) := unwindTo column l.tokens l.indent l.outer
    { l with tokens, indent, outer }
  else l

/-- Begin a block at a column, if it is deeper than the present one. -/
def deepen (l : Lexer) (column : Int) : Option Lexer :=
  if l.indent < column then some { l with indent := column, outer := l.indent :: l.outer } else none

/-- Begin a block of a kind at the present place, if it is deeper than the present one. -/
def openBlock (l : Lexer) (start : Token) : Lexer :=
  match l.deepen l.column with
  | some l => l.push start
  | none => l

/-- Go to the next token, over blanks, comments and line breaks. Outside brackets a key may
begin on a new line. -/
def skipGap : Nat → Lexer → Lexer
  | 0, l => l
  | fuel + 1, l =>
    let c := l.cursor.skipComment
    if isBreak c.peek then
      skipGap fuel { l with cursor := c.lineBreak.2, keyAllowed := l.keyAllowed || l.inBlock }
    else { l with cursor := c }

/-- End the stream. -/
def finish (l : Lexer) : Except Failure Lexer := do
  let l ← (l.unwind (-1)).dropKey
  pure (l.push .streamEnd)

/-- Leave all blocks for a mark between documents. -/
def leaveBlocks (l : Lexer) : Except Failure Lexer := do
  let l ← (l.unwind (-1)).dropKey
  pure { l with keyAllowed := false }

/-- A directive. -/
def directive (l : Lexer) : Except Failure Lexer := do
  let l ← l.leaveBlocks
  let (d, cursor) ← Mark.directive l.cursor
  pure { l.push (.directive d) with cursor }

/-- The mark of a document's start or end. -/
def separator (l : Lexer) (t : Token) : Except Failure Lexer := do
  let l ← l.leaveBlocks
  pure (l.pushMark t 3)

/-- An opening bracket. -/
def openBracket (l : Lexer) (t : Token) : Except Failure Lexer := do
  let l ← l.offerKey
  pure { l.pushMark t 1 with nesting := l.nesting + 1, keyAllowed := true }

/-- A closing bracket, which one has to be open for. -/
def closeBracket (l : Lexer) (t : Token) : Except Failure Lexer := do
  let l ← l.dropKey
  if l.inBlock then unreadable
  else pure { l.pushMark t 1 with nesting := l.nesting - 1, keyAllowed := false }

/-- A comma. -/
def comma (l : Lexer) : Except Failure Lexer := do
  let l ← l.dropKey
  pure { l.pushMark .flowEntry 1 with keyAllowed := true }

/-- A hyphen before an item. -/
def item (l : Lexer) : Except Failure Lexer := do
  if l.inBlock && !l.keyAllowed then unreadable
  else
    let l := if l.inBlock then l.openBlock .blockSequenceStart else l
    let l ← l.dropKey
    pure { l.pushMark .blockEntry 1 with keyAllowed := true }

/-- A question mark before a key. -/
def key (l : Lexer) : Except Failure Lexer := do
  if l.inBlock && !l.keyAllowed then unreadable
  else
    let l := if l.inBlock then l.openBlock .blockMappingStart else l
    let l ← l.dropKey
    pure { l.pushMark .key 1 with keyAllowed := l.inBlock }

/-- Confirm a possible key. -/
def confirm (l : Lexer) (key : PossibleKey) : Lexer :=
  let l := { l with keys := l.keys.filter fun k => k.1 != l.nesting, keyAllowed := false }
  let l := l.insert key.number .key
  if l.inBlock then
    match l.deepen key.column with
    | some l => l.insert key.number .blockMappingStart
    | none => l
  else l

/-- A colon before a value. -/
def value (l : Lexer) : Except Failure Lexer := do
  match l.keys.lookup l.nesting with
  | some key => pure ((l.confirm key).pushMark .value 1)
  | none =>
    if l.inBlock && !l.keyAllowed then unreadable
    else
      let l := if l.inBlock then l.openBlock .blockMappingStart else l
      let l ← l.dropKey
      pure { l.pushMark .value 1 with keyAllowed := l.inBlock }

/-- A token that may be a key, read by a function of the place. -/
def possibleKey {α : Type} (l : Lexer) (token : α → Token) (read : Cursor → Except Failure (α × Cursor)) :
    Except Failure Lexer := do
  let l ← l.offerKey
  let (a, cursor) ← read l.cursor
  pure { l.push (token a) with cursor, keyAllowed := false }

/-- A quoted text. -/
def quoted (l : Lexer) (double : Bool) : Except Failure Lexer :=
  l.possibleKey (fun codes => .scalar codes false) (Quoted.read double)

/-- A block text. -/
def block (l : Lexer) (fold : Bool) : Except Failure Lexer := do
  let l ← l.dropKey
  let (text, cursor) ← Block.read fold l.indent l.cursor
  pure { l.push (.scalar (text.map Char.toNat) false) with cursor, keyAllowed := true }

/-- A plain text. A key may begin after it, if it ends on a new line. -/
def plain (l : Lexer) : Except Failure Lexer := do
  let l ← l.offerKey
  let text := Plain.read (!l.inBlock) (l.indent + 1) l.cursor
  pure { l.push (.scalar (text.text.map Char.toNat) true) with
    cursor := text.cursor, keyAllowed := text.brokeLine }

/-- The characters that begin other tokens than plain texts. -/
def indicators : List Char := "-?:,[]\x7b\x7d#&*!|>'\"%@\x60".toList

/-- Whether a plain text begins at a place. -/
def startsPlain (nested : Bool) (c : Cursor) : Bool :=
  let ch := c.peek
  (!endsWord ch && !indicators.contains ch)
    || (!endsWord (c.ahead 1) && (ch == '-' || (!nested && (ch == '?' || ch == ':'))))

/-- Read the next token, whose first character is at the place. -/
def token (l : Lexer) : Except Failure Lexer :=
  let c := l.cursor
  let apart := endsWord (c.ahead 1)
  let nested := !l.inBlock
  match c.peek with
  | '%' => if c.column = 0 then l.directive else unreadable
  | '[' => l.openBracket .flowSequenceStart
  | '\x7b' => l.openBracket .flowMappingStart
  | ']' => l.closeBracket .flowSequenceEnd
  | '\x7d' => l.closeBracket .flowMappingEnd
  | ',' => l.comma
  | '*' => l.possibleKey .alias Mark.anchorName
  | '&' => l.possibleKey .anchor Mark.anchorName
  | '!' => l.possibleKey .tag Mark.tag
  | '\'' => l.quoted false
  | '"' => l.quoted true
  | '|' => if nested then unreadable else l.block false
  | '>' => if nested then unreadable else l.block true
  | '-' =>
    if c.column = 0 && c.marks '-' then l.separator .documentStart
    else if apart then l.item
    else l.plain
  | '.' => if c.column = 0 && c.marks '.' then l.separator .documentEnd else l.plain
  | '?' => if nested || apart then l.key else l.plain
  | ':' => if nested || apart then l.value else l.plain
  | _ => if startsPlain nested c then l.plain else unreadable

/-- Read the next token behind a gap, or end the stream. Blocks that it is not indented for are
closed before it. -/
def next (l : Lexer) : Except Failure Lexer := do
  let l ← (skipGap (l.cursor.rest.length + 1) l).dropStale
  let l := l.unwind l.column
  if l.cursor.rest.isEmpty then l.finish else l.token

/-- Whether the stream has ended. -/
def isDone (l : Lexer) : Bool :=
  match l.tokens with
  | .streamEnd :: _ => true
  | _ => false

/-- The tokens that are certain: those in front of every possible key that is in reach. -/
def settled (l : Lexer) : List Token :=
  let numbers := (l.keys.filter fun k => !isStale l.cursor k.2).map fun k => k.2.number
  l.tokens.reverse.take (numbers.foldl min l.tokens.length)

/-- Read tokens up to the end of the text or the first fault. -/
def readFrom : Nat → Lexer → Tokens
  | 0, _ => ⟨[], some .unreadableDocument⟩
  | fuel + 1, l =>
    match l.next with
    | .error failure => ⟨l.settled, some failure⟩
    | .ok after => if after.isDone then ⟨after.tokens.reverse, none⟩ else readFrom fuel after

/-- The place where the tokens of a text begin; a byte order mark in front is no token. -/
def start (cs : List Char) : Cursor :=
  match cs with
  | '\ufeff' :: rest => ⟨rest, 1, 0, 0⟩
  | cs => ⟨cs, 0, 0, 0⟩

/-- The tokens of a text. -/
def read (cs : List Char) : Tokens :=
  readFrom (cs.length + 2) { cursor := start cs }

end Lexer

end OwnershipRegistry.Yaml
