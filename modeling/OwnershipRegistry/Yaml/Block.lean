import OwnershipRegistry.Yaml.Quoted

/-! # Block text

After a bar or an angle a text stands on the lines below, indented. The bar keeps its line
breaks, the angle folds them. Marks behind say what becomes of the breaks at the end, and how
deep the text is indented where its first line does not show it. -/

namespace OwnershipRegistry.Yaml.Block

open Quoted (unreadable)

/-- What becomes of the line breaks that end a block text. -/
inductive Chomp where
  | clip
  | strip
  | keep
deriving DecidableEq

/-- The mark for the breaks at the end, if there is one. -/
def chomp? (c : Char) : Option Chomp := [('+', Chomp.keep), ('-', Chomp.strip)].lookup c

/-- The mark for the indentation, if there is one; it is never zero. -/
def depth? (c : Char) : Except Failure (Option Nat) :=
  if c = '0' then unreadable
  else .ok (if c.isDigit then some (c.toNat - '0'.toNat) else none)

/-- The marks behind the bar or angle, in either order, up to the next line. -/
def header (c : Cursor) : Except Failure (Chomp × Option Nat × Cursor) := do
  let (chomp, depth, c) ← match chomp? c.peek with
    | some chomp => do
      let c := c.next
      match ← depth? c.peek with
      | some d => pure (chomp, some d, c.next)
      | none => pure (chomp, none, c)
    | none =>
      match ← depth? c.peek with
      | some d =>
        let c := c.next
        match chomp? c.peek with
        | some chomp => pure (chomp, some d, c.next)
        | none => pure (.clip, some d, c)
      | none => pure (.clip, none, c)
  if !endsField c.peek then unreadable
  else
    let c := c.skipComment
    if endsLine c.peek then pure (chomp, depth, c.lineBreak.2) else unreadable

/-- The breaks before the first line, and the deepest column of a blank on the way. -/
def lead (deepest : Nat) : Nat → Cursor → List Char × Nat × Cursor
  | 0, c => ([], deepest, c)
  | fuel + 1, c =>
    if isBreak c.peek then
      let (first, c) := c.lineBreak
      let (more, deepest, c) := lead deepest fuel c
      (first ++ more, deepest, c)
    else if c.peek = ' ' then
      let c := c.next
      lead (max deepest c.column) fuel c
    else ([], deepest, c)

/-- The place behind the blanks up to a column. -/
def indentTo (column : Nat) : Nat → Cursor → Cursor
  | 0, c => c
  | fuel + 1, c => if c.column < column && c.peek == ' ' then indentTo column fuel c.next else c

/-- Empty lines, and the place at the column of the next line. -/
def emptyLines (column : Nat) : Nat → Cursor → List Char × Cursor
  | 0, c => ([], c)
  | fuel + 1, c =>
    let c := indentTo column column c
    if isBreak c.peek then
      let (first, c) := c.lineBreak
      let (more, c) := emptyLines column fuel c
      (first ++ more, c)
    else ([], c)

/-- Whether a blank or a tab stands at a place. -/
def indented (c : Cursor) : Bool := c.peek == ' ' || c.peek == '\t'

/-- Read lines at a column. `last` is the break before, `breaks` the empty lines after it. -/
def lines (fold : Bool) (chomp : Chomp) (column : Nat) (acc last breaks : List Char) :
    Nat → Cursor → List Char × Cursor
  | 0, c => (acc, c)
  | fuel + 1, c =>
    if c.column = column && c.peek != '\x00' then
      let flush := !indented c
      let (text, c) := c.span fun ch => !endsLine ch
      let acc := acc ++ breaks ++ text
      let (last, c) := c.lineBreak
      let (breaks, c) := emptyLines column (c.rest.length + 1) c
      let goesOn := c.column = column && c.peek != '\x00'
      let joint :=
        if !goesOn then []
        else if fold && last == ['\n'] && flush && !indented c then (if breaks.isEmpty then [' '] else [])
        else last
      lines fold chomp column (acc ++ joint) last breaks fuel c
    else
      (acc ++ (if chomp = .strip then [] else last) ++ (if chomp = .keep then breaks else []), c)

/-- The block text at a place, which holds the bar or angle, inside a block that is indented by
`indent`. -/
def read (fold : Bool) (indent : Int) (c : Cursor) : Except Failure (List Char × Cursor) := do
  let (chomp, depth, c) ← header c.next
  let least := (indent + 1).toNat.max 1
  let (breaks, column, c) := match depth with
    | some d =>
      let column := least + d - 1
      let (breaks, c) := emptyLines column (c.rest.length + 1) c
      (breaks, column, c)
    | none =>
      let (breaks, deepest, c) := lead 0 (c.rest.length + 1) c
      (breaks, max least deepest, c)
  pure (lines fold chomp column [] [] breaks (c.rest.length + 2) c)

end OwnershipRegistry.Yaml.Block
