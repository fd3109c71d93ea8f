import OwnershipRegistry.Text.Decoded
import OwnershipRegistry.Yaml.Quoted
import OwnershipRegistry.Yaml.Token

/-! # Marks with names

Anchors, aliases, tags and directives are read here: a sign, and the name that follows it. -/

namespace OwnershipRegistry.Yaml.Mark

open Quoted (unreadable)

/-- The characters of anchors, handles and directive names. -/
def isNameChar (c : Char) : Bool := c.isAlphanum || c == '-' || c == '_'

/-- The characters of tags. -/
def isTagChar (c : Char) : Bool := c.isAlphanum || "-;/?:@&=+$,_.!~*'()[]%".toList.contains c

/-- The characters that may follow the name of an anchor or an alias. -/
def endsName (c : Char) : Bool := endsWord c || "?:,]\x7d%@\x60".toList.contains c

/-- The name behind the sign of an anchor or an alias. -/
def anchorName (c : Cursor) : Except Failure (String × Cursor) :=
  let (name, c) := c.next.span isNameChar
  if name.isEmpty || !endsName c.peek then unreadable else .ok (String.ofList name, c)

/-- The bytes of percent escapes. -/
def escapedBytes : Nat → Cursor → Except Failure (List UInt8 × Cursor)
  | 0, c => .ok ([], c)
  | fuel + 1, c =>
    if c.peek = '%' then
      match Numeral.digit? 16 (c.ahead 1), Numeral.digit? 16 (c.ahead 2) with
      | some high, some low => do
        let (more, c) ← escapedBytes fuel (c.advance 3)
        pure (UInt8.ofNat (16 * high + low) :: more, c)
      | _, _ => unreadable
    else .ok ([], c)

/-- The text of a tag, with its escapes undone. -/
def tagText (acc : List Char) : Nat → Cursor → Except Failure (List Char × Cursor)
  | 0, c => .ok (acc, c)
  | fuel + 1, c =>
    if c.peek = '%' then do
      let (bytes, c) ← escapedBytes (c.rest.length + 1) c
      match Text.decoded? bytes with
      | some s => tagText (acc ++ s.toList) fuel c
      | none => unreadable
    else if isTagChar c.peek then tagText (acc ++ [c.peek]) fuel c.next
    else .ok (acc, c)

/-- The text of a tag, which must not be missing. -/
def tagSuffix (c : Cursor) : Except Failure (String × Cursor) := do
  if !isTagChar c.peek then unreadable
  else
    let (text, c) ← tagText [] (c.rest.length + 1) c
    pure (String.ofList text, c)

/-- A tag handle: one sign alone, or a name between two. -/
def tagHandle (c : Cursor) : Except Failure (String × Cursor) :=
  if c.peek ≠ '!' then unreadable
  else if c.ahead 1 = ' ' then .ok ("!", c.next)
  else
    let (name, c) := c.next.span isNameChar
    if c.peek = '!' then .ok ("!" ++ String.ofList name ++ "!", c.next) else unreadable

/-- Whether another sign follows the first one in the same word. -/
def hasHandle (c : Cursor) : Bool := (c.next.rest.takeWhile fun ch => !endsField ch).contains '!'

/-- The tag at a place. -/
def tag (c : Cursor) : Except Failure (TagMark × Cursor) := do
  let (mark, c) ←
    if c.ahead 1 = '<' then do
      let (suffix, c) ← tagSuffix (c.advance 2)
      if c.peek = '>' then pure (⟨none, suffix⟩, c.next) else unreadable
    else if endsWord (c.ahead 1) then pure (⟨none, "!"⟩, c.next)
    else do
      let (handle, c) ← if hasHandle c then tagHandle c else pure ("!", c.next)
      let (suffix, c) ← tagSuffix c
      pure (⟨some handle, suffix⟩, c)
  if endsField c.peek then pure (mark, c) else unreadable

/-- A number of a version. -/
def versionNumber (c : Cursor) : Except Failure (Int × Cursor) :=
  let (digits, c) := c.span Char.isDigit
  if digits.isEmpty then unreadable
  else match Numeral.read .decimal (String.ofList digits) with
    | .ok n => .ok (n, c)
    | .error e => .error (.badNumeral e)

/-- The version that a document is written in. -/
def version (c : Cursor) : Except Failure (Directive × Cursor) := do
  let (major, c) ← versionNumber (c.skip (· == ' '))
  if c.peek ≠ '.' then unreadable
  else
    let (_, c) ← versionNumber c.next
    if endsField c.peek then pure (.version major, c) else unreadable

/-- A handle and its expansion. -/
def handleDirective (c : Cursor) : Except Failure (Directive × Cursor) := do
  let (handle, c) ← tagHandle (c.skip (· == ' '))
  if c.peek ≠ ' ' then unreadable
  else
    let (expansion, c) ← tagSuffix (c.skip (· == ' '))
    if endsField c.peek then pure (.handle handle expansion, c) else unreadable

/-- The directive at a place, up to the next line. -/
def directive (c : Cursor) : Except Failure (Directive × Cursor) := do
  let (name, c) := c.next.span isNameChar
  if name.isEmpty || !endsField c.peek then unreadable
  else
    let (d, c) ←
      if name = "YAML".toList then version c
      else if name = "TAG".toList then handleDirective c
      else pure (.other, c.skip fun ch => !endsLine ch)
    let c := c.skipComment
    if endsLine c.peek then pure (d, c.lineBreak.2) else unreadable

end OwnershipRegistry.Yaml.Mark
