import OwnershipRegistry.Json

/-!
# A reader of JSON text

What a line says is what a reader makes of it. This one is strict: strings hold
no control characters and no escapes but those of the format, numbers follow
its grammar, and nothing may follow a value but blanks. A number is kept as it
is written. Every function takes what it reads from the front of a text.
-/

namespace OwnershipRegistry.Json

/-- What a JSON text says. The members of an object stand as they are written. -/
inductive Tree where
  | null
  | bool (b : Bool)
  | number (literal : String)
  | text (s : String)
  | array (items : List Tree)
  | object (members : List (String × Tree))

/-- What may stand between the parts of a text. -/
def isBlank (c : Char) : Bool := c == ' ' || c == '\t' || c == '\n' || c == '\r'

/-- What follows the blanks at the front. -/
def skipBlanks (cs : List Char) : List Char := cs.dropWhile isBlank

/-- What follows a mark, if it comes next. -/
def after? (mark : Char) (cs : List Char) : Option (List Char) :=
  match skipBlanks cs with
  | [] => none
  | c :: rest => if c = mark then some rest else none

/-- The code that four hexadecimal digits give. -/
def unit? (digits : List Char) : Option Nat :=
  digits.foldlM (fun n c => (Numeral.digit? 16 c).map (n * 16 + ·)) 0

/-- The code of an escape of one character. -/
def escaped? (c : Char) : Option Nat :=
  [('"', 0x22), ('\\', 0x5c), ('/', 0x2f), ('b', 0x08), ('f', 0x0c), ('n', 0x0a), ('r', 0x0d),
    ('t', 0x09)].lookup c

/-- The codes of a string, up to the quote that ends it. -/
def codes? : List Char → Option (List Nat × List Char)
  | [] => none
  | '"' :: rest => some ([], rest)
  | '\\' :: 'u' :: a :: b :: c :: d :: rest => do
    let code ← unit? [a, b, c, d]
    let (codes, rest) ← codes? rest
    pure (code :: codes, rest)
  | '\\' :: c :: rest => do
    let code ← escaped? c
    let (codes, rest) ← codes? rest
    pure (code :: codes, rest)
  | c :: rest => do
    guard (0x20 ≤ c.toNat)
    let (codes, rest) ← codes? rest
    pure (c.toNat :: codes, rest)

/-- The characters of codes: those beyond sixteen bits may be given by two units, and a unit that is
one half of such a pair gives none by itself. -/
def characters? : List Nat → Option (List Char)
  | [] => some []
  | [code] => if code.isValidChar then some [Char.ofNat code] else none
  | code :: next :: rest =>
    if code.isValidChar then (characters? (next :: rest)).map (Char.ofNat code :: ·)
    else if 0xd800 ≤ code ∧ code < 0xdc00 ∧ 0xdc00 ≤ next ∧ next < 0xe000 then
      (characters? rest).map (Char.ofNat (0x10000 + (code - 0xd800) * 0x400 + (next - 0xdc00)) :: ·)
    else none

/-- A string after its first quote. -/
def string? (cs : List Char) : Option (String × List Char) := do
  let (codes, rest) ← codes? cs
  let characters ← characters? codes
  pure (String.ofList characters, rest)

/-- What numbers consist of. -/
def isNumberChar (c : Char) : Bool :=
  c.isDigit || c == '-' || c == '+' || c == '.' || c == 'e' || c == 'E'

/-- What follows a run of digits, of which there has to be one. -/
def afterDigits? : List Char → Option (List Char)
  | c :: rest => if c.isDigit then some (rest.dropWhile Char.isDigit) else none
  | [] => none

/-- What follows the whole part of a number: a zero, or digits that begin with another one. -/
def afterWhole? : List Char → Option (List Char)
  | '0' :: rest => some rest
  | cs => afterDigits? cs

/-- What follows the fraction of a number, if it has one. -/
def afterFraction? : List Char → Option (List Char)
  | '.' :: rest => afterDigits? rest
  | cs => some cs

/-- What follows the exponent of a number, if it has one. -/
def afterExponent? : List Char → Option (List Char)
  | c :: rest =>
    if c = 'e' ∨ c = 'E' then
      match rest with
      | '+' :: rest => afterDigits? rest
      | '-' :: rest => afterDigits? rest
      | rest => afterDigits? rest
    else some (c :: rest)
  | [] => some []

/-- What follows the sign of a number, if it has one. -/
def afterSign : List Char → List Char
  | '-' :: rest => rest
  | cs => cs

/-- Whether a text is a number. -/
def isNumber (cs : List Char) : Bool :=
  (((afterWhole? (afterSign cs)).bind afterFraction?).bind afterExponent?) == some []

/-- A number. -/
def number? (cs : List Char) : Option (Tree × List Char) :=
  let literal := cs.takeWhile isNumberChar
  if isNumber literal then some (.number (String.ofList literal), cs.dropWhile isNumberChar) else none

/-- A word of the format. -/
def word? : List Char → Option (Tree × List Char)
  | 'n' :: 'u' :: 'l' :: 'l' :: rest => some (.null, rest)
  | 't' :: 'r' :: 'u' :: 'e' :: rest => some (.bool true, rest)
  | 'f' :: 'a' :: 'l' :: 's' :: 'e' :: rest => some (.bool false, rest)
  | _ => none

/-- Whether a number comes next. -/
def opensNumber : List Char → Bool
  | c :: _ => c == '-' || c.isDigit
  | [] => false

mutual

/-- A value. -/
def value? : Nat → List Char → Option (Tree × List Char)
  | 0, _ => none
  | fuel + 1, cs =>
    let cs := skipBlanks cs
    if opensNumber cs then number? cs
    else match cs with
    | '"' :: rest => (string? rest).map fun r => (.text r.1, r.2)
    | '[' :: rest =>
      match after? ']' rest with
      | some rest => some (.array [], rest)
      | none => (items? fuel rest).map fun r => (.array r.1, r.2)
    | '\x7b' :: rest =>
      match after? '\x7d' rest with
      | some rest => some (.object [], rest)
      | none => (members? fuel rest).map fun r => (.object r.1, r.2)
    | cs => word? cs

/-- The items of an array, and the bracket after the last one. -/
def items? : Nat → List Char → Option (List Tree × List Char)
  | 0, _ => none
  | fuel + 1, cs => do
    let (item, rest) ← value? fuel cs
    match after? ']' rest with
    | some rest => pure ([item], rest)
    | none =>
      let rest ← after? ',' rest
      let (items, rest) ← items? fuel rest
      pure (item :: items, rest)

/-- The members of an object, and the brace after the last one. -/
def members? : Nat → List Char → Option (List (String × Tree) × List Char)
  | 0, _ => none
  | fuel + 1, cs => do
    let rest ← after? '"' cs
    let (name, rest) ← string? rest
    let rest ← after? ':' rest
    let (value, rest) ← value? fuel rest
    match after? '\x7d' rest with
    | some rest => pure ([(name, value)], rest)
    | none =>
      let rest ← after? ',' rest
      let (members, rest) ← members? fuel rest
      pure ((name, value) :: members, rest)

end

/-- What a text says, if it is one value. Every step takes at least one character. -/
def read? (text : String) : Option Tree := do
  let cs := text.toList
  let (tree, rest) ← value? cs.length cs
  guard (skipBlanks rest = [])
  pure tree

end OwnershipRegistry.Json
