import OwnershipRegistry.Decimal.Places
import OwnershipRegistry.Failure

/-! # Filling arguments into a message

A percent sign starts a place for an argument: an optional name in parentheses, flags, a width,
a precision, and a letter that says how the argument is written. Arguments are taken in order,
or by name from one mapping. What is filled in is text of characters: an argument that would put
another code into the message is refused. -/

namespace OwnershipRegistry.Filling

/-- How an argument is written. -/
structure Layout where
  left : Bool := false
  plus : Bool := false
  blank : Bool := false
  alternate : Bool := false
  zeros : Bool := false
  width : Nat := 0
  precision : Option Nat := none

/-- What arguments are left: a list taken in order, or one value, which may be a mapping. -/
inductive Supply where
  | list (rest : List Value)
  | single (value : Value) (used : Bool)

/-- A failure for an argument of the wrong shape. -/
private def unfit {α : Type} : Except Failure α := .error .wrongShape

/-- Take the next argument. -/
def Supply.next : Supply → Except Failure (Value × Supply)
  | .list (v :: rest) => .ok (v, .list rest)
  | .list [] => unfit
  | .single v false => .ok (v, .single v true)
  | .single _ true => unfit

/-- Whether all arguments are used. -/
def Supply.isDone : Supply → Bool
  | .list rest => rest.isEmpty
  | .single _ used => used

/-- The entries that named places draw from, if there is one mapping of arguments. -/
abbrev Names := Option (List (Value × Value))

/-- Fill a text up to its width, with zeros after the sign where the layout says so. -/
def pad (l : Layout) (numeric : Bool) (sign body : String) : String :=
  let missing := l.width - (sign.length + body.length)
  if l.left then sign ++ body ++ String.ofList (List.replicate missing ' ')
  else if l.zeros && numeric then sign ++ String.ofList (List.replicate missing '0') ++ body
  else String.ofList (List.replicate missing ' ') ++ sign ++ body

/-- The sign of a number under a layout. -/
def signText (l : Layout) (negative : Bool) : String :=
  if negative then "-" else if l.plus then "+" else if l.blank then " " else ""

/-- The digits of an integer, filled with zeros up to the precision. -/
def integerBody (l : Layout) (digits : String) : String :=
  String.ofList (List.replicate (l.precision.getD 0 - digits.length) '0') ++ digits

/-- An integer in a radix. -/
def integer (l : Layout) (radix : Nat) (mark : String) (capital : Bool) (n : Int) : String :=
  let digits := String.ofList (Nat.toDigits radix n.natAbs)
  let digits := if capital then digits.toUpper else digits
  pad l true (signText l (n < 0) ++ (if l.alternate then mark else "")) (integerBody l digits)

/-- The number that an argument is for the floating point letters. -/
def realOf : Value → Except Failure Binary64
  | .int n =>
    let x := Binary64.ofInt n
    if x.isFinite then .ok x else .error .beyondReals
  | .bool b => .ok (Binary64.ofInt (if b then 1 else 0))
  | .float x => .ok x
  | _ => unfit

/-- A floating point number under one of the letters `e`, `f`, `g`. -/
def real (l : Layout) (letter : Char) (x : Binary64) : String :=
  let capital := letter.isUpper
  let body :=
    if x.isNaN then "nan"
    else if x.isInfinite then "inf"
    else match letter.toLower with
      | 'f' => Decimal.fixedText (l.precision.getD 6) l.alternate x
      | 'e' => Decimal.scientificText "e" (l.precision.getD 6) l.alternate x
      | _ => Decimal.generalText "e" (l.precision.getD 6) l.alternate x
  pad l true (signText l (x.negative && !x.isNaN)) (if capital then body.toUpper else body)

/-- The integer that an argument is for the decimal letters. -/
def wholeOf : Value → Except Failure Int
  | .int n => .ok n
  | .bool b => .ok (if b then 1 else 0)
  | .float x =>
    if x.isNaN then .error (.badScalar "cannot convert float NaN to integer")
    else if x.isInfinite then .error (.outOfRange "cannot convert float infinity to integer")
    else .ok x.truncated
  | _ => unfit

/-- Cut a text to the precision. -/
private def limited (l : Layout) (s : String) : String :=
  match l.precision with
  | some n => Text.cut n s
  | none => s

/-- Escape what is not ASCII. -/
private def asciiOnly (s : String) : String :=
  String.ofList (s.toList.flatMap fun c => if c.toNat < 0x80 then [c] else Text.codeEscape c.toNat)

/-- The message about a letter that means nothing, and its position. -/
def unknownLetter (c : Char) (index : Nat) : String :=
  let shownChar := if 0x1f ≤ c.toNat && c.toNat < 0x7f then String.singleton c else "?"
  "unsupported format character '" ++ shownChar ++ "' (0x" ++ String.ofList (Text.hexDigits c.toNat)
    ++ ") at index " ++ toString index

/-- The text of an argument, if all its integers can be written. -/
def textOf (v : Value) (text : String) : Except Failure String :=
  if v.isWritable then .ok text else .error .numberTooLong

/-- An argument in decimal digits. -/
def decimal (l : Layout) (v : Value) : Except Failure String := do
  let n ← wholeOf v
  textOf (.int n) (integer { l with alternate := false } 10 "" false n)

/-- One argument under a letter. -/
def write (l : Layout) (letter : Char) (index : Nat) (v : Value) : Except Failure String :=
  match letter with
  | 's' => v.written.map fun text => pad l false "" (limited l text)
  | 'r' => textOf v (pad l false "" (limited l v.shown))
  | 'a' => textOf v (pad l false "" (limited l (asciiOnly v.shown)))
  | 'd' | 'i' | 'u' => decimal l v
  | 'x' | 'X' | 'o' =>
    match v with
    | .float _ => unfit
    | _ =>
      let (radix, mark) := if letter = 'o' then (8, "0o") else if letter = 'x' then (16, "0x") else (16, "0X")
      (wholeOf v).map (integer l radix mark (letter = 'X'))
  | 'c' =>
    match v with
    | .float _ => unfit
    | .str s => if s.length = 1 then .ok (pad l false "" s) else unfit
    | .codes cs => if cs.length = 1 then .error .unencodable else unfit
    | _ => do
      let n ← wholeOf v
      if n < 0 ∨ 0x110000 ≤ n then .error (.outOfRange "%c arg not in range(0x110000)")
      else if n.toNat.isValidChar then pure (pad l false "" (String.singleton (Char.ofNat n.toNat)))
      else .error .unencodable
  | 'e' | 'E' | 'f' | 'F' | 'g' | 'G' => (realOf v).map (real l letter)
  | c => .error (.badScalar (unknownLetter c index))

/-- Read the flags that follow the percent sign. -/
def flags (l : Layout) : List Char → Layout × List Char
  | '-' :: rest => flags { l with left := true } rest
  | '+' :: rest => flags { l with plus := true } rest
  | ' ' :: rest => flags { l with blank := true } rest
  | '#' :: rest => flags { l with alternate := true } rest
  | '0' :: rest => flags { l with zeros := true } rest
  | rest => (l, rest)

/-- Read a number. -/
def number (acc : Nat) : List Char → Nat × List Char
  | c :: rest => if c.isDigit then number (acc * 10 + (c.toNat - 48)) rest else (acc, c :: rest)
  | [] => (acc, [])

/-- The name between parentheses that may follow the percent sign; parentheses nest. -/
def name? (depth : Nat) (acc : List Char) : List Char → Option (String × List Char)
  | [] => none
  | ')' :: rest =>
    if depth = 0 then some (String.ofList acc.reverse, rest) else name? (depth - 1) (')' :: acc) rest
  | '(' :: rest => name? (depth + 1) ('(' :: acc) rest
  | c :: rest => name? depth (c :: acc) rest

/-- The message about a text that ends inside a place. -/
def incomplete {α : Type} : Except Failure α := .error (.badScalar "incomplete format")

/-- What a width or a precision may be at most, and what becomes of one that is larger: one that
is written out, and one that an argument gives. -/
structure SizeBound where
  bits : Nat
  writtenExcess : String
  givenExcess : Failure

/-- The bound of a width. -/
def SizeBound.width : SizeBound := ⟨63, "width too big", .beyond "ssize_t"⟩

/-- The bound of a precision. -/
def SizeBound.precision : SizeBound := ⟨31, "precision too big", .beyond "int"⟩

/-- A width or a precision, which a star takes from the arguments. -/
def size (bound : SizeBound) (supply : Supply) : List Char → Except Failure (Int × List Char × Supply)
  | '*' :: rest => do
    let (v, supply) ← supply.next
    match v with
    | .int n =>
      if -Nat.pow 2 bound.bits ≤ n ∧ n < Nat.pow 2 bound.bits then pure (n, rest, supply)
      else .error bound.givenExcess
    | .bool b => pure (if b then 1 else 0, rest, supply)
    | _ => unfit
  | cs =>
    let (n, rest) := number 0 cs
    if n < Nat.pow 2 bound.bits then .ok (n, rest, supply) else .error (.badScalar bound.writtenExcess)

/-- One place after its percent sign: its text, what follows it, and the arguments left. The
full length of the text serves to name positions. -/
def place (total : Nat) (names : Names) (supply : Supply) (cs : List Char) :
    Except Failure (String × List Char × Supply) := do
  let (supply, cs) ← match cs with
    | '(' :: rest =>
      match names with
      | some entries =>
        match name? 0 [] rest with
        | none => .error (.badScalar "incomplete format key")
        | some (key, rest) =>
          match Value.lookup (.str key) entries with
          | some v => .ok (.single v false, rest)
          | none => .error (.unknownWord (Text.codes key))
      | none => unfit
    | cs => .ok (supply, cs)
  let (l, cs) := flags {} cs
  let (width, cs, supply) ← size .width supply cs
  let l := { l with width := width.natAbs, left := l.left || width < 0 }
  let (l, cs, supply) ← match cs with
    | '.' :: rest => do
      let (n, rest, supply) ← size .precision supply rest
      pure ({ l with precision := some n.toNat }, rest, supply)
    | cs => .ok (l, cs, supply)
  let cs := match cs with
    | c :: rest => if c = 'h' ∨ c = 'l' ∨ c = 'L' then rest else c :: rest
    | [] => []
  match cs with
  | [] => incomplete
  | letter :: rest =>
    let (v, supply) ← supply.next
    let text ← write l letter (total - rest.length - 1) v
    pure (text, rest, supply)

/-- Fill the places of a text; each step takes at least one character. Two percent signs stand for
one. The entries of a mapping need not be used. -/
def fillFrom (total : Nat) (names : Names) : Nat → Supply → List Char → Except Failure String
  | 0, _, _ => .ok ""
  | _, supply, [] => if names.isSome || supply.isDone then .ok "" else unfit
  | fuel + 1, supply, '%' :: '%' :: cs => do
    let later ← fillFrom total names fuel supply cs
    pure ("%" ++ later)
  | fuel + 1, supply, '%' :: cs => do
    let (text, rest, supply) ← place total names supply cs
    let later ← fillFrom total names fuel supply rest
    pure (text ++ later)
  | fuel + 1, supply, c :: cs => do
    let later ← fillFrom total names fuel supply cs
    pure (String.singleton c ++ later)

/-- Fill the arguments into a text. One mapping with entries stands for its entries. Without
arguments the text stands as it is. -/
def fill (text : String) (arguments : List Value) : Except Failure String :=
  let cs := text.toList
  match arguments with
  | [] => .ok text
  | [.dict (e :: entries)] =>
    fillFrom cs.length (some (e :: entries)) (cs.length + 1) (.single (.dict (e :: entries)) false) cs
  | _ => fillFrom cs.length none (cs.length + 1) (.list arguments) cs

end OwnershipRegistry.Filling
