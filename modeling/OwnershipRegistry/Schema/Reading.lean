import OwnershipRegistry.Failure
import OwnershipRegistry.Text.Decoded
import OwnershipRegistry.Text.Uppercase

/-! # Reading records out of documents

A reading either gives a record, or lists everything that is wrong with the document, or gives
up on a value of a shape that cannot even be looked through. The faults of all fields are
listed together, in the order of the fields.

The readings stand for a validation library in its lenient mode, of which this is assumed.
Fields without a default must be there, defaults are taken unchecked, and fields that a record
does not name are passed over. A text is a text or bytes in UTF-8; a choice is one of its words.
An integer may also be a truth value, a whole floating point number below 2^63 in size, or a
decimal numeral with blanks around it, a plus, leading zeros, a fraction of zeros and single
underscores; numerals have a bounded number of digits. A truth value may also be zero, one, or
one of some words in any case. A list is a list, a tuple or a set, and a record a mapping. The
rules of the records' own stand before or after the reading of a field, or after all fields once
none of them is faulty. What such a rule refuses is one fault, and a value that it cannot look
through ends the whole reading. -/

namespace OwnershipRegistry.Schema

/-- The outcome of reading a part of a document. -/
inductive Reading (α : Type) where
  | done (a : α)
  | faulty (issues : List Issue)
  | unusable

namespace Reading

/-- Apply a function to what was read. -/
def map {α β : Type} (f : α → β) : Reading α → Reading β
  | .done a => .done (f a)
  | .faulty issues => .faulty issues
  | .unusable => .unusable

/-- Read two parts; the faults of both are listed. -/
def and {α β : Type} : Reading (α → β) → Reading α → Reading β
  | .unusable, _ => .unusable
  | _, .unusable => .unusable
  | .done f, .done a => .done (f a)
  | .faulty xs, .faulty ys => .faulty (xs ++ ys)
  | .faulty xs, .done _ => .faulty xs
  | .done _, .faulty ys => .faulty ys

instance : Applicative Reading where
  pure := .done
  map := Reading.map
  seq f a := Reading.and f (a ())

/-- Go on with what was read. -/
def andThen {α β : Type} (r : Reading α) (f : α → Reading β) : Reading β :=
  match r with
  | .done a => f a
  | .faulty issues => .faulty issues
  | .unusable => .unusable

/-- A single fault, here. -/
def fault {α : Type} (f : Fault) : Reading α := .faulty [⟨[], f⟩]

/-- Put a place in front of all faults. -/
def under {α : Type} (place : Place) : Reading α → Reading α
  | .faulty issues => .faulty (issues.map fun i => { i with place := place :: i.place })
  | r => r

/-- Read all items of a list. -/
def items {α : Type} (read : Value → Reading α) (index : Nat) : List Value → Reading (List α)
  | [] => .done []
  | v :: vs => and (map List.cons (under (.item index) (read v))) (items read (index + 1) vs)

/-- The outcome as an answer or a failure. -/
def result {α : Type} : Reading α → Except Failure α
  | .done a => .ok a
  | .faulty issues => .error (.invalidDocument issues)
  | .unusable => .error .wrongShape

end Reading

/-- The value of a field, if the record has it. -/
def field? (entries : List (Value × Value)) (name : String) : Option Value := Value.lookup (.str name) entries

/-- Read a field that must be there. -/
def required {α : Type} (entries : List (Value × Value)) (name : String) (read : Value → Reading α) : Reading α :=
  Reading.under (.field name) (match field? entries name with
    | some v => read v
    | none => Reading.fault .missing)

/-- Read a field that has a default. -/
def defaulted {α : Type} (entries : List (Value × Value)) (name : String) (fallback : α)
    (read : Value → Reading α) : Reading α :=
  match field? entries name with
  | some v => Reading.under (.field name) (read v)
  | none => .done fallback

/-- Read a text. -/
def text : Value → Reading String
  | .str s => .done s
  | .codes _ => Reading.fault .notUnicode
  | .bytes bs => match Text.decoded? bs with
    | some s => .done s
    | none => Reading.fault .notUnicode
  | _ => Reading.fault .notText

/-- Read a value that may be null. -/
def nullable {α : Type} (read : Value → Reading α) : Value → Reading (Option α)
  | .null => .done none
  | v => (read v).map some

/-- Read one of several words. -/
def choice {α : Type} (ofWord? : String → Option α) : Value → Reading α
  | .str s => match ofWord? s with
    | some a => .done a
    | none => Reading.fault .notChoice
  | .codes _ => Reading.fault .notUnicode
  | _ => Reading.fault .notChoice

/-- Read a list of records or scalars. -/
def list {α : Type} (read : Value → Reading α) (v : Value) : Reading (List α) :=
  match v.followed with
  | .list vs | .tuple vs | .set vs => Reading.items read 0 vs
  | _ => Reading.fault .notList

/-- Read a nested record. -/
def record {α : Type} (read : List (Value × Value) → Reading α) (v : Value) : Reading α :=
  match v.followed with
  | .dict entries => read entries
  | _ => Reading.fault .notRecord

/-- Whether a character is blank around a number. -/
private def isMargin (c : Char) : Bool := Text.isBlank c.toNat && !(0x1c ≤ c.toNat && c.toNat ≤ 0x1f)

/-- A plain integer: an optional minus, then digits without leading zeros. Its digits are counted
before what may follow them is looked at. -/
def plainInteger (cs : List Char) : Reading Int :=
  let (negative, body) := match cs with
    | '-' :: rest => (true, rest)
    | rest => (false, rest)
  let digits := body.takeWhile Char.isDigit
  if body = ['0'] then .done 0
  else if digits.isEmpty || digits.head? == some '0' then Reading.fault .notNumeral
  else if Numeral.maxDecimalDigits < digits.length then Reading.fault .numeralTooLong
  else if digits.length < body.length then Reading.fault .notNumeral
  else
    let n := digits.foldl (fun acc c => acc * 10 + (c.toNat - '0'.toNat)) 0
    .done (if negative then -(n : Int) else n)

/-- What follows the leading zeros of a number, among which underscores may stand: the rest from
its first other character on, with the one before where that is a point, or the last character of
all. -/
private def withoutLeadingZeros (last : Char) : List Char → List Char
  | [] => [last]
  | c :: rest =>
    if c == '0' || c == '_' then withoutLeadingZeros c rest
    else if c == '.' then last :: c :: rest
    else c :: rest

/-- A number without a point and zeros behind it. -/
private def withoutZeroPlaces (cs : List Char) : List Char :=
  let whole := cs.takeWhile (· != '.')
  let places := cs.drop (whole.length + 1)
  if !places.isEmpty && places.all (· == '0') then whole else cs

/-- A number without underscores, if each stands alone between others. -/
private def withoutUnderscores? (cs : List Char) : Option (List Char) :=
  if cs.head? == some '_' || cs.getLast? == some '_' || (cs.zip (cs.drop 1)).contains ('_', '_') then none
  else some (cs.filter (· != '_'))

/-- A number without a plus, leading zeros, a fraction of zeros and single underscores. -/
def tidied? (cs : List Char) : Option (List Char) := do
  let cs ← match cs with
    | '+' :: '-' :: _ => none
    | '+' :: rest => some rest
    | cs => some cs
  let (negative, cs) := match cs with
    | '-' :: rest => (true, rest)
    | rest => (false, rest)
  let cs ← match cs with
    | '0' :: rest => some (withoutLeadingZeros '0' rest)
    | c :: rest => if c.isDigit then some (c :: rest) else none
    | [] => none
  let cs ← withoutUnderscores? (withoutZeroPlaces cs)
  some (if negative then '-' :: cs else cs)

/-- Read an integer out of a text. -/
def integerText (s : String) : Reading Int :=
  let cs := ((s.toList.dropWhile isMargin).reverse.dropWhile isMargin).reverse
  match plainInteger cs with
  | .faulty [⟨[], .notNumeral⟩] =>
    match tidied? cs with
    | some cs => plainInteger cs
    | none => Reading.fault .notNumeral
  | r => r

/-- Read an integer out of a floating point number. -/
def wholeFloat (x : Binary64) : Reading Int :=
  if !x.isFinite then Reading.fault .notFinite
  else if !x.isWhole then Reading.fault .fractional
  else if x.truncated.natAbs < Nat.pow 2 63 then .done x.truncated
  else Reading.fault .numeralTooLong

/-- Read an integer. -/
def integer : Value → Reading Int
  | .int n => .done n
  | .bool b => .done (if b then 1 else 0)
  | .float x => wholeFloat x
  | .str s => integerText s
  | .codes _ => Reading.fault .notUnicode
  | .bytes bs => match Text.decoded? bs with
    | some s => integerText s
    | none => Reading.fault .notNumeral
  | _ => Reading.fault .notInteger

/-- The words that stand for a truth value. -/
def truthWord? (s : String) : Option Bool :=
  let word := Text.asciiLower s
  if ["1", "t", "y", "on", "yes", "true"].contains word then some true
  else if ["0", "f", "n", "off", "no", "false"].contains word then some false
  else none

/-- Read a truth value out of a text. -/
def truthText (s : String) : Reading Bool :=
  match truthWord? s with
  | some b => .done b
  | none => Reading.fault .unreadableTruth

/-- Read a truth value out of an integer. -/
def truthInteger (n : Int) : Reading Bool :=
  if n = 0 then .done false else if n = 1 then .done true else Reading.fault .unreadableTruth

/-- Read a truth value. -/
def truth : Value → Reading Bool
  | .bool b => .done b
  | .int n =>
    if -Nat.pow 2 63 ≤ n ∧ n < Nat.pow 2 63 then truthInteger n else Reading.fault .notTruth
  | .float x => match wholeFloat x with
    | .done n => truthInteger n
    | _ => Reading.fault .notTruth
  | .str s => truthText s
  | .codes _ => Reading.fault .notUnicode
  | .bytes bs => match Text.decoded? bs with
    | some s => truthText s
    | none => Reading.fault .unreadableTruth
  | _ => Reading.fault .notTruth

/-- Read an integer above zero. -/
def positive (v : Value) : Reading Int :=
  (integer v).andThen fun n => if 0 < n then .done n else Reading.fault .tooSmall

/-- The fields of a whole document, all of them named by texts. -/
def topLevel {α : Type} (read : List (Value × Value) → Reading α) (v : Value) : Reading α :=
  match v.followed with
  | .dict entries =>
    if entries.all fun e => match e.1 with | .str _ | .codes _ => true | _ => false then read entries
    else .unusable
  | _ => .unusable

end OwnershipRegistry.Schema
