import OwnershipRegistry.Decimal.Reading
import OwnershipRegistry.Text.Lowercase
import OwnershipRegistry.Yaml.Binary
import OwnershipRegistry.Yaml.Timestamp

/-! # Scalars

A plain text without a tag stands for the kind of value whose form it has, and for itself if it
has none of these forms. A tag says the kind outright; then the text has to fit it. -/

namespace OwnershipRegistry.Yaml

/-- The kinds of nodes. -/
inductive Kind where
  | null
  | bool
  | int
  | float
  | timestamp
  | text
  | binary
  | sequence
  | pairs
  | mapping
  | set
  /-- The key whose value is merged into the mapping around it. -/
  | merge
  /-- The key that stands for a mapping as a whole. -/
  | default
  | unknown
deriving DecidableEq

namespace Kind

/-- The start of the tags that name kinds. -/
def space : String := "tag:yaml.org,2002:"

/-- The kinds by the ends of their tags. -/
def names : List (String × Kind) :=
  [("null", .null), ("bool", .bool), ("int", .int), ("float", .float), ("timestamp", .timestamp),
    ("str", .text), ("binary", .binary), ("seq", .sequence), ("omap", .pairs), ("pairs", .pairs),
    ("map", .mapping), ("set", .set), ("merge", .merge), ("value", .default)]

/-- The kind that a tag names. -/
def ofTag (tag : String) : Kind :=
  match names.find? fun n => space ++ n.1 == tag with
  | some (_, kind) => kind
  | none => .unknown

end Kind

namespace Scalar

/-- A text without its sign, and whether it has one. -/
def unsigned : List Char → Bool × List Char
  | '-' :: rest => (true, rest)
  | '+' :: rest => (true, rest)
  | cs => (false, cs)

/-- A digit or an underscore. -/
def isPlace (c : Char) : Bool := c.isDigit || c == '_'

/-- Whether a text begins with a digit. -/
def startsWithDigit (cs : List Char) : Bool := (cs.headD '\x00').isDigit

/-- Whether a text is a signed exponent, or nothing. -/
def isExponent : List Char → Bool
  | [] => true
  | mark :: sign :: digits =>
    (mark == 'e' || mark == 'E') && (sign == '+' || sign == '-') && !digits.isEmpty && digits.all Char.isDigit
  | _ => false

/-- What follows the sixtieths behind colons; nothing if there are none. -/
def afterSixtieths (found : Bool) : Nat → List Char → Option (List Char)
  | 0, _ => none
  | fuel + 1, cs =>
    match cs with
    | ':' :: a :: b :: rest =>
      if '0' ≤ a && a ≤ '5' && b.isDigit then afterSixtieths true fuel rest
      else if a.isDigit then afterSixtieths true fuel (b :: rest)
      else if found then some cs else none
    | [':', a] => if a.isDigit then some [] else if found then some cs else none
    | cs => if found then some cs else none

/-- Whether an unsigned text counts in sixtieths and ends as a test says. -/
def isSexagesimal (ends : List Char → Bool) (cs : List Char) : Bool :=
  match afterSixtieths false cs.length (cs.dropWhile isPlace) with
  | some rest => ends rest
  | none => false

/-- Whether a text is a point and places behind it. -/
def isFraction : List Char → Bool
  | '.' :: rest => rest.all isPlace
  | _ => false

/-- Whether a text has the form of a floating point number. -/
def isFloatForm (cs : List Char) : Bool :=
  let (signed, body) := unsigned cs
  let decimal := startsWithDigit body && match body.dropWhile isPlace with
    | '.' :: rest => isExponent (rest.dropWhile isPlace)
    | _ => false
  let pointed := !signed && match body with
    | '.' :: rest => startsWithDigit rest && isExponent (rest.dropWhile isPlace)
    | _ => false
  decimal || pointed || (startsWithDigit body && isSexagesimal isFraction body)
    || [".inf", ".Inf", ".INF"].contains (String.ofList body)
    || (!signed && [".nan", ".NaN", ".NAN"].contains (String.ofList body))

/-- Whether a text is not empty and all of it passes a test. -/
def isRun (test : Char → Bool) (cs : List Char) : Bool := !cs.isEmpty && cs.all test

/-- Whether a text has the form of an integer. -/
def isIntForm (cs : List Char) : Bool :=
  match (unsigned cs).2 with
  | ['0'] => true
  | '0' :: 'b' :: rest => isRun (fun c => c == '0' || c == '1' || c == '_') rest
  | '0' :: 'x' :: rest => isRun (fun c => (Numeral.digit? 16 c).isSome || c == '_') rest
  | '0' :: rest => isRun (fun c => ('0' ≤ c && c ≤ '7') || c == '_') rest
  | body => startsWithDigit body && (body.all isPlace || isSexagesimal List.isEmpty body)

/-- The words for truth values. -/
def truthWords : List (String × Bool) :=
  [("yes", true), ("no", false), ("true", true), ("false", false), ("on", true), ("off", false)]

/-- The spellings that a word has: small, with a capital, all in capitals. -/
def spellings (word : String) : List String :=
  [word, String.ofList (match word.toList with | c :: rest => c.toUpper :: rest | [] => []), word.toUpper]

/-- The characters of codes. A code of no character gives one that no form has. -/
def chars (codes : List Nat) : List Char :=
  codes.map fun c => if c.isValidChar then Char.ofNat c else '\ufffd'

/-- A text without the line break that may end it. A line break alone stays. -/
def withoutLastBreak (cs : List Char) : List Char :=
  if cs.getLast? == some '\n' && cs != ['\n'] then cs.dropLast else cs

/-- The kind whose form a text has, where a line break at the end does not count. -/
def kindOf (codes : List Nat) : Kind :=
  let cs := withoutLastBreak (chars codes)
  let text := String.ofList cs
  if (truthWords.flatMap fun w => spellings w.1).contains text then .bool
  else if ["", "~", "null", "Null", "NULL"].contains text then .null
  else if isFloatForm cs then .float
  else if isIntForm cs then .int
  else if Timestamp.isForm cs then .timestamp
  else if text = "<<" then .merge
  else if text = "=" then .default
  else if ["!", "&", "*"].contains text then .unknown
  else .text

/-- A text without underscores. -/
def bare (codes : List Nat) : List Nat := codes.filter (· != '_'.toNat)

/-- Whether a text begins with a minus. -/
def isNegative (codes : List Nat) : Bool := codes.head? == some '-'.toNat

/-- A text without its sign. -/
def body (codes : List Nat) : List Nat :=
  if codes.head? == some '-'.toNat || codes.head? == some '+'.toNat then codes.drop 1 else codes

/-- An integer out of a numeral of a style. -/
def numeral (style : Numeral.Style) (codes : List Nat) : Except Failure Int :=
  match Numeral.readCodes style codes with
  | .ok n => .ok n
  | .error e => .error (.badNumeral e)

/-- The value of parts that count in sixtieths. -/
def sixtieths (acc : Int) : List (List Nat) → Except Failure Int
  | [] => .ok acc
  | part :: rest => do sixtieths (acc * 60 + (← numeral .decimal part)) rest

/-- The parts of a text between its colons. -/
def parts : List Nat → List (List Nat)
  | [] => [[]]
  | c :: rest =>
    if c = ':'.toNat then [] :: parts rest
    else match parts rest with
      | part :: later => (c :: part) :: later
      | [] => [[c]]

/-- The magnitude of an integer. -/
def integerBody (codes : List Nat) : Except Failure Int :=
  match chars codes with
  | ['0'] => .ok 0
  | '0' :: 'b' :: _ => numeral (.binary 2) (codes.drop 2)
  | '0' :: 'x' :: _ => numeral (.binary 16) (codes.drop 2)
  | '0' :: _ => numeral (.binary 8) codes
  | cs => if cs.contains ':' then sixtieths 0 (parts codes) else numeral .decimal codes

/-- The integer that a text stands for. -/
def integer (codes : List Nat) : Except Failure Int :=
  let codes := bare codes
  if (body codes).isEmpty then .error .noDigits
  else (integerBody (body codes)).map fun n => if isNegative codes then -n else n

/-- The floating point number that a part of a text stands for. -/
def realPart (codes : List Nat) : Except Failure Binary64 :=
  let trimmed := Numeral.trimBlanks (codes.map Numeral.asciiForm)
  let word := String.ofList (unsigned trimmed).2
  if word = "inf" || word = "infinity" then .ok (.infinity (trimmed.head? == some '-'))
  else if word = "nan" then .ok .nan
  else match Decimal.ofChars? trimmed with
    | some x => .ok x
    | none => .error (.badScalar ("could not convert string to float: " ++ Text.quotedCodes codes))

/-- All parts of a text as floating point numbers. -/
def realParts : List (List Nat) → Except Failure (List Binary64)
  | [] => .ok []
  | part :: rest => do
    let x ← realPart part
    let xs ← realParts rest
    pure (x :: xs)

/-- The sum of numbers counted in sixtieths, last one first. Every power of sixty, product and sum
is rounded. -/
def realSum (acc : Binary64) (power : Nat) : List Binary64 → Except Failure Binary64
  | [] => .ok acc
  | x :: rest =>
    let factor := Binary64.ofInt power
    if factor.isFinite then realSum (acc.add (x.mul factor)) (power * 60) rest else .error .beyondReals

/-- The value that all texts for no number share. -/
def sharedNaN : Binary64 := .markedNaN 0

/-- The magnitude of a floating point number. -/
def realBody (codes : List Nat) : Except Failure Binary64 :=
  let cs := chars codes
  if cs = ".inf".toList then .ok (.infinity false)
  else if cs = ".nan".toList then .ok sharedNaN
  else if cs.contains ':' then do realSum (.ofInt 0) 1 (← realParts (parts codes)).reverse
  else realPart codes

/-- The floating point number that a text stands for. -/
def real (codes : List Nat) : Except Failure Binary64 :=
  let codes := Text.lowerCodes (bare codes)
  if codes.isEmpty then .error .noDigits
  else (realBody (body codes)).map fun x => if isNegative codes && !x.isNaN then x.negated else x

/-- The truth value that a text stands for. -/
def truth (codes : List Nat) : Except Failure Bool :=
  let word := Text.lowerCodes codes
  match truthWords.find? fun w => Text.codes w.1 == word with
  | some (_, b) => .ok b
  | none => .error (.unknownWord word)

/-- The point in time that a text stands for. -/
def timestamp (codes : List Nat) : Except Failure Value :=
  match Timestamp.parts? (withoutLastBreak (chars codes)) with
  | some p => Timestamp.value p
  | none => .error .noFields

/-- The value of a text as a kind. Kinds of collections have none. -/
def value (kind : Kind) (codes : List Nat) : Except Failure Value :=
  match kind with
  | .null => .ok .null
  | .bool => (truth codes).map .bool
  | .int => (integer codes).map .int
  | .float => (real codes).map .float
  | .timestamp => timestamp codes
  | .text => .ok (.ofCodes codes)
  | .binary => Binary.read codes
  | .sequence | .pairs | .mapping | .set | .merge | .default | .unknown => .error .unreadableDocument

end Scalar

end OwnershipRegistry.Yaml
