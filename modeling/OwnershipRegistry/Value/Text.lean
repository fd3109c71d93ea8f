import OwnershipRegistry.Value

/-! # The text of a value

`shown` is the text of a value inside another one, where text stands between quotes; `plain`
is its text alone. `felt` is the text that messages give to selectors and addresses:
hexadecimal for integers, the plain text for everything else. A text with codes of no character
cannot stand alone in a text of characters, so these give its quoted form; where a text is written
out, `written` refuses it instead. -/

namespace OwnershipRegistry.Value

/-- Whole numbers joined by a separator. -/
private def joined (ns : List Nat) : String := ", ".intercalate (ns.map toString)

/-- The text of a day. -/
def dayText (d : Day) : String := "datetime.date(" ++ joined [d.year, d.month, d.day] ++ ")"

/-- The text of a span of seconds shorter than a day, counted from its start. -/
def spanText (seconds : Int) : String :=
  let days := seconds.fdiv 86400
  let rest := seconds.fmod 86400
  let parts := (if days = 0 then [] else ["days=" ++ toString days])
    ++ (if rest = 0 then [] else ["seconds=" ++ toString rest])
  "datetime.timedelta(" ++ (if parts.isEmpty then "0" else ", ".intercalate parts) ++ ")"

/-- The text of a point in time; seconds and microseconds are left out where they are zero. -/
def instantText (t : Instant) : String :=
  let fields := [t.day.year, t.day.month, t.day.day, t.hour, t.minute]
    ++ (if t.micros ≠ 0 then [t.second, t.micros] else if t.second ≠ 0 then [t.second] else [])
  let zone := match t.offset with
    | none => ""
    | some 0 => ", tzinfo=datetime.timezone.utc"
    | some s => ", tzinfo=datetime.timezone(" ++ spanText s ++ ")"
  "datetime.datetime(" ++ joined fields ++ zone ++ ")"

/-- How the text of a link is made, by its table and its number. -/
abbrev LinkText := List (Nat × Value) → Nat → String

mutual

/-- The text of a value inside another one, given the texts of links. -/
def shownWith (link : LinkText) : Value → String
  | .null => "None"
  | .bool b => if b then "True" else "False"
  | .int n => toString n
  | .float x => Decimal.text x
  | .str s => Text.quoted s
  | .codes cs => Text.quotedCodes cs
  | .bytes bs => Text.quotedBytes bs
  | .day d => dayText d
  | .instant t => instantText t
  | .list xs => "[" ++ shownItems link xs ++ "]"
  | .tuple xs => match xs with
    | [x] => "(" ++ shownWith link x ++ ",)"
    | xs => "(" ++ shownItems link xs ++ ")"
  | .set xs => if xs.isEmpty then "set()" else "\x7b" ++ shownItems link xs ++ "\x7d"
  | .dict entries => "\x7b" ++ shownEntries link entries ++ "\x7d"
  | .link table number => link table number

/-- The texts of the items of a list, separated. -/
def shownItems (link : LinkText) : List Value → String
  | [] => ""
  | [x] => shownWith link x
  | x :: xs => shownWith link x ++ ", " ++ shownItems link xs

/-- The texts of the entries of a mapping, separated. -/
def shownEntries (link : LinkText) : List (Value × Value) → String
  | [] => ""
  | [(k, v)] => shownWith link k ++ ": " ++ shownWith link v
  | (k, v) :: rest => shownWith link k ++ ": " ++ shownWith link v ++ ", " ++ shownEntries link rest

end

/-- The text of a value inside itself. -/
def ellipsis : Value → String
  | .list _ => "[...]"
  | .tuple _ => "(...)"
  | .dict _ => "\x7b...\x7d"
  | _ => "..."

/-- The text of a link, inside the values of the numbers in `around`. No more links lie inside
each other than the table has rows. -/
def linkText (table : List (Nat × Value)) : Nat → List Nat → Nat → String
  | 0, _, _ => "..."
  | depth + 1, around, number =>
    let v := (table.lookup number).getD .null
    if around.contains number then v.ellipsis
    else v.shownWith fun _ inner => linkText table depth (number :: around) inner

/-- The text of a value inside another one. -/
def shown (v : Value) : String := v.shownWith fun table number => linkText table (table.length + 1) [] number

mutual

/-- Whether every integer in a value is short enough to be written, given which links are. -/
def isWritableWith (link : List (Nat × Value) → Nat → Bool) : Value → Bool
  | .int n => Numeral.isWritable n
  | .list xs | .tuple xs | .set xs => areWritable link xs
  | .dict entries => areWritableEntries link entries
  | .link table number => link table number
  | _ => true

/-- Whether every integer in a list is short enough to be written. -/
def areWritable (link : List (Nat × Value) → Nat → Bool) : List Value → Bool
  | [] => true
  | x :: xs => isWritableWith link x && areWritable link xs

/-- Whether every integer in a mapping is short enough to be written. -/
def areWritableEntries (link : List (Nat × Value) → Nat → Bool) : List (Value × Value) → Bool
  | [] => true
  | (k, v) :: rest => isWritableWith link k && isWritableWith link v && areWritableEntries link rest

end

/-- Whether every integer behind a link is short enough to be written. -/
def isWritableLink (table : List (Nat × Value)) : Nat → List Nat → Nat → Bool
  | 0, _, _ => true
  | depth + 1, around, number =>
    around.contains number
      || ((table.lookup number).getD .null).isWritableWith fun _ inner =>
        isWritableLink table depth (number :: around) inner

/-- Whether every integer in a value is short enough to be written. -/
def isWritable (v : Value) : Bool :=
  v.isWritableWith fun table number => isWritableLink table (table.length + 1) [] number

/-- Two decimal digits. -/
private def two (n : Nat) : String := (if n < 10 then "0" else "") ++ toString n

/-- A number filled with zeros up to a width. -/
private def filled (width n : Nat) : String :=
  let digits := toString n
  String.ofList (List.replicate (width - digits.length) '0') ++ digits

/-- A day as year, month and day. -/
def dayPlain (d : Day) : String := filled 4 d.year ++ "-" ++ two d.month ++ "-" ++ two d.day

/-- A point in time as day, time of day and offset. -/
def instantPlain (t : Instant) : String :=
  let zone := match t.offset with
    | none => ""
    | some s =>
      let n := s.natAbs
      (if s < 0 then "-" else "+") ++ two (n / 3600) ++ ":" ++ two (n / 60 % 60)
        ++ (if n % 60 = 0 then "" else ":" ++ two (n % 60))
  dayPlain t.day ++ " " ++ two t.hour ++ ":" ++ two t.minute ++ ":" ++ two t.second
    ++ (if t.micros = 0 then "" else "." ++ filled 6 t.micros) ++ zone

/-- The text of a value alone. -/
def plain : Value → String
  | .str s => s
  | .day d => dayPlain d
  | .instant t => instantPlain t
  | v => shown v

/-- The text that messages give to a selector or an address. -/
def felt : Value → String
  | .int n => Numeral.hex n
  | v => plain v

/-- Whether a value has a text for messages. Hexadecimal integers may have any length. -/
def hasFelt : Value → Bool
  | .int _ => true
  | v => v.isWritable

@[simp] theorem felt_int (n : Int) : felt (.int n) = Numeral.hex n := rfl

end OwnershipRegistry.Value
