import OwnershipRegistry.Failure

/-! # Days and points in time

A day is a year, a month and a day of the month; a point in time goes on with the time of day, a
fraction of a second and the distance from universal time. -/

namespace OwnershipRegistry.Yaml.Timestamp

/-- The parts of a timestamp as they are written. -/
structure Parts where
  year : Nat
  month : Nat
  day : Nat
  /-- Whether month and day have two digits each. -/
  padded : Bool
  /-- The time of day, where there is one: hour, minute, second and the digits of a fraction. -/
  time : Option (Nat × Nat × Nat × List Char) := none
  /-- The distance from universal time in minutes, where it is given. -/
  offset : Option Int := none

/-- The value of decimal digits. -/
def number (digits : List Char) : Nat := digits.foldl (fun acc c => acc * 10 + (c.toNat - '0'.toNat)) 0

/-- Exactly `n` digits, and the rest. -/
def digits? (n : Nat) (cs : List Char) : Option (Nat × List Char) :=
  let ds := cs.take n
  if ds.length = n && ds.all Char.isDigit then some (number ds, cs.drop n) else none

/-- One or two digits, whether there were two, and the rest. -/
def shortNumber? (cs : List Char) : Option (Nat × Bool × List Char) :=
  match digits? 2 cs with
  | some (n, rest) => some (n, true, rest)
  | none => (digits? 1 cs).map fun p => (p.1, false, p.2)

/-- A character, and the rest. -/
def sign? (c : Char) : List Char → Option (List Char)
  | ch :: rest => if ch = c then some rest else none
  | [] => none

/-- Drop blanks and tabs. -/
def skipBlanks (cs : List Char) : List Char := cs.dropWhile fun c => c == ' ' || c == '\t'

/-- The mark between a day and a time of day. -/
def timeMark? : List Char → Option (List Char)
  | 'T' :: rest | 't' :: rest => some rest
  | cs => if (skipBlanks cs).length < cs.length then some (skipBlanks cs) else none

/-- The distance from universal time that ends a timestamp; it may be left out. -/
def offset? (cs : List Char) : Option (Option Int) :=
  let signed (factor : Int) (rest : List Char) : Option (Option Int) := do
    let (hours, _, rest) ← shortNumber? rest
    match rest with
    | [] => some (some (factor * (60 * hours : Nat)))
    | ':' :: rest =>
      match digits? 2 rest with
      | some (minutes, []) => some (some (factor * (60 * hours + minutes : Nat)))
      | _ => none
    | _ => none
  match cs, skipBlanks cs with
  | [], _ => some none
  | _, ['Z'] => some (some 0)
  | _, '+' :: rest => signed 1 rest
  | _, '-' :: rest => signed (-1) rest
  | _, _ => none

/-- The parts of a timestamp. -/
def parts? (cs : List Char) : Option Parts := do
  let (year, cs) ← digits? 4 cs
  let cs ← sign? '-' cs
  let (month, wideMonth, cs) ← shortNumber? cs
  let cs ← sign? '-' cs
  let (day, wideDay, cs) ← shortNumber? cs
  let padded := wideMonth && wideDay
  if cs.isEmpty then some { year, month, day, padded }
  else
    let cs ← timeMark? cs
    let (hour, _, cs) ← shortNumber? cs
    let cs ← sign? ':' cs
    let (minute, cs) ← digits? 2 cs
    let cs ← sign? ':' cs
    let (second, cs) ← digits? 2 cs
    let (fraction, cs) := match cs with
      | '.' :: rest => (rest.takeWhile Char.isDigit, rest.dropWhile Char.isDigit)
      | rest => ([], rest)
    let offset ← offset? cs
    some { year, month, day, padded, time := some (hour, minute, second, fraction), offset }

/-- Whether a plain text is a timestamp: a day alone needs two digits for month and day. -/
def isForm (cs : List Char) : Bool :=
  match parts? cs with
  | some p => p.padded || p.time.isSome
  | none => false

/-- A rule that a part has to keep. -/
def ensure (holds : Bool) (text : String) : Except Failure Unit :=
  if holds then .ok () else .error (.badScalar text)

/-- The day that parts give. -/
def day (p : Parts) : Except Failure Day := do
  ensure (1 ≤ p.year) "year 0 is out of range"
  ensure (1 ≤ p.month && p.month ≤ 12) "month must be in 1..12"
  ensure (1 ≤ p.day && p.day ≤ Day.monthLength p.year p.month) "day is out of range for month"
  pure ⟨p.year, p.month, p.day⟩

/-- The millionths of a second that the digits of a fraction give. -/
def micros (fraction : List Char) : Nat := number ((fraction ++ List.replicate 6 '0').take 6)

/-- The value that parts give. The distance from universal time has to be less than a day. -/
def value (p : Parts) : Except Failure Value :=
  match p.time with
  | none => (day p).map .day
  | some (hour, minute, second, fraction) => do
    let seconds := p.offset.map (· * 60)
    ensure (seconds.all fun s => s.natAbs < 86400)
      ("offset must be a timedelta strictly between -timedelta(hours=24) and timedelta(hours=24), not "
        ++ Value.spanText (seconds.getD 0) ++ ".")
    let day ← day p
    ensure (hour ≤ 23) "hour must be in 0..23"
    ensure (minute ≤ 59) "minute must be in 0..59"
    ensure (second ≤ 59) "second must be in 0..59"
    pure (.instant ⟨day, hour, minute, second, micros fraction, seconds⟩)

end OwnershipRegistry.Yaml.Timestamp
