/-! # Days and points in time

Days are those of the calendar that skips the leap days of three centuries in four. A point in
time may say how far its place is from universal time; two that say it are compared in universal
time. -/

namespace OwnershipRegistry

/-- A calendar day. -/
structure Day where
  year : Nat
  month : Nat
  day : Nat
deriving DecidableEq

/-- A point in time: a day, a time of day, and the distance from universal time in seconds
where it is known. -/
structure Instant where
  day : Day
  hour : Nat
  minute : Nat
  second : Nat
  micros : Nat
  offset : Option Int
deriving DecidableEq

namespace Day

/-- Whether a year has a leap day. -/
def isLeap (year : Nat) : Bool := year % 4 == 0 && (year % 100 != 0 || year % 400 == 0)

/-- The number of days of a month. -/
def monthLength (year month : Nat) : Nat :=
  if month = 2 then (if isLeap year then 29 else 28)
  else if month = 4 || month = 6 || month = 9 || month = 11 then 30
  else 31

/-- The number of days before a year. -/
def daysBefore (year : Nat) : Nat :=
  let y := year - 1
  365 * y + y / 4 - y / 100 + y / 400

/-- The number of a day, where the first day of the first year is one. -/
def ordinal (d : Day) : Nat :=
  daysBefore d.year + ((List.range (d.month - 1)).map fun m => monthLength d.year (m + 1)).foldl (· + ·) 0 + d.day

end Day

namespace Instant

/-- The millionths of a second since the first day began, where a clock at the place shows them. -/
def clock (t : Instant) : Nat :=
  (((t.day.ordinal * 24 + t.hour) * 60 + t.minute) * 60 + t.second) * 1000000 + t.micros

/-- Whether two points in time are the same. One that does not tell its distance from universal
time is never the same as one that does. -/
def same (a b : Instant) : Bool :=
  match a.offset, b.offset with
  | none, none => a.clock == b.clock
  | some x, some y => (a.clock : Int) - x * 1000000 == (b.clock : Int) - y * 1000000
  | _, _ => false

end Instant

end OwnershipRegistry
