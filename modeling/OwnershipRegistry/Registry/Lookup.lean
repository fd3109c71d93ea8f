import OwnershipRegistry.Failure

/-! # Looking selectors up

A table can be asked for any value. Numbers look up by value, so a truth value or a whole floating
point number finds what the integer finds; other keys find nothing, and a value that can be no key
cannot be asked for. What is refused is refused about the value as it was given. -/

namespace OwnershipRegistry.Selector

/-- The integer that a value looks up, if it can be one at all. -/
def lookup? (v : Value) : Except Failure (Option Int) :=
  if v.isKey then .ok v.number? else .error .wrongShape

/-- A failure about a selector as it was given. -/
def restated (given : Value) : Failure → Failure
  | .denied denial => .denied (denial.about given)
  | failure => failure

/-- Ask for a selector as it is given; `missing` is what a key gets that is no number. -/
def given {α : Type} (v : Value) (missing : Denial) (ask : Int → Except Failure α) : Except Failure α := do
  match ← lookup? v with
  | some n =>
    match ask n with
    | .ok a => .ok a
    | .error failure => .error (restated v failure)
  | none => .error (.denied (missing.about v))

end OwnershipRegistry.Selector
