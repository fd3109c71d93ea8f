import OwnershipRegistry.Failure
import OwnershipRegistry.IntSet

/-! # Selector validation

A selector is a field element other than the reserved ones. Zero, which stands for the world
itself, is always reserved. -/

namespace OwnershipRegistry

/-- The prime below which field elements lie. -/
def feltPrime : Nat := Nat.pow 2 251 + 17 * Nat.pow 2 192 + 1

/-- The selector of the world itself. -/
def worldSelector : Int := 0

/-- The selectors that nobody may use, as the configuration lists them. -/
structure Validator where
  configured : List Int

namespace Validator

/-- All reserved selectors, ascending. -/
def reserved (v : Validator) : IntSet := IntSet.ofList (worldSelector :: v.configured)

/-- Whether a selector is reserved. -/
def isReserved (v : Validator) (selector : Int) : Bool :=
  selector == worldSelector || v.configured.contains selector

/-- Whether an integer is accepted. -/
def accepts (v : Validator) (selector : Int) : Bool :=
  0 ≤ selector && selector < feltPrime && !v.isReserved selector

/-- The refusal of a value as a selector, unless its message cannot be written. -/
def refusal (value : Value) : Failure :=
  if value.hasFelt then .denied (.badSelector value) else .numberTooLong

/-- The selector that a value is, if it is accepted. -/
def validate (v : Validator) : Value → Except Failure Int
  | .int n => if v.accepts n then .ok n else .error (.denied (.badSelector (.int n)))
  | value => .error (refusal value)

/-- Whether a value is an accepted selector. Only refusals answer the question with no. -/
def isValid (v : Validator) (value : Value) : Except Failure Bool :=
  match v.validate value with
  | .ok _ => .ok true
  | .error failure => if failure.isDenial then .ok false else .error failure

theorem validate_int (v : Validator) (n : Int) :
    v.validate (.int n) = if v.accepts n then .ok n else .error (.denied (.badSelector (.int n))) := rfl

theorem validate_eq_ok_iff {v : Validator} {value : Value} {n : Int} :
    v.validate value = .ok n ↔ value = .int n ∧ v.accepts n = true := by
  cases value <;> simp only [validate] <;> (try simp)
  split <;> simp_all
  · rintro rfl; assumption
  · rintro rfl; assumption

end Validator

end OwnershipRegistry
