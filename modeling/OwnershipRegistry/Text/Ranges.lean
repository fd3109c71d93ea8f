/-! # Membership in a sorted list of ranges -/

namespace OwnershipRegistry.Text

/-- Binary search for the last range that starts at or below `n`, between `lo` and `hi`. -/
private def locate (ranges : Array (Nat × Nat)) (n : Nat) : Nat → Nat → Nat → Nat
  | 0, lo, _ => lo
  | fuel + 1, lo, hi =>
    if hi ≤ lo + 1 then lo
    else
      let mid := (lo + hi) / 2
      match ranges[mid]? with
      | some r => if r.1 ≤ n then locate ranges n fuel mid hi else locate ranges n fuel lo mid
      | none => lo

/-- Whether `n` lies in one of the ranges, which ascend and do not meet. -/
def inRanges (ranges : Array (Nat × Nat)) (n : Nat) : Bool :=
  match ranges[locate ranges n 32 0 ranges.size]? with
  | some (lo, hi) => lo ≤ n && n ≤ hi
  | none => false

end OwnershipRegistry.Text
