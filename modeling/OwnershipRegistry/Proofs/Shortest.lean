import Mathlib.Tactic.Ring
import OwnershipRegistry.Decimal.Shortest

/-!
# The shortest decimal is found

The search for a decimal in the interval of a number goes through ever finer
grids. The grid of the last one is so fine that one of the two neighbours of
the number lies in the interval, so the search does not come back without a
decimal. What it finds is not zero, since the interval lies above zero, and
dropping zeros at the end does not change that.
-/

namespace OwnershipRegistry.Decimal

/-- Scaling by a power of ten, whatever its sign, divides by one power and multiplies by another. -/
theorem scaledDown_eq (num den : Nat) (k : Int) :
    scaledDown num den k = (num * 10 ^ (-k).toNat, den * 10 ^ k.toNat) := by
  unfold scaledDown
  by_cases hk : 0 ≤ k
  · have hzero : (-k).toNat = 0 := by omega
    simp [hk, hzero]
  · have hzero : k.toNat = 0 := by omega
    simp [hk, hzero]

theorem lt_pow_digitCount (n : Nat) : n < 10 ^ (digitChars n).length :=
  (Nat.length_toDigits_le_iff (by decide) Nat.length_toDigits_pos).mp le_rfl

theorem pow_digitCount_le {n : Nat} (positive : 0 < n) : 10 ^ ((digitChars n).length - 1) ≤ n := by
  by_cases hone : (digitChars n).length - 1 = 0
  · rw [hone]
    exact positive
  · refine Nat.le_of_not_lt fun hless => ?_
    have hshort := (Nat.length_toDigits_le_iff (b := 10) (by decide) (Nat.pos_of_ne_zero hone)).mpr hless
    unfold digitChars at hone hshort
    omega

/-- A ratio is at least the power of ten of its leading exponent. -/
theorem pow_leadingExponent_le {num : Nat} (den : Nat) (positive : 0 < num) :
    den * 10 ^ (leadingExponent num den).toNat ≤ num * 10 ^ (-leadingExponent num den).toNat := by
  unfold leadingExponent
  simp only [scaledDown_eq]
  split
  case isTrue h => exact h
  case isFalse h =>
    -- One power of ten less, which the counts of the digits alone guarantee.
    have hnum := pow_digitCount_le positive
    have hden := (lt_pow_digitCount den).le
    have hcount : 0 < (digitChars num).length := Nat.length_toDigits_pos
    generalize (digitChars num).length = n at *
    generalize (digitChars den).length = d at *
    generalize he : (n : Int) - d - 1 = e
    have hpowers : d + e.toNat = (n - 1) + (-e).toNat := by omega
    calc
      den * 10 ^ e.toNat ≤ 10 ^ d * 10 ^ e.toNat := Nat.mul_le_mul_right _ hden
      _ = 10 ^ (n - 1) * 10 ^ (-e).toNat := by rw [← Nat.pow_add, ← Nat.pow_add, hpowers]
      _ ≤ num * 10 ^ (-e).toNat := Nat.mul_le_mul_right _ hnum

namespace Interval

variable {i : Interval} {d : Nat} {k : Int}

/-- Whether a decimal lies in an interval, over a common denominator. -/
theorem contains_eq (i : Interval) (d : Nat) (k : Int) :
    let value := d * (i.den * 10 ^ k.toNat)
    let factor := 10 ^ (-k).toNat
    i.contains d k = if i.closed then i.low * factor ≤ value && value ≤ i.high * factor
      else i.low * factor < value && value < i.high * factor := by
  unfold contains
  by_cases hk : 0 ≤ k
  · have hzero : (-k).toNat = 0 := by omega
    have hvalue : d * 10 ^ k.toNat * i.den = d * (i.den * 10 ^ k.toNat) := by ring
    simp [hk, hzero, hvalue]
  · have hzero : k.toNat = 0 := by omega
    simp [hk, hzero]

/-- What lies strictly between the ends of an interval lies in it. -/
theorem contains_of_lt (above : i.low * 10 ^ (-k).toNat < d * (i.den * 10 ^ k.toNat))
    (below : d * (i.den * 10 ^ k.toNat) < i.high * 10 ^ (-k).toNat) : i.contains d k = true := by
  rw [contains_eq]
  by_cases hclosed : i.closed = true
  · simp [hclosed, above.le, below.le]
  · simp [hclosed, above, below]

/-- Zero does not lie in an interval above zero. -/
theorem ne_zero_of_contains (positive : 0 < i.low) (h : i.contains d k = true) : d ≠ 0 := by
  rintro rfl
  have hlow : i.low * 10 ^ (-k).toNat ≠ 0 := Nat.mul_ne_zero positive.ne' (Nat.pow_pos (by decide)).ne'
  rw [contains_eq] at h
  by_cases hclosed : i.closed = true <;> simp_all

/-- What is picked lies in the interval. -/
theorem contains_of_pick (h : i.pick k = some d) : i.contains d k = true := by
  have hpicked (first second : Nat) (h : (if i.contains first k then some first
      else if i.contains second k then some second else none) = some d) : i.contains d k = true := by
    split at h
    case isTrue hfirst => exact Option.some.inj h ▸ hfirst
    case isFalse =>
      split at h
      case isTrue hsecond => exact Option.some.inj h ▸ hsecond
      case isFalse => cases h
  exact hpicked _ _ h

/-- On a grid that is finer than the distances of the number to both ends, a neighbour is picked. -/
theorem exists_pick (above : i.den * 10 ^ k.toNat + i.low * 10 ^ (-k).toNat ≤ i.mid * 10 ^ (-k).toNat)
    (below : i.mid * 10 ^ (-k).toNat + i.den * 10 ^ k.toNat < i.high * 10 ^ (-k).toNat)
    (positive : 0 < i.den) : ∃ d, i.pick k = some d := by
  have hgrid : 0 < i.den * 10 ^ k.toNat := Nat.mul_pos positive (Nat.pow_pos (by decide))
  unfold pick
  rw [scaledDown_eq]
  dsimp only
  generalize hunit : i.den * 10 ^ k.toNat = unit at *
  generalize hmid : i.mid * 10 ^ (-k).toNat = mid at *
  -- Both neighbours are less than one step of the grid away from the number.
  have hdown : mid < (mid / unit + 1) * unit := by
    rw [Nat.mul_comm]
    exact Nat.lt_mul_div_succ mid hgrid
  have hup : mid / unit * unit ≤ mid := Nat.div_mul_le_self mid unit
  have hnext : (mid / unit + 1) * unit = mid / unit * unit + unit := Nat.succ_mul _ _
  have hneighbour : ∀ d, d = mid / unit ∨ d = mid / unit + 1 → i.contains d k = true := by
    rintro d (rfl | rfl) <;> apply contains_of_lt <;> rw [hunit] <;> omega
  have hfirst (choice : Prop) [Decidable choice] :
      i.contains (if choice then mid / unit else mid / unit + 1) k = true := by
    apply hneighbour
    by_cases hchoice : choice
    · exact Or.inl (if_pos hchoice)
    · exact Or.inr (if_neg hchoice)
  rw [if_pos (hfirst _)]
  exact ⟨_, rfl⟩

end Interval

/-- A search that reaches a grid on which something is picked finds a decimal in the interval. -/
theorem contains_search {i : Interval} {lead : Int} {fuel n : Nat}
    (h : ∃ d, i.pick (lead - (n + fuel : Nat) + 1) = some d) :
    i.contains (search i lead fuel n).digits (search i lead fuel n).exponent = true := by
  induction fuel generalizing n with
  | zero =>
      obtain ⟨d, hd⟩ := h
      rw [Nat.add_zero] at hd
      rw [search, hd]
      exact Interval.contains_of_pick hd
  | succ fuel ih =>
      rw [search]
      cases hpick : i.pick (lead - n + 1) with
      | some d => exact Interval.contains_of_pick hpick
      | none => exact ih (by rwa [Nat.add_right_comm])

theorem trimmed_ne_zero {fuel : Nat} {d : Digits} (h : d.digits ≠ 0) : (trimmed fuel d).digits ≠ 0 := by
  induction fuel generalizing d with
  | zero => exact h
  | succ fuel ih =>
      rw [trimmed]
      by_cases htrim : d.digits ≠ 0 ∧ d.digits % 10 = 0
      · rw [if_pos htrim]
        exact ih (by dsimp only; omega)
      · rwa [if_neg htrim]

end OwnershipRegistry.Decimal

namespace OwnershipRegistry.Binary64

variable {x : Binary64}

theorem number_of_isFinite (finite : x.isFinite = true) : x.isNaN = false ∧ x.isInfinite = false := by
  have hfield : (x.exponentField == 2047) = false := by simpa [isFinite] using finite
  simp [isNaN, isInfinite, hfield]

theorem fraction_lt (x : Binary64) : x.fraction < 2 ^ 52 := by
  unfold fraction
  rw [UInt64.toNat_and]
  exact Nat.lt_of_le_of_lt Nat.and_le_right (by decide)

theorem significand_lt (x : Binary64) : x.significand < 2 ^ 53 := by
  have hfraction := x.fraction_lt
  unfold significand
  split
  · omega
  · rw [Nat.pow_eq]
    omega

theorem significand_pos (nonzero : x.isZero = false) : 0 < x.significand := by
  unfold significand
  unfold isZero at nonzero
  by_cases hfield : x.exponentField = 0
  · rw [if_pos hfield]
    simp only [hfield] at nonzero
    exact Nat.pos_of_ne_zero (by simpa using nonzero)
  · rw [if_neg hfield, Nat.pow_eq]
    omega

end OwnershipRegistry.Binary64

namespace OwnershipRegistry.Decimal

variable {x : Binary64}

/-- The interval of a number in units of a quarter of its last place: the lower end is one or two units
below the number, and the upper end two units above it. -/
theorem interval_of (x : Binary64) : ∃ unit gap, 0 < unit ∧ 1 ≤ gap ∧ gap ≤ 2 ∧ 0 < (Interval.of x).den ∧
    (Interval.of x).low = (4 * x.significand - gap) * unit ∧ (Interval.of x).mid = 4 * x.significand * unit ∧
    (Interval.of x).high = (4 * x.significand + 2) * unit := by
  have hpower (n : Nat) : 0 < Nat.pow 2 n := Nat.pow_pos (by decide)
  refine ⟨if 0 ≤ x.scale - 2 then Nat.pow 2 (x.scale - 2).toNat else 1,
    if x.fraction = 0 && 1 < x.exponentField then 1 else 2, ?_, ?_, ?_, ?_, ?_, rfl, rfl⟩
  · split
    · exact hpower _
    · exact Nat.one_pos
  · split <;> decide
  · split <;> decide
  · unfold Interval.of
    dsimp only
    split
    · exact Nat.one_pos
    · exact hpower _
  · unfold Interval.of
    dsimp only
    split <;> rfl

/-- The shortest decimal of a number other than zero is not zero: seventeen digits always suffice. -/
theorem shortest_ne_zero (nonzero : x.isZero = false) : (shortest x).digits ≠ 0 := by
  obtain ⟨unit, gap, hunit, hgap, hgap', hden, hlow, hmid, hhigh⟩ := interval_of x
  have hpositive := Binary64.significand_pos nonzero
  have hbound : 4 * x.significand ≤ 10 ^ 17 := by
    have hless := x.significand_lt
    omega
  unfold shortest
  dsimp only
  generalize Interval.of x = i at *
  generalize x.significand = m at *
  have hmiddle : 0 < i.mid := hmid ▸ Nat.mul_pos (by omega) hunit
  have hlead := pow_leadingExponent_le i.den hmiddle
  generalize leadingExponent i.mid i.den = lead at *
  generalize hk : lead - 17 = k
  -- One step of the last grid is no longer than a quarter of the last place.
  have hgrid : i.den * 10 ^ k.toNat ≤ unit * 10 ^ (-k).toNat := by
    have hscale : 0 < 10 ^ 17 * 10 ^ (-lead).toNat := Nat.mul_pos (by decide) (Nat.pow_pos (by decide))
    have hpowers : k.toNat + (17 + (-lead).toNat) = lead.toNat + (-k).toNat := by omega
    refine Nat.le_of_mul_le_mul_right ?_ hscale
    calc
      i.den * 10 ^ k.toNat * (10 ^ 17 * 10 ^ (-lead).toNat) =
          i.den * 10 ^ (k.toNat + (17 + (-lead).toNat)) := by rw [Nat.pow_add, Nat.pow_add, Nat.mul_assoc]
      _ = i.den * 10 ^ lead.toNat * 10 ^ (-k).toNat := by rw [hpowers, Nat.pow_add, Nat.mul_assoc]
      _ ≤ i.mid * 10 ^ (-lead).toNat * 10 ^ (-k).toNat := Nat.mul_le_mul_right _ hlead
      _ ≤ 10 ^ 17 * unit * 10 ^ (-lead).toNat * 10 ^ (-k).toNat := by
          rw [hmid]
          gcongr
      _ = unit * 10 ^ (-k).toNat * (10 ^ 17 * 10 ^ (-lead).toNat) := by ring
  have hlast : lead - (1 + 17 : Nat) + 1 = k := by omega
  have hfactor : 0 < unit * 10 ^ (-k).toNat := Nat.mul_pos hunit (Nat.pow_pos (by decide))
  have hends : i.low * 10 ^ (-k).toNat + gap * (unit * 10 ^ (-k).toNat) = i.mid * 10 ^ (-k).toNat ∧
      i.high * 10 ^ (-k).toNat = i.mid * 10 ^ (-k).toNat + 2 * (unit * 10 ^ (-k).toNat) := by
    obtain ⟨rest, hrest⟩ := Nat.exists_eq_add_of_le (show gap ≤ 4 * m by omega)
    rw [hlow, hmid, hhigh, hrest, Nat.add_sub_cancel_left]
    constructor <;> ring
  apply trimmed_ne_zero
  refine Interval.ne_zero_of_contains (hlow ▸ Nat.mul_pos (by omega) hunit) (contains_search ?_)
  rw [hlast]
  refine Interval.exists_pick ?_ (by omega) hden
  have hstep : unit * 10 ^ (-k).toNat ≤ gap * (unit * 10 ^ (-k).toNat) := Nat.le_mul_of_pos_left _ hgap
  omega

end OwnershipRegistry.Decimal
