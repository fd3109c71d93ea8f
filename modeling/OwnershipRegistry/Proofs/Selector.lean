import Mathlib.Tactic.NormNum
import OwnershipRegistry.Name.Check
import OwnershipRegistry.Proofs.Name
import OwnershipRegistry.Security.Validator

/-!
# Tags, pairs of names and their selectors

Without a default, the tags that split and the pairs of valid names stand for
each other. A selector is derived from the pair alone, so it does not matter
how the tag was spelled. The hash of a name is written in 32 bytes without
loss, and a derived selector is so far below the prime that validation has
nothing against it unless it is reserved.
-/

namespace OwnershipRegistry

namespace Sha256

/-- The number that bytes write, with the most significant byte first. -/
def ofBigEndian (bytes : List UInt8) : Nat := bytes.foldl (fun n byte => n * 256 + byte.toNat) 0

theorem length_bigEndian (width n : Nat) : (bigEndian width n).length = width := by
  simp [bigEndian]

/-- The last of the bytes is the remainder, and those before it write the quotient. -/
theorem bigEndian_succ (width n : Nat) :
    bigEndian (width + 1) n = bigEndian width (n / 256) ++ [UInt8.ofNat n] := by
  have hbefore : ∀ i ∈ List.range width, UInt8.ofNat (n / Nat.pow 256 (width + 1 - 1 - i)) =
      UInt8.ofNat (n / 256 / Nat.pow 256 (width - 1 - i)) := by
    intro i hi
    have hlt : i < width := List.mem_range.mp hi
    have hexponent : width + 1 - 1 - i = width - 1 - i + 1 := by omega
    have hpower : Nat.pow 256 (width - 1 - i + 1) = 256 * Nat.pow 256 (width - 1 - i) := Nat.pow_succ'
    rw [hexponent, hpower, Nat.div_div_eq_div_mul]
  have hlast : n / Nat.pow 256 (width + 1 - 1 - width) = n := by
    rw [Nat.add_sub_cancel, Nat.sub_self]
    exact Nat.div_one n
  unfold bigEndian
  rw [List.range_succ, List.map_append, List.map_singleton, hlast, List.map_congr_left hbefore]

/-- Bytes in which a number fits read back as that number. -/
theorem ofBigEndian_bigEndian {width n : Nat} (fits : n < 256 ^ width) :
    ofBigEndian (bigEndian width n) = n := by
  induction width generalizing n with
  | zero =>
      obtain rfl : n = 0 := Nat.lt_one_iff.mp fits
      rfl
  | succ width ih =>
      have hrest : n / 256 < 256 ^ width := by
        apply Nat.div_lt_of_lt_mul
        rwa [Nat.pow_succ'] at fits
      calc
        ofBigEndian (bigEndian (width + 1) n) =
            ofBigEndian (bigEndian width (n / 256)) * 256 + (UInt8.ofNat n).toNat := by
          rw [bigEndian_succ, ofBigEndian, List.foldl_append]
          rfl
        _ = n / 256 * 256 + n % 256 := by rw [ih hrest, UInt8.toNat_ofNat']
        _ = n := Nat.div_add_mod' n 256

end Sha256

namespace Validator

/-- Validation keeps a field element other than zero from being used exactly by reserving it. -/
theorem accepts_iff {v : Validator} {key : Int} (positive : 0 < key) (bounded : key < feltPrime) :
    v.accepts key = true ↔ key ∉ v.configured := by
  have hnonneg : 0 ≤ key := Int.le_of_lt positive
  have hne : key ≠ worldSelector := Int.ne_of_gt positive
  simp [accepts, isReserved, hnonneg, hne, bounded]

end Validator

namespace Selector

/-- A hash that fits the 32 bytes in which it is hashed again. -/
structure Fits (hash : Nat) : Prop where
  bounded : hash < 2 ^ 256
  width : (Sha256.bigEndian 32 hash).length = 32
  readBack : Sha256.ofBigEndian (Sha256.bigEndian 32 hash) = hash

/-- A selector of 250 bits, which validators refuse exactly if it is zero or configured as reserved. -/
structure Derived (selector : Nat) : Prop where
  bounded : selector < 2 ^ 250
  validated : ∀ v : Validator, v.validate (.int selector) =
    if selector = 0 ∨ (selector : Int) ∈ v.configured then .error (.denied (.badSelector (.int selector)))
    else .ok selector

/-- The hashes of texts fit. -/
theorem fits_ofText (text : String) : Fits (ofText text) := by
  have hbound : ofText text < 2 ^ 250 := ofBytes_lt _
  have hfits : ofText text < 256 ^ 32 := hbound.trans (by norm_num)
  exact ⟨hbound.trans (by norm_num), Sha256.length_bigEndian _ _, Sha256.ofBigEndian_bigEndian hfits⟩

theorem two_pow_lt_feltPrime : (2 ^ 250 : Nat) < feltPrime := by
  unfold feltPrime
  norm_num

/-- Whatever is below the bound of derived selectors is a field element. -/
theorem derived_of_lt {selector : Nat} (bounded : selector < 2 ^ 250) : Derived selector where
  bounded := bounded
  validated v := by
    rw [Validator.validate_int]
    rcases Nat.eq_zero_or_pos selector with rfl | hpositive
    · rw [if_pos (Or.inl rfl)]
      rfl
    · have hkey : (0 : Int) < selector := Int.natCast_pos.mpr hpositive
      have hprime : (selector : Int) < feltPrime := Int.ofNat_lt.mpr (bounded.trans two_pow_lt_feltPrime)
      by_cases hreserved : (selector : Int) ∈ v.configured
      · have haccepts : ¬ v.accepts selector = true := fun h =>
          (Validator.accepts_iff hkey hprime).mp h hreserved
        rw [if_neg haccepts, if_pos (Or.inr hreserved)]
      · have hfree : ¬ (selector = 0 ∨ (selector : Int) ∈ v.configured) := by
          rintro (hzero | hmem)
          · exact hpositive.ne' hzero
          · exact hreserved hmem
        rw [if_pos ((Validator.accepts_iff hkey hprime).mpr hreserved), if_neg hfree]

end Selector

namespace Tag

variable {tag : String} {pair other : String × String}

/-- A tag joins the two valid names of a pair. -/
structure Joins (tag : String) (pair : String × String) : Prop where
  validSpace : Name.isValid pair.1 = true
  validName : Name.isValid pair.2 = true
  joined : tag = join pair.1 pair.2

/-- A tag joins one pair at most. -/
theorem Joins.unique (h : Joins tag pair) (h' : Joins tag other) : pair = other := by
  obtain ⟨hspace, hname⟩ := (join_inj h'.validSpace h'.validName).mp (h.joined.symm.trans h'.joined)
  exact Prod.ext hspace hname

/-- The tags that split by themselves are those that join a pair, and they split into it. -/
theorem split_iff_joins : split tag none = .ok pair ↔ Joins tag pair := by
  rw [split_eq_ok_iff]
  constructor
  · intro h
    obtain ⟨hjoined, hspace, hname⟩ := eq_join_of_split? h
    exact ⟨hspace, hname, hjoined⟩
  · rintro ⟨hspace, hname, rfl⟩
    exact split?_join hspace hname none

/-- A selector derived for a tag is that of the pair into which the tag splits. -/
theorem ofTag_eq {space name : String} {default : Option String} (h : split tag default = .ok (space, name)) :
    Selector.ofTag tag default = .ok (Selector.ofNames space name) := by
  rw [Selector.ofTag, h]
  rfl

/-- A tag without a default stands for the one pair of valid names that it joins, with whatever default
it is split. A bare name that is completed by a valid default stands for the pair of both. The selector
is in all cases that of the pair. The hashes that it is made of fit their 32 bytes, and like every
selector that is derived it is refused only if it is zero or configured as reserved. -/
theorem stands_for_pair :
    (∀ tag, (∀ pair, split tag none = .ok pair ↔ Joins tag pair) ∧
      ((∃ pair, split tag none = .ok pair) ↔ ∃! pair, Joins tag pair)) ∧
    (∀ space name, Name.isValid space = true → Name.isValid name = true → ∀ default,
      split (join space name) default = .ok (space, name) ∧
      Selector.ofTag (join space name) default = .ok (Selector.ofNames space name)) ∧
    (∀ space name, Name.isValid space = true → Name.isValid name = true →
      full name (some space) = .ok (join space name) ∧ split (join space name) none = .ok (space, name) ∧
      Selector.ofTag name (some space) = .ok (Selector.ofNames space name)) ∧
    ∀ space name, Selector.Fits (Selector.ofText space) ∧ Selector.Fits (Selector.ofText name) ∧
      Selector.Derived (Selector.ofNames space name) ∧ Selector.Derived (Selector.ofNamespace space) := by
  refine ⟨fun tag => ⟨fun pair => split_iff_joins, ?_⟩, fun space name hspace hname default => ?_,
    fun space name hspace hname => ?_, fun space name => ?_⟩
  · constructor
    · rintro ⟨pair, hsplit⟩
      have hjoins := split_iff_joins.mp hsplit
      exact ⟨pair, hjoins, fun other hother => hother.unique hjoins⟩
    · rintro ⟨pair, hjoins, -⟩
      exact ⟨pair, split_iff_joins.mpr hjoins⟩
  · have hsplit : split (join space name) default = .ok (space, name) :=
      split_eq_ok_iff.mpr (split?_join hspace hname default)
    exact ⟨hsplit, ofTag_eq hsplit⟩
  · have hbare : split name (some space) = .ok (space, name) :=
      split_eq_ok_iff.mpr (split?_eq_some_iff.mpr ⟨hname, Or.inr ⟨rfl, rfl⟩⟩)
    refine ⟨?_, split_eq_ok_iff.mpr (split?_join hspace hname none), ofTag_eq hbare⟩
    rw [full, hbare]
    rfl
  · exact ⟨Selector.fits_ofText space, Selector.fits_ofText name, Selector.derived_of_lt (Selector.ofBytes_lt _),
      Selector.derived_of_lt (Selector.ofBytes_lt _)⟩

/-- The tag of the names "game" and "Position" splits into them whatever the default is, and it has the
selector of the bare name in the namespace "game". Every validator accepts that selector unless it is
reserved. Another namespace or another name gives another selector. -/
theorem stands_for_pair_game :
    (∀ default, split "game-Position" default = .ok ("game", "Position")) ∧
      split "game-Pos-ition" none ≠ .ok ("game", "Pos-ition") ∧
      Selector.ofTag "Position" (some "game") = Selector.ofTag "game-Position" (some "other") ∧
      Selector.Derived (Selector.ofNames "game" "Position") ∧
      Selector.ofNames "game" "Position" =
        0x3051afa9f285270883a1d66440e901116762f330f96066e8c5ea7d4f8e651c1 ∧
      Selector.ofNames "arena" "Position" ≠ Selector.ofNames "game" "Position" ∧
      Selector.ofNames "game" "Velocity" ≠ Selector.ofNames "game" "Position" := by
  obtain ⟨hpairs, hjoined, hbare, hderived⟩ := stands_for_pair
  have hgame : Name.isValid "game" = true := by decide
  have hposition : Name.isValid "Position" = true := by decide
  have htag : join "game" "Position" = "game-Position" := by decide
  rw [← htag]
  refine ⟨fun default => (hjoined _ _ hgame hposition default).1, fun h => ?_, ?_,
    (hderived "game" "Position").2.2.1, by decide +kernel⟩
  · have hname := (((hpairs "game-Pos-ition").1 _).mp h).validName
    exact absurd hname (by decide)
  · have hselector := (hjoined _ _ hgame hposition (some "other")).2
    exact (hbare _ _ hgame hposition).2.2.trans hselector.symm

end Tag

end OwnershipRegistry
