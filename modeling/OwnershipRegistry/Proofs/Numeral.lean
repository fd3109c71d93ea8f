import Mathlib.Tactic.IntervalCases
import OwnershipRegistry.Numeral

/-!
# Hexadecimal numerals

The digits of a number are read back as the number, so the numerals of
different integers differ.
-/

namespace OwnershipRegistry.Numeral

/-- A digit below sixteen is read as itself, whatever follows it. -/
theorem readDigits_digitChar {d : Nat} (h : d < 16) (value count : Nat) (rest : List Char) :
    readDigits 16 value count (Nat.digitChar d :: rest) = readDigits 16 (value * 16 + d) (count + 1) rest := by
  have hdigit : digit? 16 (Nat.digitChar d) = some d := by
    interval_cases d <;> rfl
  have hplain : Nat.digitChar d ≠ '_' := by
    interval_cases d <;> decide
  rw [readDigits.eq_3 _ _ _ _ _ fun c rest hc _ => hplain hc, hdigit]
  rfl

/-- Reading the digits of a number gives the number, and goes on with what follows them. -/
theorem readDigits_hexDigits (n : Nat) (rest : List Char) :
    readDigits 16 0 0 (Text.hexDigits n ++ rest) = readDigits 16 n (Text.hexDigits n).length rest := by
  induction n using Nat.strongRecOn generalizing rest with
  | ind n ih =>
      have hbase : 1 < 16 := by decide
      by_cases hsmall : n < 16
      · rw [Text.hexDigits, Nat.toDigits_of_lt_base hsmall, List.singleton_append, readDigits_digitChar hsmall,
          Nat.zero_mul, Nat.zero_add]
        rfl
      · have hless : n / 16 < n := Nat.div_lt_self (by omega) hbase
        have hlast : n % 16 < 16 := Nat.mod_lt n (by decide)
        have hdigits : Text.hexDigits n = Text.hexDigits (n / 16) ++ [Nat.digitChar (n % 16)] :=
          Nat.toDigits_of_base_le hbase (Nat.le_of_not_lt hsmall)
        rw [hdigits, List.append_assoc, List.singleton_append, ih (n / 16) hless, readDigits_digitChar hlast,
          Nat.div_add_mod', List.length_append, List.length_singleton]

/-- The characters of a numeral's digits are those of the numbers below sixteen. -/
theorem exists_digitChar_of_mem {n : Nat} {c : Char} (h : c ∈ Text.hexDigits n) :
    ∃ d < 16, c = Nat.digitChar d := by
  induction n using Nat.strongRecOn with
  | ind n ih =>
      have hbase : 1 < 16 := by decide
      by_cases hsmall : n < 16
      · rw [Text.hexDigits, Nat.toDigits_of_lt_base hsmall] at h
        exact ⟨n, hsmall, List.mem_singleton.mp h⟩
      · have hless : n / 16 < n := Nat.div_lt_self (by omega) hbase
        rw [Text.hexDigits, Nat.toDigits_of_base_le hbase (Nat.le_of_not_lt hsmall)] at h
        rcases List.mem_append.mp h with hfirst | hlast
        · exact ih (n / 16) hless hfirst
        · exact ⟨n % 16, Nat.mod_lt n (by decide), List.mem_singleton.mp hlast⟩

/-- A character that a numeral can have anywhere: no blank, no underscore, and ASCII. -/
def IsPlain (c : Char) : Prop := c.toNat < 128 ∧ Text.isAsciiBlank c = false ∧ c ≠ '_'

theorem isPlain_of_mem_hexDigits {n : Nat} {c : Char} (h : c ∈ Text.hexDigits n) : IsPlain c := by
  obtain ⟨d, hd, rfl⟩ := exists_digitChar_of_mem h
  unfold IsPlain
  interval_cases d <;> decide

theorem isPlain_of_mem_hexChars {n : Nat} {c : Char} (h : c ∈ hexChars n) : IsPlain c := by
  rcases List.mem_cons.mp h with rfl | h
  · exact ⟨by decide, by decide, by decide⟩
  · rcases List.mem_cons.mp h with rfl | h
    · exact ⟨by decide, by decide, by decide⟩
    · exact isPlain_of_mem_hexDigits h

theorem asciiForm_toNat {c : Char} (h : c.toNat < 128) : asciiForm c.toNat = c := by
  rw [asciiForm, if_pos h, Char.ofNat_toNat]

/-- Plain characters are taken for themselves, and nothing is dropped from their ends. -/
theorem trimBlanks_codes {cs : List Char} (h : ∀ c ∈ cs, IsPlain c) :
    trimBlanks ((cs.map Char.toNat).map asciiForm) = cs := by
  have hforms : (cs.map Char.toNat).map asciiForm = cs := by
    rw [List.map_map]
    exact (List.map_congr_left fun c hc => asciiForm_toNat (h c hc).1).trans (List.map_id cs)
  have hkept : ∀ cs : List Char, (∀ c ∈ cs, IsPlain c) → cs.dropWhile Text.isAsciiBlank = cs := by
    intro cs hcs
    cases cs with
    | nil => rfl
    | cons c rest => exact List.dropWhile_cons_of_neg (by simp [(hcs c List.mem_cons_self).2.1])
  rw [hforms, trimBlanks, hkept cs h, hkept cs.reverse fun c hc => h c (List.mem_reverse.mp hc),
    List.reverse_reverse]

/-- The mark says that the digits are hexadecimal, and they are read as such. -/
theorem magnitude_hexChars (malformed : Error) (n : Nat) :
    magnitude .marked malformed (hexChars n) = .ok n := by
  have hmark : afterMark (Text.hexDigits n) = Text.hexDigits n := by
    cases hdigits : Text.hexDigits n with
    | nil => rfl
    | cons c rest =>
        have hplain : IsPlain c := isPlain_of_mem_hexDigits (hdigits ▸ List.mem_cons_self)
        exact afterMark.eq_2 _ fun rest hc => hplain.2.2 (List.cons.inj hc).1
  have hcount : (Text.hexDigits n).length ≠ 0 := Nat.ne_of_gt Nat.length_toDigits_pos
  have hread : digits? 16 (Text.hexDigits n) = some (n, (Text.hexDigits n).length) := by
    rw [digits?, ← List.append_nil (Text.hexDigits n), readDigits_hexDigits, readDigits, if_neg hcount,
      List.append_nil]
  calc
    magnitude .marked malformed (hexChars n) = binaryMagnitude malformed 16 (afterMark (Text.hexDigits n)) := rfl
    _ = .ok n := by rw [hmark, binaryMagnitude, hread]

/-- Every integer is read back from its numeral. -/
theorem read_hex (n : Int) : read .marked (hex n) = .ok n := by
  have hminus : IsPlain '-' := ⟨by decide, by decide, by decide⟩
  unfold read readCodes Text.codes hex
  by_cases hn : n < 0
  · have hplain : ∀ c ∈ '-' :: hexChars n.natAbs, IsPlain c :=
      List.forall_mem_cons.mpr ⟨hminus, fun c hc => isPlain_of_mem_hexChars hc⟩
    simp only [hn, if_true, String.toList_ofList, trimBlanks_codes hplain, magnitude_hexChars]
    exact congrArg Except.ok (show -(n.natAbs : Int) = n by omega)
  · have hplain : ∀ c ∈ hexChars n.natAbs, IsPlain c := fun c hc => isPlain_of_mem_hexChars hc
    simp only [hn, if_false, String.toList_ofList, trimBlanks_codes hplain]
    -- A numeral that begins with its mark has no sign.
    change Except.map (fun n => n) (do pure ((← magnitude .marked _ (hexChars n.natAbs) : Nat) : Int)) = .ok n
    rw [magnitude_hexChars]
    exact congrArg Except.ok (show (n.natAbs : Int) = n by omega)

/-- Different integers have different numerals. -/
theorem hex_injective : Function.Injective hex := by
  intro m n h
  have hm := read_hex m
  rw [h, read_hex n] at hm
  exact (Except.ok.inj hm).symm

end OwnershipRegistry.Numeral
