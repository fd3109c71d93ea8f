import Mathlib.Tactic.IntervalCases
import OwnershipRegistry.Proofs.JsonReader

/-!
# Strings as JSON text

A string is written without control characters, whatever it holds, and it is
read back. A character is written in one of three ways, and each is read back
in front of any text; the rest is an induction over the characters.
-/

namespace OwnershipRegistry.Json

/-- A text without control characters. -/
def Visible (cs : List Char) : Prop := ∀ c ∈ cs, 0x20 ≤ c.toNat

namespace Visible

variable {c : Char} {cs more : List Char}

theorem nil : Visible [] := nofun

theorem cons (h : 0x20 ≤ c.toNat) (h' : Visible cs) : Visible (c :: cs) := List.forall_mem_cons.mpr ⟨h, h'⟩

theorem append (h : Visible cs) (h' : Visible more) : Visible (cs ++ more) :=
  fun c hc => (List.mem_append.mp hc).elim (h c) (h' c)

theorem of_all (h : (cs.all fun c => 0x20 ≤ c.toNat) = true) : Visible cs :=
  fun c hc => of_decide_eq_true (List.all_eq_true.mp h c hc)

end Visible

/-- How a character of a string is written: with a letter of its own, by its code, or as itself. -/
inductive Escape (c : Char) : List Char → Prop
  | letter {l : Char} (visible : 0x20 ≤ l.toNat) (other : l ≠ 'u') (h : escaped? l = some c.toNat) :
      Escape c ['\\', l]
  | code (control : c.toNat < 0x20) : Escape c (unitEscape c.toNat)
  | itself (visible : 0x20 ≤ c.toNat) (notQuote : c ≠ '"') (notBackslash : c ≠ '\\') : Escape c [c]

theorem escape_stringChar (c : Char) : Escape c (stringChar c) := by
  have hletter (l : Char) (code : Nat) (visible : 0x20 ≤ l.toNat) (other : l ≠ 'u')
      (h : escaped? l = some code) (hc : c.toNat = code) : Escape c ['\\', l] :=
    .letter visible other (h.trans (congrArg some hc.symm))
  unfold stringChar
  by_cases hquote : c = '"'
  · rw [if_pos (beq_iff_eq.mpr hquote)]
    exact hletter '"' 0x22 (by decide) (by decide) rfl (congrArg Char.toNat hquote)
  rw [if_neg (mt beq_iff_eq.mp hquote)]
  by_cases hbackslash : c = '\\'
  · rw [if_pos (beq_iff_eq.mpr hbackslash)]
    exact hletter '\\' 0x5c (by decide) (by decide) rfl (congrArg Char.toNat hbackslash)
  rw [if_neg (mt beq_iff_eq.mp hbackslash)]
  repeat' split
  · exact hletter 'n' 0x0a (by decide) (by decide) rfl (congrArg Char.toNat (eq_of_beq ‹_›))
  · exact hletter 'r' 0x0d (by decide) (by decide) rfl (congrArg Char.toNat (eq_of_beq ‹_›))
  · exact hletter 't' 0x09 (by decide) (by decide) rfl (congrArg Char.toNat (eq_of_beq ‹_›))
  · exact hletter 'f' 0x0c (by decide) (by decide) rfl (eq_of_beq ‹_›)
  · exact hletter 'b' 0x08 (by decide) (by decide) rfl (eq_of_beq ‹_›)
  · exact .code ‹_›
  · exact .itself (Nat.le_of_not_lt ‹_›) hquote hbackslash

/-- The code of a control character is read back from its four digits. -/
theorem unit?_paddedHex {n : Nat} (h : n < 0x20) : ∃ a b c d, Text.paddedHex 4 n = [a, b, c, d] ∧
    unit? [a, b, c, d] = some n ∧ Visible [a, b, c, d] := by
  interval_cases n <;> exact ⟨_, _, _, _, rfl, rfl, Visible.of_all rfl⟩

/-- A character is read back from how it is written, whatever follows it. -/
theorem codes?_stringChar (c : Char) (rest : List Char) :
    codes? (stringChar c ++ rest) = (codes? rest).map fun r => (c.toNat :: r.1, r.2) := by
  generalize hwritten : stringChar c = written
  cases hwritten ▸ escape_stringChar c with
  | @letter l visible other h =>
      have hread := codes?.eq_4 l rest fun _ _ _ _ _ hl _ => other hl
      rw [List.cons_append, List.singleton_append, hread, h]
      cases codes? rest <;> rfl
  | code control =>
      obtain ⟨a, b, c', d, hdigits, hunit, -⟩ := unit?_paddedHex control
      rw [unitEscape, hdigits]
      refine (codes?.eq_3 a b c' d rest).trans ?_
      rw [hunit]
      cases codes? rest <;> rfl
  | itself visible notQuote notBackslash =>
      have hread := codes?.eq_5 c rest notQuote (fun _ _ _ _ _ hc _ => notBackslash hc)
        fun _ _ hc _ => notBackslash hc
      rw [List.singleton_append, hread, guard, if_pos visible]
      cases codes? rest <;> rfl

theorem codes?_written (cs rest : List Char) :
    codes? (cs.flatMap stringChar ++ '"' :: rest) = some (cs.map Char.toNat, rest) := by
  induction cs with
  | nil => rfl
  | cons c cs ih => rw [List.flatMap_cons, List.append_assoc, codes?_stringChar, ih, Option.map_some, List.map_cons]

/-- The codes of characters give the characters. -/
theorem characters?_codes (cs : List Char) : characters? (cs.map Char.toNat) = some cs := by
  have hvalid (c : Char) : c.toNat.isValidChar := c.valid
  induction cs with
  | nil => rfl
  | cons c cs ih =>
      cases cs with
      | nil => simp [characters?, hvalid c]
      | cons next cs =>
          rw [List.map_cons, List.map_cons, characters?, if_pos (hvalid c), Char.ofNat_toNat]
          rw [List.map_cons] at ih
          rw [ih]
          rfl

/-- A string is read back, whatever it holds and whatever follows it. -/
theorem string?_written (s : String) (rest : List Char) :
    string? (s.toList.flatMap stringChar ++ '"' :: rest) = some (s, rest) := by
  unfold string?
  rw [codes?_written]
  simp only [Option.bind_eq_bind, Option.bind_some]
  rw [characters?_codes]
  simp

theorem visible_stringChar (c : Char) : Visible (stringChar c) := by
  generalize hwritten : stringChar c = written
  cases hwritten ▸ escape_stringChar c with
  | letter visible => exact .cons (by decide) (.cons visible .nil)
  | code control =>
      obtain ⟨a, b, c', d, hdigits, -, hvisible⟩ := unit?_paddedHex control
      rw [unitEscape, hdigits]
      exact .cons (by decide) (.cons (by decide) hvisible)
  | itself visible => exact .cons visible .nil

/-- A string between quotes holds no control character. -/
theorem visible_quoted (s : String) : Visible (stringText stringChar s).toList := by
  have hwritten : Visible (s.toList.flatMap stringChar) := by
    intro c hc
    obtain ⟨d, -, hd⟩ := List.mem_flatMap.mp hc
    exact visible_stringChar d c hd
  rw [stringText, String.toList_ofList]
  exact (hwritten.cons (by decide)).append (.cons (by decide) .nil)

end OwnershipRegistry.Json
