import OwnershipRegistry.Proofs.JsonReader
import OwnershipRegistry.Proofs.Shortest

/-!
# Numbers as JSON text

Integers and finite floating point numbers are written as numbers of the
format. In particular the digits before a point never begin with a zero that is
not the only one, since the shortest decimal of a number other than zero is not
zero itself.
-/

namespace OwnershipRegistry.Json

/-- Digits, of which there is at least one. -/
structure AreDigits (cs : List Char) : Prop where
  nonempty : cs ≠ []
  digit : ∀ c ∈ cs, c.isDigit = true

/-- The digits before a point: a zero alone, or digits that begin with another one. -/
structure IsWhole (cs : List Char) : Prop extends AreDigits cs where
  leading : cs = ['0'] ∨ cs.head? ≠ some '0'

/-- A point and digits, or nothing. -/
def IsFraction (cs : List Char) : Prop := cs = [] ∨ ∃ digits, cs = '.' :: digits ∧ AreDigits digits

/-- A mark, a sign and digits, or nothing. -/
def IsExponent (cs : List Char) : Prop :=
  cs = [] ∨ ∃ sign digits, cs = 'e' :: sign :: digits ∧ (sign = '+' ∨ sign = '-') ∧ AreDigits digits

/-- The text of a number without a sign. -/
inductive IsUnsigned : List Char → Prop
  | parts {whole fraction exponent : List Char} (isWhole : IsWhole whole) (isFraction : IsFraction fraction)
      (isExponent : IsExponent exponent) : IsUnsigned (whole ++ (fraction ++ exponent))

/-- The text of a number. -/
inductive IsLiteral : List Char → Prop
  | positive {cs : List Char} (unsigned : IsUnsigned cs) : IsLiteral cs
  | negative {cs : List Char} (unsigned : IsUnsigned cs) : IsLiteral ('-' :: cs)

variable {cs rest : List Char}

/-- A run of characters of a kind is taken off as a whole if what follows does not go on with one. -/
theorem run_append {p : Char → Bool} (run : ∀ c ∈ cs, p c = true) (ends : ∀ c ∈ rest.head?, p c = false) :
    (cs ++ rest).takeWhile p = cs ∧ (cs ++ rest).dropWhile p = rest := by
  rw [List.takeWhile_append_of_pos run, List.dropWhile_append_of_pos run]
  cases rest with
  | nil => exact ⟨List.append_nil cs, rfl⟩
  | cons c rest =>
      have hends : ¬ p c = true := by simp [ends c rfl]
      exact ⟨by rw [List.takeWhile_cons_of_neg hends, List.append_nil], List.dropWhile_cons_of_neg hends⟩

/-- What follows digits does not go on with one. -/
def EndsDigits (rest : List Char) : Prop := ∀ c ∈ rest.head?, c.isDigit = false

theorem AreDigits.after (h : AreDigits cs) (ends : EndsDigits rest) : afterDigits? (cs ++ rest) = some rest := by
  obtain ⟨c, digits, rfl⟩ := List.exists_cons_of_ne_nil h.nonempty
  have hall := (run_append h.digit ends).2
  have hfirst := h.digit c List.mem_cons_self
  rw [List.cons_append] at hall ⊢
  rw [List.dropWhile_cons_of_pos hfirst] at hall
  rw [afterDigits?, if_pos hfirst, hall]

theorem IsWhole.after (h : IsWhole cs) (ends : EndsDigits rest) : afterWhole? (cs ++ rest) = some rest := by
  rcases h.leading with rfl | hleading
  · rfl
  · obtain ⟨c, digits, rfl⟩ := List.exists_cons_of_ne_nil h.nonempty
    have hother : ∀ more, c :: digits ++ rest = '0' :: more → False := by
      intro more heq
      exact hleading (congrArg some (List.cons.inj heq).1)
    rw [afterWhole?.eq_2 _ hother]
    exact h.toAreDigits.after ends

theorem IsFraction.ends (h : IsFraction cs) (ends : EndsDigits rest) : EndsDigits (cs ++ rest) := by
  rcases h with rfl | ⟨digits, rfl, -⟩
  · exact ends
  · intro c hc
    obtain rfl : '.' = c := Option.some.inj hc
    rfl

theorem IsFraction.after (h : IsFraction cs) (ends : EndsDigits rest) (point : rest.head? ≠ some '.') :
    afterFraction? (cs ++ rest) = some rest := by
  rcases h with rfl | ⟨digits, rfl, hdigits⟩
  · rw [List.nil_append, afterFraction?.eq_2]
    rintro more rfl
    exact point rfl
  · exact hdigits.after ends

theorem IsExponent.ends (h : IsExponent cs) : EndsDigits cs ∧ cs.head? ≠ some '.' := by
  rcases h with rfl | ⟨sign, digits, rfl, -, -⟩
  · exact ⟨nofun, nofun⟩
  · refine ⟨fun c hc => ?_, by simp⟩
    obtain rfl : 'e' = c := Option.some.inj hc
    rfl

theorem IsExponent.after (h : IsExponent cs) : afterExponent? cs = some [] := by
  rcases h with rfl | ⟨sign, digits, rfl, hsign, hdigits⟩
  · rfl
  · have hafter : afterDigits? (digits ++ []) = some [] := hdigits.after nofun
    rw [List.append_nil] at hafter
    rcases hsign with rfl | rfl <;> exact hafter

namespace IsUnsigned

theorem after (h : IsUnsigned cs) :
    ((afterWhole? cs).bind afterFraction?).bind afterExponent? = some [] := by
  obtain ⟨isWhole, isFraction, isExponent⟩ := h
  obtain ⟨hends, hpoint⟩ := isExponent.ends
  rw [isWhole.after (isFraction.ends hends), Option.bind_some, isFraction.after hends hpoint, Option.bind_some,
    isExponent.after]

/-- A number without a sign begins with a digit. -/
theorem exists_digit (h : IsUnsigned cs) : ∃ c more, cs = c :: more ∧ c.isDigit = true := by
  obtain ⟨isWhole, -, -⟩ := h
  obtain ⟨c, digits, rfl⟩ := List.exists_cons_of_ne_nil isWhole.nonempty
  exact ⟨c, _, rfl, isWhole.digit c List.mem_cons_self⟩

end IsUnsigned

namespace IsLiteral

/-- The text of a number is a number of the format. -/
theorem isNumber (h : IsLiteral cs) : isNumber cs = true := by
  unfold Json.isNumber
  rw [beq_iff_eq]
  cases h with
  | positive unsigned =>
      obtain ⟨c, more, rfl, hdigit⟩ := unsigned.exists_digit
      have hsign : afterSign (c :: more) = c :: more := afterSign.eq_2 _ fun rest heq => by
        obtain rfl : c = '-' := (List.cons.inj heq).1
        exact absurd hdigit (by decide)
      rw [hsign]
      exact unsigned.after
  | negative unsigned => exact unsigned.after

theorem opens (h : IsLiteral cs) (rest : List Char) : opensNumber (cs ++ rest) = true := by
  cases h with
  | positive unsigned =>
      obtain ⟨c, more, rfl, hdigit⟩ := unsigned.exists_digit
      simp [opensNumber, hdigit]
  | negative => rfl

end IsLiteral

theorem AreDigits.isNumberChar (h : AreDigits cs) : ∀ c ∈ cs, isNumberChar c = true := by
  intro c hc
  simp [Json.isNumberChar, h.digit c hc]

/-- The text of a number consists of the characters of numbers. -/
theorem IsLiteral.isNumberChar (h : IsLiteral cs) : ∀ c ∈ cs, isNumberChar c = true := by
  have hunsigned {cs : List Char} (h : IsUnsigned cs) : ∀ c ∈ cs, Json.isNumberChar c = true := by
    obtain ⟨isWhole, isFraction, isExponent⟩ := h
    intro c hc
    rcases List.mem_append.mp hc with hc | hc
    · exact isWhole.isNumberChar c hc
    rcases List.mem_append.mp hc with hc | hc
    · rcases isFraction with rfl | ⟨digits, rfl, hdigits⟩
      · cases hc
      · rcases List.mem_cons.mp hc with rfl | hc
        · rfl
        · exact hdigits.isNumberChar c hc
    · rcases isExponent with rfl | ⟨sign, digits, rfl, hsign, hdigits⟩
      · cases hc
      · rcases List.mem_cons.mp hc with rfl | hc
        · rfl
        rcases List.mem_cons.mp hc with rfl | hc
        · rcases hsign with rfl | rfl <;> rfl
        · exact hdigits.isNumberChar c hc
  cases h with
  | positive unsigned => exact hunsigned unsigned
  | negative unsigned => exact List.forall_mem_cons.mpr ⟨rfl, hunsigned unsigned⟩

/-- The characters of numbers are visible. -/
theorem visible_of_isNumberChar {c : Char} (h : isNumberChar c = true) : 0x20 ≤ c.toNat := by
  simp only [isNumberChar, Bool.or_eq_true, beq_iff_eq] at h
  rcases h with ((((h | rfl) | rfl) | rfl) | rfl) | rfl
  · have hzero : '0'.toNat ≤ c.toNat := (Char.isDigit_iff_toNat.mp h).1
    exact Nat.le_trans (by decide) hzero
  all_goals decide

/-- What follows a number does not go on with one. -/
def EndsNumber (rest : List Char) : Prop := ∀ c ∈ rest.head?, isNumberChar c = false

/-- A number is read back, whatever follows it. -/
theorem number?_append {s : String} (h : IsLiteral s.toList) (ends : EndsNumber rest) :
    number? (s.toList ++ rest) = some (.number s, rest) := by
  obtain ⟨hliteral, hrest⟩ := run_append h.isNumberChar ends
  unfold number?
  simp only [hliteral, hrest, h.isNumber, if_true, String.ofList_toList]

section Texts

open Decimal (digitChars)

theorem areDigits_digitChars (n : Nat) : AreDigits (digitChars n) where
  nonempty := Nat.toDigits_ne_nil
  digit _ hc := Nat.isDigit_of_mem_toDigits (by decide) (by decide) hc

/-- The digits of a number other than zero do not begin with a zero. -/
theorem head?_digitChars {n : Nat} (nonzero : n ≠ 0) : (digitChars n).head? ≠ some '0' := by
  induction n using Nat.strongRecOn with
  | ind n ih =>
      unfold digitChars
      by_cases hsmall : n < 10
      · rw [Nat.toDigits_of_lt_base hsmall]
        simpa using nonzero
      · have hless : n / 10 < n := Nat.div_lt_self (by omega) (by decide)
        have hfirst : (Nat.toDigits 10 (n / 10)).head?.isSome = true := by
          simp [List.isSome_head?, Nat.toDigits_ne_nil]
        rw [Nat.toDigits_of_base_le (by decide) (Nat.le_of_not_lt hsmall), List.head?_append,
          Option.or_of_isSome hfirst]
        exact ih (n / 10) hless (by omega)

theorem isWhole_digitChars (n : Nat) : IsWhole (digitChars n) where
  toAreDigits := areDigits_digitChars n
  leading := by
    by_cases hzero : n = 0
    · exact .inl (hzero ▸ rfl)
    · exact .inr (head?_digitChars hzero)

theorem isUnsigned_digitChars (n : Nat) : IsUnsigned (digitChars n) := by
  have h := IsUnsigned.parts (isWhole_digitChars n) (Or.inl rfl) (Or.inl rfl)
  rwa [List.append_nil, List.append_nil] at h

theorem isLiteral_int (n : Int) : IsLiteral (toString n).toList := by
  cases n with
  | ofNat n =>
      have htext : (toString (Int.ofNat n)).toList = digitChars n := Nat.toList_repr
      rw [htext]
      exact .positive (isUnsigned_digitChars n)
  | negSucc n =>
      have htext : (toString (Int.negSucc n)).toList = '-' :: digitChars (n + 1) := by
        have hminus : toString (Int.negSucc n) = "-" ++ Nat.repr (n + 1) := rfl
        rw [hminus, String.toList_append, Nat.toList_repr]
        rfl
      rw [htext]
      exact .negative (isUnsigned_digitChars (n + 1))

theorem isLiteral_signed (negative : Bool) {body : String} (h : IsUnsigned body.toList) :
    IsLiteral ((if negative then "-" else "") ++ body).toList := by
  rw [String.toList_append]
  cases negative with
  | true => exact .negative h
  | false => exact .positive h

theorem isExponent_text (e : Int) : IsExponent (Decimal.exponentText "e" e).toList := by
  have hdigits := areDigits_digitChars e.natAbs
  have hpadded : AreDigits ('0' :: digitChars e.natAbs) :=
    ⟨List.cons_ne_nil _ _, List.forall_mem_cons.mpr ⟨rfl, hdigits.digit⟩⟩
  have hafter : AreDigits (if e.natAbs < 10 then "0" ++ String.ofList (digitChars e.natAbs)
      else String.ofList (digitChars e.natAbs)).toList := by
    split
    · simpa using hpadded
    · simpa using hdigits
  unfold Decimal.exponentText
  refine Or.inr ⟨if e < 0 then '-' else '+', _, ?_, ?_, hafter⟩
  · split <;> simp
  · split
    · exact Or.inr rfl
    · exact Or.inl rfl

/-- Digits that do not begin with a zero are a whole part, with any digits after them. -/
theorem AreDigits.isWhole (h : AreDigits cs) (leading : cs.head? ≠ some '0') (more : ∀ c ∈ rest, c.isDigit = true) :
    IsWhole (cs ++ rest) where
  nonempty := List.append_ne_nil_of_left_ne_nil h.nonempty rest
  digit c hc := (List.mem_append.mp hc).elim (h.digit c) (more c)
  leading := by
    obtain ⟨c, digits, rfl⟩ := List.exists_cons_of_ne_nil h.nonempty
    exact .inr leading

theorem digit_of_mem_zeros {n : Nat} : ∀ c ∈ List.replicate n '0', c.isDigit = true := by
  intro c hc
  rw [List.eq_of_mem_replicate hc]
  rfl

theorem isWhole_zero : IsWhole ['0'] := isWhole_digitChars 0

/-- Written out in full, digits are a number without a sign, wherever the point is. -/
theorem isUnsigned_positional (digits : AreDigits cs) (leading : cs.head? ≠ some '0') (point : Int) :
    IsUnsigned (if point ≤ 0 then "0." ++ String.ofList (List.replicate (-point).toNat '0' ++ cs)
      else if cs.length ≤ point.toNat then
        String.ofList (cs ++ List.replicate (point.toNat - cs.length) '0') ++ ".0"
      else String.ofList (cs.take point.toNat) ++ "." ++ String.ofList (cs.drop point.toNat)).toList := by
  split
  · have hfraction : AreDigits (List.replicate (-point).toNat '0' ++ cs) :=
      ⟨List.append_ne_nil_of_right_ne_nil _ digits.nonempty,
        fun c hc => (List.mem_append.mp hc).elim (digit_of_mem_zeros c) (digits.digit c)⟩
    have h := IsUnsigned.parts isWhole_zero (Or.inr ⟨_, rfl, hfraction⟩) (Or.inl rfl)
    simpa using h
  case isFalse hpoint =>
    split
    · have hwhole : IsWhole (cs ++ List.replicate (point.toNat - cs.length) '0') :=
        digits.isWhole leading digit_of_mem_zeros
      have h := IsUnsigned.parts hwhole (Or.inr ⟨_, rfl, isWhole_zero.toAreDigits⟩) (Or.inl rfl)
      simpa using h
    case isFalse hlong =>
      obtain ⟨first, more, rfl⟩ := List.exists_cons_of_ne_nil digits.nonempty
      obtain ⟨places, hplaces⟩ := Nat.exists_eq_succ_of_ne_zero (show point.toNat ≠ 0 by omega)
      rw [hplaces] at hlong ⊢
      have hwhole : IsWhole ((first :: more).take (places + 1)) :=
        ⟨⟨List.cons_ne_nil _ _, fun c hc => digits.digit c (List.mem_of_mem_take hc)⟩, Or.inr leading⟩
      have hfraction : AreDigits (more.drop places) :=
        ⟨by simpa using hlong, fun c hc => digits.digit c (List.mem_cons_of_mem _ (List.mem_of_mem_drop hc))⟩
      have h := IsUnsigned.parts hwhole (Or.inr ⟨_, rfl, hfraction⟩) (Or.inl rfl)
      simpa using h

/-- With an exponent, digits are a number without a sign. -/
theorem isUnsigned_scientific (digits : AreDigits cs) (leading : cs.head? ≠ some '0') (e : Int) :
    IsUnsigned (String.ofList (cs.take 1) ++ (if cs.length ≤ 1 then "" else "." ++ String.ofList (cs.drop 1))
      ++ Decimal.exponentText "e" e).toList := by
  obtain ⟨first, more, rfl⟩ := List.exists_cons_of_ne_nil digits.nonempty
  have hwhole : IsWhole [first] :=
    ⟨⟨List.cons_ne_nil _ _, fun c hc => digits.digit c (List.mem_singleton.mp hc ▸ List.mem_cons_self)⟩,
      Or.inr leading⟩
  have hfraction : IsFraction
      (if (first :: more).length ≤ 1 then "" else "." ++ String.ofList ((first :: more).drop 1)).toList := by
    split
    · exact Or.inl rfl
    case isFalse hmore =>
      refine Or.inr ⟨more, by simp, ?_, fun c hc => digits.digit c (List.mem_cons_of_mem _ hc)⟩
      rintro rfl
      exact hmore le_rfl
  have h := IsUnsigned.parts hwhole hfraction (isExponent_text e)
  rw [String.toList_append, String.toList_append, List.append_assoc]
  simpa using h

theorem floatText_of_isFinite {x : Binary64} (finite : x.isFinite = true) : floatText x = Decimal.text x := by
  obtain ⟨hnan, hinfinite⟩ := Binary64.number_of_isFinite finite
  simp [floatText, hnan, hinfinite]

/-- A finite number is written as a number of the format. -/
theorem isLiteral_float {x : Binary64} (finite : x.isFinite = true) : IsLiteral (Decimal.text x).toList := by
  obtain ⟨hnan, hinfinite⟩ := Binary64.number_of_isFinite finite
  unfold Decimal.text
  simp only [hnan, hinfinite]
  by_cases hzero : x.isZero = true
  · simp only [hzero, if_true]
    exact isLiteral_signed _ (.parts isWhole_zero (Or.inr ⟨_, rfl, isWhole_zero.toAreDigits⟩) (Or.inl rfl))
  · have hleading := head?_digitChars (Decimal.shortest_ne_zero (Bool.eq_false_iff.mpr hzero))
    have hdigits := areDigits_digitChars (Decimal.shortest x).digits
    simp only [hzero]
    refine isLiteral_signed _ ?_
    split
    · exact isUnsigned_positional hdigits hleading _
    · exact isUnsigned_scientific hdigits hleading _

end Texts

end OwnershipRegistry.Json
