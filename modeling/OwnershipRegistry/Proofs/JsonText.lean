import OwnershipRegistry.Proofs.Flow
import OwnershipRegistry.Proofs.JsonNumber
import OwnershipRegistry.Proofs.JsonString

/-!
# JSON text is read back

What is written on one line holds no control character, whatever the texts in
it are, and the reader makes of it what the value says. A value says itself
where the format has its kind, and else its plain text. The induction goes over
the value and reads its text in front of any rest that does not go on with a
number.
-/

namespace OwnershipRegistry.Json

/-- The name that a key gives to a member. -/
def keyName (k : Value) : String := (keyText k).toOption.getD ""

mutual

/-- What the text of a value says. -/
def tree : Value → Tree
  | .null => .null
  | .bool b => .bool b
  | .int n => .number (toString n)
  | .float x => .number (Decimal.text x)
  | .str s => .text s
  | .list xs => .array (trees xs)
  | .tuple xs => .array (trees xs)
  | .dict entries => .object (members entries)
  | v => .text v.plain

/-- What the texts of items say. -/
def trees : List Value → List Tree
  | [] => []
  | x :: xs => tree x :: trees xs

/-- What the texts of entries say. -/
def members : List (Value × Value) → List (String × Tree)
  | [] => []
  | (k, v) :: entries => (keyName k, tree v) :: members entries

end

mutual

/-- Whether all numbers that a text gives as numbers are finite. -/
def isFinite : Value → Bool
  | .float x => x.isFinite
  | .list xs => areFinite xs
  | .tuple xs => areFinite xs
  | .dict entries => areFiniteEntries entries
  | _ => true

/-- Whether all numbers in items are finite. -/
def areFinite : List Value → Bool
  | [] => true
  | x :: xs => isFinite x && areFinite xs

/-- Whether all numbers in the values of entries are finite. -/
def areFiniteEntries : List (Value × Value) → Bool
  | [] => true
  | (_, v) :: entries => isFinite v && areFiniteEntries entries

end

/-- A text begins, and neither with a blank nor with the end of what is around it. -/
def Opens (cs : List Char) : Prop := ∃ c more, cs = c :: more ∧ isBlank c = false ∧ c ≠ ']' ∧ c ≠ '\x7d'

theorem Opens.append {cs : List Char} (h : Opens cs) (more : List Char) : Opens (cs ++ more) := by
  obtain ⟨c, rest, rfl, hopens⟩ := h
  exact ⟨c, rest ++ more, rfl, hopens⟩

theorem Opens.skipBlanks {cs : List Char} (h : Opens cs) : skipBlanks cs = cs := by
  obtain ⟨c, more, rfl, hblank, -⟩ := h
  exact List.dropWhile_cons_of_neg (by simp [hblank])

theorem Opens.after? {cs : List Char} (h : Opens cs) : after? ']' cs = none ∧ after? '\x7d' cs = none := by
  have hskip := h.skipBlanks
  obtain ⟨c, more, rfl, -, hbracket, hbrace⟩ := h
  unfold Json.after?
  rw [hskip]
  exact ⟨if_neg hbracket, if_neg hbrace⟩

/-- A text says something to a reader: it holds no control character, it does not begin with a blank or
with the end of what is around it, and the reader makes of it what it says, whatever follows. -/
structure Says {α : Type} (read : Nat → List Char → Option (α × List Char)) (cs : List Char) (said : α) :
    Prop where
  visible : Visible cs
  opens : Opens cs
  reads : ∀ fuel rest, cs.length ≤ fuel → EndsNumber rest → read fuel (cs ++ rest) = some (said, rest)

theorem opens_of_isNumberChar {c : Char} (h : isNumberChar c = true) (more : List Char) : Opens (c :: more) := by
  refine ⟨c, more, rfl, Bool.eq_false_iff.mpr fun hblank => ?_, ?_, ?_⟩
  · simp only [isBlank, Bool.or_eq_true, beq_iff_eq] at hblank
    rcases hblank with ((rfl | rfl) | rfl) | rfl <;> revert h <;> decide
  · rintro rfl
    revert h
    decide
  · rintro rfl
    revert h
    decide

/-- A blank in front changes nothing. -/
theorem value?_blank (fuel : Nat) (cs : List Char) : value? fuel (' ' :: cs) = value? fuel cs := by
  cases fuel with
  | zero => rfl
  | succ fuel => rfl

theorem items?_blank (fuel : Nat) (cs : List Char) : items? fuel (' ' :: cs) = items? fuel cs := by
  cases fuel with
  | zero => rfl
  | succ fuel => rw [items?, items?, value?_blank]

theorem members?_blank (fuel : Nat) (cs : List Char) : members? fuel (' ' :: cs) = members? fuel cs := by
  cases fuel with
  | zero => rfl
  | succ fuel => rfl

theorem value?_array {fuel : Nat} {cs : List Char} (h : after? ']' cs = none) :
    value? (fuel + 1) ('[' :: cs) = (items? fuel cs).map fun r => (.array r.1, r.2) := by
  have hskip : skipBlanks ('[' :: cs) = '[' :: cs := rfl
  have hword : opensNumber ('[' :: cs) = false := rfl
  rw [value?]
  simp only [hskip, hword, h]
  rfl

theorem value?_object {fuel : Nat} {cs : List Char} (h : after? '\x7d' cs = none) :
    value? (fuel + 1) ('\x7b' :: cs) = (members? fuel cs).map fun r => (.object r.1, r.2) := by
  have hskip : skipBlanks ('\x7b' :: cs) = '\x7b' :: cs := rfl
  have hword : opensNumber ('\x7b' :: cs) = false := rfl
  rw [value?]
  simp only [hskip, hword, h]
  rfl

theorem opens_quoted (s : String) : Opens (stringText stringChar s).toList := by
  rw [stringText, String.toList_ofList]
  exact ⟨'"', _, rfl, rfl, by decide, by decide⟩

theorem after?_quoted (s : String) (rest : List Char) :
    after? '"' ((stringText stringChar s).toList ++ rest) =
      some (s.toList.flatMap stringChar ++ '"' :: rest) := by
  rw [stringText, String.toList_ofList, List.append_assoc]
  rfl

namespace Says

variable {cs more : List Char} {said : Tree} {items : List Tree} {members : List (String × Tree)}

/-- A value is read up to a mark that no number has. -/
theorem before (h : Says value? cs said) {mark : Char} (ends : isNumberChar mark = false) {fuel : Nat}
    (enough : cs.length ≤ fuel) (rest : List Char) :
    value? fuel (cs ++ mark :: rest) = some (said, mark :: rest) := by
  refine h.reads fuel (mark :: rest) enough fun c hc => ?_
  obtain rfl : mark = c := Option.some.inj hc
  exact ends

/-- What has no parts is read in one step. -/
theorem scalar (visible : Visible cs) (opens : Opens cs)
    (reads : ∀ fuel rest, EndsNumber rest → value? (fuel + 1) (cs ++ rest) = some (said, rest)) :
    Says value? cs said := by
  refine ⟨visible, opens, ?_⟩
  obtain ⟨c, more, rfl, -⟩ := opens
  rintro (_ | fuel) rest hfuel hends
  · cases hfuel
  · exact reads fuel rest hends

theorem null : Says value? "null".toList .null :=
  scalar (.of_all rfl) ⟨'n', _, rfl, rfl, by decide, by decide⟩ fun _ _ _ => rfl

theorem bool (b : Bool) : Says value? (if b then "true" else "false").toList (.bool b) := by
  cases b with
  | true => exact scalar (.of_all rfl) ⟨'t', _, rfl, rfl, by decide, by decide⟩ fun _ _ _ => rfl
  | false => exact scalar (.of_all rfl) ⟨'f', _, rfl, rfl, by decide, by decide⟩ fun _ _ _ => rfl

theorem emptyArray : Says value? ['[', ']'] (.array []) :=
  scalar (.of_all rfl) ⟨'[', _, rfl, rfl, by decide, by decide⟩ fun _ _ _ => rfl

theorem emptyObject : Says value? ['\x7b', '\x7d'] (.object []) :=
  scalar (.of_all rfl) ⟨'\x7b', _, rfl, rfl, by decide, by decide⟩ fun _ _ _ => rfl

theorem literal {s : String} (h : IsLiteral s.toList) : Says value? s.toList (.number s) := by
  have hopens : Opens s.toList := by
    have hfirst := h.opens []
    rw [List.append_nil] at hfirst
    cases hs : s.toList with
    | nil => simp [hs, opensNumber] at hfirst
    | cons c more => exact opens_of_isNumberChar (h.isNumberChar c (hs ▸ List.mem_cons_self)) more
  refine scalar (fun c hc => visible_of_isNumberChar (h.isNumberChar c hc)) hopens fun fuel rest hends => ?_
  rw [value?, (hopens.append rest).skipBlanks]
  simp only [h.opens rest, if_true]
  exact number?_append h hends

theorem text (s : String) : Says value? (stringText stringChar s).toList (.text s) := by
  refine scalar (visible_quoted s) (opens_quoted s) fun fuel rest _ => ?_
  have hread : value? (fuel + 1) ('"' :: (s.toList.flatMap stringChar ++ '"' :: rest)) =
      (string? (s.toList.flatMap stringChar ++ '"' :: rest)).map fun r => (.text r.1, r.2) := rfl
  rw [stringText, String.toList_ofList, List.append_assoc]
  refine hread.trans ?_
  rw [string?_written]
  rfl

theorem array (h : Says items? cs items) : Says value? ('[' :: cs) (.array items) where
  visible := h.visible.cons (by decide)
  opens := ⟨'[', cs, rfl, rfl, by decide, by decide⟩
  reads := by
    rintro (_ | fuel) rest hfuel hends
    · cases hfuel
    · have hopen := (h.opens.append rest).after?.1
      have hitems := h.reads fuel rest (Nat.le_of_succ_le_succ hfuel) hends
      rw [List.cons_append, value?_array hopen, hitems]
      rfl

theorem object (h : Says members? cs members) : Says value? ('\x7b' :: cs) (.object members) where
  visible := h.visible.cons (by decide)
  opens := ⟨'\x7b', cs, rfl, rfl, by decide, by decide⟩
  reads := by
    rintro (_ | fuel) rest hfuel hends
    · cases hfuel
    · have hopen := (h.opens.append rest).after?.2
      have hmembers := h.reads fuel rest (Nat.le_of_succ_le_succ hfuel) hends
      rw [List.cons_append, value?_object hopen, hmembers]
      rfl

/-- The last item, before the bracket that ends the items. -/
theorem lastItem (h : Says value? cs said) : Says items? (cs ++ [']']) [said] where
  visible := h.visible.append (.of_all rfl)
  opens := h.opens.append [']']
  reads := by
    rintro (_ | fuel) rest hfuel -
    · simp at hfuel
    · have hfirst : value? fuel (cs ++ ']' :: rest) = some (said, ']' :: rest) :=
        h.before rfl (by simpa using hfuel) rest
      rw [List.append_assoc, List.singleton_append, items?, hfirst]
      rfl

/-- An item before other ones. -/
theorem moreItems (h : Says value? cs said) (h' : Says items? more items) :
    Says items? (cs ++ ',' :: ' ' :: more) (said :: items) where
  visible := h.visible.append ((h'.visible.cons (by decide)).cons (by decide))
  opens := h.opens.append _
  reads := by
    rintro (_ | fuel) rest hfuel hends
    · simp at hfuel
    · simp only [List.length_append, List.length_cons] at hfuel
      have hfirst : value? fuel (cs ++ ',' :: ' ' :: (more ++ rest)) =
          some (said, ',' :: ' ' :: (more ++ rest)) := h.before rfl (by omega) _
      have hrest := h'.reads fuel rest (by omega) hends
      have hclosing : after? ']' (',' :: ' ' :: (more ++ rest)) = none := rfl
      have hcomma : after? ',' (',' :: ' ' :: (more ++ rest)) = some (' ' :: (more ++ rest)) := rfl
      rw [List.append_assoc, List.cons_append, List.cons_append, items?, hfirst]
      simp only [Option.bind_eq_bind, Option.bind_some, hclosing, hcomma, items?_blank, hrest]
      rfl

/-- The last member, before the brace that ends the members. -/
theorem lastMember (name : String) (h : Says value? cs said) :
    Says members? ((stringText stringChar name).toList ++ ':' :: ' ' :: (cs ++ ['\x7d'])) [(name, said)] where
  visible := (visible_quoted name).append (((h.visible.append (.of_all rfl)).cons (by decide)).cons (by decide))
  opens := (opens_quoted name).append _
  reads := by
    rintro (_ | fuel) rest hfuel -
    · simp at hfuel
    · simp only [List.length_append, List.length_cons, List.length_nil] at hfuel
      have hvalue : value? fuel (cs ++ '\x7d' :: rest) = some (said, '\x7d' :: rest) := by
        refine h.reads fuel _ (by omega) fun c hc => ?_
        obtain rfl : '\x7d' = c := Option.some.inj hc
        rfl
      have hcolon : after? ':' (':' :: ' ' :: (cs ++ '\x7d' :: rest)) = some (' ' :: (cs ++ '\x7d' :: rest)) := rfl
      have hclosing : after? '\x7d' ('\x7d' :: rest) = some rest := rfl
      rw [List.append_assoc, List.cons_append, List.cons_append, List.append_assoc, List.singleton_append,
        members?, after?_quoted]
      simp only [Option.bind_eq_bind, Option.bind_some, string?_written, hcolon, value?_blank, hvalue, hclosing]
      rfl

/-- A member before other ones. -/
theorem moreMembers (name : String) (h : Says value? cs said) (h' : Says members? more members) :
    Says members? ((stringText stringChar name).toList ++ ':' :: ' ' :: (cs ++ ',' :: ' ' :: more))
      ((name, said) :: members) where
  visible := (visible_quoted name).append (((h.visible.append ((h'.visible.cons (by decide)).cons (by decide))).cons
    (by decide)).cons (by decide))
  opens := (opens_quoted name).append _
  reads := by
    rintro (_ | fuel) rest hfuel hends
    · simp at hfuel
    · simp only [List.length_append, List.length_cons] at hfuel
      have hvalue : value? fuel (cs ++ ',' :: ' ' :: (more ++ rest)) =
          some (said, ',' :: ' ' :: (more ++ rest)) := h.before rfl (by omega) _
      have hrest := h'.reads fuel rest (by omega) hends
      have hcolon : after? ':' (':' :: ' ' :: (cs ++ ',' :: ' ' :: (more ++ rest))) =
          some (' ' :: (cs ++ ',' :: ' ' :: (more ++ rest))) := rfl
      have hclosing : after? '\x7d' (',' :: ' ' :: (more ++ rest)) = none := rfl
      have hcomma : after? ',' (',' :: ' ' :: (more ++ rest)) = some (' ' :: (more ++ rest)) := rfl
      rw [List.append_assoc, List.cons_append, List.cons_append, List.append_assoc, List.cons_append,
        List.cons_append, members?, after?_quoted]
      simp only [Option.bind_eq_bind, Option.bind_some, string?_written, hcolon, value?_blank, hvalue, hclosing,
        hcomma, members?_blank, hrest]
      rfl

end Says

/-- What the format lacks says its plain text. -/
theorem says_plain {v : Value} (lacked : compact v = v.written.map (stringText stringChar)) (s : String)
    (h : compact v = .ok s) : Says value? s.toList (.text v.plain) := by
  obtain ⟨plain, hplain, rfl⟩ := map_eq_ok_iff.mp (lacked ▸ h)
  obtain rfl := Value.written_eq_ok hplain
  exact .text v.plain

theorem keyName_of_ok {k : Value} {s : String} (h : keyText k = .ok s) : keyName k = s := by
  rw [keyName, h]
  rfl

/-- The texts of items before a bracket: nothing, or some that the reader makes the items of. -/
def SayItems (s : String) (items : List Tree) : Prop :=
  s = "" ∧ items = [] ∨ Says items? (s.toList ++ [']']) items

/-- The texts of entries before a brace. -/
def SayMembers (s : String) (members : List (String × Tree)) : Prop :=
  s = "" ∧ members = [] ∨ Says members? (s.toList ++ ['\x7d']) members

theorem SayItems.array {s : String} {items : List Tree} (h : SayItems s items) :
    Says value? ("[" ++ s ++ "]").toList (.array items) := by
  rcases h with ⟨rfl, rfl⟩ | h
  · exact .emptyArray
  · rw [String.toList_append, String.toList_append, List.append_assoc]
    exact h.array

theorem SayMembers.object {s : String} {members : List (String × Tree)} (h : SayMembers s members) :
    Says value? ("\x7b" ++ s ++ "\x7d").toList (.object members) := by
  rcases h with ⟨rfl, rfl⟩ | h
  · exact .emptyObject
  · rw [String.toList_append, String.toList_append, List.append_assoc]
    exact h.object

theorem SayItems.cons {first rest : String} {said next : Tree} {items : List Tree}
    (h' : SayItems rest (next :: items)) (h : Says value? first.toList said) :
    SayItems (first ++ ", " ++ rest) (said :: next :: items) := by
  rcases h' with ⟨-, hnone⟩ | h'
  · cases hnone
  · have hmore := h.moreItems h'
    refine Or.inr ?_
    rw [String.toList_append, String.toList_append, List.append_assoc, List.append_assoc]
    exact hmore

theorem SayMembers.one {name value : String} {said : Tree} (h : Says value? value.toList said) :
    SayMembers (stringText stringChar name ++ ": " ++ value) [(name, said)] := by
  have hlast := h.lastMember name
  refine Or.inr ?_
  rw [String.toList_append, String.toList_append, List.append_assoc, List.append_assoc]
  exact hlast

theorem SayMembers.cons {name value rest : String} {said : Tree} {next : String × Tree}
    {members : List (String × Tree)} (h' : SayMembers rest (next :: members))
    (h : Says value? value.toList said) :
    SayMembers (stringText stringChar name ++ ": " ++ value ++ ", " ++ rest) ((name, said) :: next :: members) := by
  rcases h' with ⟨-, hnone⟩ | h'
  · cases hnone
  · have hmore := h.moreMembers name h'
    refine Or.inr ?_
    rw [String.toList_append, String.toList_append, String.toList_append, String.toList_append, List.append_assoc,
      List.append_assoc, List.append_assoc, List.append_assoc]
    exact hmore

mutual

/-- The text of a value says the value. -/
theorem says_compact : ∀ (v : Value), isFinite v = true → ∀ s, compact v = .ok s →
    Says value? s.toList (tree v)
  | .null => by
      intro _ s h
      rw [compact] at h
      obtain rfl := Except.ok.inj h
      exact .null
  | .bool b => by
      intro _ s h
      rw [compact] at h
      obtain rfl := Except.ok.inj h
      exact .bool b
  | .int n => by
      intro _ s h
      rw [compact, intText] at h
      split at h
      · obtain rfl := Except.ok.inj h
        exact .literal (isLiteral_int n)
      · cases h
  | .float x => by
      intro finite s h
      rw [compact, floatText_of_isFinite finite] at h
      obtain rfl := Except.ok.inj h
      exact .literal (isLiteral_float finite)
  | .str text => by
      intro _ s h
      rw [compact] at h
      obtain rfl := Except.ok.inj h
      exact .text text
  | .codes cs => fun _ => says_plain (by simp only [compact])
  | .bytes bs => fun _ => says_plain (by simp only [compact])
  | .day d => fun _ => says_plain (by simp only [compact])
  | .instant t => fun _ => says_plain (by simp only [compact])
  | .set xs => fun _ => says_plain (by simp only [compact])
  | .link table number => by
      intro _ s h
      rw [compact] at h
      cases h
  | .list xs => by
      intro finite s h
      rw [compact] at h
      obtain ⟨items, hitems, rfl⟩ := map_eq_ok_iff.mp h
      exact (say_items xs finite items hitems).array
  | .tuple xs => by
      intro finite s h
      rw [compact] at h
      obtain ⟨items, hitems, rfl⟩ := map_eq_ok_iff.mp h
      exact (say_items xs finite items hitems).array
  | .dict entries => by
      intro finite s h
      rw [compact] at h
      obtain ⟨fields, hfields, rfl⟩ := map_eq_ok_iff.mp h
      exact (say_members entries finite fields hfields).object

theorem say_items : ∀ (xs : List Value), areFinite xs = true → ∀ s, compactItems xs = .ok s →
    SayItems s (trees xs)
  | [] => by
      intro _ s h
      rw [compactItems] at h
      obtain rfl := Except.ok.inj h
      exact Or.inl ⟨rfl, rfl⟩
  | [x] => by
      intro finite s h
      obtain ⟨hx, -⟩ := Bool.and_eq_true_iff.mp finite
      rw [compactItems] at h
      exact Or.inr (says_compact x hx s h).lastItem
  | x :: y :: ys => by
      intro finite s h
      obtain ⟨hx, hys⟩ := Bool.and_eq_true_iff.mp finite
      rw [compactItems.eq_3 x (y :: ys) nofun] at h
      obtain ⟨first, hfirst, h⟩ := bind_eq_ok.mp h
      obtain ⟨rest, hrest, h⟩ := bind_eq_ok.mp h
      obtain rfl := Except.ok.inj h
      exact (say_items (y :: ys) hys rest hrest).cons (says_compact x hx first hfirst)

theorem say_members : ∀ (entries : List (Value × Value)), areFiniteEntries entries = true →
    ∀ s, compactEntries entries = .ok s → SayMembers s (members entries)
  | [] => by
      intro _ s h
      rw [compactEntries] at h
      obtain rfl := Except.ok.inj h
      exact Or.inl ⟨rfl, rfl⟩
  | [(k, v)] => by
      intro finite s h
      obtain ⟨hv, -⟩ := Bool.and_eq_true_iff.mp finite
      rw [compactEntries] at h
      obtain ⟨key, hkey, h⟩ := bind_eq_ok.mp h
      obtain ⟨value, hvalue, h⟩ := bind_eq_ok.mp h
      obtain rfl := Except.ok.inj h
      obtain rfl : keyName k = key := keyName_of_ok hkey
      exact .one (says_compact v hv value hvalue)
  | (k, v) :: (k', v') :: entries => by
      intro finite s h
      obtain ⟨hv, hentries⟩ := Bool.and_eq_true_iff.mp finite
      rw [compactEntries.eq_3 k v ((k', v') :: entries) nofun] at h
      obtain ⟨key, hkey, h⟩ := bind_eq_ok.mp h
      obtain ⟨value, hvalue, h⟩ := bind_eq_ok.mp h
      obtain ⟨rest, hrest, h⟩ := bind_eq_ok.mp h
      obtain rfl := Except.ok.inj h
      obtain rfl : keyName k = key := keyName_of_ok hkey
      exact (say_members ((k', v') :: entries) hentries rest hrest).cons (says_compact v hv value hvalue)

end

/-- The reader makes of the text of a value what the value says. -/
theorem read?_compact {v : Value} {s : String} (finite : isFinite v = true) (h : compact v = .ok s) :
    read? s = some (tree v) := by
  have hread := (says_compact v finite s h).reads s.toList.length [] le_rfl nofun
  rw [List.append_nil] at hread
  unfold read?
  simp only [hread]
  rfl

end OwnershipRegistry.Json
