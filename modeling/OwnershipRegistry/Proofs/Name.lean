import OwnershipRegistry.Name.Check

/-!
# Names and tags

No name has a hyphen, so the first hyphen of a tag is the one that joins its
two names, and a tag determines them.
-/

namespace OwnershipRegistry

namespace Name

/-- Characters run to the end if all of them are name characters, but for a line break as the last one. -/
theorem runsToEnd_iff {cs : List Char} : runsToEnd cs = true ↔
    ∃ stem : List Char, (∀ c ∈ stem, isNameChar c = true) ∧ (cs = stem ∨ cs = stem ++ ['\n']) := by
  constructor
  · intro h
    induction cs with
    | nil => exact ⟨[], List.forall_mem_nil _, Or.inl rfl⟩
    | cons c rest ih =>
        by_cases hend : c = '\n' ∧ rest = []
        · obtain ⟨rfl, rfl⟩ := hend
          exact ⟨[], List.forall_mem_nil _, Or.inr rfl⟩
        · rw [runsToEnd.eq_3 c rest fun hc hrest => hend ⟨hc, hrest⟩, Bool.and_eq_true] at h
          obtain ⟨stem, hstem, hrest⟩ := ih h.2
          refine ⟨c :: stem, List.forall_mem_cons.mpr ⟨h.1, hstem⟩, ?_⟩
          exact hrest.imp (congrArg (c :: ·)) (congrArg (c :: ·))
  · rintro ⟨stem, hstem, hcs⟩
    induction stem generalizing cs with
    | nil => rcases hcs with rfl | rfl <;> rfl
    | cons c rest ih =>
        obtain ⟨hc, hrest⟩ := List.forall_mem_cons.mp hstem
        have hbreak : c ≠ '\n' := by
          rintro rfl
          exact absurd hc (by decide)
        have hcons : ∀ later, runsToEnd later = true → runsToEnd (c :: later) = true := by
          intro later hlater
          rw [runsToEnd.eq_3 c later fun heq _ => hbreak heq, hc, hlater]
          rfl
        rcases hcs with rfl | rfl
        · exact hcons _ (ih hrest (Or.inl rfl))
        · exact hcons _ (ih hrest (Or.inr rfl))

/-- A name is valid if it has name characters alone, at least one of them, or a line break after them. -/
theorem isValid_iff {name : String} : isValid name = true ↔ ∃ stem : List Char, stem ≠ [] ∧
    (∀ c ∈ stem, isNameChar c = true) ∧ (name.toList = stem ∨ name.toList = stem ++ ['\n']) := by
  unfold isValid
  cases name.toList with
  | nil => simp
  | cons c rest =>
      simp only [Bool.and_eq_true, runsToEnd_iff]
      constructor
      · rintro ⟨hc, stem, hstem, hrest⟩
        refine ⟨c :: stem, List.cons_ne_nil c stem, List.forall_mem_cons.mpr ⟨hc, hstem⟩, ?_⟩
        exact hrest.imp (congrArg (c :: ·)) (congrArg (c :: ·))
      · rintro ⟨stem, hne, hstem, hcs⟩
        obtain ⟨first, later, rfl⟩ := List.exists_cons_of_ne_nil hne
        obtain ⟨hfirst, hlater⟩ := List.forall_mem_cons.mp hstem
        rcases hcs with hcs | hcs
        · obtain ⟨rfl, rfl⟩ := List.cons.inj hcs
          exact ⟨hfirst, _, hlater, Or.inl rfl⟩
        · obtain ⟨rfl, rfl⟩ := List.cons.inj hcs
          exact ⟨hfirst, _, hlater, Or.inr rfl⟩

/-- No valid name has a hyphen. -/
theorem hyphen_not_mem {name : String} (h : isValid name = true) : '-' ∉ name.toList := by
  obtain ⟨stem, -, hstem, hname⟩ := isValid_iff.mp h
  have hfree : '-' ∉ stem := fun hmem => absurd (hstem _ hmem) (by decide)
  rcases hname with hname | hname
  · rwa [hname]
  · rw [hname]
    simpa using hfree

end Name

namespace Tag

theorem join_toList (space name : String) :
    (join space name).toList = space.toList ++ '-' :: name.toList := by
  simp [join]

/-- Cutting finds the first hyphen. -/
theorem eq_of_cutAtHyphen {cs before after : List Char} (h : cutAtHyphen cs = some (before, after)) :
    cs = before ++ '-' :: after := by
  induction cs generalizing before with
  | nil => simp [cutAtHyphen] at h
  | cons c rest ih =>
      by_cases hc : c = '-'
      · obtain ⟨rfl, rfl⟩ : [] = before ∧ rest = after := by simpa [cutAtHyphen, hc] using h
        simp [hc]
      · obtain ⟨p, hp, heq⟩ : ∃ p, cutAtHyphen rest = some p ∧ (c :: p.1, p.2) = (before, after) := by
          simpa [cutAtHyphen, hc] using h
        obtain ⟨rfl, rfl⟩ := Prod.mk.inj heq
        have hrest : rest = p.1 ++ '-' :: p.2 := ih hp
        rw [hrest]
        rfl

/-- A text that splits by itself is the tag of the two valid names it splits into. -/
theorem eq_join_of_split? {tag space name : String} (h : split? tag none = some (space, name)) :
    tag = join space name ∧ Name.isValid space = true ∧ Name.isValid name = true := by
  unfold split? at h
  cases hcut : cutAtHyphen tag.toList with
  | none => simp [hcut] at h
  | some pair =>
      obtain ⟨before, after⟩ := pair
      obtain ⟨⟨hspace, hname⟩, rfl, rfl⟩ :
          (Name.isValid (String.ofList before) = true ∧ Name.isValid (String.ofList after) = true) ∧
            String.ofList before = space ∧ String.ofList after = name := by
        simpa [hcut] using h
      refine ⟨?_, hspace, hname⟩
      apply String.toList_injective
      rw [join_toList, eq_of_cutAtHyphen hcut]
      simp

/-- A hyphen that comes after none is where a text is cut. -/
theorem cutAtHyphen_of_not_mem {before : List Char} (after : List Char) (h : '-' ∉ before) :
    cutAtHyphen (before ++ '-' :: after) = some (before, after) := by
  induction before with
  | nil => rfl
  | cons c rest ih =>
      have hc : c ≠ '-' := fun heq => h (heq ▸ List.mem_cons_self)
      have hlater := ih fun hmem => h (List.mem_cons_of_mem c hmem)
      simp [cutAtHyphen, hc, hlater]

/-- The tag of two valid names splits into them, whatever the default is. -/
theorem split?_join {space name : String} (hspace : Name.isValid space = true)
    (hname : Name.isValid name = true) (default : Option String) :
    split? (join space name) default = some (space, name) := by
  have hcut : cutAtHyphen (join space name).toList = some (space.toList, name.toList) := by
    rw [join_toList]
    exact cutAtHyphen_of_not_mem name.toList (Name.hyphen_not_mem hspace)
  simp [split?, hcut, hspace, hname]

/-- Only the two names themselves join to the tag of two valid names. -/
theorem join_inj {space name other last : String} (hspace : Name.isValid space = true)
    (hname : Name.isValid name = true) : join other last = join space name ↔ other = space ∧ last = name := by
  constructor
  · intro hsame
    have hchars := congrArg String.toList hsame
    rw [join_toList, join_toList] at hchars
    -- There is one hyphen in all, so the other namespace has none and ends where the text is cut.
    have hcount := congrArg (List.count '-') hchars
    simp only [List.count_append, List.count_cons_self,
      List.count_eq_zero.mpr (Name.hyphen_not_mem hspace),
      List.count_eq_zero.mpr (Name.hyphen_not_mem hname)] at hcount
    have hfree : '-' ∉ other.toList := List.count_eq_zero.mp (by omega)
    have hcut := cutAtHyphen_of_not_mem last.toList hfree
    rw [hchars, cutAtHyphen_of_not_mem _ (Name.hyphen_not_mem hspace)] at hcut
    obtain ⟨hfirst, hsecond⟩ := Prod.mk.inj (Option.some.inj hcut)
    exact ⟨String.toList_injective hfirst.symm, String.toList_injective hsecond.symm⟩
  · rintro ⟨rfl, rfl⟩
    rfl

/-- A text without a hyphen is not cut. -/
theorem cutAtHyphen_eq_none {cs : List Char} (h : '-' ∉ cs) : cutAtHyphen cs = none := by
  induction cs with
  | nil => rfl
  | cons c rest ih =>
      have hc : c ≠ '-' := fun heq => h (heq ▸ List.mem_cons_self)
      have hlater := ih fun hmem => h (List.mem_cons_of_mem c hmem)
      simp [cutAtHyphen, hc, hlater]

/-- A text splits if it is the tag of two valid names, or a valid name that goes with the default. The
default may be any text. -/
theorem split?_eq_some_iff {tag space name : String} {default : Option String} :
    split? tag default = some (space, name) ↔ Name.isValid name = true ∧
      (Name.isValid space = true ∧ tag = join space name ∨ default = some space ∧ tag = name) := by
  constructor
  · intro h
    cases hcut : cutAtHyphen tag.toList with
    | some pair =>
        have hsplit : split? tag none = some (space, name) := by
          unfold split? at h ⊢
          rwa [hcut] at h ⊢
        obtain ⟨htag, hspace, hname⟩ := eq_join_of_split? hsplit
        exact ⟨hname, Or.inl ⟨hspace, htag⟩⟩
    | none =>
        unfold split? at h
        rw [hcut] at h
        cases default with
        | none => cases h
        | some other =>
            obtain ⟨hname, rfl, rfl⟩ : Name.isValid tag = true ∧ other = space ∧ tag = name := by
              simpa using h
            exact ⟨hname, Or.inr ⟨rfl, rfl⟩⟩
  · rintro ⟨hname, ⟨hspace, rfl⟩ | ⟨rfl, rfl⟩⟩
    · exact split?_join hspace hname default
    · simp [split?, cutAtHyphen_eq_none (Name.hyphen_not_mem hname), hname]

/-- A tag whose namespace is no name does not split, wherever its hyphens are. -/
theorem split?_join_eq_none {space : String} (h : Name.isValid space = false) (name : String)
    (default : Option String) : split? (join space name) default = none := by
  cases hsplit : split? (join space name) default with
  | none => rfl
  | some names =>
      exfalso
      obtain ⟨hname, ⟨hspace, htag⟩ | ⟨-, htag⟩⟩ := split?_eq_some_iff.mp hsplit
      · obtain ⟨rfl, -⟩ := (join_inj hspace hname).mp htag
        rw [h] at hspace
        cases hspace
      · apply Name.hyphen_not_mem hname
        rw [← htag, join_toList]
        exact List.mem_append_right _ List.mem_cons_self

section Split

variable {tag full : String} {default : Option String} {pair : String × String}

theorem split_eq_ok_iff : split tag default = .ok pair ↔ split? tag default = some pair := by
  unfold split
  cases split? tag default <;> simp

theorem split_eq_error_iff {failure : Failure} :
    split tag default = .error failure ↔ split? tag default = none ∧ .invalidTag tag = failure := by
  unfold split
  cases split? tag default <;> simp

/-- A tag is written out by joining the names that it splits into. -/
theorem full_eq_ok_iff : Tag.full tag default = .ok full ↔
    ∃ space name, split? tag default = some (space, name) ∧ join space name = full := by
  unfold Tag.full split
  cases split? tag default with
  | none => simp [Except.map]
  | some pair =>
      simp only [Except.map, Except.ok.injEq, Option.some.injEq]
      constructor
      · exact fun h => ⟨pair.1, pair.2, rfl, h⟩
      · rintro ⟨space, name, rfl, h⟩
        exact h

end Split

/-- The tag of two valid names is written out already. -/
theorem full_join {space name : String} (hspace : Name.isValid space = true)
    (hname : Name.isValid name = true) (default : Option String) :
    full (join space name) default = .ok (join space name) :=
  full_eq_ok_iff.mpr ⟨space, name, split?_join hspace hname default, rfl⟩

end Tag

end OwnershipRegistry
