import OwnershipRegistry.Proofs.IntSet
import OwnershipRegistry.Proofs.Name
import OwnershipRegistry.Proofs.Table
import OwnershipRegistry.Registry.Store
import OwnershipRegistry.Security.Validator

/-!
# Sound tables

A table is sound when its index belongs to its records and every record is
well formed. Each operation of a table is described by when it succeeds and
by what it then puts, and keeps the table sound.
-/

namespace OwnershipRegistry

/-- A computation with a continuation succeeds exactly when both do. -/
theorem bind_eq_ok {ε α β : Type} {x : Except ε α} {f : α → Except ε β} {b : β} :
    (x >>= f) = .ok b ↔ ∃ a, x = .ok a ∧ f a = .ok b := by
  cases x <;> simp [bind, Except.bind]

/-- A check of what was found gives what was found, exactly when it is allowed. -/
theorem checked_eq_ok_iff {ρ : Type} {found : Except Denial ρ} {allowed : ρ → Prop}
    [DecidablePred allowed] {denial : ρ → Denial} {r : ρ} :
    (do
      let r ← found
      if allowed r then pure r else throw (denial r)) = .ok r ↔ found = .ok r ∧ allowed r := by
  rw [bind_eq_ok]
  constructor
  · rintro ⟨s, hs, h⟩
    by_cases hallowed : allowed s
    · rw [if_pos hallowed] at h
      cases h
      exact ⟨hs, hallowed⟩
    · rw [if_neg hallowed] at h
      cases h
  · rintro ⟨hr, hallowed⟩
    exact ⟨r, hr, by rw [if_pos hallowed]; rfl⟩

section Writers

variable {ρ τ : Type} {owned : Except Denial ρ} {writers : ρ → Writers} {kept t : τ}
  {writer : Int} {changed : Bool} (put : ρ → Writers → τ)

/-- Adding a writer to a record puts the enlarged set, also where nothing is added. -/
theorem adding_eq_ok_iff
    (same : ∀ r, owned = .ok r → writer ∈ writers r → put r (IntSet.insert writer (writers r)) = kept) :
    (do
      let r ← owned
      if (writers r).contains writer then pure (false, kept)
      else pure (true, put r (IntSet.insert writer (writers r)))) = .ok (changed, t) ↔
    ∃ r, owned = .ok r ∧ changed = (!(writers r).contains writer) ∧
      t = put r (IntSet.insert writer (writers r)) := by
  rw [bind_eq_ok]
  apply exists_congr
  intro r
  apply and_congr_right
  intro hr
  by_cases hw : (writers r).contains writer = true
  · rw [if_pos hw, same r hr (List.contains_iff_mem.mp hw), hw]
    simp [pure, Except.pure, eq_comm]
  · rw [if_neg hw, Bool.eq_false_iff.mpr hw]
    simp [pure, Except.pure, eq_comm]

/-- Removing a writer from a record puts the reduced set, also where nothing is removed. -/
theorem removing_eq_ok_iff
    (same : ∀ r, owned = .ok r → writer ∉ writers r → put r (IntSet.erase writer (writers r)) = kept) :
    (do
      let r ← owned
      if (writers r).contains writer then pure (true, put r (IntSet.erase writer (writers r)))
      else pure (false, kept)) = .ok (changed, t) ↔
    ∃ r, owned = .ok r ∧ changed = (writers r).contains writer ∧
      t = put r (IntSet.erase writer (writers r)) := by
  rw [bind_eq_ok]
  apply exists_congr
  intro r
  apply and_congr_right
  intro hr
  by_cases hw : (writers r).contains writer = true
  · rw [if_pos hw, hw]
    simp [pure, Except.pure, eq_comm]
  · rw [if_neg hw, same r hr fun h => hw (List.contains_iff_mem.mpr h), Bool.eq_false_iff.mpr hw]
    simp [pure, Except.pure, eq_comm]

end Writers

/-- A well-formed namespace record. -/
structure NamespaceRecord.Proper (r : NamespaceRecord) : Prop where
  named : Name.isValid r.name = true
  positive : 0 < r.selector
  bounded : r.selector < feltPrime
  ascending : IntSet.Ascending r.writers

/-- A well-formed resource record. It has a class exactly from its first upgrade on, which is its
second version. -/
structure ResourceRecord.Proper (r : ResourceRecord) : Prop where
  spaceNamed : Name.isValid r.space = true
  named : Name.isValid r.name = true
  positive : 0 < r.selector
  bounded : r.selector < feltPrime
  ascending : IntSet.Ascending r.writers
  classed : r.classHash = none ↔ r.version = 1
  versioned : 1 ≤ r.version

/-- Other writers, also in ascending order, leave a record well formed. -/
theorem NamespaceRecord.Proper.withWriters {r : NamespaceRecord} (h : r.Proper) {writers : Writers}
    (ascending : IntSet.Ascending writers) : { r with writers }.Proper :=
  ⟨h.named, h.positive, h.bounded, ascending⟩

theorem ResourceRecord.Proper.withWriters {r : ResourceRecord} (h : r.Proper) {writers : Writers}
    (ascending : IntSet.Ascending writers) : { r with writers }.Proper :=
  ⟨h.spaceNamed, h.named, h.positive, h.bounded, ascending, h.classed, h.versioned⟩

/-- An upgraded record has a class and is beyond its first version. -/
theorem ResourceRecord.Proper.upgraded {r : ResourceRecord} (h : r.Proper) (classHash : Int) :
    { r with classHash := some classHash, version := r.version + 1 }.Proper where
  spaceNamed := h.spaceNamed
  named := h.named
  positive := h.positive
  bounded := h.bounded
  ascending := h.ascending
  classed := by
    have hversion := h.versioned
    constructor
    · intro hnone
      cases hnone
    · intro hone
      simp only at hone
      omega
  versioned := Nat.le_add_left 1 r.version

namespace NamespaceTable

variable {t t' : NamespaceTable} {p : Permissions} {name : String} {selector owner writer : Int}
  {r : NamespaceRecord}

/-- The index belongs to the records, and every record is well formed. -/
structure Sound (t : NamespaceTable) : Prop where
  indexed : Indexed NamespaceRecord.name NamespaceRecord.selector t.records t.selectors
  proper : ∀ key r, t.records.get? key = some r → r.Proper

theorem sound_empty : empty.Sound where
  indexed := Indexed.empty _ _
  proper := by simp [empty]

theorem require_eq_ok_iff : t.require selector = .ok r ↔ t.records.get? selector = some r := by
  unfold require
  cases t.records.get? selector <;> simp

theorem checkWrite_eq_ok_iff : t.checkWrite p selector = .ok r ↔
    t.records.get? selector = some r ∧ (r.owner = p.caller ∨ p.caller ∈ r.writers) := by
  rw [← require_eq_ok_iff, ← Permissions.canWrite_iff]
  exact checked_eq_ok_iff

theorem checkOwner_eq_ok_iff : t.checkOwner p selector = .ok r ↔
    t.records.get? selector = some r ∧ r.owner = p.caller := by
  rw [← require_eq_ok_iff, ← Permissions.owns_iff]
  exact checked_eq_ok_iff

/-- A registration succeeds exactly when neither the selector nor the name is bound, and then puts
a record without writers under both. -/
theorem register_eq_ok_iff : t.register name selector owner = .ok (r, t') ↔
    t.records.get? selector = none ∧ t.selectors.get? name = none ∧
      r = ⟨name, selector, owner, []⟩ ∧
      t' = ⟨t.records.put selector r, t.selectors.put name selector⟩ := by
  unfold register
  by_cases hkey : t.records.contains selector = true
  · have hbound : t.records.get? selector ≠ none := by
      rw [Ne, ← Table.contains_eq_false_iff, hkey]
      exact Bool.true_eq_false_eq_False
    simp [hkey, hbound]
  · have hfree := Table.contains_eq_false_iff.mp (Bool.eq_false_iff.mpr hkey)
    by_cases hname : t.selectors.contains name = true
    · have hbound : t.selectors.get? name ≠ none := by
        rw [Ne, ← Table.contains_eq_false_iff, hname]
        exact Bool.true_eq_false_eq_False
      simp [hname, hbound]
    · have hfree' := Table.contains_eq_false_iff.mp (Bool.eq_false_iff.mpr hname)
      simp only [Bool.eq_false_iff.mpr hkey, Bool.eq_false_iff.mpr hname, Bool.or_self,
        Bool.false_eq_true, if_false, hfree, hfree', true_and, Except.ok.injEq, Prod.mk.injEq]
      constructor
      · rintro ⟨rfl, rfl⟩
        exact ⟨rfl, rfl⟩
      · rintro ⟨rfl, rfl⟩
        exact ⟨rfl, rfl⟩

theorem setWriters_of_writers (found : t.records.get? selector = some r) :
    t.setWriters selector r r.writers = t := by
  rw [setWriters, Table.put_of_get? found]

/-- A grant succeeds exactly for the owner, and the writer is then in the set. -/
theorem grant_eq_ok_iff {new : Bool} (sound : t.Sound) : t.grant p selector writer = .ok (new, t') ↔
    ∃ r, (t.records.get? selector = some r ∧ r.owner = p.caller) ∧
      new = (!r.writers.contains writer) ∧
      t' = t.setWriters selector r (IntSet.insert writer r.writers) := by
  simp only [← checkOwner_eq_ok_iff]
  apply adding_eq_ok_iff (t.setWriters selector)
  intro r hr hw
  have hfound := (checkOwner_eq_ok_iff.mp hr).1
  rw [IntSet.insert_of_mem (sound.proper selector r hfound).ascending hw, setWriters_of_writers hfound]

/-- A revocation succeeds exactly for the owner, and the writer is then not in the set. -/
theorem revoke_eq_ok_iff {old : Bool} : t.revoke p selector writer = .ok (old, t') ↔
    ∃ r, (t.records.get? selector = some r ∧ r.owner = p.caller) ∧
      old = r.writers.contains writer ∧
      t' = t.setWriters selector r (IntSet.erase writer r.writers) := by
  simp only [← checkOwner_eq_ok_iff]
  apply removing_eq_ok_iff (t.setWriters selector)
  intro r hr hw
  rw [IntSet.erase_of_not_mem hw, setWriters_of_writers (checkOwner_eq_ok_iff.mp hr).1]

/-- A registration keeps the table sound. -/
theorem Sound.register (h : t.Sound) (proper : r.Proper) (freeKey : t.records.get? r.selector = none)
    (freeName : t.selectors.get? r.name = none) :
    Sound ⟨t.records.put r.selector r, t.selectors.put r.name r.selector⟩ where
  indexed := h.indexed.add freeKey freeName
  proper key s hs := by
    rcases Table.get?_put_eq_some_iff.mp hs with ⟨-, rfl⟩ | ⟨-, hs⟩
    · exact proper
    · exact h.proper key s hs

/-- Changing the writers of a record keeps the table sound. -/
theorem Sound.setWriters (h : t.Sound) (found : t.records.get? selector = some r) {writers : Writers}
    (ascending : IntSet.Ascending writers) : (t.setWriters selector r writers).Sound where
  indexed := h.indexed.replace found rfl rfl
  proper key s hs := by
    rcases Table.get?_put_eq_some_iff.mp hs with ⟨-, rfl⟩ | ⟨-, hs⟩
    · exact (h.proper selector r found).withWriters ascending
    · exact h.proper key s hs

/-- The namespace with a name, if there is one. -/
def getByName? (t : NamespaceTable) (name : String) : Option NamespaceRecord :=
  (t.selectorOf? name).bind t.records.get?

theorem getByName?_eq_some_iff (h : t.Sound) :
    t.getByName? name = some r ↔ t.records.get? r.selector = some r ∧ r.name = name :=
  h.indexed.bind_get?_eq_some_iff

/-- A sound table is the one that is restored from its records. -/
theorem Sound.ofRecords (h : t.Sound) : ofRecords t.records = t :=
  congrArg (NamespaceTable.mk t.records) h.indexed.rebuild

end NamespaceTable

namespace ResourceTable

variable {t t' : ResourceTable} {namespaces : NamespaceTable} {p : Permissions} {tag name : String}
  {spaceSelector selector owner writer classHash : Int} {kind : ResourceKind} {r s : ResourceRecord}

/-- The index belongs to the records, and every record is well formed. -/
structure Sound (t : ResourceTable) : Prop where
  indexed : Indexed ResourceRecord.tag ResourceRecord.selector t.records t.selectors
  proper : ∀ key r, t.records.get? key = some r → r.Proper

theorem sound_empty : empty.Sound where
  indexed := Indexed.empty _ _
  proper := by simp [empty]

theorem require_eq_ok_iff : t.require selector = .ok r ↔ t.records.get? selector = some r := by
  unfold require
  cases t.records.get? selector <;> simp

theorem requireKind_eq_ok_iff : t.requireKind selector kind = .ok r ↔
    t.records.get? selector = some r ∧ r.kind = kind := by
  rw [← require_eq_ok_iff]
  exact checked_eq_ok_iff

theorem checkOwner_eq_ok_iff : t.checkOwner p selector = .ok r ↔
    t.records.get? selector = some r ∧ r.owner = p.caller := by
  rw [← require_eq_ok_iff, ← Permissions.owns_iff]
  exact checked_eq_ok_iff

/-- Upgrading asks for the owner, like every other change of a record. -/
theorem checkUpgrade_eq_ok_iff : t.checkUpgrade p selector = .ok r ↔
    t.records.get? selector = some r ∧ r.owner = p.caller := by
  rw [← require_eq_ok_iff, ← Permissions.owns_iff]
  exact checked_eq_ok_iff

/-- The write check goes by the tag: it looks for the selector under the tag, and then for the
record under the selector. -/
theorem checkWrite_eq_ok_iff : t.checkWrite tag p = .ok r ↔
    ∃ key, t.selectors.get? tag = some key ∧ t.records.get? key = some r ∧
      (r.owner = p.caller ∨ p.caller ∈ r.writers) := by
  unfold checkWrite
  cases htag : t.selectors.get? tag with
  | none => cases Selector.ofTag tag none <;> simp
  | some key =>
      cases hrecord : t.records.get? key with
      | none => simp [hrecord]
      | some found =>
          by_cases hwrite : p.canWrite found.owner found.writers = true
          · have hmay := Permissions.canWrite_iff.mp hwrite
            simp only [hwrite, if_true, Except.ok.injEq, Option.some.injEq, exists_eq_left', hrecord]
            constructor
            · rintro rfl
              exact ⟨rfl, hmay⟩
            · exact fun h => h.1
          · have hmay := fun h => hwrite (Permissions.canWrite_iff.mpr h)
            simp only [hwrite, Option.some.injEq, exists_eq_left', hrecord]
            constructor
            · intro h
              cases h
            · rintro ⟨rfl, h⟩
              exact absurd h hmay

/-- A registration succeeds exactly when the namespace is there and neither the selector nor the
tag is bound, and then puts a record without writers, class and upgrades under both. -/
theorem register_eq_ok_iff :
    t.register namespaces name spaceSelector selector owner kind = .ok (r, t') ↔
      ∃ home, namespaces.records.get? spaceSelector = some home ∧
        t.records.get? selector = none ∧ t.selectors.get? (Tag.join home.name name) = none ∧
        r = ⟨home.name, name, selector, spaceSelector, owner, kind, [], none, 1⟩ ∧
        t' = ⟨t.records.put selector r, t.selectors.put r.tag selector⟩ := by
  unfold register
  rw [bind_eq_ok]
  apply exists_congr
  intro home
  rw [NamespaceTable.require_eq_ok_iff]
  apply and_congr_right
  intro _
  have hfree : (t.records.contains selector || t.selectors.contains (Tag.join home.name name)) = true ↔
      ¬ (t.records.get? selector = none ∧ t.selectors.get? (Tag.join home.name name) = none) := by
    rw [← Table.contains_eq_false_iff, ← Table.contains_eq_false_iff]
    cases t.records.contains selector <;> cases t.selectors.contains (Tag.join home.name name) <;> simp
  by_cases htaken : (t.records.contains selector || t.selectors.contains (Tag.join home.name name)) = true
  · have hbound := hfree.mp htaken
    rw [if_pos htaken, ← and_assoc]
    constructor
    · intro h
      cases h
    · exact fun h => absurd h.1 hbound
  · have hboth := not_not.mp fun h => htaken (hfree.mpr h)
    rw [if_neg htaken]
    simp only [pure, Except.pure, Except.ok.injEq, Prod.mk.injEq, hboth.1, hboth.2, true_and]
    constructor
    · rintro ⟨rfl, rfl⟩
      exact ⟨rfl, rfl⟩
    · rintro ⟨rfl, rfl⟩
      exact ⟨rfl, rfl⟩

theorem set_of_get? (found : t.records.get? selector = some r) : t.set selector r = t := by
  rw [set, Table.put_of_get? found]

/-- A grant succeeds exactly for the owner, and the writer is then in the set. -/
theorem grant_eq_ok_iff {new : Bool} (sound : t.Sound) : t.grant p selector writer = .ok (new, t') ↔
    ∃ r, (t.records.get? selector = some r ∧ r.owner = p.caller) ∧
      new = (!r.writers.contains writer) ∧
      t' = t.set selector { r with writers := IntSet.insert writer r.writers } := by
  simp only [← checkOwner_eq_ok_iff]
  apply adding_eq_ok_iff fun (r : ResourceRecord) writers => t.set selector { r with writers }
  intro r hr hw
  have hfound := (checkOwner_eq_ok_iff.mp hr).1
  rw [IntSet.insert_of_mem (sound.proper selector r hfound).ascending hw, set_of_get? hfound]

/-- A revocation succeeds exactly for the owner, and the writer is then not in the set. -/
theorem revoke_eq_ok_iff {old : Bool} : t.revoke p selector writer = .ok (old, t') ↔
    ∃ r, (t.records.get? selector = some r ∧ r.owner = p.caller) ∧
      old = r.writers.contains writer ∧
      t' = t.set selector { r with writers := IntSet.erase writer r.writers } := by
  simp only [← checkOwner_eq_ok_iff]
  apply removing_eq_ok_iff fun (r : ResourceRecord) writers => t.set selector { r with writers }
  intro r hr hw
  rw [IntSet.erase_of_not_mem hw, set_of_get? (checkOwner_eq_ok_iff.mp hr).1]

/-- An upgrade puts the class hash and the next version. -/
theorem upgrade_eq_ok_iff : t.upgrade selector classHash = .ok (s, t') ↔
    ∃ r, t.records.get? selector = some r ∧
      s = { r with classHash := some classHash, version := r.version + 1 } ∧
      t' = t.set selector s := by
  unfold upgrade
  rw [bind_eq_ok]
  apply exists_congr
  intro r
  rw [require_eq_ok_iff]
  apply and_congr_right
  intro _
  simp only [pure, Except.pure, Except.ok.injEq, Prod.mk.injEq]
  constructor
  · rintro ⟨rfl, rfl⟩
    exact ⟨rfl, rfl⟩
  · rintro ⟨rfl, rfl⟩
    exact ⟨rfl, rfl⟩

/-- A registration keeps the table sound. -/
theorem Sound.register (h : t.Sound) (proper : r.Proper) (freeKey : t.records.get? r.selector = none)
    (freeTag : t.selectors.get? r.tag = none) :
    Sound ⟨t.records.put r.selector r, t.selectors.put r.tag r.selector⟩ where
  indexed := h.indexed.add freeKey freeTag
  proper key s hs := by
    rcases Table.get?_put_eq_some_iff.mp hs with ⟨-, rfl⟩ | ⟨-, hs⟩
    · exact proper
    · exact h.proper key s hs

/-- Replacing a record by one under the same selector and tag keeps the table sound. -/
theorem Sound.set (h : t.Sound) (found : t.records.get? selector = some r) (proper : s.Proper)
    (same : s.selector = r.selector) (sameTag : s.tag = r.tag) : (t.set selector s).Sound where
  indexed := h.indexed.replace found same sameTag
  proper key r' hr := by
    rcases Table.get?_put_eq_some_iff.mp hr with ⟨-, rfl⟩ | ⟨-, hr⟩
    · exact proper
    · exact h.proper key r' hr

theorem getByTag?_eq_some_iff (h : t.Sound) :
    t.getByTag? tag = some r ↔ t.records.get? r.selector = some r ∧ r.tag = tag :=
  h.indexed.bind_get?_eq_some_iff

/-- A sound table is the one that is restored from its records. -/
theorem Sound.ofRecords (h : t.Sound) : ofRecords t.records = t :=
  congrArg (ResourceTable.mk t.records) h.indexed.rebuild

end ResourceTable

end OwnershipRegistry
