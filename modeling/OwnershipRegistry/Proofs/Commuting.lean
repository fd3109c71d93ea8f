import OwnershipRegistry.Proofs.Amendments

/-!
# Independent amendments commute

Whether an amendment is let through depends on the policy and the owner of the
record, and no amendment changes either. What it answers and what it puts
depends on the part that it changes. So two amendments that do not change the
same part of the same record may be made in either order.
-/

namespace OwnershipRegistry

/-- Two amendments clash if they change the same part of one registered record. -/
def Store.Clash (s : Store) (a : Amendment) (v : Value) (b : Amendment) (u : Value) : Prop :=
  a.part = b.part ∧ ∃ key, v = .int key ∧ u = .int key ∧ (a.owner? s key).isSome

/-- The outcomes of one call in two orders are the same, but for the writers of a resource that is
answered after its upgrade. -/
inductive SameOutcome : Except Failure Answer → Except Failure Answer → Prop
  | same (outcome : Except Failure Answer) : SameOutcome outcome outcome
  | upgraded (r : ResourceRecord) (writers : Writers) :
      SameOutcome (.ok (.resource r)) (.ok (.resource { r with writers }))

namespace Amendment

variable {s : Store} {a b : Amendment} {key other : Int} {answer : Answer}

theorem owner?_of_part (same : a.part = b.part) (s : Store) (key : Int) :
    a.owner? s key = b.owner? s key := by
  cases a with
  | space e =>
      cases b with
      | space e' => rfl
      | _ => cases same
  | _ =>
      cases b with
      | space e' => cases same
      | _ => rfl

/-- What is answered is about a record that has an owner. -/
theorem owner?_of_answer? (h : a.answer? s key = some answer) : (a.owner? s key).isSome := by
  cases a with
  | _ edit =>
      obtain ⟨found, hfound, -⟩ := Option.map_eq_some_iff.mp h
      exact Option.isSome_iff_exists.mpr ⟨found.owner, Option.map_eq_some_iff.mpr ⟨found, hfound, rfl⟩⟩

/-- Amendments that are apart do not change each other's answers. -/
theorem answer?_amend (apart : key = other → a.part ≠ b.part) (h : a.answer? s key = some answer) :
    ∃ answer', a.answer? (s.amend b other) key = some answer' ∧
      SameOutcome (.ok answer) (.ok answer') := by
  cases a with
  | space edit =>
      obtain ⟨n, hn, rfl⟩ := Option.map_eq_some_iff.mp h
      have hsame : edit.changes (if key = other then b.onSpace n else n).writers =
          edit.changes n.writers := by
        by_cases hkey : key = other
        · rw [if_pos hkey]
          exact changes_onSpace (apart hkey) n
        · rw [if_neg hkey]
      refine ⟨_, ?_, .same _⟩
      rw [← hsame, answer?, Store.get?_amend_namespaces, hn]
      rfl
  | resource edit =>
      obtain ⟨r, hr, rfl⟩ := Option.map_eq_some_iff.mp h
      have hsame : edit.changes (if key = other then b.onResource r else r).writers =
          edit.changes r.writers := by
        by_cases hkey : key = other
        · rw [if_pos hkey]
          exact changes_onResource (apart hkey) r
        · rw [if_neg hkey]
      refine ⟨_, ?_, .same _⟩
      rw [← hsame, answer?, Store.get?_amend_resources, hr]
      rfl
  | upgrade classHash =>
      obtain ⟨r, hr, rfl⟩ := Option.map_eq_some_iff.mp h
      refine ⟨.resource ((upgrade classHash).onResource (if key = other then b.onResource r else r)), ?_, ?_⟩
      · rw [answer?, Store.get?_amend_resources, hr]
        rfl
      · by_cases hkey : key = other
        · rw [if_pos hkey]
          cases b with
          | space e => exact .same _
          | resource e => exact .upgraded _ _
          | upgrade classHash' => exact absurd rfl (apart hkey)
        · rw [if_neg hkey]
          exact .same _

end Amendment

namespace Core

variable {core : Core} {a b : Amendment} {caller other : Int} {v u : Value}

theorem mutates_amendment (a : Amendment) (caller : Int) (v : Value) :
    (a.flow caller v).mutates = true := by
  cases a with
  | upgrade classHash => rfl
  | _ edit => cases edit <;> rfl

/-- An amendment that goes through: it changes the record at a selector, is answered from that record,
and counts as one change. -/
structure Amends (core : Core) (a : Amendment) (caller : Int) (v : Value) (key : Int) (effect : Effect) :
    Prop where
  made : core.attempt (a.flow caller v) = .ok effect
  place : v = .int key
  answer : a.answer? core.store key = some effect.answer
  store : (core.after (a.flow caller v)).store = core.store.amend a key
  version : (core.after (a.flow caller v)).version = core.version + 1

theorem amends_of_cleared (sound : core.store.Sound)
    (h : cleared (core.attempt (a.flow caller v)) = .ok ()) :
    ∃ key effect, core.Amends a caller v key effect := by
  obtain ⟨effect, hattempt⟩ := cleared_eq_ok_iff.mp h
  obtain ⟨key, hkey, hanswer, hstore⟩ := amended_of_makes sound ((attempt_eq_ok_iff sound).mp hattempt)
  refine ⟨key, effect, hattempt, hkey, hanswer, (after_store hattempt).trans hstore, ?_⟩
  rw [after_version, commits_of_mutates hattempt (mutates_amendment a caller v)]
  rfl

/-- An amendment that is denied changes nothing. -/
theorem after_refused {failure : Failure} (h : cleared (core.attempt (a.flow caller v)) = .error failure) :
    core.attempt (a.flow caller v) = .error failure ∧ core.after (a.flow caller v) = core :=
  have hattempt := cleared_eq_error_iff.mp h
  ⟨hattempt, after_of_error hattempt⟩

/-- Amendments do not decide about each other. -/
theorem cleared_after (sound : core.store.Sound) (a b : Amendment) (caller other : Int) (v u : Value) :
    cleared ((core.after (b.flow other u)).attempt (a.flow caller v)) =
      cleared (core.attempt (a.flow caller v)) := by
  cases hb : cleared (core.attempt (b.flow other u)) with
  | error failure => rw [(after_refused hb).2]
  | ok =>
      obtain ⟨place, _, second⟩ := amends_of_cleared sound hb
      rw [cleared_attempt, cleared_attempt, second.store, selector, selector, after_policy]
      exact bind_congr fun key => congrArg Denial.orFail (Amendment.guard_amend _ _ _ _ _ _)

/-- Where two amendments that do not clash go through at one selector, they change different parts. -/
theorem Amends.apart {key place : Int} {effect effect' : Effect} (first : core.Amends a caller v key effect)
    (second : core.Amends b other u place effect') (apart : ¬ core.store.Clash a v b u) :
    key = place → a.part ≠ b.part := by
  rintro rfl hpart
  exact apart ⟨hpart, key, first.place, second.place, Amendment.owner?_of_answer? first.answer⟩

/-- An amendment that goes through also does so after another one, at the same selector. -/
theorem Amends.again {key : Int} {effect : Effect} (sound : core.store.Sound)
    (first : core.Amends a caller v key effect) (b : Amendment) (other : Int) (u : Value) :
    ∃ effect', (core.after (b.flow other u)).Amends a caller v key effect' := by
  have hcleared : cleared (core.attempt (a.flow caller v)) = .ok () :=
    cleared_eq_ok_iff.mpr ⟨effect, first.made⟩
  obtain ⟨key', effect', hagain⟩ := amends_of_cleared (sound_after sound (b.flow other u))
    ((cleared_after sound a b caller other v u).trans hcleared)
  obtain rfl : key = key' := Value.int.inj (first.place.symm.trans hagain.place)
  exact ⟨effect', hagain⟩

/-- An amendment has the same outcome after another one that is apart from it. -/
theorem sameOutcome_after (sound : core.store.Sound) (apart : ¬ core.store.Clash a v b u)
    (caller other : Int) :
    SameOutcome ((core.attempt (a.flow caller v)).map (·.answer))
      (((core.after (b.flow other u)).attempt (a.flow caller v)).map (·.answer)) := by
  have hagain := cleared_after sound a b caller other v u
  cases hb : cleared (core.attempt (b.flow other u)) with
  | error failure =>
      rw [(after_refused hb).2]
      exact .same _
  | ok =>
      cases ha : cleared (core.attempt (a.flow caller v)) with
      | error failure =>
          rw [(after_refused ha).1, (after_refused (hagain.trans ha)).1]
          exact .same _
      | ok =>
          obtain ⟨place, _, second⟩ := amends_of_cleared sound hb
          obtain ⟨key, effect, first⟩ := amends_of_cleared sound ha
          obtain ⟨effect', later⟩ := first.again sound b other u
          obtain ⟨answer, hanswer, hsame⟩ :=
            Amendment.answer?_amend (first.apart second apart) first.answer
          have hlater := later.answer
          rw [second.store, hanswer] at hlater
          obtain rfl := Option.some.inj hlater
          rw [first.made, later.made]
          exact hsame

/-- Amendments that are apart lead to the same tables and the same version in both orders. -/
theorem after_comm (sound : core.store.Sound) (apart : ¬ core.store.Clash a v b u) (caller other : Int) :
    ((core.after (a.flow caller v)).after (b.flow other u)).store =
        ((core.after (b.flow other u)).after (a.flow caller v)).store ∧
      ((core.after (a.flow caller v)).after (b.flow other u)).version =
        ((core.after (b.flow other u)).after (a.flow caller v)).version := by
  cases ha : cleared (core.attempt (a.flow caller v)) with
  | error failure =>
      -- What is denied is denied in both orders, so only the other amendment is left.
      have hagain := cleared_after sound a b caller other v u
      rw [(after_refused ha).2, (after_refused (hagain.trans ha)).2]
      exact ⟨rfl, rfl⟩
  | ok =>
      cases hb : cleared (core.attempt (b.flow other u)) with
      | error failure =>
          have hagain := cleared_after sound b a other caller u v
          rw [(after_refused hb).2, (after_refused (hagain.trans hb)).2]
          exact ⟨rfl, rfl⟩
      | ok =>
          obtain ⟨key, effect, first⟩ := amends_of_cleared sound ha
          obtain ⟨place, effect', second⟩ := amends_of_cleared sound hb
          obtain ⟨_, firstLater⟩ := first.again sound b other u
          obtain ⟨_, secondLater⟩ := second.again sound a caller v
          constructor
          · calc ((core.after (a.flow caller v)).after (b.flow other u)).store
                = (core.store.amend a key).amend b place := by rw [secondLater.store, first.store]
              _ = (core.store.amend b place).amend a key :=
                  (Store.amend_comm sound (first.apart second apart)).symm
              _ = ((core.after (b.flow other u)).after (a.flow caller v)).store := by
                  rw [firstLater.store, second.store]
          · rw [secondLater.version, first.version, firstLater.version, second.version]

end Core

/-- Clashing goes both ways. -/
theorem Store.Clash.symm {s : Store} {a b : Amendment} {v u : Value} (h : s.Clash a v b u) :
    s.Clash b u a v := by
  obtain ⟨hpart, key, hv, hu, howner⟩ := h
  refine ⟨hpart.symm, key, hu, hv, ?_⟩
  rwa [← Amendment.owner?_of_part hpart]

namespace World

variable {w : World} {a b : Amendment} {v u : Value}

/-- Two amendments by any callers that do not change the same part of one record may be made in either
order. The tables and the version are then the same, and so is the outcome of each of them. -/
theorem amendments_commute (reachable : Reachable w) (apart : ¬ w.core.store.Clash a v b u)
    (caller other : Int) :
    let first : Flow := a.flow caller v
    let second : Flow := b.flow other u
    let afterFirst := (decide first w).2
    let afterSecond := (decide second w).2
    (decide second afterFirst).2.core.store = (decide first afterSecond).2.core.store ∧
      (decide second afterFirst).2.core.version = (decide first afterSecond).2.core.version ∧
      SameOutcome (decide first w).1 (decide first afterSecond).1 ∧
      SameOutcome (decide second w).1 (decide second afterFirst).1 := by
  intro first second afterFirst afterSecond
  have hsound := reachable.sound
  have hfirst : afterFirst.core = w.core.after first := decide_core first w
  have hsecond : afterSecond.core = w.core.after second := decide_core second w
  have hcomm := Core.after_comm hsound apart caller other
  simp only [decide_core, decide_fst, hfirst, hsecond]
  exact ⟨hcomm.1, hcomm.2, Core.sameOutcome_after hsound apart caller other,
    Core.sameOutcome_after hsound (fun h => apart h.symm) other caller⟩

/-- The owner of the stocked resource grants a writer and upgrades it, in either order. Neither change
is lost, and the writer is new in both orders. -/
theorem amendments_commute_stocked :
    let grant : Flow := .grantWriter 1 (.int 8) 2
    let upgrade : Flow := .upgradeResource 1 (.int 8) 9
    let granted := (decide grant stocked).2
    let upgraded := (decide upgrade stocked).2
    (decide upgrade granted).2.core.store = (decide grant upgraded).2.core.store ∧
      (decide upgrade granted).2.core.store.resources.records.get? 8 =
        some ⟨"game", "player", 8, 7, 1, .model, [2], some 9, 2⟩ ∧
      (decide grant upgraded).1 = .ok (.flag true) := by
  intro grant upgrade granted upgraded
  have hapart : ¬ stocked.core.store.Clash (.resource (.grant 2)) (.int 8) (.upgrade 9) (.int 8) := by
    rintro ⟨hpart, -⟩
    cases hpart
  obtain ⟨hstore, -, hgrant, -⟩ := amendments_commute reachable_stocked hapart 1 1
  have hfirst : (decide grant stocked).1 = .ok (.flag true) := by rfl
  refine ⟨hstore, by rfl, ?_⟩
  have hsame : SameOutcome (.ok (.flag true)) (decide grant upgraded).1 := hfirst ▸ hgrant
  generalize (decide grant upgraded).1 = outcome at hsame
  cases hsame
  rfl

end World

end OwnershipRegistry
