import OwnershipRegistry.Proofs.Access
import OwnershipRegistry.Proofs.Selector

/-!
# Two checks of write access

A registered resource can be checked by its selector or by its tag. Both
checks look at the same record, but only the first one is given a selector, so
it alone asks whether the selector is reserved. The two agree as long as the
configuration reserves no selector that is registered already.
-/

namespace OwnershipRegistry

namespace World

variable {w : World} {key : Int} {r : ResourceRecord}

/-- A registered resource is accepted by validation unless it is reserved now. -/
theorem accepts_iff_of_found (sound : w.core.store.Sound)
    (found : w.core.store.resources.records.get? key = some r) :
    w.core.policy.validator.accepts key = true ↔ key ∉ w.core.policy.validator.configured := by
  have hproper := sound.resources.proper key r found
  rw [← sound.resources.indexed.own_eq found]
  exact Validator.accepts_iff hproper.positive hproper.bounded

/-- By its selector, a resource may be written to by its owner and its writers unless the selector is
reserved. -/
theorem allows_authorizeWrite_iff (sound : w.core.store.Sound)
    (found : w.core.store.resources.records.get? key = some r) (caller : Int) :
    w.Allows (.authorizeWrite caller (.int key)) ↔
      key ∉ w.core.policy.validator.configured ∧ (r.owner = caller ∨ caller ∈ r.writers) := by
  rw [allows_iff sound, ← accepts_iff_of_found sound found]
  constructor
  · rintro ⟨_, hmakes⟩
    cases hmakes with
    | authorizeWrite accepted found' writes =>
        obtain rfl := Option.some.inj (found.symm.trans found')
        exact ⟨accepted, writes⟩
  · rintro ⟨accepted, writes⟩
    exact ⟨_, .authorizeWrite accepted found writes⟩

/-- By its tag, a resource may be written to by its owner and its writers. The names of a registered
resource are valid, so its tag is looked up as it stands, whatever the default namespace is. -/
theorem allows_checkWriteAccess_iff (sound : w.core.store.Sound)
    (found : w.core.store.resources.records.get? key = some r) (caller : Int) :
    w.Allows (.checkWriteAccess caller r.tag) ↔ r.owner = caller ∨ caller ∈ r.writers := by
  have hproper := sound.resources.proper key r found
  have hfull : Tag.full r.tag (some w.core.defaultNamespace) = .ok r.tag :=
    Tag.full_join hproper.spaceNamed hproper.named _
  have htagged := sound.resources.indexed.index_get?_iff.mpr ⟨r, found, rfl⟩
  rw [allows_iff sound]
  constructor
  · rintro ⟨_, hmakes⟩
    cases hmakes with
    | checkWriteAccess spelled tagged found' writes =>
        obtain rfl := Except.ok.inj (hfull.symm.trans spelled)
        obtain rfl := Option.some.inj (htagged.symm.trans tagged)
        obtain rfl := Option.some.inj (found.symm.trans found')
        exact writes
  · intro writes
    exact ⟨_, .checkWriteAccess hfull htagged found writes⟩

/-- A caller passes the write check of a registered resource by selector exactly when the selector is
not reserved now and the caller passes the check by tag, which the owner and the writers do. -/
theorem writeChecks_agree (reachable : Reachable w)
    (found : w.core.store.resources.records.get? key = some r) (caller : Int) :
    (w.Allows (.authorizeWrite caller (.int r.selector)) ↔
      r.selector ∉ w.core.policy.validator.configured ∧ w.Allows (.checkWriteAccess caller r.tag)) ∧
    (w.Allows (.checkWriteAccess caller r.tag) ↔ r.owner = caller ∨ caller ∈ r.writers) := by
  have hsound := reachable.sound
  rw [hsound.resources.indexed.own_eq found]
  have hbyTag := allows_checkWriteAccess_iff hsound found caller
  have hbySelector := allows_authorizeWrite_iff hsound found caller
  rw [← hbyTag] at hbySelector
  exact ⟨hbySelector, hbyTag⟩

/-- The owner of the stocked resource passes both checks, and a stranger passes neither. -/
theorem writeChecks_agree_stocked :
    (stocked.Allows (.authorizeWrite 1 (.int 8)) ∧ stocked.Allows (.checkWriteAccess 1 "game-player")) ∧
      ¬ stocked.Allows (.authorizeWrite 2 (.int 8)) ∧
      ¬ stocked.Allows (.checkWriteAccess 2 "game-player") := by
  have hfound : stocked.core.store.resources.records.get? 8 =
      some ⟨"game", "player", 8, 7, 1, .model, [], none, 1⟩ := by rfl
  have hfree : (8 : Int) ∉ stocked.core.policy.validator.configured := by decide +kernel
  obtain ⟨hbySelector, hbyTag⟩ := writeChecks_agree reachable_stocked hfound 1
  obtain ⟨hother, hotherTag⟩ := writeChecks_agree reachable_stocked hfound 2
  have howner := hbyTag.mpr (Or.inl rfl)
  have hstranger : ¬ stocked.Allows (.checkWriteAccess 2 "game-player") := by
    intro h
    rcases hotherTag.mp h with howned | hwriter
    · cases howned
    · cases hwriter
  exact ⟨⟨hbySelector.mpr ⟨hfree, howner⟩, howner⟩, fun h => hstranger (hother.mp h).2, hstranger⟩

/-- A configuration that reserves the selector of the stocked resource. -/
def reservation : SecurityConfig := { default := { reserved := [8] } }

/-- The security document is replaced by that configuration and read again. -/
def reserving : List Step :=
  [.call (.write "s" (some (.ok reservation.toValue))), .call .reload]

/-- The stocked world after that. -/
def reserved : World := (Step.runEach reserving stocked).2

/-- Once the selector of a registered resource is reserved, its owner still passes the check by tag but
no longer the one by selector. -/
theorem writeChecks_part : Reachable reserved ∧
    (reserved.core.store.resources.records.get? 8).map (·.tag) = some "game-player" ∧
    reserved.Allows (.checkWriteAccess 1 "game-player") ∧
    ¬ reserved.Allows (.authorizeWrite 1 (.int 8)) := by
  have hrun := run_each reserving run_stocked
  have hreachable : Reachable reserved := ⟨[], _, hrun⟩
  have hread : SecurityConfig.ofDocument reservation.toValue = .ok reservation := by rfl
  have hdocuments : stocked.documents = ⟨.empty, []⟩ := by
    simp only [stocked, registering, Step.runEach, Step.run, Call.run, Call.silent, registerCaller,
      (decide_sameRules _ _).documents]
    rfl
  have hpath : stocked.securityPath = "s" := by
    simp only [stocked, registering, Step.runEach, Step.run, Call.run, Call.silent, registerCaller,
      (decide_sameRules _ _).securityPath]
    rfl
  let written : World := { stocked with
    documents := Documents.write ⟨.empty, []⟩ "s" (some (.ok reservation.toValue)) }
  have hreload : reserved = (reload written).2 := by
    simp only [reserved, reserving, Step.runEach, Step.run, Call.run, Call.silent, hdocuments, written]
  have hpolicy : reserved.core.policy = (Policy.ofConfig reservation).1 := by
    rw [hreload, reload]
    simp only [written, hpath, configuration_written, Except.bind, hread]
  have hstore : reserved.core.store = stocked.core.store := by
    rw [hreload]
    exact (Call.run_of_rule (c := .reload) (w := written) rfl).2.1
  have hfound : reserved.core.store.resources.records.get? 8 =
      some ⟨"game", "player", 8, 7, 1, .model, [], none, 1⟩ := by
    rw [hstore]
    rfl
  have hreserved : (8 : Int) ∈ reserved.core.policy.validator.configured := by
    rw [hpolicy]
    decide
  have hsound := hreachable.sound
  refine ⟨hreachable, by rw [hfound]; rfl, ?_, ?_⟩
  · exact (allows_checkWriteAccess_iff hsound hfound 1).mpr (Or.inl rfl)
  · exact fun h => ((allows_authorizeWrite_iff hsound hfound 1).mp h).1 hreserved

end World

end OwnershipRegistry
