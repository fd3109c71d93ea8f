import OwnershipRegistry.Proofs.Refusal

/-!
# How flows end

On a sound store a flow is let through, or denied, or it fails because the
request is not well formed. There is no other way for it to end. A denial that
names a caller names the one who made the request.
-/

namespace OwnershipRegistry

/-- The denials that a flow can meet with. Those that name a caller name the flow's own. -/
def Denial.MetBy (caller? : Option Int) : Denial → Prop
  | .other _ => False
  | .namespaceWriteRefused caller _ _ | .notOwner caller _ | .notOwnerForUpgrade caller _
  | .notAccount caller | .writeRefused _ caller => caller? = some caller
  | .namespaceTaken _ | .namespaceUnknown _ | .resourceTaken _ _ | .resourceUnknown _ | .badSelector _
  | .kindConflict _ _ | .memberDeletion => True

/-- The failures of requests that are not well formed: by a name, by a tag, by the word for a kind,
or by a selector whose text is too long to be written. -/
inductive Failure.Malformed : Failure → Prop
  | name (name : String) : Malformed (.invalidName name)
  | tag (tag : String) : Malformed (.invalidTag tag)
  | kind (word : String) : Malformed (.unknownKind word)
  | number : Malformed .numberTooLong

/-- The failures that flows can end in. -/
inductive Failure.OfFlow : Failure → Prop
  | denied (denial : Denial) : OfFlow (.denied denial)
  | malformed {failure : Failure} (h : failure.Malformed) : OfFlow failure

/-- The failures that the flows of a caller can end in. -/
inductive Failure.MetBy (caller? : Option Int) : Failure → Prop
  | denied {denial : Denial} (h : denial.MetBy caller?) : MetBy caller? (.denied denial)
  | malformed {failure : Failure} (h : failure.Malformed) : MetBy caller? failure

theorem Failure.MetBy.ofFlow {caller? : Option Int} {failure : Failure} (h : failure.MetBy caller?) :
    failure.OfFlow := by
  cases h with
  | denied h => exact .denied _
  | malformed h => exact .malformed h

section Checks

open Failure (MetBy)

variable {α β ρ : Type} {ways : Failure → Prop} {caller? : Option Int} {caller : Int}

namespace FailsAs

theorem orFail_bind {x : Except Denial α} {f : α → Except Denial β} (hx : FailsAs ways (Denial.orFail x))
    (hf : ∀ a, FailsAs ways (Denial.orFail (f a))) : FailsAs ways (Denial.orFail (x >>= f)) := by
  cases x with
  | ok a => exact hf a
  | error denial => exact error (hx _ rfl)

/-- A check of what was found fails where nothing was found, or by its own denial. -/
theorem orFail_checked {found : Except Denial ρ} {allowed : ρ → Prop} [DecidablePred allowed]
    {denial : ρ → Denial} (hfound : FailsAs ways (Denial.orFail found))
    (hdenial : ∀ r, ways (.denied (denial r))) :
    FailsAs ways (Denial.orFail do
      let r ← found
      if allowed r then pure r else throw (denial r)) := by
  refine orFail_bind hfound fun r => ?_
  by_cases hallowed : allowed r
  · rw [if_pos hallowed]
    exact ok r
  · rw [if_neg hallowed]
    exact error (hdenial r)

/-- A change of the writers fails where the record is not owned. -/
theorem orFail_chosen {owned : Except Denial ρ} {chosen : ρ → Bool} {yes no : ρ → β}
    (howned : FailsAs ways (Denial.orFail owned)) :
    FailsAs ways (Denial.orFail do
      let r ← owned
      if chosen r then pure (yes r) else pure (no r)) := by
  refine orFail_bind howned fun r => ?_
  by_cases hchosen : chosen r = true
  · rw [if_pos hchosen]
    exact ok _
  · rw [if_neg hchosen]
    exact ok _

theorem checkName (name : String) : FailsAs (MetBy caller?) (Name.check name) := by
  unfold Name.check
  by_cases hvalid : Name.isValid name = true
  · rw [if_pos hvalid]
    exact ok name
  · rw [if_neg hvalid]
    exact error (.malformed (.name name))

theorem split (tag : String) (default : Option String) : FailsAs (MetBy caller?) (Tag.split tag default) := by
  unfold Tag.split
  cases Tag.split? tag default with
  | some pair => exact ok pair
  | none => exact error (.malformed (.tag tag))

theorem kind (word : String) : FailsAs (MetBy caller?) (Core.kind word) := by
  unfold Core.kind
  cases ResourceKind.ofWord? word with
  | some kind => exact ok kind
  | none => exact error (.malformed (.kind word))

theorem selector (core : Core) (value : Value) : FailsAs (MetBy caller?) (core.selector value) := by
  refine (validate core value).imp ?_
  rintro _ rfl
  unfold Validator.refusal
  by_cases hfelt : value.hasFelt = true
  · rw [if_pos hfelt]
    exact .denied trivial
  · rw [if_neg hfelt]
    exact .malformed .number

theorem selector? (core : Core) (given : Option Value) : FailsAs (MetBy caller?) (core.selector? given) := by
  cases given with
  | none => exact ok none
  | some value => exact map some (selector core value)

theorem requireAccount (d : Directory) (caller : Int) :
    FailsAs (MetBy (some caller)) (Denial.orFail (d.requireAccount caller)) := by
  unfold Directory.requireAccount
  by_cases haccount : d.isAccount caller = true
  · rw [if_pos haccount]
    exact ok ()
  · rw [if_neg haccount]
    exact error (.denied rfl)

end FailsAs

namespace NamespaceTable

theorem metBy_require (t : NamespaceTable) (key : Int) :
    FailsAs (MetBy caller?) (Denial.orFail (t.require key)) := by
  unfold require
  cases t.records.get? key with
  | some n => exact .ok n
  | none => exact .error (.denied trivial)

theorem metBy_register (t : NamespaceTable) (name : String) (key owner : Int) :
    FailsAs (MetBy caller?) (Denial.orFail (t.register name key owner)) := by
  refine (FailsAs.registerNamespace t name key owner).imp ?_
  rintro _ rfl
  exact .denied trivial

theorem metBy_checkWrite (t : NamespaceTable) (p : Permissions) (key : Int) :
    FailsAs (MetBy (some p.caller)) (Denial.orFail (t.checkWrite p key)) :=
  .orFail_checked (t.metBy_require key) fun _ => .denied rfl

theorem metBy_checkOwner (t : NamespaceTable) (p : Permissions) (key : Int) :
    FailsAs (MetBy (some p.caller)) (Denial.orFail (t.checkOwner p key)) :=
  .orFail_checked (t.metBy_require key) fun _ => .denied rfl

theorem metBy_grant (t : NamespaceTable) (p : Permissions) (key writer : Int) :
    FailsAs (MetBy (some p.caller)) (Denial.orFail (t.grant p key writer)) :=
  .orFail_chosen (t.metBy_checkOwner p key)

theorem metBy_revoke (t : NamespaceTable) (p : Permissions) (key writer : Int) :
    FailsAs (MetBy (some p.caller)) (Denial.orFail (t.revoke p key writer)) :=
  .orFail_chosen (t.metBy_checkOwner p key)

end NamespaceTable

namespace ResourceTable

theorem metBy_require (t : ResourceTable) (key : Int) :
    FailsAs (MetBy caller?) (Denial.orFail (t.require key)) := by
  unfold require
  cases t.records.get? key with
  | some r => exact .ok r
  | none => exact .error (.denied trivial)

theorem metBy_register (t : ResourceTable) (namespaces : NamespaceTable) (name : String)
    (space key owner : Int) (kind : ResourceKind) :
    FailsAs (MetBy caller?) (Denial.orFail (t.register namespaces name space key owner kind)) := by
  refine .orFail_bind (namespaces.metBy_require space) fun home => ?_
  by_cases htaken : (t.records.contains key || t.selectors.contains (Tag.join home.name name)) = true
  · rw [if_pos htaken]
    exact .error (.denied trivial)
  · rw [if_neg htaken]
    exact .ok _

theorem metBy_requireKind (t : ResourceTable) (key : Int) (kind : ResourceKind) :
    FailsAs (MetBy caller?) (Denial.orFail (t.requireKind key kind)) :=
  .orFail_checked (t.metBy_require key) fun _ => .denied trivial

theorem metBy_checkOwner (t : ResourceTable) (p : Permissions) (key : Int) :
    FailsAs (MetBy (some p.caller)) (Denial.orFail (t.checkOwner p key)) :=
  .orFail_checked (t.metBy_require key) fun _ => .denied rfl

theorem metBy_checkUpgrade (t : ResourceTable) (p : Permissions) (key : Int) :
    FailsAs (MetBy (some p.caller)) (Denial.orFail (t.checkUpgrade p key)) :=
  .orFail_checked (t.metBy_require key) fun _ => .denied rfl

theorem metBy_grant (t : ResourceTable) (p : Permissions) (key writer : Int) :
    FailsAs (MetBy (some p.caller)) (Denial.orFail (t.grant p key writer)) :=
  .orFail_chosen (t.metBy_checkOwner p key)

theorem metBy_revoke (t : ResourceTable) (p : Permissions) (key writer : Int) :
    FailsAs (MetBy (some p.caller)) (Denial.orFail (t.revoke p key writer)) :=
  .orFail_chosen (t.metBy_checkOwner p key)

theorem metBy_upgrade (t : ResourceTable) (key classHash : Int) :
    FailsAs (MetBy caller?) (Denial.orFail (t.upgrade key classHash)) :=
  .orFail_bind (t.metBy_require key) fun _ => .ok _

/-- In a sound table no tag leads to a selector without a record. -/
theorem metBy_checkWrite {t : ResourceTable} (sound : t.Sound) (tag : String) (p : Permissions) :
    FailsAs (MetBy (some p.caller)) (t.checkWrite tag p) := by
  unfold checkWrite
  cases htag : t.selectors.get? tag with
  | none =>
      have hselector : FailsAs (MetBy (some p.caller)) (Selector.ofTag tag none) := .map _ (.split tag none)
      cases hderived : Selector.ofTag tag none with
      | ok selector => exact .error (.denied trivial)
      | error failure => exact .error (hselector failure hderived)
  | some key =>
      obtain ⟨r, hr, -⟩ := sound.indexed.index_get?_iff.mp htag
      simp only [hr]
      by_cases hwrites : p.canWrite r.owner r.writers = true
      · rw [if_pos hwrites]
        exact .ok r
      · rw [if_neg hwrites]
        exact .error (.denied rfl)

end ResourceTable

end Checks

namespace Core

open Failure (MetBy OfFlow)

theorem metBy_enroll (core : Core) (caller space : Int) (name : String) (kind : ResourceKind)
    (selector : Int) : FailsAs (MetBy (some caller)) (core.enroll caller space name kind selector) := by
  unfold enroll
  have hregister : FailsAs (MetBy (some caller)) (Denial.orFail (core.store.resources.register
      core.store.namespaces name space selector caller kind)) :=
    core.store.resources.metBy_register core.store.namespaces name space selector caller kind
  by_cases henforce : core.policy.enforceNamespaceWrite = true
  · simp only [henforce, if_true]
    refine .bind (.discard (core.store.namespaces.metBy_checkWrite (core.permissions caller) space)) fun _ _ => ?_
    exact .bind hregister fun _ _ => .ok _
  · simp only [henforce]
    exact .bind hregister fun _ _ => .ok _

/-- On a sound store, a flow that is not let through is denied to its caller or is not well formed. -/
theorem metBy_attempt {core : Core} (sound : core.store.Sound) (flow : Flow) :
    FailsAs (MetBy flow.caller?) (core.attempt flow) := by
  cases flow with
  | registerNamespace caller name given =>
      refine .bind (.discard (.checkName name)) fun _ _ => ?_
      refine .bind (.requireAccount _ caller) fun _ _ => ?_
      refine .bind (.selector core _) fun _ _ => ?_
      exact .bind (NamespaceTable.metBy_register _ _ _ _) fun _ _ => .ok _
  | registerResource caller space name word given =>
      refine .bind (.discard (.checkName name)) fun _ _ => ?_
      refine .bind (.kind word) fun kind _ => ?_
      refine .bind (.selector core space) fun spaceSelector _ => ?_
      refine .bind (.selector? core given) fun chosen _ => ?_
      refine .bind (NamespaceTable.metBy_require _ _) fun home _ => ?_
      cases chosen with
      | some selector => exact metBy_enroll core caller spaceSelector name kind selector
      | none =>
          refine .bind (.selector core _) fun selector _ => ?_
          exact metBy_enroll core caller spaceSelector name kind selector
  | authorizeWrite caller resource =>
      refine .bind (.selector core resource) fun _ _ => ?_
      refine .bind (ResourceTable.metBy_require _ _) fun record _ => ?_
      refine .bind (.discard ?_) fun _ _ => .ok _
      exact ResourceTable.metBy_checkWrite sound.resources record.tag (core.permissions caller)
  | authorizeUpgrade caller resource =>
      refine .bind (.selector core resource) fun _ _ => ?_
      refine .bind (.discard (ResourceTable.metBy_require _ _)) fun _ _ => ?_
      exact .bind (ResourceTable.metBy_checkUpgrade _ (core.permissions caller) _) fun _ _ => .ok _
  | upgradeResource caller resource classHash =>
      refine .bind (.selector core resource) fun _ _ => ?_
      refine .bind (.discard (ResourceTable.metBy_checkUpgrade _ (core.permissions caller) _)) fun _ _ => ?_
      exact .bind (ResourceTable.metBy_upgrade _ _ _) fun _ _ => .ok _
  | resolveKind resource word =>
      refine .bind (.kind word) fun _ _ => ?_
      refine .bind (.selector core resource) fun _ _ => ?_
      refine .bind (.discard (ResourceTable.metBy_require _ _)) fun _ _ => ?_
      exact .bind (ResourceTable.metBy_requireKind _ _ _) fun _ _ => .ok _
  | checkWriteAccess caller tag =>
      refine .bind (.map _ (.split tag _)) fun full _ => ?_
      refine .bind ?_ fun _ _ => .ok _
      exact ResourceTable.metBy_checkWrite sound.resources full (core.permissions caller)
  | checkOwner caller key =>
      refine .bind (.selector core key) fun selector _ => ?_
      exact .bind (ResourceTable.metBy_checkOwner _ (core.permissions caller) selector) fun _ _ => .ok _
  | authorizeNamespaceWrite caller key =>
      refine .bind (.selector core key) fun selector _ => ?_
      exact .bind (NamespaceTable.metBy_checkWrite _ (core.permissions caller) selector) fun _ _ => .ok _
  | grantWriter caller key writer =>
      refine .bind (.selector core key) fun selector _ => ?_
      exact .bind (ResourceTable.metBy_grant _ (core.permissions caller) selector writer) fun _ _ => .ok _
  | revokeWriter caller key writer =>
      refine .bind (.selector core key) fun selector _ => ?_
      exact .bind (ResourceTable.metBy_revoke _ (core.permissions caller) selector writer) fun _ _ => .ok _
  | grantNamespaceWriter caller key writer =>
      refine .bind (.selector core key) fun selector _ => ?_
      exact .bind (NamespaceTable.metBy_grant _ (core.permissions caller) selector writer) fun _ _ => .ok _
  | revokeNamespaceWriter caller key writer =>
      refine .bind (.selector core key) fun selector _ => ?_
      exact .bind (NamespaceTable.metBy_revoke _ (core.permissions caller) selector writer) fun _ _ => .ok _
  | deleteMember => exact .error (.denied trivial)

/-- On a sound store, a flow that is not let through is denied or is not well formed. -/
theorem failsAs_attempt {core : Core} (sound : core.store.Sound) (flow : Flow) :
    FailsAs OfFlow (core.attempt flow) :=
  fun failure h => (metBy_attempt sound flow failure h).ofFlow

end Core

end OwnershipRegistry
