import Mathlib.Data.Fintype.EquivFin
import OwnershipRegistry.Proofs.Access
import OwnershipRegistry.Proofs.Directory
import OwnershipRegistry.Proofs.Refusal

/-!
# The finding that there are no accounts

An audit looks for accounts among the known callers alone, while a namespace is
refused to whoever is not an account. The two agree as long as unknown callers
count as contracts. If they count as accounts, the audit may announce that
namespaces will be refused, and they are not.
-/

namespace OwnershipRegistry

namespace Directory

variable {d : Directory}

theorem noAccounts_mem_findings_iff :
    noAccounts ∈ d.findings ↔ ∀ caller ∈ d.knownCallers, d.isAccount caller = false := by
  rw [findings_eq, List.mem_append, or_iff_left d.noAccounts_not_mem_unlabelled]
  by_cases hany : d.knownCallers.any d.isAccount = true
  · obtain ⟨caller, hknown, haccount⟩ := List.any_eq_true.mp hany
    rw [if_pos hany]
    refine iff_of_false List.not_mem_nil fun hnone => ?_
    exact Bool.false_ne_true ((hnone caller hknown).symm.trans haccount)
  · rw [if_neg hany]
    refine iff_of_true List.mem_cons_self fun caller hknown => ?_
    exact Bool.eq_false_iff.mpr fun haccount => hany (List.any_eq_true.mpr ⟨caller, hknown, haccount⟩)

/-- There are more callers than a directory knows. -/
theorem exists_unknown (d : Directory) : ∃ caller, caller ∉ d.knownCallers := by
  obtain ⟨caller, hunknown⟩ := Infinite.exists_notMem_finset d.knownCallers.toFinset
  exact ⟨caller, fun hmem => hunknown (List.mem_toFinset.mpr hmem)⟩

theorem kindOf_of_unknown {caller : Int} (unknown : caller ∉ d.knownCallers) :
    d.kindOf caller = d.unknownKind := by
  rw [mem_knownCallers_iff, not_not] at unknown
  rw [kindOf, unknown]
  rfl

/-- Nobody is an account exactly when no known caller is and unknown callers are contracts. -/
theorem forall_isAccount_eq_false_iff : (∀ caller, d.isAccount caller = false) ↔
    (∀ caller ∈ d.knownCallers, d.isAccount caller = false) ∧ d.unknownKind = .contract := by
  constructor
  · intro hnone
    obtain ⟨caller, hunknown⟩ := d.exists_unknown
    refine ⟨fun caller _ => hnone caller, ?_⟩
    have hkind := of_decide_eq_false (hnone caller)
    rw [kindOf_of_unknown hunknown] at hkind
    cases hdefault : d.unknownKind with
    | account => exact absurd hdefault hkind
    | contract => rfl
  · rintro ⟨hknown, hdefault⟩ caller
    by_cases hmem : caller ∈ d.knownCallers
    · exact hknown caller hmem
    · rw [isAccount, kindOf_of_unknown hmem, hdefault]
      rfl

end Directory

namespace FailsAs

variable {caller : Int}

/-- Selectors are refused for other reasons than the caller's kind. -/
theorem selector_ne_notAccount (core : Core) (value : Value) :
    FailsAs (· ≠ .denied (.notAccount caller)) (core.selector value) := by
  refine (validate core value).imp ?_
  rintro _ rfl
  unfold Validator.refusal
  cases value.hasFelt <;> nofun

/-- A namespace that is taken is refused for another reason than the caller's kind. -/
theorem register_ne_notAccount (t : NamespaceTable) (name : String) (key owner : Int) :
    FailsAs (· ≠ .denied (.notAccount caller)) (Denial.orFail (t.register name key owner)) := by
  refine (registerNamespace t name key owner).imp ?_
  rintro _ rfl
  exact nofun

end FailsAs

namespace World

variable {w : World}

/-- Every caller is refused a namespace of any valid name for being no account. -/
def RefusesNamespaces (w : World) : Prop :=
  ∀ (caller : Int) (name : String) (given : Option Value), Name.isValid name = true →
    (decide (.registerNamespace caller name given) w).1 = .error (.denied (.notAccount caller))

/-- An audit reports that there are no accounts. -/
def ReportsNoAccounts (w : World) : Prop :=
  ∃ findings, Query.findings.answer w = .ok (.value (.list findings)) ∧
    .str Directory.noAccounts ∈ findings

theorem reportsNoAccounts_iff : w.ReportsNoAccounts ↔
    ∀ caller ∈ w.core.policy.directory.knownCallers, w.core.policy.directory.isAccount caller = false := by
  rw [← Directory.noAccounts_mem_findings_iff]
  constructor
  · rintro ⟨findings, hanswer, hmem⟩
    cases hanswer
    simpa using hmem
  · intro hmem
    exact ⟨_, rfl, List.mem_map_of_mem hmem⟩

/-- A valid name is refused for the caller's kind exactly when the caller is no account. -/
theorem decide_registerNamespace_eq_notAccount_iff {name : String} (valid : Name.isValid name = true)
    (caller : Int) (given : Option Value) :
    (decide (.registerNamespace caller name given) w).1 = .error (.denied (.notAccount caller)) ↔
      w.core.policy.directory.isAccount caller = false := by
  have hname : Name.check name = .ok name := Name.check_eq_ok_iff.mpr ⟨valid, rfl⟩
  rw [decide_fst, map_eq_error_iff]
  by_cases haccount : w.core.policy.directory.isAccount caller = true
  · have hother : FailsAs (· ≠ .denied (.notAccount caller))
        (w.core.attempt (.registerNamespace caller name given)) := by
      rw [Core.attempt, Core.registerNamespace, hname, Directory.requireAccount, if_pos haccount]
      refine .bind (.ok _) fun _ _ => .bind (.ok _) fun _ _ => ?_
      refine .bind (.selector_ne_notAccount _ _) fun _ _ => ?_
      exact .bind (.register_ne_notAccount _ _ _ _) fun _ _ => .ok _
    exact iff_of_false (fun h => hother _ h rfl) (ne_false_of_eq_true haccount)
  · rw [Core.attempt, Core.registerNamespace, hname, Directory.requireAccount, if_neg haccount]
    exact iff_of_true rfl (Bool.eq_false_iff.mpr haccount)

theorem refusesNamespaces_iff : w.RefusesNamespaces ↔
    ∀ caller, w.core.policy.directory.isAccount caller = false := by
  have hvalid : Name.isValid "game" = true := by decide +kernel
  constructor
  · intro hrefuses caller
    exact (decide_registerNamespace_eq_notAccount_iff hvalid caller none).mp
      (hrefuses caller "game" none hvalid)
  · intro hnone caller name given valid
    exact (decide_registerNamespace_eq_notAccount_iff valid caller given).mpr (hnone caller)

/-- Registering callers changes the directory alone in the policy. -/
theorem policy_registerEach (rs : List Registration) (w : World) :
    (Step.runEach (rs.map fun r => .call (.register r)) w).2.core.policy =
      { w.core.policy with directory := rs.foldl Directory.register w.core.policy.directory } := by
  induction rs generalizing w with
  | nil => rfl
  | cons r rest ih => exact ih (registerCaller r w).2

/-- Whatever callers a configuration and later registrations make known, every namespace is refused
exactly when an audit reports that there are no accounts and unknown callers count as contracts. -/
theorem namespaces_refused_iff (config : SecurityConfig)
    (configured : w.core.policy = (Policy.ofConfig config).1) (rs : List Registration) :
    let later := (Step.runEach (rs.map fun r => .call (.register r)) w).2
    later.RefusesNamespaces ↔ later.ReportsNoAccounts ∧ config.default.unknownKind = .contract := by
  intro later
  have hdirectory : later.core.policy.directory =
      rs.foldl Directory.register (Directory.ofConfig config).1 := by
    rw [policy_registerEach, configured]
    rfl
  have hunknown : later.core.policy.directory.unknownKind = config.default.unknownKind := by
    rw [hdirectory, Directory.unknownKind_foldl, Directory.ofConfig_eq, Directory.unknownKind_foldl]
    rfl
  rw [refusesNamespaces_iff, reportsNoAccounts_iff, Directory.forall_isAccount_eq_false_iff, hunknown]

/-- In the bare world a contract becomes known, and namespaces are still refused to everybody. -/
theorem namespaces_refused_iff_bare :
    let later := (Step.runEach [.call (.register ⟨.contract, 2, some "pool"⟩)] bare).2
    later.RefusesNamespaces ∧ later.ReportsNoAccounts := by
  intro later
  have hiff := namespaces_refused_iff (w := bare) {} rfl [⟨.contract, 2, some "pool"⟩]
  have hreports : later.ReportsNoAccounts := by
    rw [reportsNoAccounts_iff]
    decide +kernel
  exact ⟨hiff.mpr ⟨hreports, rfl⟩, hreports⟩

/-- A configuration that names nobody and counts unknown callers as accounts. -/
def lenient : SecurityConfig := { default := { unknownKind := .account } }

/-- The world that is created where the security document gives that configuration. -/
def welcoming : World :=
  let (policy, warnings) := Policy.ofConfig lenient
  { core := { defaultNamespace := "world", policy }
    journal := (Journal.fresh false).warn warnings
    settings := .error (.missingManifest "s")
    securityPath := "s"
    documents := Documents.write ⟨.empty, []⟩ "s" (some (.ok lenient.toValue)) }

theorem create_welcoming :
    create (.fresh false) (.error (.missingManifest "s")) "world" "s"
      (Documents.write ⟨.empty, []⟩ "s" (some (.ok lenient.toValue))) = .ok welcoming := by
  have hread : SecurityConfig.ofDocument lenient.toValue = .ok lenient := by rfl
  unfold create welcoming
  simp only [configuration_written, Except.bind, hread]
  rfl

/-- In that world an audit reports that there are no accounts and that namespaces will be refused, but
the caller 1, whom nobody knows, may register one. -/
theorem accountFinding_overstated : Reachable welcoming ∧
    welcoming.core.policy = (Policy.ofConfig lenient).1 ∧ welcoming.ReportsNoAccounts ∧
    welcoming.Allows (.registerNamespace 1 "arena" (some (.int 7))) ∧
    ¬ (welcoming.ReportsNoAccounts ↔ welcoming.RefusesNamespaces) := by
  have hreports : welcoming.ReportsNoAccounts := by
    rw [reportsNoAccounts_iff]
    decide +kernel
  have hallows : welcoming.Allows (.registerNamespace 1 "arena" (some (.int 7))) := ⟨_, rfl⟩
  have hopen : ¬ welcoming.RefusesNamespaces := by
    rw [refusesNamespaces_iff]
    intro hnone
    cases hnone 1
  exact ⟨⟨[], [], .created create_welcoming⟩, rfl, hreports, hallows, fun hiff => hopen (hiff.mp hreports)⟩

end World

end OwnershipRegistry
