import OwnershipRegistry.Proofs.Application

/-!
# Flows that are refused

A flow whose names, kinds and selectors are well formed fails by a denial
alone, so it is counted whatever becomes of it. All flows of an application of
a manifest that was read are of this sort.
-/

namespace OwnershipRegistry

/-- An outcome that fails in one of certain ways, if it fails. -/
def FailsAs {α : Type} (ways : Failure → Prop) (x : Except Failure α) : Prop :=
  ∀ failure, x = .error failure → ways failure

namespace FailsAs

variable {α β : Type} {ways : Failure → Prop}

theorem ok (a : α) : FailsAs ways (.ok a) := fun _ h => nomatch h

theorem error {failure : Failure} (h : ways failure) : FailsAs ways (.error failure : Except Failure α) := by
  intro other hother
  cases hother
  exact h

theorem orFail (denials : ∀ denial, ways (.denied denial)) (x : Except Denial α) :
    FailsAs ways (Denial.orFail x) := by
  cases x with
  | ok a => exact ok a
  | error denial => exact error (denials denial)

theorem bind {x : Except Failure α} {f : α → Except Failure β} (hx : FailsAs ways x)
    (hf : ∀ a, x = .ok a → FailsAs ways (f a)) : FailsAs ways (x >>= f) := by
  cases x with
  | ok a => exact hf a rfl
  | error failure => exact error (hx failure rfl)

theorem map {x : Except Failure α} (f : α → β) (hx : FailsAs ways x) : FailsAs ways (x.map f) := by
  intro failure h
  exact hx failure (map_eq_error_iff.mp h)

theorem discard {x : Except Failure α} (hx : FailsAs ways x) :
    FailsAs ways (Functor.discard x : Except Failure PUnit) := by
  cases x with
  | ok a => exact ok PUnit.unit
  | error failure => exact error (hx failure rfl)

theorem imp {others : Failure → Prop} {x : Except Failure α} (hx : FailsAs ways x)
    (weaker : ∀ failure, ways failure → others failure) : FailsAs others x :=
  fun failure h => weaker failure (hx failure h)

/-- A namespace that cannot be registered is taken. -/
theorem registerNamespace (t : NamespaceTable) (name : String) (key owner : Int) :
    FailsAs (· = .denied (.namespaceTaken name)) (Denial.orFail (t.register name key owner)) := by
  unfold NamespaceTable.register
  by_cases htaken : (t.records.contains key || t.selectors.contains name) = true
  · rw [if_pos htaken]
    exact error rfl
  · rw [if_neg htaken]
    exact ok _

/-- A value that is not accepted as a selector fails by its refusal. -/
theorem validate (core : Core) (value : Value) :
    FailsAs (· = Validator.refusal value) (core.selector value) := by
  cases value with
  | int key =>
      rw [Core.selector, Validator.validate_int]
      by_cases haccepts : core.policy.validator.accepts key = true
      · rw [if_pos haccepts]
        exact ok key
      · rw [if_neg haccepts]
        exact error rfl
  | _ => exact error rfl

end FailsAs

/-- An outcome that fails by a denial, if it fails. -/
def OnlyDenies {α : Type} (x : Except Failure α) : Prop :=
  ∀ failure, x = .error failure → ∃ denial, failure = .denied denial

namespace OnlyDenies

variable {α β : Type}

theorem ok (a : α) : OnlyDenies (.ok a) := FailsAs.ok a

theorem orFail (x : Except Denial α) : OnlyDenies (Denial.orFail x) :=
  FailsAs.orFail (fun denial => ⟨denial, rfl⟩) x

theorem bind {x : Except Failure α} {f : α → Except Failure β} (hx : OnlyDenies x)
    (hf : ∀ a, OnlyDenies (f a)) : OnlyDenies (x >>= f) :=
  FailsAs.bind hx fun a _ => hf a

theorem map {x : Except Failure α} (f : α → β) (hx : OnlyDenies x) : OnlyDenies (x.map f) :=
  FailsAs.map f hx

theorem discard {x : Except Failure α} (hx : OnlyDenies x) :
    OnlyDenies (Functor.discard x : Except Failure PUnit) :=
  FailsAs.discard hx

theorem checkName {name : String} (valid : Name.isValid name = true) : OnlyDenies (Name.check name) := by
  rw [Name.check, if_pos valid]
  exact ok name

theorem kind (k : ResourceKind) : OnlyDenies (Core.kind k.word) := by
  rw [Core.kind, ResourceKind.ofWord?_word]
  exact ok k

theorem selector (core : Core) (key : Int) : OnlyDenies (core.selector (.int key)) := by
  intro failure h
  exact ⟨.badSelector (.int key), FailsAs.validate core (.int key) failure h⟩

end OnlyDenies

/-- Flows whose names, kinds and selectors are well formed, among those of applications. -/
inductive Flow.Plain : Flow → Prop
  | registerNamespace {name : String} (valid : Name.isValid name = true) (caller key : Int) :
      Plain (.registerNamespace caller name (some (.int key)))
  | registerResource {name : String} (valid : Name.isValid name = true) (caller space key : Int)
      (kind : ResourceKind) : Plain (.registerResource caller (.int space) name kind.word (some (.int key)))
  | resolveKind (key : Int) (kind : ResourceKind) : Plain (.resolveKind (.int key) kind.word)
  | grantWriter (caller key writer : Int) : Plain (.grantWriter caller (.int key) writer)
  | revokeWriter (caller key writer : Int) : Plain (.revokeWriter caller (.int key) writer)
  | grantNamespaceWriter (caller key writer : Int) : Plain (.grantNamespaceWriter caller (.int key) writer)
  | revokeNamespaceWriter (caller key writer : Int) : Plain (.revokeNamespaceWriter caller (.int key) writer)

namespace Core

theorem onlyDenies_enroll (core : Core) (caller space : Int) (name : String) (kind : ResourceKind)
    (selector : Int) : OnlyDenies (core.enroll caller space name kind selector) := by
  unfold enroll
  by_cases henforce : core.policy.enforceNamespaceWrite = true
  · simp only [henforce, if_true]
    exact .bind (.discard (.orFail _)) fun _ => .bind (.orFail _) fun _ => .ok _
  · simp only [henforce]
    exact .bind (.orFail _) fun _ => .ok _

/-- A well formed flow fails by a denial alone. -/
theorem onlyDenies_of_plain {flow : Flow} (h : flow.Plain) (core : Core) : OnlyDenies (core.attempt flow) := by
  cases h with
  | registerNamespace valid caller key =>
      refine .bind (.discard (.checkName valid)) fun _ => ?_
      refine .bind (.orFail _) fun _ => ?_
      refine .bind (.selector core key) fun _ => ?_
      exact .bind (.orFail _) fun _ => .ok _
  | @registerResource name valid caller space key kind =>
      refine .bind (.discard (.checkName valid)) fun _ => ?_
      refine .bind (.kind kind) fun kind => ?_
      refine .bind (.selector core space) fun space => ?_
      refine .bind (.map some (.selector core key)) fun given => ?_
      refine .bind (.orFail _) fun home => ?_
      cases given with
      | some selector => exact onlyDenies_enroll core caller space name kind selector
      | none =>
          exact .bind (.selector core _) fun selector => onlyDenies_enroll core caller space name kind selector
  | resolveKind key kind =>
      refine .bind (.kind kind) fun _ => ?_
      refine .bind (.selector core key) fun _ => ?_
      refine .bind (.discard (.orFail _)) fun _ => ?_
      exact .bind (.orFail _) fun _ => .ok _
  | grantWriter caller key writer =>
      exact .bind (.selector core key) fun _ => .bind (.orFail _) fun _ => .ok _
  | revokeWriter caller key writer =>
      exact .bind (.selector core key) fun _ => .bind (.orFail _) fun _ => .ok _
  | grantNamespaceWriter caller key writer =>
      exact .bind (.selector core key) fun _ => .bind (.orFail _) fun _ => .ok _
  | revokeNamespaceWriter caller key writer =>
      exact .bind (.selector core key) fun _ => .bind (.orFail _) fun _ => .ok _

end Core

namespace World

variable {m : Manifest} {p : Plan} {core : Core} {caller : Int} {item : PlannedRegistration} {flow : Flow}

/-- The flow of a whole registration is well formed where the name of a namespace is valid. -/
theorem plain_of_registration (whole : item.Whole)
    (named : ∀ name key, item = .space name key → Name.isValid name = true)
    (h : flow ∈ registrationFlows caller item core) : flow.Plain := by
  cases item with
  | space name key =>
      obtain rfl := List.mem_singleton.mp h
      exact .registerNamespace (named name key rfl) caller key
  | resource tag key space kind =>
      obtain ⟨⟨home, name⟩, hsplit⟩ := whole
      rw [registrationFlows_resource hsplit] at h
      obtain rfl := List.mem_singleton.mp h
      exact .registerResource (Tag.eq_join_of_split? hsplit).2.2 caller _ key kind

/-- Confirmations are well formed checks. -/
theorem plain_of_confirmation {spec : ResourceSpec} (h : flow ∈ confirmationFlows spec core) :
    flow.Plain ∧ flow.mutates = false := by
  unfold confirmationFlows at h
  cases hfound : core.store.resources.getByTag? spec.tag with
  | none =>
      rw [hfound] at h
      cases h
  | some record =>
      rw [hfound] at h
      obtain rfl := List.mem_singleton.mp h
      exact ⟨.resolveKind _ _, rfl⟩

/-- Grants are well formed changes. -/
theorem plain_grantFlow (caller : Int) (c : WriterChange) :
    (grantFlow caller c).Plain ∧ (grantFlow caller c).mutates = true := by
  unfold grantFlow
  cases c.target with
  | space => exact ⟨.grantNamespaceWriter _ _ _, rfl⟩
  | resource => exact ⟨.grantWriter _ _ _, rfl⟩

/-- Revocations are well formed changes. -/
theorem plain_revokeFlow (caller : Int) (c : WriterChange) :
    (revokeFlow caller c).Plain ∧ (revokeFlow caller c).mutates = true := by
  unfold revokeFlow
  cases c.target with
  | space => exact ⟨.revokeNamespaceWriter _ _ _, rfl⟩
  | resource => exact ⟨.revokeWriter _ _ _, rfl⟩

/-- All flows of an application are well formed where the declared names of namespaces are valid. -/
theorem plain_of_application {s : Store} {version : Nat} (sound : s.Sound)
    (h : Plan.of s version m = .ok p) (named : ∀ spec ∈ m.namespaces, Name.isValid spec.name = true)
    (hflow : flow ∈ applicationFlows p m caller core) : flow.Plain := by
  rcases List.mem_append.mp hflow with hregister | hflow
  · obtain ⟨item, hitem, core', hregister⟩ := mem_flowsOf hregister
    refine plain_of_registration (Plan.whole_of_planned h hitem) ?_ hregister
    rintro name key rfl
    obtain ⟨spec, hspec, rfl⟩ := List.mem_map.mp (Plan.name_mem_of_planned sound h hitem)
    exact named spec hspec
  rcases List.mem_append.mp hflow with hconfirm | hflow
  · obtain ⟨spec, -, core', hconfirm⟩ := mem_flowsOf hconfirm
    exact (plain_of_confirmation hconfirm).1
  rcases List.mem_append.mp hflow with hgrant | hrevoke
  · obtain ⟨c, -, rfl⟩ := List.mem_map.mp hgrant
    exact (plain_grantFlow caller c).1
  · obtain ⟨c, -, rfl⟩ := List.mem_map.mp hrevoke
    exact (plain_revokeFlow caller c).1

/-- A whole registration is one change. -/
theorem countP_registration (whole : item.Whole) (caller : Int) (core : Core) :
    (registrationFlows caller item core).countP (·.mutates) = 1 := by
  cases item with
  | space name key => rfl
  | resource tag key space kind =>
      obtain ⟨⟨home, name⟩, hsplit⟩ := whole
      rw [registrationFlows_resource hsplit]
      rfl

theorem countP_registrations {items : List PlannedRegistration} (whole : ∀ item ∈ items, item.Whole)
    (caller : Int) (core : Core) :
    (flowsOf (registrationFlows caller) items core).countP (·.mutates) = items.length := by
  induction items generalizing core with
  | nil => rfl
  | cons item rest ih =>
      rw [flowsOf, List.countP_append, countP_registration (whole item List.mem_cons_self),
        ih fun i hi => whole i (List.mem_cons_of_mem _ hi), List.length_cons, Nat.add_comm]

/-- An application changes as often as its plan has registrations, grants and revocations. -/
theorem countP_application {s : Store} {version : Nat} (h : Plan.of s version m = .ok p) (caller : Int)
    (core : Core) : (applicationFlows p m caller core).countP (·.mutates) =
      p.registrations.length + p.grants.length + p.revokes.length := by
  have hregister := countP_registrations (fun _ => Plan.whole_of_planned h) caller core
  have hconfirm : (flowsOf confirmationFlows m.resources
      (core.afterAll (flowsOf (registrationFlows caller) p.registrations core))).countP (·.mutates) = 0 := by
    refine List.countP_eq_zero.mpr fun flow hflow => ?_
    obtain ⟨spec, -, core', hconfirm⟩ := mem_flowsOf hflow
    simp [(plain_of_confirmation hconfirm).2]
  have hgrant : (p.grants.map (grantFlow caller)).countP (·.mutates) = p.grants.length := by
    rw [List.countP_map]
    exact List.countP_eq_length.mpr fun c _ => (plain_grantFlow caller c).2
  have hrevoke : (p.revokes.map (revokeFlow caller)).countP (·.mutates) = p.revokes.length := by
    rw [List.countP_map]
    exact List.countP_eq_length.mpr fun c _ => (plain_revokeFlow caller c).2
  rw [applicationFlows, List.countP_append, List.countP_append, List.countP_append, hregister, hconfirm,
    hgrant, hrevoke, Nat.zero_add, Nat.add_assoc]

end World

end OwnershipRegistry
