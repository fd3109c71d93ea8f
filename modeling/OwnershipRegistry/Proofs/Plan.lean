import Mathlib.Data.List.Forall2
import OwnershipRegistry.Manifest.Plan
import OwnershipRegistry.Proofs.Manifest

/-!
# What a plan says

For every declared record a plan has one subject: where the record is or will
be, its writers now and those that are wanted. Registrations, grants and
revocations are read off the subjects.
-/

namespace OwnershipRegistry

/-- Each item of a list is related to one of a list that is related to it item by item. -/
theorem exists_of_forall₂ {α β : Type} {r : α → β → Prop} {xs : List α} {ys : List β}
    (h : List.Forall₂ r xs ys) {x : α} (hx : x ∈ xs) : ∃ y ∈ ys, r x y := by
  induction h with
  | nil => cases hx
  | @cons _ y _ _ hfirst _ ih =>
      rcases List.mem_cons.mp hx with rfl | hrest
      · exact ⟨y, List.mem_cons_self, hfirst⟩
      · obtain ⟨y', hy', hlater⟩ := ih hrest
        exact ⟨y', List.mem_cons_of_mem _ hy', hlater⟩

/-- Whether a planned registration can be carried out as far as its names go: the tag of a resource
splits. -/
def PlannedRegistration.Whole : PlannedRegistration → Prop
  | .space _ _ => True
  | .resource tag _ _ _ => ∃ names, Tag.split? tag none = some names

/-- Whether the namespace of a planned resource is the first part of its tag. -/
def PlannedRegistration.Placed : PlannedRegistration → Prop
  | .space _ _ => True
  | .resource tag _ home _ => ∃ name, Tag.split? tag none = some (home, name)

theorem PlannedRegistration.Placed.whole {item : PlannedRegistration} (h : item.Placed) : item.Whole := by
  cases item with
  | space => trivial
  | resource =>
      obtain ⟨name, hsplit⟩ := h
      exact ⟨_, hsplit⟩

/-- What a plan decides about: a declared record, the selector where it is or will be, its writers now
and, where they are declared, the wanted ones. -/
structure Subject where
  target : Target
  label : String
  selector : Int
  current : Writers
  wanted : Option (List Int)

namespace Subject

/-- The grants that a subject needs. -/
def grants (e : Subject) : List WriterChange :=
  (Plan.writerChanges e.target e.label e.selector e.current e.wanted).1

/-- The revocations that a subject needs. -/
def revokes (e : Subject) : List WriterChange :=
  (Plan.writerChanges e.target e.label e.selector e.current e.wanted).2

variable {e : Subject} {c : WriterChange}

theorem mem_grants_iff : c ∈ e.grants ↔ c = ⟨e.target, e.label, e.selector, c.writer⟩ ∧
    ∃ ws, e.wanted = some ws ∧ c.writer ∈ ws ∧ c.writer ∉ e.current := by
  unfold grants
  cases e.wanted with
  | none => simp [Plan.writerChanges]
  | some ws =>
      simp only [Plan.writerChanges, List.mem_map, IntSet.mem_minus, IntSet.mem_ofList,
        Option.some.injEq, exists_eq_left']
      constructor
      · rintro ⟨x, hx, rfl⟩
        exact ⟨rfl, hx⟩
      · rintro ⟨hc, hx⟩
        exact ⟨c.writer, hx, hc.symm⟩

theorem mem_revokes_iff : c ∈ e.revokes ↔ c = ⟨e.target, e.label, e.selector, c.writer⟩ ∧
    ∃ ws, e.wanted = some ws ∧ c.writer ∈ e.current ∧ c.writer ∉ ws := by
  unfold revokes
  cases e.wanted with
  | none => simp [Plan.writerChanges]
  | some ws =>
      simp only [Plan.writerChanges, List.mem_map, IntSet.mem_minus, IntSet.mem_ofList,
        Option.some.injEq, exists_eq_left']
      constructor
      · rintro ⟨x, hx, rfl⟩
        exact ⟨rfl, hx⟩
      · rintro ⟨hc, hx⟩
        exact ⟨c.writer, hx, hc.symm⟩

/-- A subject whose wanted writers are the current ones needs no change. -/
theorem settled (h : ∀ ws, e.wanted = some ws → ∀ x, x ∈ e.current ↔ x ∈ ws) :
    e.grants = [] ∧ e.revokes = [] := by
  constructor
  · apply List.eq_nil_iff_forall_not_mem.mpr
    intro c hc
    obtain ⟨-, ws, hwanted, hin, hout⟩ := mem_grants_iff.mp hc
    exact hout ((h ws hwanted c.writer).mpr hin)
  · apply List.eq_nil_iff_forall_not_mem.mpr
    intro c hc
    obtain ⟨-, ws, hwanted, hin, hout⟩ := mem_revokes_iff.mp hc
    exact hout ((h ws hwanted c.writer).mp hin)

end Subject

namespace Plan

/-- The subject of a declared namespace. -/
def spaceSubject (s : Store) (spec : NamespaceSpec) : Subject :=
  let selector := s.namespaceSelector spec.name
  ⟨.space, spec.name, selector, ((s.namespaces.records.get? selector).map (·.writers)).getD [], spec.writers⟩

/-- The subject of a declared resource, whose tag splits into the given names. -/
def resourceSubject (s : Store) (spec : ResourceSpec) (names : String × String) : Subject :=
  let found := s.resources.getByTag? spec.tag
  ⟨.resource, spec.tag, (found.map (·.selector)).getD (Selector.ofNames names.1 names.2),
    (found.map (·.writers)).getD [], spec.writers⟩

/-- The subjects of a manifest. -/
inductive Declares (s : Store) (m : Manifest) : Subject → Prop
  | space {spec : NamespaceSpec} (declared : spec ∈ m.namespaces) : Declares s m (spaceSubject s spec)
  | resource {spec : ResourceSpec} {names : String × String} (declared : spec ∈ m.resources)
      (split : Tag.split? spec.tag none = some names) : Declares s m (resourceSubject s spec names)

/-- Plans one after the other. -/
def concat (parts : List Plan) : Plan := parts.foldr append empty

variable {s : Store} {m : Manifest} {p q : Plan} {version : Nat} {c : WriterChange}

theorem forNamespace_eq (s : Store) (spec : NamespaceSpec) : forNamespace s spec =
    ⟨if (s.namespaces.records.get? (s.namespaceSelector spec.name)).isNone then
        [.space spec.name (s.namespaceSelector spec.name)] else [],
      (spaceSubject s spec).grants, (spaceSubject s spec).revokes⟩ := by
  simp only [forNamespace, spaceSubject, Subject.grants, Subject.revokes]
  cases s.namespaces.records.get? (s.namespaceSelector spec.name) <;> cases spec.writers <;> rfl

theorem forResource_eq_ok_iff (sound : s.Sound) {spec : ResourceSpec} :
    forResource s version spec = .ok q ↔ ∃ names, Tag.split? spec.tag none = some names ∧
      ⟨if (s.resources.getByTag? spec.tag).isNone then
          [.resource spec.tag (Selector.ofNames names.1 names.2) names.1 spec.kind] else [],
        (resourceSubject s spec names).grants, (resourceSubject s spec names).revokes⟩ = q := by
  unfold forResource
  rw [map_eq_ok_iff]
  simp only [Tag.split_eq_ok_iff, sound.resourceByTag_eq]
  apply exists_congr
  intro names
  apply and_congr_right
  intro _
  unfold resourceSubject Subject.grants Subject.revokes
  cases s.resources.getByTag? spec.tag <;> cases spec.writers <;> exact Iff.rfl

/-- A field of the plans in a list is gathered from them. -/
theorem part_concat {α : Type} (part : Plan → List α) (onEmpty : part empty = [])
    (onAppend : ∀ p q : Plan, part (p.append q) = part p ++ part q) (parts : List Plan) :
    part (concat parts) = parts.flatMap part := by
  induction parts with
  | nil => exact onEmpty
  | cons first rest ih =>
      have hstep : concat (first :: rest) = first.append (concat rest) := rfl
      rw [hstep, onAppend, ih, List.flatMap_cons]

theorem concat_eq (parts : List Plan) :
    concat parts = ⟨parts.flatMap registrations, parts.flatMap grants, parts.flatMap revokes⟩ := by
  rw [← part_concat registrations rfl fun _ _ => rfl, ← part_concat grants rfl fun _ _ => rfl,
    ← part_concat revokes rfl fun _ _ => rfl]

theorem concat_append (parts more : List Plan) :
    concat (parts ++ more) = (concat parts).append (concat more) := by
  simp only [concat_eq, List.flatMap_append, append]

theorem concat_eq_empty {parts : List Plan} (h : ∀ q ∈ parts, q = empty) : concat parts = empty := by
  induction parts with
  | nil => rfl
  | cons first rest ih =>
      have hrest := ih fun q hq => h q (List.mem_cons_of_mem _ hq)
      have hstep : concat (first :: rest) = first.append (concat rest) := rfl
      rw [hstep, hrest, h first List.mem_cons_self]
      rfl

theorem forResources_eq_ok_iff {specs : List ResourceSpec} : forResources s version specs = .ok p ↔
    ∃ parts, List.Forall₂ (fun spec q => forResource s version spec = .ok q) specs parts ∧
      concat parts = p := by
  induction specs generalizing p with
  | nil =>
      constructor
      · rintro ⟨⟩
        exact ⟨[], .nil, rfl⟩
      · rintro ⟨parts, hparts, rfl⟩
        cases hparts
        rfl
  | cons spec rest ih =>
      constructor
      · intro h
        obtain ⟨first, hfirst, h⟩ := bind_eq_ok.mp h
        obtain ⟨later, hlater, h⟩ := bind_eq_ok.mp h
        obtain ⟨parts, hparts, rfl⟩ := ih.mp hlater
        cases h
        exact ⟨first :: parts, .cons hfirst hparts, rfl⟩
      · rintro ⟨parts, hparts, rfl⟩
        obtain ⟨first, later, hfirst, hlater, rfl⟩ := List.forall₂_cons_left_iff.mp hparts
        exact bind_eq_ok.mpr ⟨first, hfirst, bind_eq_ok.mpr ⟨_, ih.mpr ⟨later, hlater, rfl⟩, rfl⟩⟩

/-- A plan for a manifest consists of the parts for its declarations. -/
theorem of_eq_ok_iff : of s version m = .ok p ↔
    ∃ parts, List.Forall₂ (fun spec q => forResource s version spec = .ok q) m.resources parts ∧
      concat (m.namespaces.map (forNamespace s) ++ parts) = p := by
  have hspaces : forNamespaces s m.namespaces = concat (m.namespaces.map (forNamespace s)) :=
    (List.foldr_map ..).symm
  unfold of
  rw [map_eq_ok_iff, hspaces]
  simp only [forResources_eq_ok_iff, concat_append]
  constructor
  · rintro ⟨later, ⟨parts, hparts, rfl⟩, rfl⟩
    exact ⟨parts, hparts, rfl⟩
  · rintro ⟨parts, hparts, rfl⟩
    exact ⟨_, ⟨parts, hparts, rfl⟩, rfl⟩

/-- The parts for declared resources are those that each of them has. -/
theorem mem_parts_iff {specs : List ResourceSpec} {parts : List Plan}
    (h : List.Forall₂ (fun spec q => forResource s version spec = .ok q) specs parts) :
    q ∈ parts ↔ ∃ spec ∈ specs, forResource s version spec = .ok q := by
  induction h with
  | nil => simp
  | cons hfirst _ ih =>
      simp only [List.mem_cons, exists_eq_or_imp, hfirst, Except.ok.injEq, ih]
      exact or_congr_left eq_comm

/-- What is in a plan is in the part for one of its declarations, field by field. -/
theorem mem_of_iff {α : Type} (part : Plan → List α) (onEmpty : part empty = [])
    (onAppend : ∀ p q : Plan, part (p.append q) = part p ++ part q) {a : α}
    (h : of s version m = .ok p) : a ∈ part p ↔
      (∃ spec ∈ m.namespaces, a ∈ part (forNamespace s spec)) ∨
        ∃ spec ∈ m.resources, ∃ q, forResource s version spec = .ok q ∧ a ∈ part q := by
  obtain ⟨parts, hparts, rfl⟩ := of_eq_ok_iff.mp h
  simp only [part_concat part onEmpty onAppend, List.flatMap_append, List.flatMap_map, List.mem_append,
    List.mem_flatMap, mem_parts_iff hparts]
  apply or_congr_right
  constructor
  · rintro ⟨q, ⟨spec, hspec, hq⟩, ha⟩
    exact ⟨spec, hspec, q, hq, ha⟩
  · rintro ⟨spec, hspec, q, hq, ha⟩
    exact ⟨q, ⟨spec, hspec, hq⟩, ha⟩

/-- The namespace of a planned resource is the first part of its tag. -/
theorem placed_of_planned (h : of s version m = .ok p) {item : PlannedRegistration}
    (planned : item ∈ p.registrations) : item.Placed := by
  rcases (mem_of_iff registrations rfl (fun _ _ => rfl) h).mp planned with
    ⟨spec, -, hitem⟩ | ⟨spec, -, q, hq, hitem⟩
  · rw [forNamespace_eq] at hitem
    cases hfree : (s.namespaces.records.get? (s.namespaceSelector spec.name)).isNone with
    | false => simp [hfree] at hitem
    | true =>
        obtain rfl : item = .space spec.name (s.namespaceSelector spec.name) := by
          simpa [hfree] using hitem
        trivial
  · obtain ⟨names, hsplit, rfl⟩ := map_eq_ok_iff.mp hq
    cases hfound : (s.snapshot version).resourceByTag spec.tag with
    | some r => simp [hfound] at hitem
    | none =>
        obtain rfl : item = .resource spec.tag (Selector.ofNames names.1 names.2) names.1 spec.kind := by
          simpa [hfound] using hitem
        exact ⟨names.2, Tag.split_eq_ok_iff.mp hsplit⟩

/-- Every planned registration is whole: the tag of a planned resource splits into its names. -/
theorem whole_of_planned (h : of s version m = .ok p) {item : PlannedRegistration}
    (planned : item ∈ p.registrations) : item.Whole :=
  (placed_of_planned h planned).whole

/-- Every tag of a manifest that can be planned splits into its names. -/
theorem split_of (sound : s.Sound) (h : of s version m = .ok p) {spec : ResourceSpec}
    (declared : spec ∈ m.resources) : ∃ names, Tag.split? spec.tag none = some names := by
  obtain ⟨parts, hparts, -⟩ := of_eq_ok_iff.mp h
  obtain ⟨q, -, hq⟩ := exists_of_forall₂ hparts declared
  obtain ⟨names, hnames, -⟩ := (forResource_eq_ok_iff sound).mp hq
  exact ⟨names, hnames⟩

/-- The writer changes of a plan are those that its subjects need. -/
theorem mem_changes_iff {part : Plan → List WriterChange} {needed : Subject → List WriterChange}
    (onEmpty : part empty = []) (onAppend : ∀ p q : Plan, part (p.append q) = part p ++ part q)
    (onSubject : ∀ registrations e, part ⟨registrations, e.grants, e.revokes⟩ = needed e)
    (sound : s.Sound) (h : of s version m = .ok p) :
    c ∈ part p ↔ ∃ e, Declares s m e ∧ c ∈ needed e := by
  rw [mem_of_iff part onEmpty onAppend h]
  constructor
  · rintro (⟨spec, hspec, hc⟩ | ⟨spec, hspec, q, hq, hc⟩)
    · rw [forNamespace_eq, onSubject] at hc
      exact ⟨_, .space hspec, hc⟩
    · obtain ⟨names, hnames, rfl⟩ := (forResource_eq_ok_iff sound).mp hq
      rw [onSubject] at hc
      exact ⟨_, .resource hspec hnames, hc⟩
  · rintro ⟨e, hdeclares, hc⟩
    cases hdeclares with
    | space hspec =>
        refine Or.inl ⟨_, hspec, ?_⟩
        rw [forNamespace_eq, onSubject]
        exact hc
    | resource hspec hnames =>
        refine Or.inr ⟨_, hspec, _, (forResource_eq_ok_iff sound).mpr ⟨_, hnames, rfl⟩, ?_⟩
        rw [onSubject]
        exact hc

/-- A plan grants what its subjects need. -/
theorem mem_grants_iff (sound : s.Sound) (h : of s version m = .ok p) :
    c ∈ p.grants ↔ ∃ e, Declares s m e ∧ c ∈ e.grants :=
  mem_changes_iff rfl (fun _ _ => rfl) (fun _ _ => rfl) sound h

/-- A plan revokes what its subjects need. -/
theorem mem_revokes_iff (sound : s.Sound) (h : of s version m = .ok p) :
    c ∈ p.revokes ↔ ∃ e, Declares s m e ∧ c ∈ e.revokes :=
  mem_changes_iff rfl (fun _ _ => rfl) (fun _ _ => rfl) sound h

/-- A plan registers the declared namespaces at whose selector there is none, and the declared
resources whose tag is not known. -/
theorem mem_registrations_iff (sound : s.Sound) (h : of s version m = .ok p)
    {item : PlannedRegistration} : item ∈ p.registrations ↔
      (∃ spec ∈ m.namespaces, s.namespaces.records.get? (s.namespaceSelector spec.name) = none ∧
        item = .space spec.name (s.namespaceSelector spec.name)) ∨
      ∃ spec ∈ m.resources, ∃ names, Tag.split? spec.tag none = some names ∧
        s.resources.getByTag? spec.tag = none ∧
        item = .resource spec.tag (Selector.ofNames names.1 names.2) names.1 spec.kind := by
  rw [mem_of_iff registrations rfl (fun _ _ => rfl) h]
  apply or_congr
  · apply exists_congr
    intro spec
    apply and_congr_right
    intro _
    rw [forNamespace_eq]
    cases s.namespaces.records.get? (s.namespaceSelector spec.name) <;> simp
  · apply exists_congr
    intro spec
    apply and_congr_right
    intro _
    simp only [forResource_eq_ok_iff sound]
    constructor
    · rintro ⟨-, ⟨names, hnames, rfl⟩, hitem⟩
      refine ⟨names, hnames, ?_⟩
      cases hfound : s.resources.getByTag? spec.tag with
      | none => simpa [hfound] using hitem
      | some r => simp [hfound] at hitem
    · rintro ⟨names, hnames, hfound, rfl⟩
      exact ⟨_, ⟨names, hnames, rfl⟩, by simp [hfound]⟩

/-- A planned namespace is a declared one. -/
theorem name_mem_of_planned (sound : s.Sound) (h : of s version m = .ok p) {name : String} {key : Int}
    (planned : .space name key ∈ p.registrations) : name ∈ m.namespaces.map (·.name) := by
  rcases (mem_registrations_iff sound h).mp planned with
    ⟨spec, hspec, -, heq⟩ | ⟨spec, -, names, -, -, heq⟩
  · rw [(PlannedRegistration.space.inj heq).1]
    exact List.mem_map_of_mem (f := (·.name)) hspec
  · cases heq

/-- A planned resource has a declared tag. -/
theorem tag_mem_of_planned (sound : s.Sound) (h : of s version m = .ok p) {tag space : String}
    {key : Int} {kind : ResourceKind} (planned : .resource tag key space kind ∈ p.registrations) :
    tag ∈ m.resources.map (·.tag) := by
  rcases (mem_registrations_iff sound h).mp planned with
    ⟨spec, -, -, heq⟩ | ⟨spec, hspec, names, -, -, heq⟩
  · cases heq
  · rw [(PlannedRegistration.resource.inj heq).1]
    exact List.mem_map_of_mem (f := (·.tag)) hspec

/-- In a validated manifest the label of a subject determines it. -/
theorem Declares.unique (valid : m.Validated) {e e' : Subject} (h : Declares s m e)
    (h' : Declares s m e') (target : e.target = e'.target) (label : e.label = e'.label) : e = e' := by
  obtain ⟨hnames, htags⟩ := valid.nodup
  cases h with
  | space hspec =>
      cases h' with
      | space hspec' => rw [List.inj_on_of_nodup_map hnames hspec hspec' label]
      | resource _ _ => cases target
  | resource hspec hsplit =>
      cases h' with
      | space _ => cases target
      | resource hspec' hsplit' =>
          obtain rfl := List.inj_on_of_nodup_map htags hspec hspec' label
          rw [hsplit] at hsplit'
          cases hsplit'
          rfl

/-- The plan is empty when every declaration is registered and every subject is settled. -/
theorem of_eq_empty (sound : s.Sound)
    (spaces : ∀ spec ∈ m.namespaces,
      (s.namespaces.records.get? (s.namespaceSelector spec.name)).isSome = true)
    (resources : ∀ spec ∈ m.resources, (s.resources.getByTag? spec.tag).isSome = true ∧
      ∃ names, Tag.split? spec.tag none = some names)
    (settled : ∀ e, Declares s m e → ∀ ws, e.wanted = some ws → ∀ x, x ∈ e.current ↔ x ∈ ws) :
    of s version m = .ok empty := by
  have hspaces : ∀ spec ∈ m.namespaces, forNamespace s spec = empty := by
    intro spec hspec
    obtain ⟨hgrants, hrevokes⟩ := Subject.settled (settled _ (.space hspec))
    rw [forNamespace_eq, hgrants, hrevokes, Option.isNone_eq_false_iff.mpr (spaces spec hspec)]
    rfl
  have hresources : ∀ spec ∈ m.resources, forResource s version spec = .ok empty := by
    intro spec hspec
    obtain ⟨hthere, names, hnames⟩ := resources spec hspec
    obtain ⟨hgrants, hrevokes⟩ := Subject.settled (settled _ (.resource hspec hnames))
    refine (forResource_eq_ok_iff sound).mpr ⟨names, hnames, ?_⟩
    rw [hgrants, hrevokes, Option.isNone_eq_false_iff.mpr hthere]
    rfl
  refine of_eq_ok_iff.mpr ⟨m.resources.map fun _ => empty, ?_, concat_eq_empty fun q hq => ?_⟩
  · exact List.forall₂_map_right_iff.mpr (List.forall₂_same.mpr hresources)
  · rcases List.mem_append.mp hq with hq | hq
    · obtain ⟨spec, hspec, rfl⟩ := List.mem_map.mp hq
      exact hspaces spec hspec
    · obtain ⟨spec, -, rfl⟩ := List.mem_map.mp hq
      rfl

end Plan

end OwnershipRegistry
