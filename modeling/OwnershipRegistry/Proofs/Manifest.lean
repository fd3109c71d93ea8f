import OwnershipRegistry.Manifest.Basic
import OwnershipRegistry.Proofs.Flow
import OwnershipRegistry.Proofs.Name

/-!
# What a manifest says

A manifest that was read gives its namespaces valid names, and validation sees
to it that it declares nothing twice.
-/

namespace OwnershipRegistry

namespace Schema

variable {α β : Type} {r : Reading α} {a : α}

theorem result_eq_ok_iff : r.result = .ok a ↔ r = .done a := by
  cases r <;> simp [Reading.result]

theorem andThen_eq_done_iff {f : α → Reading β} {b : β} :
    r.andThen f = .done b ↔ ∃ a, r = .done a ∧ f a = .done b := by
  cases r <;> simp [Reading.andThen]

theorem ruled_eq_done_iff {x : Except Failure α} : ruled x = .done a ↔ x = .ok a := by
  cases x <;> simp [ruled, Reading.fault]

theorem map_eq_done_iff {f : α → β} {b : β} : f <$> r = .done b ↔ ∃ a, r = .done a ∧ f a = b := by
  cases r <;> simp [Functor.map, Reading.map]

theorem seq_eq_done_iff {f : Reading (α → β)} {b : β} :
    f <*> r = .done b ↔ ∃ g a, f = .done g ∧ r = .done a ∧ g a = b := by
  cases f <;> cases r <;> simp [Seq.seq, Reading.and]

theorem under_eq_done_iff {place : Place} : Reading.under place r = .done a ↔ r = .done a := by
  cases r <;> simp [Reading.under]

theorem required_eq_done {entries : List (Value × Value)} {name : String} {read : Value → Reading α}
    (h : required entries name read = .done a) : ∃ v, read v = .done a := by
  have hread := under_eq_done_iff.mp h
  cases hfield : field? entries name with
  | none =>
      rw [hfield] at hread
      cases hread
  | some v =>
      rw [hfield] at hread
      exact ⟨v, hread⟩

theorem defaulted_eq_done {entries : List (Value × Value)} {name : String} {fallback : α}
    {read : Value → Reading α} (h : defaulted entries name fallback read = .done a) :
    a = fallback ∨ ∃ v, read v = .done a := by
  unfold defaulted at h
  cases hfield : field? entries name with
  | none =>
      rw [hfield] at h
      cases h
      exact Or.inl rfl
  | some v =>
      rw [hfield] at h
      exact Or.inr ⟨v, under_eq_done_iff.mp h⟩

theorem items_eq_done {read : Value → Reading α} {index : Nat} {vs : List Value} {as : List α}
    (h : Reading.items read index vs = .done as) : ∀ a ∈ as, ∃ v, read v = .done a := by
  induction vs generalizing index as with
  | nil =>
      cases h
      exact fun a hmem => absurd hmem List.not_mem_nil
  | cons v rest ih =>
      obtain ⟨cons, later, hfirst, hlater, rfl⟩ := seq_eq_done_iff.mp h
      obtain ⟨first, hread, rfl⟩ := map_eq_done_iff.mp hfirst
      intro a hmem
      rcases List.mem_cons.mp hmem with rfl | hmem
      · exact ⟨v, under_eq_done_iff.mp hread⟩
      · exact ih hlater a hmem

theorem list_eq_done {read : Value → Reading α} {v : Value} {as : List α}
    (h : list read v = .done as) : ∀ a ∈ as, ∃ v, read v = .done a := by
  unfold list at h
  split at h
  · exact items_eq_done h
  · exact items_eq_done h
  · exact items_eq_done h
  · cases h

theorem record_eq_done {read : List (Value × Value) → Reading α} {v : Value}
    (h : record read v = .done a) : ∃ entries, read entries = .done a := by
  unfold record at h
  split at h
  · exact ⟨_, h⟩
  · cases h

theorem topLevel_eq_done {read : List (Value × Value) → Reading α} {v : Value}
    (h : topLevel read v = .done a) : ∃ entries, read entries = .done a := by
  unfold topLevel at h
  split at h
  · rename_i entries _
    split at h
    · exact ⟨entries, h⟩
    · cases h
  · cases h

end Schema

namespace Manifest

/-- Validation has given the manifest. -/
def Validated (m : Manifest) : Prop := ∃ given : Manifest, given.validate = .ok m

/-- The names of namespaces that a manifest declares or uses in a tag. -/
def spaceNames (m : Manifest) : List String :=
  m.namespaces.map (·.name) ++ m.resources.filterMap fun r => (Tag.split? r.tag none).map (·.1)

/-- All declared tags split. -/
def Splits (m : Manifest) : Prop := ∀ spec ∈ m.resources, ∃ names, Tag.split? spec.tag none = some names

variable {m given : Manifest}

theorem mem_spaceNames_of_namespace {spec : NamespaceSpec} (h : spec ∈ m.namespaces) :
    spec.name ∈ m.spaceNames :=
  List.mem_append_left _ (List.mem_map_of_mem (f := (·.name)) h)

theorem mem_spaceNames_of_resource {spec : ResourceSpec} {names : String × String}
    (h : spec ∈ m.resources) (split : Tag.split? spec.tag none = some names) :
    names.1 ∈ m.spaceNames := by
  refine List.mem_append_right _ (List.mem_filterMap.mpr ⟨spec, h, ?_⟩)
  rw [split]
  rfl

/-- Every manifest that is read out of a value is validated. -/
theorem validated_of_ofValue {v : Value} (h : ofValue v = .ok m) : m.Validated := by
  obtain ⟨entries, hread⟩ := Schema.topLevel_eq_done (Schema.result_eq_ok_iff.mp h)
  obtain ⟨given, -, hvalidate⟩ := Schema.andThen_eq_done_iff.mp hread
  exact ⟨given, Schema.ruled_eq_done_iff.mp hvalidate⟩

/-- A namespace that is read has a valid name. -/
theorem named_of_readNamespace {entries : List (Value × Value)} {spec : NamespaceSpec}
    (h : readNamespace entries = .done spec) : Name.isValid spec.name = true := by
  obtain ⟨make, writers, hmake, -, rfl⟩ := Schema.seq_eq_done_iff.mp h
  obtain ⟨name, hname, rfl⟩ := Schema.map_eq_done_iff.mp hmake
  obtain ⟨v, hread⟩ := Schema.required_eq_done hname
  obtain ⟨given, -, hcheck⟩ := Schema.andThen_eq_done_iff.mp hread
  obtain ⟨hvalid, rfl⟩ := Name.check_eq_ok_iff.mp (Schema.ruled_eq_done_iff.mp hcheck)
  exact hvalid

theorem distinct_iff_nodup {names : List String} : distinct names = true ↔ names.Nodup := by
  induction names with
  | nil => exact ⟨fun _ => List.nodup_nil, fun _ => rfl⟩
  | cons name rest ih => simp [distinct, ih]

/-- A declared resource with its tag written out. -/
def WrittenOut (default : Option String) (r written : ResourceSpec) : Prop :=
  ∃ space name, Tag.split? r.tag default = some (space, name) ∧
    written = { r with tag := Tag.join space name }

theorem normalizeTags_cons {space : Option String} {seen : List String} {r : ResourceSpec}
    {rest written : List ResourceSpec} : normalizeTags space seen (r :: rest) = .ok written ↔
      ∃ first later, WrittenOut space r first ∧ first.tag ∉ seen ∧
        normalizeTags space (first.tag :: seen) rest = .ok later ∧ first :: later = written := by
  constructor
  · intro h
    obtain ⟨tag, hfull, h⟩ := bind_eq_ok.mp h
    obtain ⟨space, name, hsplit, rfl⟩ := Tag.full_eq_ok_iff.mp hfull
    by_cases hseen : seen.contains (Tag.join space name) = true
    · rw [if_pos hseen] at h
      cases h
    · rw [if_neg hseen] at h
      obtain ⟨-, -, h⟩ := bind_eq_ok.mp h
      obtain ⟨later, hlater, h⟩ := bind_eq_ok.mp h
      cases h
      exact ⟨_, later, ⟨space, name, hsplit, rfl⟩, by simpa using hseen, hlater, rfl⟩
  · rintro ⟨first, later, ⟨space, name, hsplit, rfl⟩, hunseen, hlater, rfl⟩
    refine bind_eq_ok.mpr ⟨_, Tag.full_eq_ok_iff.mpr ⟨space, name, hsplit, rfl⟩, ?_⟩
    rw [if_neg (by simpa using hunseen)]
    exact bind_eq_ok.mpr ⟨later, hlater, rfl⟩

/-- Writing out the tags succeeds if every one of them can be written out, and none was seen before or
is there twice. -/
theorem normalizeTags_eq_ok_iff {space : Option String} {seen : List String}
    {given written : List ResourceSpec} : normalizeTags space seen given = .ok written ↔
      List.Forall₂ (WrittenOut space) given written ∧ (written.map (·.tag)).Nodup ∧
        ∀ tag ∈ written.map (·.tag), tag ∉ seen := by
  induction given generalizing seen written with
  | nil =>
      constructor
      · rintro ⟨⟩
        simp
      · rintro ⟨hwritten, -, -⟩
        cases hwritten
        rfl
  | cons r rest ih =>
      rw [normalizeTags_cons]
      simp only [ih, List.mem_cons, not_or]
      constructor
      · rintro ⟨first, later, hfirst, hunseen, ⟨hlater, hnodup, hfresh⟩, rfl⟩
        refine ⟨.cons hfirst hlater, List.nodup_cons.mpr ⟨fun hmem => (hfresh _ hmem).1 rfl, hnodup⟩, ?_⟩
        exact List.forall_mem_cons.mpr ⟨hunseen, fun tag hmem => (hfresh tag hmem).2⟩
      · rintro ⟨hwritten, hnodup, hunseen⟩
        obtain ⟨first, later, hfirst, hlater, rfl⟩ := List.forall₂_cons_left_iff.mp hwritten
        obtain ⟨hother, hrest⟩ := List.nodup_cons.mp hnodup
        obtain ⟨hnew, hfresh⟩ := List.forall_mem_cons.mp hunseen
        refine ⟨first, later, hfirst, hnew, ⟨hlater, hrest, fun tag hmem => ⟨?_, hfresh tag hmem⟩⟩, rfl⟩
        rintro rfl
        exact hother hmem

/-- Validation writes out the tags, without one twice, and keeps everything else, without a name twice. -/
theorem validate_eq_ok_iff : given.validate = .ok m ↔
    List.Forall₂ (WrittenOut given.defaultNamespace) given.resources m.resources ∧
      (m.resources.map (·.tag)).Nodup ∧ (given.namespaces.map (·.name)).Nodup ∧
      { given with resources := m.resources } = m := by
  constructor
  · intro h
    unfold validate at h
    obtain ⟨resources, hnormal, h⟩ := bind_eq_ok.mp h
    obtain ⟨hwritten, hnodup, -⟩ := normalizeTags_eq_ok_iff.mp hnormal
    by_cases hdistinct : distinct (given.namespaces.map (·.name)) = true
    · rw [if_pos hdistinct] at h
      cases h
      exact ⟨hwritten, hnodup, distinct_iff_nodup.mp hdistinct, rfl⟩
    · rw [if_neg hdistinct] at h
      cases h
  · rintro ⟨hwritten, hnodup, hnames, hrest⟩
    have hnormal := normalizeTags_eq_ok_iff.mpr ⟨hwritten, hnodup, fun _ _ => List.not_mem_nil⟩
    refine bind_eq_ok.mpr ⟨m.resources, hnormal, ?_⟩
    rw [if_pos (distinct_iff_nodup.mpr hnames), hrest]
    rfl

/-- All namespaces of a manifest that is read out of a value have valid names. -/
theorem named_of_ofValue {v : Value} (h : ofValue v = .ok m) :
    ∀ spec ∈ m.namespaces, Name.isValid spec.name = true := by
  obtain ⟨entries, hread⟩ := Schema.topLevel_eq_done (Schema.result_eq_ok_iff.mp h)
  obtain ⟨given, hgiven, hvalidate⟩ := Schema.andThen_eq_done_iff.mp hread
  obtain ⟨make, resources, hmake, -, rfl⟩ := Schema.seq_eq_done_iff.mp hgiven
  obtain ⟨make', namespaces, hmake', hnamespaces, rfl⟩ := Schema.seq_eq_done_iff.mp hmake
  obtain ⟨make'', space, hmake'', -, rfl⟩ := Schema.seq_eq_done_iff.mp hmake'
  obtain ⟨version, -, rfl⟩ := Schema.map_eq_done_iff.mp hmake''
  obtain ⟨-, -, -, hkept⟩ := validate_eq_ok_iff.mp (Schema.ruled_eq_done_iff.mp hvalidate)
  rw [← hkept]
  intro spec hspec
  rcases Schema.defaulted_eq_done hnamespaces with rfl | ⟨value, hlist⟩
  · cases hspec
  · obtain ⟨item, hrecord⟩ := Schema.list_eq_done hlist spec hspec
    obtain ⟨fields, hfields⟩ := Schema.record_eq_done hrecord
    exact named_of_readNamespace hfields

/-- A validated manifest declares no namespace and no resource twice. -/
theorem Validated.nodup (h : m.Validated) :
    (m.namespaces.map (·.name)).Nodup ∧ (m.resources.map (·.tag)).Nodup := by
  obtain ⟨given, hvalidate⟩ := h
  obtain ⟨-, htags, hnames, hkept⟩ := validate_eq_ok_iff.mp hvalidate
  refine ⟨?_, htags⟩
  rw [← hkept]
  exact hnames

end Manifest

end OwnershipRegistry
