import OwnershipRegistry.Proofs.Plan
import OwnershipRegistry.Proofs.ReadBack
import OwnershipRegistry.World.Application

/-!
# Manifests that are accepted can be planned

Validation writes every tag out with a namespace. If that is one that the tag
named, the tag splits again. The default namespace is taken as it is, so a tag
that it completes splits again only if the default is a name. Whether all tags
split decides whether a manifest's value is accepted again, and whether the
manifest can be planned.
-/

namespace OwnershipRegistry

namespace Manifest

/-- A manifest that is accepted: as it is given, or as it is loaded with whatever settings. -/
inductive Accepted : Manifest → Prop
  | given {v : Value} {m : Manifest} (h : ofValue v = .ok m) : Accepted m
  | loaded {settings : Except Failure Settings} {documents : Documents} {path : Option String} {m : Manifest}
      (h : load settings documents path = .ok m) : Accepted m

/-- The default namespace is a name wherever it was written into a tag. -/
def Qualified (m : Manifest) : Prop :=
  ∀ space, m.defaultNamespace = some space → Name.isValid space = false →
    ∀ r ∈ m.resources, ∀ name, r.tag ≠ Tag.join space name

variable {m m' : Manifest}

/-- A document is read as a record of fields, whatever default the settings add to it. -/
theorem ofValue_of_ofDocument {settings : Except Failure Settings} {document : Value}
    (h : ofDocument settings document = .ok m) : ∃ v, ofValue v = .ok m := by
  simp only [ofDocument] at h
  generalize (if document.isFalsy = true then Value.dict [] else document) = filled at h
  cases hshape : filled.followed with
  | dict entries =>
      rw [hshape] at h
      obtain ⟨fields, -, h⟩ := bind_eq_ok.mp h
      split_ifs at h
      · exact ⟨_, h⟩
      · obtain ⟨s, -, h⟩ := bind_eq_ok.mp h
        exact ⟨_, h⟩
  | _ =>
      rw [hshape] at h
      cases h

/-- A manifest that is loaded is the one of a document that was found. -/
theorem ofDocument_of_load {settings : Except Failure Settings} {documents : Documents}
    {path : Option String} (h : load settings documents path = .ok m) :
    ∃ document, ofDocument settings document = .ok m := by
  have hplace : ∃ place, load settings documents (some place) = .ok m := by
    cases path with
    | some place => exact ⟨place, h⟩
    | none =>
        obtain ⟨place, -, hplace⟩ := bind_eq_ok.mp h
        exact ⟨place, hplace⟩
  obtain ⟨place, hload⟩ := hplace
  cases hcontents : documents.at? place with
  | none =>
      simp only [load, pure_bind, hcontents] at hload
      cases hload
  | some contents =>
      simp only [load, pure_bind, hcontents] at hload
      obtain ⟨document, -, hdocument⟩ := bind_eq_ok.mp hload
      exact ⟨document, hdocument⟩

/-- Every accepted manifest was read out of some value. -/
theorem Accepted.read (h : m.Accepted) : ∃ v, ofValue v = .ok m := by
  cases h with
  | given h => exact ⟨_, h⟩
  | loaded h =>
      obtain ⟨document, hdocument⟩ := ofDocument_of_load h
      exact ofValue_of_ofDocument hdocument

/-- Every tag of a validated manifest joins a valid name to a namespace, which is a valid name or the
default. -/
theorem Validated.joined (h : m.Validated) {r : ResourceSpec} (hr : r ∈ m.resources) :
    ∃ space name, r.tag = Tag.join space name ∧ Name.isValid name = true ∧
      (Name.isValid space = true ∨ m.defaultNamespace = some space) := by
  obtain ⟨given, hvalidate⟩ := h
  obtain ⟨hwritten, -, -, hkept⟩ := validate_eq_ok_iff.mp hvalidate
  have hdefault : m.defaultNamespace = given.defaultNamespace := by rw [← hkept]
  have hback : List.Forall₂ (fun r bare => WrittenOut given.defaultNamespace bare r) m.resources
      given.resources := hwritten.flip
  obtain ⟨bare, -, space, name, hsplit, rfl⟩ := exists_of_forall₂ hback hr
  obtain ⟨hname, hwhere⟩ := Tag.split?_eq_some_iff.mp hsplit
  rw [hdefault]
  exact ⟨space, name, rfl, hname, hwhere.imp And.left And.left⟩

/-- The tags of a validated manifest split unless they were completed by a default that is no name. -/
theorem Validated.splits_iff (h : m.Validated) : m.Splits ↔ m.Qualified := by
  constructor
  · intro hsplits space _ hinvalid r hr name htag
    obtain ⟨names, hsplit⟩ := hsplits r hr
    rw [htag, Tag.split?_join_eq_none hinvalid] at hsplit
    cases hsplit
  · intro hqualified r hr
    obtain ⟨space, name, htag, hname, hwhere⟩ := h.joined hr
    have hspace : Name.isValid space = true := by
      rcases hwhere with hspace | hdefault
      · exact hspace
      · by_contra hinvalid
        exact hqualified space hdefault (Bool.eq_false_iff.mpr hinvalid) r hr name htag
    rw [htag]
    exact ⟨(space, name), Tag.split?_join hspace hname none⟩

/-- A validated manifest is valid again, and unchanged, if its tags split. -/
theorem Validated.again (h : m.Validated) (splits : m.Splits) : m.validate = .ok m := by
  have hself : ∀ r ∈ m.resources, WrittenOut m.defaultNamespace r r := by
    intro r hr
    obtain ⟨⟨space, name⟩, hsplit⟩ := splits r hr
    obtain ⟨htag, hspace, hname⟩ := Tag.eq_join_of_split? hsplit
    refine ⟨space, name, ?_, ?_⟩
    · rw [htag]
      exact Tag.split?_join hspace hname _
    · rw [← htag]
  exact validate_eq_ok_iff.mpr ⟨List.forall₂_same.mpr hself, h.nodup.2, h.nodup.1, rfl⟩

/-- A validated manifest with a tag that does not split is not valid again. -/
theorem Validated.splits_of_again (h : m.Validated) (again : m.validate = .ok m') : m.Splits := by
  obtain ⟨hwritten, -, -, -⟩ := validate_eq_ok_iff.mp again
  intro r hr
  obtain ⟨space, name, htag, hname, -⟩ := h.joined hr
  obtain ⟨-, -, other, last, hsplit, -⟩ := exists_of_forall₂ hwritten hr
  cases hspace : Name.isValid space with
  | true =>
      rw [htag]
      exact ⟨(space, name), Tag.split?_join hspace hname none⟩
  | false =>
      rw [htag, Tag.split?_join_eq_none hspace] at hsplit
      cases hsplit

end Manifest

namespace Plan

/-- Planning the resources comes to its end if all tags split. It stops at one that does not. -/
theorem forResources_ends (s : Store) (version : Nat) (specs : List ResourceSpec) :
    ((∀ spec ∈ specs, ∃ names, Tag.split? spec.tag none = some names) ∧
        ∃ p, forResources s version specs = .ok p) ∨
      ∃ spec ∈ specs, Tag.split? spec.tag none = none ∧
        forResources s version specs = .error (.invalidTag spec.tag) := by
  induction specs with
  | nil => exact Or.inl ⟨fun spec hmem => absurd hmem List.not_mem_nil, empty, rfl⟩
  | cons spec rest ih =>
      cases hsplit : Tag.split? spec.tag none with
      | none =>
          refine Or.inr ⟨spec, List.mem_cons_self, hsplit, ?_⟩
          rw [forResources, forResource, Tag.split, hsplit]
          rfl
      | some names =>
          obtain ⟨first, hfirst⟩ : ∃ first, forResource s version spec = .ok first := by
            rw [forResource, Tag.split, hsplit]
            exact ⟨_, rfl⟩
          rcases ih with ⟨hsplits, later, hlater⟩ | ⟨stuck, hmem, hstuck, herror⟩
          · refine Or.inl ⟨List.forall_mem_cons.mpr ⟨⟨names, hsplit⟩, hsplits⟩, first.append later, ?_⟩
            exact bind_eq_ok.mpr ⟨first, hfirst, bind_eq_ok.mpr ⟨later, hlater, rfl⟩⟩
          · refine Or.inr ⟨stuck, List.mem_cons_of_mem _ hmem, hstuck, ?_⟩
            rw [forResources, hfirst, herror]
            rfl

end Plan

namespace Manifest

variable {m : Manifest}

/-- A manifest that can be used as it stands: its tags are made of names, it is accepted again as it is
written, and it can be planned in every world. -/
structure Plannable (m : Manifest) : Prop where
  splits : ∀ r ∈ m.resources, ∃ space name, Name.isValid space = true ∧ Name.isValid name = true ∧
    Tag.split r.tag none = .ok (space, name) ∧ Tag.join space name = r.tag
  readBack : ofValue m.toValue = .ok m
  planned : ∀ w : World, ∃ p, (World.plan m w).1 = .ok p

/-- A manifest that cannot be used: it is not accepted again as it is written, and its plan stops in
every world at a tag that does not split. -/
structure Stuck (m : Manifest) : Prop where
  refused : ∀ m', ofValue m.toValue ≠ .ok m'
  stops : ∀ w : World, ∃ r ∈ m.resources, Tag.split r.tag none = .error (.invalidTag r.tag) ∧
    (World.plan m w).1 = .error (.invalidTag r.tag)

theorem plan_fst (m : Manifest) (w : World) :
    (World.plan m w).1 = Plan.of w.core.store w.core.version m := by
  unfold World.plan
  cases Plan.of w.core.store w.core.version m <;> rfl

/-- Which manifests that were read out of a value can be used. -/
theorem plannable_of_splits {v : Value} (h : ofValue v = .ok m) (splits : m.Splits) : m.Plannable where
  splits r hr := by
    obtain ⟨⟨space, name⟩, hsplit⟩ := splits r hr
    obtain ⟨htag, hspace, hname⟩ := Tag.eq_join_of_split? hsplit
    exact ⟨space, name, hspace, hname, Tag.split_eq_ok_iff.mpr hsplit, htag.symm⟩
  readBack := (ofValue_toValue_eq_ok_iff (named_of_ofValue h)).mpr ((validated_of_ofValue h).again splits)
  planned w := by
    rw [plan_fst]
    rcases Plan.forResources_ends w.core.store w.core.version m.resources with
      ⟨-, p, hp⟩ | ⟨r, hr, hstuck, -⟩
    · exact ⟨_, map_eq_ok_iff.mpr ⟨p, hp, rfl⟩⟩
    · obtain ⟨names, hsplit⟩ := splits r hr
      rw [hstuck] at hsplit
      cases hsplit

theorem stuck_of_not_splits {v : Value} (h : ofValue v = .ok m) (broken : ¬ m.Splits) : m.Stuck where
  refused m' again := by
    apply broken
    exact (validated_of_ofValue h).splits_of_again
      ((ofValue_toValue_eq_ok_iff (named_of_ofValue h)).mp again)
  stops w := by
    rw [plan_fst]
    rcases Plan.forResources_ends w.core.store w.core.version m.resources with
      ⟨hsplits, -⟩ | ⟨r, hr, hstuck, herror⟩
    · exact absurd hsplits broken
    · refine ⟨r, hr, ?_, ?_⟩
      · rw [Tag.split, hstuck]
      · rw [Plan.of, herror]
        rfl

/-- An accepted manifest declares nothing twice. It can be used as it stands unless a default namespace
that is no name was written into one of its tags; then it cannot be used at all. -/
theorem accepted_plannable (accepted : m.Accepted) :
    (m.resources.map (·.tag)).Nodup ∧ (m.namespaces.map (·.name)).Nodup ∧
      (m.Qualified → m.Plannable) ∧ (¬ m.Qualified → m.Stuck) := by
  obtain ⟨v, hread⟩ := accepted.read
  have hvalid : m.Validated := validated_of_ofValue hread
  refine ⟨hvalid.nodup.2, hvalid.nodup.1, fun qualified => ?_, fun unqualified => ?_⟩
  · exact plannable_of_splits hread (hvalid.splits_iff.mpr qualified)
  · exact stuck_of_not_splits hread (mt hvalid.splits_iff.mp unqualified)

/-- The fields of a manifest with a default namespace and a resource whose tag names no namespace. -/
def bareTagged (space : String) : Value :=
  .ofFields [("default_namespace", .str space), ("resources", .list [.ofFields [("tag", .str "player")]])]

/-- The manifest that these fields give. -/
def completed (space : String) : Manifest :=
  ⟨1, some space, [], [⟨Tag.join space "player", .model, none⟩]⟩

theorem ofValue_bareTagged (space : String) : ofValue (bareTagged space) = .ok (completed space) := rfl

theorem completed_unqualified {space : String} (h : Name.isValid space = false) :
    ¬ (completed space).Qualified :=
  fun qualified => qualified space rfl h _ List.mem_cons_self "player" rfl

/-- With a name as the default namespace the manifest can be used. With a text that is no name it is
accepted just as well, and cannot be used. -/
theorem accepted_plannable_bareTagged :
    ((completed "game").Accepted ∧ (completed "game").Plannable) ∧
      (completed "my-ns").Accepted ∧ (completed "my-ns").Stuck := by
  have hgame : (completed "game").Accepted := .given (ofValue_bareTagged "game")
  have hmine : (completed "my-ns").Accepted := .given (ofValue_bareTagged "my-ns")
  have hqualified : (completed "game").Qualified := by
    rintro space ⟨⟩ hinvalid
    exact absurd hinvalid (by decide)
  obtain ⟨-, -, hplannable, -⟩ := accepted_plannable hgame
  obtain ⟨-, -, -, hstuck⟩ := accepted_plannable hmine
  exact ⟨⟨hgame, hplannable hqualified⟩, hmine, hstuck (completed_unqualified (by decide))⟩

/-- A manifest is accepted whose only tag does not split. What is written of it is refused, and its plan
fails in every world. -/
theorem accepted_plannable_fails : ofValue (bareTagged "my-ns") = .ok (completed "my-ns") ∧
    (completed "my-ns").resources.map (·.tag) = ["my-ns-player"] ∧
    Tag.split "my-ns-player" none = .error (.invalidTag "my-ns-player") ∧
    (∀ m', ofValue (completed "my-ns").toValue ≠ .ok m') ∧
    ∀ w : World, (World.plan (completed "my-ns") w).1 = .error (.invalidTag "my-ns-player") := by
  have hread := ofValue_bareTagged "my-ns"
  have hstuck : (completed "my-ns").Stuck := by
    apply stuck_of_not_splits hread
    rw [(validated_of_ofValue hread).splits_iff]
    exact completed_unqualified (by decide)
  have htag : Tag.join "my-ns" "player" = "my-ns-player" := by decide
  have hsplit : Tag.split? (Tag.join "my-ns" "player") none = none :=
    Tag.split?_join_eq_none (by decide) "player" none
  refine ⟨hread, congrArg (fun tag => [tag]) htag, ?_, hstuck.refused, fun w => ?_⟩
  · rw [← htag, Tag.split, hsplit]
  · obtain ⟨r, hr, -, hplan⟩ := hstuck.stops w
    obtain rfl := List.mem_singleton.mp hr
    rw [hplan, ← htag]

end Manifest

end OwnershipRegistry
