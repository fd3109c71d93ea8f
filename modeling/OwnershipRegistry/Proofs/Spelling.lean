import OwnershipRegistry.Proofs.Acceptance
import OwnershipRegistry.Proofs.Registration

/-!
# What names are made of

A plain name is not empty and has only ASCII letters, digits and underscores.
The names that pass the check are the plain ones, and the plain ones with one
line break at their end, which the check does not see. All doors by which names
get in rest on the check: the registrations behind the tables, the namespaces
of manifests, and the parts of qualified tags. So exactly these names get in.
-/

namespace OwnershipRegistry

namespace Name

/-- A text that is not empty and has only ASCII letters, digits and underscores. -/
def Plain (text : String) : Prop := text ≠ "" ∧ ∀ c ∈ text.toList, c.isAlphanum = true ∨ c = '_'

/-- A plain text, which one line break may end. -/
def Spelled (name : String) : Prop := ∃ stem, Plain stem ∧ (name = stem ∨ name = stem ++ "\n")

theorem isNameChar_iff {c : Char} : isNameChar c = true ↔ c.isAlphanum = true ∨ c = '_' := by
  have hupper : c.isUpper = true ↔ 'A' ≤ c ∧ c ≤ 'Z' := decide_eq_true_iff
  have halnum : c.isAlphanum = (c.isUpper || ('a' ≤ c && c ≤ 'z') || ('0' ≤ c && c ≤ '9')) := rfl
  simp only [isNameChar, halnum, Bool.or_eq_true, Bool.and_eq_true, hupper, decide_eq_true_eq, beq_iff_eq]

theorem plain_iff {text : String} :
    Plain text ↔ text.toList ≠ [] ∧ ∀ c ∈ text.toList, isNameChar c = true := by
  simp only [Plain, isNameChar_iff, ne_eq, String.toList_eq_nil_iff]

/-- The names that pass the check are those that are spelled well but for a line break at the end. -/
theorem isValid_iff_spelled {name : String} : isValid name = true ↔ Spelled name := by
  rw [isValid_iff]
  constructor
  · rintro ⟨stem, hne, hstem, hname⟩
    refine ⟨String.ofList stem, plain_iff.mpr ?_, ?_⟩
    · rw [String.toList_ofList]
      exact ⟨hne, hstem⟩
    · refine hname.imp (fun h => ?_) (fun h => ?_)
      · apply String.toList_injective
        rw [h, String.toList_ofList]
      · apply String.toList_injective
        rw [h, String.toList_append, String.toList_ofList]
        rfl
  · rintro ⟨stem, hplain, hname⟩
    obtain ⟨hne, hstem⟩ := plain_iff.mp hplain
    refine ⟨stem.toList, hne, hstem, ?_⟩
    rcases hname with rfl | rfl
    · exact Or.inl rfl
    · exact Or.inr String.toList_append

/-- A well spelled name is plain unless it has a line break. -/
theorem Spelled.plain_iff {name : String} (h : Spelled name) : Plain name ↔ '\n' ∉ name.toList := by
  obtain ⟨stem, hplain, hname⟩ := h
  have hbreak : ∀ text, Plain text → '\n' ∉ text.toList := by
    intro text htext hmem
    exact absurd (htext.2 '\n' hmem) (by decide)
  rcases hname with rfl | rfl
  · exact iff_of_true hplain (hbreak _ hplain)
  · have hmem : '\n' ∈ (stem ++ "\n").toList := by simp
    exact iff_of_false (fun hend => hbreak _ hend hmem) (fun hfree => hfree hmem)

/-- The names that get in: into the tables of a reachable world, into an accepted manifest as that of a
namespace, and out of a tag that has a hyphen. -/
inductive GetsIn : String → Prop
  | ofNamespace {w : World} {key : Int} {n : NamespaceRecord} (reachable : w.Reachable)
      (found : w.core.store.namespaces.records.get? key = some n) : GetsIn n.name
  | ofHome {w : World} {key : Int} {r : ResourceRecord} (reachable : w.Reachable)
      (found : w.core.store.resources.records.get? key = some r) : GetsIn r.space
  | ofResource {w : World} {key : Int} {r : ResourceRecord} (reachable : w.Reachable)
      (found : w.core.store.resources.records.get? key = some r) : GetsIn r.name
  | ofSpec {m : Manifest} {spec : NamespaceSpec} (accepted : m.Accepted)
      (declared : spec ∈ m.namespaces) : GetsIn spec.name
  | ofTagSpace {tag space name : String} {default : Option String} (qualified : '-' ∈ tag.toList)
      (splits : Tag.split tag default = .ok (space, name)) : GetsIn space
  | ofTagName {tag space name : String} {default : Option String} (qualified : '-' ∈ tag.toList)
      (splits : Tag.split tag default = .ok (space, name)) : GetsIn name

/-- A tag that has a hyphen splits into valid names, whatever the default is. -/
theorem isValid_of_split {tag space name : String} {default : Option String}
    (qualified : '-' ∈ tag.toList) (splits : Tag.split tag default = .ok (space, name)) :
    isValid space = true ∧ isValid name = true := by
  obtain ⟨hname, ⟨hspace, -⟩ | ⟨-, rfl⟩⟩ := Tag.split?_eq_some_iff.mp (Tag.split_eq_ok_iff.mp splits)
  · exact ⟨hspace, hname⟩
  · exact absurd qualified (hyphen_not_mem hname)

/-- No name gets in that has not passed the check. -/
theorem GetsIn.isValid {name : String} (h : GetsIn name) : isValid name = true := by
  cases h with
  | ofNamespace reachable found => exact (reachable.sound.namespaces.proper _ _ found).named
  | ofHome reachable found => exact (reachable.sound.resources.proper _ _ found).spaceNamed
  | ofResource reachable found => exact (reachable.sound.resources.proper _ _ found).named
  | ofSpec accepted declared =>
      obtain ⟨v, hread⟩ := accepted.read
      exact Manifest.named_of_ofValue hread _ declared
  | ofTagSpace qualified splits => exact (isValid_of_split qualified splits).1
  | ofTagName qualified splits => exact (isValid_of_split qualified splits).2

end Name

namespace World

/-- The bare world after the account 1 asked for a namespace of some name at 7. -/
def naming (name : String) : World :=
  (Step.runEach [.call (.register ⟨.account, 1, none⟩),
    .call (.flow (.registerNamespace 1 name (some (.int 7))))] bare).2

theorem reachable_naming (name : String) : Reachable (naming name) := ⟨[], _, run_each _ run_bare⟩

/-- An account registers a namespace of any name that passes the check. -/
theorem found_naming {name : String} (valid : Name.isValid name = true) :
    (naming name).core.store.namespaces.records.get? 7 = some ⟨name, 7, 1, []⟩ := by
  let welcoming : World := (Call.run (.register ⟨.account, 1, none⟩) bare).2
  have hrun : Run [] ⟨welcoming, _⟩ := run_bare.called (.register ⟨.account, 1, none⟩)
  have hempty : welcoming.core.store = .empty := rfl
  have hadmits : welcoming.core.AdmitsNamespace 1 name (some (.int 7)) 7 := by
    refine ⟨valid, by decide +kernel, rfl, by decide +kernel, ?_⟩
    intro key n hn
    rw [hempty] at hn
    cases hn
  have hentries : (naming name).core.store.namespaces.records.entries = _ :=
    (addsNamespace_of_admits hrun.sound hadmits).records
  rw [Table.get?, hentries]
  rfl

end World

namespace Name

/-- The names that get in are those that pass the check, and they are the plain ones and those that one
line break makes of these. So a name that gets in has ASCII letters, digits and underscores alone exactly
if it has no line break. -/
theorem getsIn_spelled (name : String) :
    (GetsIn name ↔ Spelled name) ∧
    (check name = .ok name ↔ Spelled name) ∧ (check name = .error (.invalidName name) ↔ ¬ Spelled name) ∧
    (GetsIn name → (Plain name ↔ '\n' ∉ name.toList)) := by
  refine ⟨⟨fun hin => isValid_iff_spelled.mp hin.isValid, fun spelled => ?_⟩, ?_, ?_, fun hin => ?_⟩
  · have hfound := World.found_naming (isValid_iff_spelled.mpr spelled)
    exact .ofNamespace (World.reachable_naming name) hfound
  · rw [← isValid_iff_spelled, check_eq_ok_iff]
    exact and_iff_left rfl
  · rw [← isValid_iff_spelled, check]
    by_cases hvalid : isValid name = true <;> simp [hvalid]
  · exact (isValid_iff_spelled.mp hin.isValid).plain_iff

/-- A name gets in that ends in a line break, which is no letter, digit or underscore: a namespace of that
name is registered, a manifest that declares one is accepted, and a tag splits into it. -/
theorem getsIn_spelled_fails : ¬ Plain "arena\n" ∧
    ((World.naming "arena\n").Reachable ∧
      (World.naming "arena\n").core.store.namespaces.records.get? 7 = some ⟨"arena\n", 7, 1, []⟩) ∧
    (∃ m : Manifest, m.Accepted ∧ m.namespaces = [⟨"arena\n", none⟩]) ∧
    Tag.split "arena\n-door" none = .ok ("arena\n", "door") := by
  refine ⟨?_, ⟨World.reachable_naming _, by rfl⟩, ?_, by rfl⟩
  · intro hplain
    exact absurd (hplain.2 '\n' (by decide)) (by decide)
  · have hread : Manifest.ofValue (.ofFields [("namespaces", .list [.ofFields [("name", .str "arena\n")]])]) =
        .ok { version := 1, defaultNamespace := none, namespaces := [⟨"arena\n", none⟩], resources := [] } := by
      rfl
    exact ⟨_, .given hread, rfl⟩

end Name

end OwnershipRegistry
