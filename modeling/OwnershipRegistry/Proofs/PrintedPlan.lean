import OwnershipRegistry.Proofs.Acceptance
import OwnershipRegistry.Proofs.Convergence
import OwnershipRegistry.Proofs.Numeral

/-!
# Printed plans are read back

A printed plan shows selectors and writers as hexadecimal numerals, and of a
planned resource it leaves out the namespace. Both can be made good: a numeral
gives its integer back, and the tag of a planned resource splits, with the
namespace as its first part. So the printed form of a plan determines the plan.
-/

namespace OwnershipRegistry

open Schema

/-- An address is read back from the text that messages give to it. -/
theorem Address.ofValue_felt (n : Int) : Address.ofValue (.str (Value.felt (.int n))) = .ok n := by
  rw [Value.felt_int, Address.ofValue, Numeral.read_hex]

/-- The target that a word names. -/
def Target.ofWord? (word : String) : Option Target :=
  if word = Target.space.word then some .space
  else if word = Target.resource.word then some .resource
  else none

@[simp] theorem Target.ofWord?_word (target : Target) : ofWord? target.word = some target := by
  cases target <;> decide

namespace PlannedRegistration

/-- Put the parts of a printed registration together. Only resources have a kind, and the namespace
of a resource is the first part of its tag. -/
def assemble (target : Target) (name : String) (selector : Int) :
    Option ResourceKind → Reading PlannedRegistration
  | none => match target with
    | .space => .done (.space name selector)
    | .resource => Reading.fault .missing
  | some kind => match target with
    | .space => Reading.fault .notChoice
    | .resource => (ruled (Tag.split name none)).map fun names => .resource name selector names.1 kind

/-- Read a printed registration. -/
def read (entries : List (Value × Value)) : Reading PlannedRegistration :=
  (assemble <$> required entries "target" (choice Target.ofWord?) <*> required entries "name" text
    <*> required entries "selector" address
    <*> required entries "kind" (nullable (choice ResourceKind.ofWord?))).andThen id

end PlannedRegistration

/-- Read a printed writer change. -/
def WriterChange.read (entries : List (Value × Value)) : Reading WriterChange :=
  WriterChange.mk <$> required entries "target" (choice Target.ofWord?) <*> required entries "name" text
    <*> required entries "selector" address <*> required entries "writer" address

namespace Plan

/-- Read a printed plan. -/
def read (entries : List (Value × Value)) : Reading Plan :=
  Plan.mk <$> required entries "registrations" (list (record PlannedRegistration.read))
    <*> required entries "grants" (list (record WriterChange.read))
    <*> required entries "revokes" (list (record WriterChange.read))

/-- The plan that the fields of a printed plan tell. -/
def ofFields (fields : Fields) : Except Failure Plan := (topLevel read (.ofFields fields)).result

end Plan

theorem address_hex (n : Int) : address (.str (Numeral.hex n)) = .done n :=
  ruled_eq_done_iff.mpr (Address.ofValue_felt n)

theorem choice_target (target : Target) : choice Target.ofWord? (.str target.word) = .done target := by
  simp only [choice, Target.ofWord?_word]

/-- Out of the value of a printed change the change is read back. -/
theorem WriterChange.read_print (c : WriterChange) :
    record WriterChange.read (PrintedPlan.changeValue c.print) = .done c := by
  apply seq_eq_done_iff.mpr
  refine ⟨fun writer => { c with writer }, c.writer, ?_, required_ofFields rfl (address_hex c.writer), rfl⟩
  apply seq_eq_done_iff.mpr
  refine ⟨fun selector writer => { c with selector, writer }, c.selector, ?_,
    required_ofFields rfl (address_hex c.selector), rfl⟩
  apply seq_eq_done_iff.mpr
  refine ⟨WriterChange.mk c.target, c.name, ?_, required_ofFields rfl rfl, rfl⟩
  exact map_eq_done_iff.mpr ⟨c.target, required_ofFields rfl (choice_target c.target), rfl⟩

namespace PlannedRegistration

/-- The parts of a printed registration are read back and put together. -/
theorem read_registrationValue (target : Target) (name : String) (selector : Int)
    (kind? : Option ResourceKind) :
    record read (PrintedPlan.registrationValue
      ⟨target.word, name, Numeral.hex selector, kind?.map ResourceKind.word⟩) =
        assemble target name selector kind? := by
  refine congrArg (fun parts : Reading (Reading PlannedRegistration) => parts.andThen id)
    (show _ = .done (assemble target name selector kind?) from seq_eq_done_iff.mpr ?_)
  refine ⟨assemble target name selector, kind?, ?_, required_ofFields rfl ?_, rfl⟩
  · apply seq_eq_done_iff.mpr
    refine ⟨assemble target name, selector, ?_, required_ofFields rfl (address_hex selector), rfl⟩
    apply seq_eq_done_iff.mpr
    refine ⟨assemble target, name, ?_, required_ofFields rfl rfl, rfl⟩
    exact map_eq_done_iff.mpr ⟨target, required_ofFields rfl (choice_target target), rfl⟩
  · cases kind? with
    | none => rfl
    | some kind => cases kind <;> rfl

/-- Out of the value of a printed registration the registration is read back. -/
theorem read_print {item : PlannedRegistration} (placed : item.Placed) :
    record read (PrintedPlan.registrationValue item.print) = .done item := by
  cases item with
  | space name selector => exact read_registrationValue .space name selector none
  | resource tag selector home kind =>
      obtain ⟨name, hsplit⟩ := placed
      have hparts : ruled (Tag.split tag none) = .done (home, name) :=
        ruled_eq_done_iff.mpr (Tag.split_eq_ok_iff.mpr hsplit)
      calc
        record read (PrintedPlan.registrationValue (resource tag selector home kind).print) =
            assemble .resource tag selector (some kind) :=
          read_registrationValue .resource tag selector (some kind)
        _ = .done (.resource tag selector home kind) :=
          map_eq_done_iff.mpr ⟨(home, name), hparts, rfl⟩

end PlannedRegistration

namespace Plan

variable {p : Plan}

/-- A plan is read back from its printed form if its resources are in the namespaces of their tags. -/
theorem ofFields_print (placed : ∀ item ∈ p.registrations, item.Placed) :
    ofFields p.print.fields = .ok p := by
  have hchanges (changes : List WriterChange) : list (record WriterChange.read)
      (.list ((changes.map (·.print)).map PrintedPlan.changeValue)) = .done changes := by
    rw [List.map_map]
    exact list_map fun c _ => c.read_print
  have hregistrations : list (record PlannedRegistration.read)
      (.list ((p.registrations.map (·.print)).map PrintedPlan.registrationValue)) = .done p.registrations := by
    rw [List.map_map]
    exact list_map fun item hitem => PlannedRegistration.read_print (placed item hitem)
  apply result_eq_ok_iff.mpr
  apply seq_eq_done_iff.mpr
  refine ⟨fun revokes => { p with revokes }, p.revokes, ?_, required_ofFields rfl (hchanges p.revokes), rfl⟩
  apply seq_eq_done_iff.mpr
  refine ⟨fun grants revokes => { p with grants, revokes }, p.grants, ?_,
    required_ofFields rfl (hchanges p.grants), rfl⟩
  exact map_eq_done_iff.mpr ⟨p.registrations, required_ofFields rfl hregistrations, rfl⟩

/-- A plan changes nothing exactly if every list of its printed form is empty. -/
theorem isEmpty_iff_fields (p : Plan) :
    p.isEmpty = true ↔ ∀ field ∈ p.print.fields, field.2 = .list [] := by
  simp [isEmpty, print, PrintedPlan.fields, and_assoc]

end Plan

namespace World

/-- Printing loses nothing. Every integer is read back from the text that messages and plans give to it.
So the plan for a manifest is read back from its printed form, and no other plan has the same printed
form; and the plan changes nothing exactly if the printed lists are empty. -/
theorem printed_plan_tells :
    (∀ n : Int, Address.ofValue (.str (Value.felt (.int n))) = .ok n) ∧
    ∀ (m : Manifest) (w : World) (p : Plan), (plan m w).1 = .ok p →
      Plan.ofFields p.print.fields = .ok p ∧
      (p.isEmpty = true ↔ ∀ field ∈ p.print.fields, field.2 = .list []) ∧
      ∀ (m' : Manifest) (w' : World) (p' : Plan), (plan m' w').1 = .ok p' →
        p'.print.fields = p.print.fields → p' = p := by
  have hback : ∀ (m : Manifest) (w : World) (p : Plan), (plan m w).1 = .ok p →
      Plan.ofFields p.print.fields = .ok p := by
    intro m w p h
    rw [Manifest.plan_fst] at h
    exact Plan.ofFields_print fun item => Plan.placed_of_planned h
  refine ⟨Address.ofValue_felt, fun m w p h => ⟨hback m w p h, p.isEmpty_iff_fields, ?_⟩⟩
  intro m' w' p' h' hsame
  have hp' := hback m' w' p' h'
  rw [hsame, hback m w p h] at hp'
  exact (Except.ok.inj hp').symm

/-- The plan about the stocked world is read back from what it prints, which names the namespace of the
planned resource nowhere but in its tag. -/
theorem printed_plan_tells_arena : ∃ p, (plan arena stocked).1 = .ok p ∧
    p.print.registrations.map (fun r => (r.target, r.name, r.kind)) =
      [("namespace", "arena", none), ("resource", "arena-door", some "event")] ∧
    Plan.ofFields p.print.fields = .ok p ∧
    ∀ (m' : Manifest) (w' : World) (p' : Plan), (plan m' w').1 = .ok p' →
      p'.print.fields = p.print.fields → p' = p := by
  have hprinted : (plan arena stocked).1.toOption.map
      (fun p => p.print.registrations.map fun r => (r.target, r.name, r.kind)) =
      some [("namespace", "arena", none), ("resource", "arena-door", some "event")] := by
    decide +kernel
  obtain ⟨p, w', hplan, hprinted⟩ := ok_of_toOption_map hprinted
  have hp : (plan arena stocked).1 = .ok p := congrArg Prod.fst hplan
  obtain ⟨hback, -, hunique⟩ := printed_plan_tells.2 arena stocked p hp
  exact ⟨p, hp, hprinted, hback, hunique⟩

end World

end OwnershipRegistry
