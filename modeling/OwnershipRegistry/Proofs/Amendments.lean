import OwnershipRegistry.Proofs.Access

/-!
# Amendments

The calls that change registered records are of one shape. Each asks for the
owner of the record, and changes one part of it: whether one caller is a
writer, or the class. Amendments of different parts do not notice each other.
-/

namespace OwnershipRegistry

/-- Whether a computation succeeds, and how it fails if not. -/
def cleared {ε α : Type} (x : Except ε α) : Except ε Unit := x.map fun _ => ()

section Cleared

variable {ε α β : Type} {x : Except ε α}

theorem cleared_eq_ok_iff {u : Unit} : cleared x = .ok u ↔ ∃ a, x = .ok a := by
  cases x <;> simp [cleared, Except.map]

theorem cleared_eq_error_iff {e : ε} : cleared x = .error e ↔ x = .error e := by
  cases x <;> simp [cleared, Except.map]

theorem cleared_discard : cleared (discard x : Except ε PUnit) = cleared x := by
  cases x <;> rfl

theorem cleared_orFail (x : Except Denial α) : cleared (Denial.orFail x) = Denial.orFail (cleared x) := by
  cases x <;> rfl

/-- What cannot fail after a computation leaves open only whether that succeeds. -/
theorem cleared_bind {f : α → Except ε β} (total : ∀ a, x = .ok a → ∃ b, f a = .ok b) :
    cleared (x >>= f) = cleared x := by
  cases x with
  | error e => rfl
  | ok a =>
      obtain ⟨b, hb⟩ := total a rfl
      exact congrArg cleared hb

/-- It is left open at the end of what comes first. -/
theorem cleared_after (x : Except ε α) (f : α → Except ε β) :
    cleared (x >>= f) = x >>= fun a => cleared (f a) := by
  cases x <;> rfl

/-- A choice between two answers cannot fail. -/
theorem choice_total (c : Prop) [Decidable c] (a b : α) :
    ∃ chosen, (if c then pure a else pure b : Except ε α) = .ok chosen := by
  by_cases h : c
  · exact ⟨a, if_pos h⟩
  · exact ⟨b, if_neg h⟩

/-- How the check of an owner ends, by the owner that is found. -/
def ownerCheck (caller : Int) (missing refusal : Denial) : Option Int → Except Denial Unit
  | none => .error missing
  | some owner => if owner = caller then .ok () else .error refusal

/-- A check of what was found is denied where nothing is found, and to all but the owner. -/
theorem cleared_checked {ρ : Type} {found : Option ρ} {sought : Except Denial ρ} {missing refusal : Denial}
    (owner : ρ → Int) (p : Permissions) (h : sought = found.elim (.error missing) .ok) :
    cleared (do
      let r ← sought
      if p.owns (owner r) then pure r else throw refusal) =
      ownerCheck p.caller missing refusal (found.map owner) := by
  rw [h]
  cases found with
  | none => rfl
  | some r =>
      have hcheck : cleared (if p.owns (owner r) = true then pure r else throw refusal) =
          ownerCheck p.caller missing refusal (some (owner r)) := by
        by_cases howns : owner r = p.caller
        · rw [if_pos (Permissions.owns_iff.mpr howns)]
          exact (if_pos howns).symm
        · rw [if_neg (mt Permissions.owns_iff.mp howns)]
          exact (if_neg howns).symm
      exact hcheck

end Cleared

namespace NamespaceTable

variable (t : NamespaceTable) (p : Permissions) (key writer : Int)

theorem require_eq : t.require key =
    (t.records.get? key).elim (.error (.namespaceUnknown (.str (Numeral.hex key)))) .ok := by
  unfold require
  cases t.records.get? key <;> rfl

theorem cleared_checkOwner : cleared (t.checkOwner p key) =
    ownerCheck p.caller (.namespaceUnknown (.str (Numeral.hex key))) (.notOwner p.caller (.int key))
      ((t.records.get? key).map (·.owner)) :=
  cleared_checked _ p (t.require_eq key)

theorem cleared_grant : cleared (t.grant p key writer) = cleared (t.checkOwner p key) :=
  cleared_bind fun _ _ => choice_total _ _ _

theorem cleared_revoke : cleared (t.revoke p key writer) = cleared (t.checkOwner p key) :=
  cleared_bind fun _ _ => choice_total _ _ _

end NamespaceTable

namespace ResourceTable

variable (t : ResourceTable) (p : Permissions) (key writer : Int)

theorem require_eq :
    t.require key = (t.records.get? key).elim (.error (.resourceUnknown (.int key))) .ok := by
  unfold require
  cases t.records.get? key <;> rfl

theorem cleared_checkOwner : cleared (t.checkOwner p key) =
    ownerCheck p.caller (.resourceUnknown (.int key)) (.notOwner p.caller (.int key))
      ((t.records.get? key).map (·.owner)) :=
  cleared_checked _ p (t.require_eq key)

theorem cleared_checkUpgrade : cleared (t.checkUpgrade p key) =
    ownerCheck p.caller (.resourceUnknown (.int key)) (.notOwnerForUpgrade p.caller (.int key))
      ((t.records.get? key).map (·.owner)) :=
  cleared_checked _ p (t.require_eq key)

theorem cleared_grant : cleared (t.grant p key writer) = cleared (t.checkOwner p key) :=
  cleared_bind fun _ _ => choice_total _ _ _

theorem cleared_revoke : cleared (t.revoke p key writer) = cleared (t.checkOwner p key) :=
  cleared_bind fun _ _ => choice_total _ _ _

end ResourceTable

/-- A change of whether a caller is a writer. -/
inductive WriterEdit where
  | grant (writer : Int)
  | revoke (writer : Int)

namespace WriterEdit

/-- The caller that an edit is about. -/
def writer : WriterEdit → Int
  | grant writer => writer
  | revoke writer => writer

/-- The writers after an edit. -/
def apply : WriterEdit → Writers → Writers
  | grant writer, writers => IntSet.insert writer writers
  | revoke writer, writers => IntSet.erase writer writers

/-- Whether an edit changes anything. -/
def changes : WriterEdit → Writers → Bool
  | grant writer, writers => !writers.contains writer
  | revoke writer, writers => writers.contains writer

variable {e other : WriterEdit} {writers : Writers}

theorem ascending_apply (e : WriterEdit) (h : IntSet.Ascending writers) :
    IntSet.Ascending (e.apply writers) := by
  cases e with
  | grant writer => exact IntSet.ascending_insert h
  | revoke writer => exact IntSet.ascending_erase h

/-- An edit leaves all other callers as they are. -/
theorem mem_apply_of_ne {x : Int} (h : x ≠ e.writer) : x ∈ e.apply writers ↔ x ∈ writers := by
  cases e with
  | grant writer => exact IntSet.mem_insert.trans (or_iff_right h)
  | revoke writer => exact IntSet.mem_erase.trans (and_iff_left h)

/-- What an edit says about its own caller does not depend on the writers. -/
theorem mem_apply_self (e : WriterEdit) (writers more : Writers) :
    e.writer ∈ e.apply writers ↔ e.writer ∈ e.apply more := by
  cases e with
  | grant writer => simp [WriterEdit.writer, apply, IntSet.mem_insert]
  | revoke writer => simp [WriterEdit.writer, apply, IntSet.mem_erase]

/-- Edits about different callers may be made in either order. -/
theorem apply_comm (ascending : IntSet.Ascending writers) (h : e.writer ≠ other.writer) :
    e.apply (other.apply writers) = other.apply (e.apply writers) := by
  apply IntSet.eq_of_mem_iff (e.ascending_apply (other.ascending_apply ascending))
    (other.ascending_apply (e.ascending_apply ascending))
  intro x
  by_cases he : x = e.writer
  · subst he
    rw [mem_apply_of_ne h]
    exact e.mem_apply_self _ _
  · rw [mem_apply_of_ne he]
    by_cases hother : x = other.writer
    · subst hother
      exact other.mem_apply_self _ _
    · rw [mem_apply_of_ne hother, mem_apply_of_ne hother, mem_apply_of_ne he]

theorem changes_apply (h : e.writer ≠ other.writer) :
    e.changes (other.apply writers) = e.changes writers := by
  have hcontains : (other.apply writers).contains e.writer = writers.contains e.writer := by
    rw [Bool.eq_iff_iff, List.contains_iff_mem, List.contains_iff_mem]
    exact mem_apply_of_ne h
  cases e with
  | grant writer => exact congrArg not hcontains
  | revoke writer => exact hcontains

end WriterEdit

/-- A call that changes a registered record: a writer of a namespace, a writer of a resource, or the
class of a resource. -/
inductive Amendment where
  | space (edit : WriterEdit)
  | resource (edit : WriterEdit)
  | upgrade (classHash : Int)

/-- What an amendment changes in a record. -/
inductive Part where
  | spaceWriter (writer : Int)
  | resourceWriter (writer : Int)
  | classHash

namespace Amendment

/-- The flow of a call. -/
def flow (caller : Int) (selector : Value) : Amendment → Flow
  | space (.grant writer) => .grantNamespaceWriter caller selector writer
  | space (.revoke writer) => .revokeNamespaceWriter caller selector writer
  | resource (.grant writer) => .grantWriter caller selector writer
  | resource (.revoke writer) => .revokeWriter caller selector writer
  | upgrade classHash => .upgradeResource caller selector classHash

/-- The part that is changed. -/
def part : Amendment → Part
  | space edit => .spaceWriter edit.writer
  | resource edit => .resourceWriter edit.writer
  | upgrade _ => .classHash

/-- What becomes of a namespace. -/
def onSpace : Amendment → NamespaceRecord → NamespaceRecord
  | space edit, n => { n with writers := edit.apply n.writers }
  | _, n => n

/-- What becomes of a resource. -/
def onResource : Amendment → ResourceRecord → ResourceRecord
  | resource edit, r => { r with writers := edit.apply r.writers }
  | upgrade classHash, r => { r with classHash := some classHash, version := r.version + 1 }
  | space _, r => r

/-- The owner of the record at a selector. -/
def owner? (s : Store) (key : Int) : Amendment → Option Int
  | space _ => (s.namespaces.records.get? key).map (·.owner)
  | _ => (s.resources.records.get? key).map (·.owner)

/-- How an amendment is denied where there is no record. -/
def missing (key : Int) : Amendment → Denial
  | space _ => .namespaceUnknown (.str (Numeral.hex key))
  | _ => .resourceUnknown (.int key)

/-- How an amendment is denied to a caller who is not the owner. -/
def refusal (caller key : Int) : Amendment → Denial
  | upgrade _ => .notOwnerForUpgrade caller (.int key)
  | _ => .notOwner caller (.int key)

/-- Whether a caller may make an amendment of the record at a selector. -/
def guard (a : Amendment) (s : Store) (caller key : Int) : Except Denial Unit :=
  ownerCheck caller (a.missing key) (a.refusal caller key) (a.owner? s key)

/-- What is answered about the record at a selector. -/
def answer? (s : Store) (key : Int) : Amendment → Option Answer
  | space edit => (s.namespaces.records.get? key).map fun n => .flag (edit.changes n.writers)
  | resource edit => (s.resources.records.get? key).map fun r => .flag (edit.changes r.writers)
  | upgrade classHash =>
    (s.resources.records.get? key).map fun r => .resource ((upgrade classHash).onResource r)

variable {a b : Amendment} {n : NamespaceRecord} {r : ResourceRecord}

theorem onSpace_comm (ascending : IntSet.Ascending n.writers) (apart : a.part ≠ b.part) :
    a.onSpace (b.onSpace n) = b.onSpace (a.onSpace n) := by
  cases a with
  | space e =>
      cases b with
      | space e' =>
          have hne : e.writer ≠ e'.writer := fun h => apart (congrArg Part.spaceWriter h)
          simp only [onSpace, WriterEdit.apply_comm ascending hne]
      | _ => rfl
  | _ => rfl

theorem onResource_comm (ascending : IntSet.Ascending r.writers) (apart : a.part ≠ b.part) :
    a.onResource (b.onResource r) = b.onResource (a.onResource r) := by
  cases a with
  | resource e =>
      cases b with
      | resource e' =>
          have hne : e.writer ≠ e'.writer := fun h => apart (congrArg Part.resourceWriter h)
          simp only [onResource, WriterEdit.apply_comm ascending hne]
      | _ => rfl
  | upgrade classHash =>
      cases b with
      | upgrade other => exact absurd rfl apart
      | _ => rfl
  | space e => rfl

/-- What an edit says about its caller is the same after an amendment of another part. -/
theorem changes_onSpace {e : WriterEdit} (apart : Part.spaceWriter e.writer ≠ b.part) (n : NamespaceRecord) :
    e.changes (b.onSpace n).writers = e.changes n.writers := by
  cases b with
  | space e' => exact WriterEdit.changes_apply fun h => apart (congrArg Part.spaceWriter h)
  | _ => rfl

theorem changes_onResource {e : WriterEdit} (apart : Part.resourceWriter e.writer ≠ b.part)
    (r : ResourceRecord) : e.changes (b.onResource r).writers = e.changes r.writers := by
  cases b with
  | resource e' => exact WriterEdit.changes_apply fun h => apart (congrArg Part.resourceWriter h)
  | _ => rfl

@[simp] theorem onSpace_owner (a : Amendment) (n : NamespaceRecord) : (a.onSpace n).owner = n.owner := by
  cases a <;> rfl

@[simp] theorem onResource_owner (a : Amendment) (r : ResourceRecord) :
    (a.onResource r).owner = r.owner := by
  cases a <;> rfl

end Amendment

/-- Both tables after an amendment of the record at a selector, if there is one. -/
def Store.amend (s : Store) (a : Amendment) (key : Int) : Store where
  namespaces := ⟨s.namespaces.records.modify key a.onSpace, s.namespaces.selectors⟩
  resources := ⟨s.resources.records.modify key a.onResource, s.resources.selectors⟩

namespace Store

variable {s : Store} {a b : Amendment} {key other : Int}

theorem get?_amend_namespaces (s : Store) (a : Amendment) (key other : Int) :
    (s.amend a key).namespaces.records.get? other = (s.namespaces.records.get? other).map fun n =>
      if other = key then a.onSpace n else n :=
  Table.get?_modify _ _ _ _

theorem get?_amend_resources (s : Store) (a : Amendment) (key other : Int) :
    (s.amend a key).resources.records.get? other = (s.resources.records.get? other).map fun r =>
      if other = key then a.onResource r else r :=
  Table.get?_modify _ _ _ _

theorem setWriters_eq_amend {n : NamespaceRecord} (sound : s.Sound)
    (found : s.namespaces.records.get? key = some n) (edit : WriterEdit) :
    s.setWriters key n (edit.apply n.writers) = s.amend (.space edit) key := by
  have hput := Table.put_eq_modify sound.namespaces.indexed.keys found (Amendment.space edit).onSpace
  have hresources : s.resources.records.modify key (Amendment.space edit).onResource = s.resources.records :=
    Table.modify_id _ _
  rw [amend, ← hput, hresources]
  rfl

theorem setResource_eq_amend (a : Amendment) {r : ResourceRecord} (sound : s.Sound)
    (found : s.resources.records.get? key = some r) (elsewhere : ∀ n, a.onSpace n = n) :
    s.setResource key (a.onResource r) = s.amend a key := by
  have hput := Table.put_eq_modify sound.resources.indexed.keys found a.onResource
  have hspaces : s.namespaces.records.modify key a.onSpace = s.namespaces.records := by
    rw [funext elsewhere]
    exact Table.modify_id _ _
  rw [amend, ← hput, hspaces]
  rfl

/-- Amendments of different records may be made in either order, and those of different parts. -/
theorem amend_comm (sound : s.Sound) (apart : key = other → a.part ≠ b.part) :
    (s.amend b other).amend a key = (s.amend a key).amend b other := by
  have hspaces : (s.namespaces.records.modify other b.onSpace).modify key a.onSpace =
      (s.namespaces.records.modify key a.onSpace).modify other b.onSpace := by
    apply Table.modify_comm
    intro hkey e he
    have hfound := (Table.get?_eq_some_iff sound.namespaces.indexed.keys).mpr he
    exact Amendment.onSpace_comm (sound.namespaces.proper e.1 e.2 hfound).ascending (apart hkey)
  have hresources : (s.resources.records.modify other b.onResource).modify key a.onResource =
      (s.resources.records.modify key a.onResource).modify other b.onResource := by
    apply Table.modify_comm
    intro hkey e he
    have hfound := (Table.get?_eq_some_iff sound.resources.indexed.keys).mpr he
    exact Amendment.onResource_comm (sound.resources.proper e.1 e.2 hfound).ascending (apart hkey)
  simp only [amend, hspaces, hresources]

end Store

namespace Amendment

variable {s : Store} {a b : Amendment} {key other : Int} {answer : Answer}

/-- No amendment changes an owner, so none changes who may make one. -/
theorem owner?_amend (s : Store) (a b : Amendment) (key other : Int) :
    a.owner? (s.amend b other) key = a.owner? s key := by
  cases a with
  | space edit =>
      simp only [owner?, Store.get?_amend_namespaces, Option.map_map]
      congr 1
      funext n
      by_cases hkey : key = other <;> simp [hkey]
  | _ =>
      simp only [owner?, Store.get?_amend_resources, Option.map_map]
      congr 1
      funext r
      by_cases hkey : key = other <;> simp [hkey]

theorem guard_amend (s : Store) (a b : Amendment) (caller key other : Int) :
    a.guard (s.amend b other) caller key = a.guard s caller key := by
  unfold guard
  rw [owner?_amend]

end Amendment

namespace Core

variable {core : Core} {a b : Amendment} {caller : Int} {v : Value} {effect : Effect}

/-- Where what follows a change cannot fail, the call is denied exactly as the change is. -/
theorem cleared_change {α : Type} {change : Int → Except Denial α} {check : Int → Except Denial Unit}
    {f : Int → α → Except Failure Effect} (total : ∀ key a, ∃ effect, f key a = .ok effect)
    (h : ∀ key, cleared (change key) = check key) (core : Core) (v : Value) :
    cleared (core.selector v >>= fun key => Denial.orFail (change key) >>= f key) =
      core.selector v >>= fun key => Denial.orFail (check key) := by
  refine (cleared_after _ _).trans (bind_congr fun key => ?_)
  rw [cleared_bind fun a _ => total key a, cleared_orFail, h]

/-- An amendment is denied exactly as its checks are. -/
theorem cleared_attempt (core : Core) (a : Amendment) (caller : Int) (v : Value) :
    cleared (core.attempt (a.flow caller v)) =
      core.selector v >>= fun key => Denial.orFail (a.guard core.store caller key) := by
  cases a with
  | space edit =>
      have howner := core.store.namespaces.cleared_checkOwner (core.permissions caller)
      cases edit with
      | grant writer =>
          exact cleared_change (fun _ _ => ⟨_, rfl⟩) (fun key =>
            (NamespaceTable.cleared_grant _ _ key writer).trans (howner key)) core v
      | revoke writer =>
          exact cleared_change (fun _ _ => ⟨_, rfl⟩) (fun key =>
            (NamespaceTable.cleared_revoke _ _ key writer).trans (howner key)) core v
  | resource edit =>
      have howner := core.store.resources.cleared_checkOwner (core.permissions caller)
      cases edit with
      | grant writer =>
          exact cleared_change (fun _ _ => ⟨_, rfl⟩) (fun key =>
            (ResourceTable.cleared_grant _ _ key writer).trans (howner key)) core v
      | revoke writer =>
          exact cleared_change (fun _ _ => ⟨_, rfl⟩) (fun key =>
            (ResourceTable.cleared_revoke _ _ key writer).trans (howner key)) core v
  | upgrade classHash =>
      refine (cleared_after _ _).trans (bind_congr fun key => ?_)
      -- After the check the record is there, so noting the upgrade cannot fail.
      refine (cleared_bind fun u hcheck => ?_).trans ?_
      · obtain ⟨r, hr⟩ := discard_eq_ok_iff.mp hcheck
        obtain ⟨found, -⟩ := ResourceTable.checkUpgrade_eq_ok_iff.mp (orFail_eq_ok_iff.mp hr)
        have hupgrade : ∃ made, core.store.resources.upgrade key classHash = .ok made :=
          ⟨(_, _), ResourceTable.upgrade_eq_ok_iff.mpr ⟨r, found, rfl, rfl⟩⟩
        obtain ⟨made, hmade⟩ := hupgrade
        exact ⟨_, bind_eq_ok.mpr ⟨made, orFail_eq_ok_iff.mpr hmade, rfl⟩⟩
      · rw [cleared_discard, cleared_orFail, ResourceTable.cleared_checkUpgrade]
        rfl

/-- An amendment that succeeds is answered from the record, and changes the record alone. -/
theorem amended_of_makes (sound : core.store.Sound) (h : core.Makes (a.flow caller v) effect) :
    ∃ key, v = .int key ∧ a.answer? core.store key = some effect.answer ∧
      effect.store = core.store.amend a key := by
  cases a with
  | space edit =>
      cases edit with
      | grant writer =>
          cases h with
          | @grantNamespaceWriter _ key _ n accepted found owned =>
              exact ⟨key, rfl, congrArg (Option.map _) found,
                Store.setWriters_eq_amend sound found (.grant writer)⟩
      | revoke writer =>
          cases h with
          | @revokeNamespaceWriter _ key _ n accepted found owned =>
              exact ⟨key, rfl, congrArg (Option.map _) found,
                Store.setWriters_eq_amend sound found (.revoke writer)⟩
  | resource edit =>
      cases edit with
      | grant writer =>
          cases h with
          | @grantWriter _ key _ r accepted found owned =>
              exact ⟨key, rfl, congrArg (Option.map _) found,
                Store.setResource_eq_amend (.resource (.grant writer)) sound found fun _ => rfl⟩
      | revoke writer =>
          cases h with
          | @revokeWriter _ key _ r accepted found owned =>
              exact ⟨key, rfl, congrArg (Option.map _) found,
                Store.setResource_eq_amend (.resource (.revoke writer)) sound found fun _ => rfl⟩
  | upgrade classHash =>
      cases h with
      | @upgradeResource _ key _ r _ accepted found owned upgraded =>
          subst upgraded
          exact ⟨key, rfl, congrArg (Option.map _) found,
            Store.setResource_eq_amend (.upgrade classHash) sound found fun _ => rfl⟩

end Core

end OwnershipRegistry
