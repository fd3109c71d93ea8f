import OwnershipRegistry.Proofs.Flow
import OwnershipRegistry.World.Tables

/-!
# Saved and restored tables

The tables can be used without the core, which checks names and selectors.
Then names may hold hyphens, and different pairs of names may join to one tag.
The index of a table still is the inverse of its records, because a record is
added under a free key and with a free label alone, and replaced only by one
that has both. So the records alone restore a table, and it answers as when it
was saved.
-/

namespace OwnershipRegistry

/-- An index is the inverse of the labels of the records, which stand under their own keys. -/
structure Inverse {α : Type} (label : α → String) (own : α → Int) (records : Table Int α)
    (index : Table String Int) : Prop where
  labelled : ∀ l key, index.get? l = some key ↔ ∃ r, records.get? key = some r ∧ label r = l
  keyed : ∀ key r, records.get? key = some r → own r = key

theorem Indexed.inverse {α : Type} {label : α → String} {own : α → Int} {records : Table Int α}
    {index : Table String Int} (h : Indexed label own records index) : Inverse label own records index :=
  ⟨fun _ _ => h.index_get?_iff, fun _ _ => h.own_eq⟩

/-- What a call is to a table. -/
inductive Access where
  | reading
  | writing
  | saving (slot : String)
  | restoring (slot : String)

/-- Whether a call leaves the table as it is. -/
def Access.spares : Access → Bool
  | .reading | .saving _ => true
  | .writing | .restoring _ => false

/-- A table, its index, and the tables that were saved of it. -/
structure Archive (α : Type) where
  records : Table Int α
  index : Table String Int
  saved : Table String (Table Int α)

namespace Archive

variable {α : Type} {label : α → String} {own : α → Int} {a b : Archive α} {access : Access}
  {slot : String}

/-- What a call makes of an archive. A record is written where neither its key nor its label is taken,
or over one that has both. -/
inductive Revision (label : α → String) (own : α → Int) (a : Archive α) : Access → Archive α → Prop
  | read : Revision label own a .reading a
  | refused : Revision label own a .writing a
  | added {r : α} (freeKey : a.records.get? (own r) = none) (freeLabel : a.index.get? (label r) = none) :
      Revision label own a .writing
        { a with records := a.records.put (own r) r, index := a.index.put (label r) (own r) }
  | replaced {key : Int} {old r : α} (found : a.records.get? key = some old) (sameOwn : own r = own old)
      (sameLabel : label r = label old) :
      Revision label own a .writing { a with records := a.records.put key r }
  | saved (slot : String) :
      Revision label own a (.saving slot) { a with saved := a.saved.put slot a.records }
  | restored {slot : String} {records : Table Int α} (found : a.saved.get? slot = some records) :
      Revision label own a (.restoring slot)
        { a with records, index := .ofEntries (records.entries.map fun e => (label e.2, e.1)) }
  | missing {slot : String} (unsaved : a.saved.get? slot = none) : Revision label own a (.restoring slot) a

/-- The table is indexed, and so was every table that was saved. -/
structure Sound (label : α → String) (own : α → Int) (a : Archive α) : Prop where
  indexed : Indexed label own a.records a.index
  saved : ∀ slot records, a.saved.get? slot = some records → ∃ index, Indexed label own records index

/-- Archives of the same table. Different tables may have been saved of it. -/
structure SameTable (a b : Archive α) : Prop where
  records : a.records = b.records
  index : a.index = b.index

theorem SameTable.refl (a : Archive α) : a.SameTable a := ⟨rfl, rfl⟩

theorem SameTable.trans {c : Archive α} (h : a.SameTable b) (h' : b.SameTable c) : a.SameTable c :=
  ⟨h.records.trans h'.records, h.index.trans h'.index⟩

/-- Every revision keeps an archive sound. -/
theorem Sound.revise (h : a.Sound label own) (revision : a.Revision label own access b) :
    b.Sound label own := by
  cases revision with
  | read | refused | missing => exact h
  | added freeKey freeLabel => exact ⟨h.indexed.add freeKey freeLabel, h.saved⟩
  | replaced found sameOwn sameLabel => exact ⟨h.indexed.replace found sameOwn sameLabel, h.saved⟩
  | saved slot =>
      refine ⟨h.indexed, fun other records hsaved => ?_⟩
      rcases Table.get?_put_eq_some_iff.mp hsaved with ⟨-, rfl⟩ | ⟨-, hsaved⟩
      · exact ⟨a.index, h.indexed⟩
      · exact h.saved other records hsaved
  | restored found =>
      obtain ⟨index, hindexed⟩ := h.saved _ _ found
      refine ⟨?_, h.saved⟩
      rw [hindexed.rebuild]
      exact hindexed

/-- What was saved stays until something else is saved in its place. -/
theorem Revision.saved_get? (h : a.Revision label own access b) (other : access ≠ .saving slot) :
    b.saved.get? slot = a.saved.get? slot := by
  cases h with
  | saved place =>
      have hne : slot ≠ place := fun h => other (h ▸ rfl)
      exact Table.get?_put_of_ne _ _ hne
  | _ => rfl

theorem Revision.sameTable (h : a.Revision label own access b) (spares : access.spares = true) :
    b.SameTable a := by
  cases h with
  | read | saved => exact ⟨rfl, rfl⟩
  | _ => cases spares

theorem Revision.saved_self (h : a.Revision label own (.saving slot) b) :
    b.saved.get? slot = some a.records := by
  cases h with
  | saved => exact Table.get?_put_self _ _ _

/-- Restoring what was saved of a sound archive brings back its table, the index included. -/
theorem Revision.sameTable_restored {c : Archive α} (h : b.Revision label own (.restoring slot) c)
    (sound : a.Sound label own) (saved : b.saved.get? slot = some a.records) : c.SameTable a := by
  cases h with
  | restored found =>
      rw [saved] at found
      obtain rfl := Option.some.inj found
      exact ⟨rfl, sound.indexed.rebuild⟩
  | missing unsaved =>
      rw [saved] at unsaved
      cases unsaved

end Archive

/-- A call to either table. -/
inductive TableCall where
  | namespaces (c : NamespaceCall)
  | resources (c : ResourceCall)

namespace Tables

/-- Run a call to either table. -/
def run (t : Tables) : TableCall → Except Failure Answer × Tables
  | .namespaces c => t.runNamespace c
  | .resources c => t.runResource c

/-- The tables after several calls, whatever becomes of each. -/
def after (t : Tables) (calls : List TableCall) : Tables := calls.foldl (fun t c => (t.run c).2) t

theorem after_cons (t : Tables) (call : TableCall) (rest : List TableCall) :
    t.after (call :: rest) = (t.run call).2.after rest := rfl

theorem after_append (t : Tables) (calls more : List TableCall) :
    t.after (calls ++ more) = (t.after calls).after more :=
  List.foldl_append

end Tables

/-- One of the two tables, as it is seen through the calls to both. -/
structure Side (α : Type) where
  label : α → String
  own : α → Int
  archive : Tables → Archive α
  access : TableCall → Access
  revises : ∀ (t : Tables) (call : TableCall),
    (archive t).Revision label own (access call) (archive (t.run call).2)

namespace Side

variable {α : Type} (side : Side α) {t : Tables} {calls between later : List TableCall} {slot : String}

/-- A table stays sound, however it and the other table are used. -/
theorem sound_after (h : (side.archive t).Sound side.label side.own) (calls : List TableCall) :
    (side.archive (t.after calls)).Sound side.label side.own := by
  induction calls generalizing t with
  | nil => exact h
  | cons call rest ih => exact ih (h.revise (side.revises t call))

theorem saved_after (others : ∀ call ∈ calls, side.access call ≠ .saving slot) :
    (side.archive (t.after calls)).saved.get? slot = (side.archive t).saved.get? slot := by
  induction calls generalizing t with
  | nil => rfl
  | cons call rest ih =>
      obtain ⟨hother, hrest⟩ := List.forall_mem_cons.mp others
      exact (ih hrest).trans ((side.revises t call).saved_get? hother)

theorem sameTable_after (spared : ∀ call ∈ calls, (side.access call).spares = true) :
    (side.archive (t.after calls)).SameTable (side.archive t) := by
  induction calls generalizing t with
  | nil => exact .refl _
  | cons call rest ih =>
      obtain ⟨hcall, hrest⟩ := List.forall_mem_cons.mp spared
      exact (ih hrest).trans ((side.revises t call).sameTable hcall)

/-- A table that was saved and restored is the same as before, whatever was done in between. -/
theorem sameTable_restored (sound : (side.archive t).Sound side.label side.own) {save restore : TableCall}
    (saves : side.access save = .saving slot) (restores : side.access restore = .restoring slot)
    (others : ∀ call ∈ between, side.access call ≠ .saving slot)
    (spared : ∀ call ∈ later, (side.access call).spares = true) :
    (side.archive (t.after (save :: between ++ restore :: later))).SameTable (side.archive t) := by
  have hsaved := side.revises t save
  have hrestored := side.revises ((t.run save).2.after between) restore
  rw [saves] at hsaved
  rw [restores] at hrestored
  have hkept := (side.saved_after others).trans hsaved.saved_self
  rw [Tables.after_append, Tables.after_cons, Tables.after_cons]
  exact (side.sameTable_after spared).trans (hrestored.sameTable_restored sound hkept)

end Side

/-- What both answers to a question about what was found have in common, the answer has. -/
theorem holds_of_choice {ρ τ : Type} {P : τ → Prop} {found : Except Denial ρ} {c : ρ → Prop}
    [DecidablePred c] {yes no : ρ → Bool × τ} {answer : Bool} {t : τ}
    (h : (do
      let r ← found
      if c r then pure (yes r) else pure (no r)) = .ok (answer, t))
    (holds : ∀ r, found = .ok r → P (yes r).2 ∧ P (no r).2) : P t := by
  obtain ⟨r, hr, hchoice⟩ := bind_eq_ok.mp h
  obtain ⟨hyes, hno⟩ := holds r hr
  by_cases hc : c r
  · rw [if_pos hc] at hchoice
    rw [Except.ok.inj hchoice] at hyes
    exact hyes
  · rw [if_neg hc] at hchoice
    rw [Except.ok.inj hchoice] at hno
    exact hno

namespace NamespaceTable

variable {t t' : NamespaceTable} {p : Permissions} {name : String} {selector owner writer : Int}
  {r : NamespaceRecord} {changed : Bool}

/-- The table with what was saved of it. -/
def archive (t : NamespaceTable) (saved : Table String (Table Int NamespaceRecord)) :
    Archive NamespaceRecord :=
  ⟨t.records, t.selectors, saved⟩

/-- One table is written over another, whatever was saved of it. -/
def Writes (t t' : NamespaceTable) : Prop := ∀ saved,
  (t.archive saved).Revision NamespaceRecord.name NamespaceRecord.selector .writing (t'.archive saved)

theorem Writes.refl (t : NamespaceTable) : t.Writes t := fun _ => .refused

theorem writes_register (h : t.register name selector owner = .ok (r, t')) : t.Writes t' := by
  obtain ⟨freeKey, freeName, hr, rfl⟩ := register_eq_ok_iff.mp h
  subst hr
  exact fun saved => .added (r := (⟨name, selector, owner, []⟩ : NamespaceRecord)) freeKey freeName

theorem writes_setWriters (h : t.checkOwner p selector = .ok r) (writers : Writers) :
    t.Writes (t.setWriters selector r writers) :=
  fun _ => .replaced (checkOwner_eq_ok_iff.mp h).1 rfl rfl

theorem writes_grant (h : t.grant p selector writer = .ok (changed, t')) : t.Writes t' :=
  holds_of_choice h fun _ hr => ⟨.refl t, writes_setWriters hr _⟩

theorem writes_revoke (h : t.revoke p selector writer = .ok (changed, t')) : t.Writes t' :=
  holds_of_choice h fun _ hr => ⟨writes_setWriters hr _, .refl t⟩

end NamespaceTable

namespace ResourceTable

variable {t t' : ResourceTable} {namespaces : NamespaceTable} {p : Permissions} {name : String}
  {spaceSelector selector owner writer classHash : Int} {kind : ResourceKind} {r : ResourceRecord}
  {changed : Bool}

/-- The table with what was saved of it. -/
def archive (t : ResourceTable) (saved : Table String (Table Int ResourceRecord)) :
    Archive ResourceRecord :=
  ⟨t.records, t.selectors, saved⟩

/-- One table is written over another, whatever was saved of it. -/
def Writes (t t' : ResourceTable) : Prop := ∀ saved,
  (t.archive saved).Revision ResourceRecord.tag ResourceRecord.selector .writing (t'.archive saved)

theorem Writes.refl (t : ResourceTable) : t.Writes t := fun _ => .refused

/-- A tag is free or taken as a whole, whatever pair of names it is made of. -/
theorem writes_register (h : t.register namespaces name spaceSelector selector owner kind = .ok (r, t')) :
    t.Writes t' := by
  obtain ⟨home, -, freeKey, freeTag, hr, rfl⟩ := register_eq_ok_iff.mp h
  subst hr
  exact fun saved => .added
    (r := (⟨home.name, name, selector, spaceSelector, owner, kind, [], none, 1⟩ : ResourceRecord))
    freeKey freeTag

theorem writes_setWriters (h : t.checkOwner p selector = .ok r) (writers : Writers) :
    t.Writes (t.set selector { r with writers }) :=
  fun _ => .replaced (checkOwner_eq_ok_iff.mp h).1 rfl rfl

theorem writes_grant (h : t.grant p selector writer = .ok (changed, t')) : t.Writes t' :=
  holds_of_choice h fun _ hr => ⟨.refl t, writes_setWriters hr _⟩

theorem writes_revoke (h : t.revoke p selector writer = .ok (changed, t')) : t.Writes t' :=
  holds_of_choice h fun _ hr => ⟨writes_setWriters hr _, .refl t⟩

theorem writes_upgrade (h : t.upgrade selector classHash = .ok (r, t')) : t.Writes t' := by
  obtain ⟨old, found, rfl, rfl⟩ := upgrade_eq_ok_iff.mp h
  exact fun _ => .replaced found rfl rfl

/-- Where every tag in the index has its record, the write check finds one for it. -/
theorem checkWrite_ne_wrongShape
    (inverse : Inverse ResourceRecord.tag ResourceRecord.selector t.records t.selectors) (tag : String)
    (p : Permissions) : t.checkWrite tag p ≠ .error .wrongShape := by
  unfold checkWrite
  cases hindex : t.selectors.get? tag with
  | none =>
      unfold Selector.ofTag Tag.split
      cases Tag.split? tag none <;> simp [Except.map]
  | some key =>
      obtain ⟨r, hr, -⟩ := (inverse.labelled tag key).mp hindex
      by_cases hwrites : p.canWrite r.owner r.writers = true
      · simp [hr, hwrites]
      · simp [hr, hwrites]

end ResourceTable

/-- What is asked with a selector as it was given is asked with an integer. -/
theorem Selector.exists_of_given {α : Type} {v : Value} {missing : Denial} {ask : Int → Except Denial α}
    {a : α} (h : given v missing (fun n => Denial.orFail (ask n)) = .ok a) : ∃ n, ask n = .ok a := by
  obtain ⟨k, -, hk⟩ := bind_eq_ok.mp h
  cases k with
  | none => cases hk
  | some n =>
      cases hask : ask n with
      | ok b =>
          simp only [hask, Denial.orFail_ok, Except.ok.injEq] at hk
          exact ⟨n, hask.trans (congrArg Except.ok hk)⟩
      | error denial =>
          simp only [hask, Denial.orFail_error] at hk
          cases hk

/-- What a call to the namespaces is to them. -/
def NamespaceCall.access : NamespaceCall → Access
  | .register .. | .grant .. | .revoke .. => .writing
  | .save slot => .saving slot
  | .restore slot => .restoring slot
  | _ => .reading

/-- What a call to the resources is to them. -/
def ResourceCall.access : ResourceCall → Access
  | .register .. | .grant .. | .revoke .. | .upgrade .. => .writing
  | .save slot => .saving slot
  | .restore slot => .restoring slot
  | _ => .reading

namespace Tables

variable {t t' : Tables} {slot : String}

/-- What holds of the tables before, and of the tables with the store that an outcome leaves, holds
after the outcome. -/
theorem settle_keeps {α : Type} {P : Tables → Prop} {answer : α → Answer} {after : α → Store}
    {notices : α → List Notice} {outcome : Except Failure α} (kept : P t)
    (done : ∀ a journal, outcome = .ok a → P { t with store := after a, journal }) :
    P (t.settle answer after notices outcome).2 := by
  cases outcome with
  | ok a => exact done a _ rfl
  | error failure => exact kept

/-- The namespaces with what was saved of them. -/
def namespaceArchive (t : Tables) : Archive NamespaceRecord := t.store.namespaces.archive t.savedNamespaces

/-- The resources with what was saved of them. -/
def resourceArchive (t : Tables) : Archive ResourceRecord := t.store.resources.archive t.savedResources

/-- A table is written if every success writes it, and an outcome that fails leaves it. -/
theorem settle_writes {ρ α : Type} {label : ρ → String} {own : ρ → Int} (archive : Tables → Archive ρ)
    {answer : α → Answer} {after : α → Store} {notices : α → List Notice} {outcome : Except Failure α}
    (writes : ∀ a journal, outcome = .ok a →
      (archive t).Revision label own .writing (archive { t with store := after a, journal })) :
    (archive t).Revision label own .writing (archive (t.settle answer after notices outcome).2) :=
  settle_keeps (P := fun t' => (archive t).Revision label own .writing (archive t')) .refused writes

theorem runNamespace_revises (t : Tables) (c : NamespaceCall) :
    t.namespaceArchive.Revision NamespaceRecord.name NamespaceRecord.selector c.access
      (t.runNamespace c).2.namespaceArchive := by
  cases c with
  | register name selector owner =>
      refine settle_writes namespaceArchive fun a journal ha => ?_
      exact NamespaceTable.writes_register (orFail_eq_ok_iff.mp ha) _
  | grant p v writer =>
      refine settle_writes namespaceArchive fun a journal ha => ?_
      obtain ⟨n, hn⟩ := Selector.exists_of_given ha
      exact NamespaceTable.writes_grant hn _
  | revoke p v writer =>
      refine settle_writes namespaceArchive fun a journal ha => ?_
      obtain ⟨n, hn⟩ := Selector.exists_of_given ha
      exact NamespaceTable.writes_revoke hn _
  | save slot => exact .saved slot
  | restore slot =>
      simp only [runNamespace]
      cases hsaved : t.savedNamespaces.get? slot with
      | some records => exact .restored (a := t.namespaceArchive) hsaved
      | none => exact .missing hsaved
  | _ => exact .read

theorem runResource_revises (t : Tables) (c : ResourceCall) :
    t.resourceArchive.Revision ResourceRecord.tag ResourceRecord.selector c.access
      (t.runResource c).2.resourceArchive := by
  cases c with
  | register name v selector owner kind =>
      refine settle_writes resourceArchive fun a journal ha => ?_
      obtain ⟨n, hn⟩ := Selector.exists_of_given ha
      exact ResourceTable.writes_register hn _
  | grant p v writer =>
      refine settle_writes resourceArchive fun a journal ha => ?_
      obtain ⟨n, hn⟩ := Selector.exists_of_given ha
      exact ResourceTable.writes_grant hn _
  | revoke p v writer =>
      refine settle_writes resourceArchive fun a journal ha => ?_
      obtain ⟨n, hn⟩ := Selector.exists_of_given ha
      exact ResourceTable.writes_revoke hn _
  | upgrade v classHash =>
      refine settle_writes resourceArchive fun a journal ha => ?_
      obtain ⟨n, hn⟩ := Selector.exists_of_given ha
      exact ResourceTable.writes_upgrade hn _
  | save slot => exact .saved slot
  | restore slot =>
      simp only [runResource]
      cases hsaved : t.savedResources.get? slot with
      | some records => exact .restored (a := t.resourceArchive) hsaved
      | none => exact .missing hsaved
  | _ => exact .read

/-- Calls to one table leave the other one alone. -/
theorem runNamespace_resourceArchive (t : Tables) (c : NamespaceCall) :
    (t.runNamespace c).2.resourceArchive = t.resourceArchive := by
  cases c with
  | register | grant | revoke =>
      exact settle_keeps (P := fun t' => t'.resourceArchive = t.resourceArchive) rfl fun _ _ _ => rfl
  | restore slot =>
      simp only [runNamespace]
      cases t.savedNamespaces.get? slot <;> rfl
  | _ => rfl

theorem runResource_namespaceArchive (t : Tables) (c : ResourceCall) :
    (t.runResource c).2.namespaceArchive = t.namespaceArchive := by
  cases c with
  | register | grant | revoke | upgrade =>
      exact settle_keeps (P := fun t' => t'.namespaceArchive = t.namespaceArchive) rfl fun _ _ _ => rfl
  | restore slot =>
      simp only [runResource]
      cases t.savedResources.get? slot <;> rfl
  | _ => rfl

/-- A call that spares the namespaces is answered from them alone. -/
theorem runNamespace_congr {c : NamespaceCall} (spares : c.access.spares = true)
    (same : t.namespaceArchive.SameTable t'.namespaceArchive) :
    (t.runNamespace c).1 = (t'.runNamespace c).1 := by
  have hnamespaces : t.store.namespaces = t'.store.namespaces :=
    congrArg₂ NamespaceTable.mk same.records same.index
  cases c with
  | register | grant | revoke | restore => cases spares
  | _ => simp only [runNamespace, check, told, hnamespaces]

/-- A call that spares the resources is answered from them alone. -/
theorem runResource_congr {c : ResourceCall} (spares : c.access.spares = true)
    (same : t.resourceArchive.SameTable t'.resourceArchive) :
    (t.runResource c).1 = (t'.runResource c).1 := by
  have hresources : t.store.resources = t'.store.resources :=
    congrArg₂ ResourceTable.mk same.records same.index
  cases c with
  | register | grant | revoke | upgrade | restore => cases spares
  | _ => simp only [runResource, check, told, hresources]

end Tables

namespace Side

/-- The namespaces. Calls to the resources read them at most. -/
def namespaces : Side NamespaceRecord where
  label := NamespaceRecord.name
  own := NamespaceRecord.selector
  archive := Tables.namespaceArchive
  access
    | .namespaces c => c.access
    | .resources _ => .reading
  revises t call := by
    cases call with
    | namespaces c => exact t.runNamespace_revises c
    | resources c =>
        rw [Tables.run, t.runResource_namespaceArchive c]
        exact .read

/-- The resources. Calls to the namespaces do not touch them. -/
def resources : Side ResourceRecord where
  label := ResourceRecord.tag
  own := ResourceRecord.selector
  archive := Tables.resourceArchive
  access
    | .namespaces _ => .reading
    | .resources c => c.access
  revises t call := by
    cases call with
    | namespaces c =>
        rw [Tables.run, t.runNamespace_resourceArchive c]
        exact .read
    | resources c => exact t.runResource_revises c

end Side

namespace Tables

/-- However the two tables are used, their indexes are the inverse of their records, and the write
check finds a record for every tag that it knows. A table that was saved and then restored answers
every call that asks, checks or saves as it would have when it was saved, whatever was done to both
tables in between, and whatever else is read or done to the other table since. -/
theorem saved_tables_answer (calls : List TableCall) :
    let t := empty.after calls
    Inverse NamespaceRecord.name NamespaceRecord.selector t.store.namespaces.records
        t.store.namespaces.selectors ∧
      Inverse ResourceRecord.tag ResourceRecord.selector t.store.resources.records
        t.store.resources.selectors ∧
      (∀ tag p, (t.runResource (.checkWrite tag p)).1 ≠ .error .wrongShape) ∧
      ∀ (slot : String) (between later : List TableCall),
        ((∀ call ∈ between, Side.namespaces.access call ≠ .saving slot) →
          (∀ call ∈ later, (Side.namespaces.access call).spares = true) →
          ∀ c : NamespaceCall, c.access.spares = true →
            ((t.after (.namespaces (.save slot) :: between ++ .namespaces (.restore slot) :: later)).runNamespace
              c).1 = (t.runNamespace c).1) ∧
        ((∀ call ∈ between, Side.resources.access call ≠ .saving slot) →
          (∀ call ∈ later, (Side.resources.access call).spares = true) →
          ∀ c : ResourceCall, c.access.spares = true →
            ((t.after (.resources (.save slot) :: between ++ .resources (.restore slot) :: later)).runResource
              c).1 = (t.runResource c).1) := by
  intro t
  have hspaces := Side.namespaces.sound_after (t := empty) ⟨Indexed.empty _ _, fun _ _ h => by cases h⟩ calls
  have hresources := Side.resources.sound_after (t := empty) ⟨Indexed.empty _ _, fun _ _ h => by cases h⟩ calls
  refine ⟨hspaces.indexed.inverse, hresources.indexed.inverse, fun tag p hwrong => ?_,
    fun slot between later => ⟨fun others spared c hc => ?_, fun others spared c hc => ?_⟩⟩
  · have hcheck : t.store.resources.checkWrite tag p = .error .wrongShape := map_eq_error_iff.mp hwrong
    exact ResourceTable.checkWrite_ne_wrongShape hresources.indexed.inverse tag p hcheck
  · exact runNamespace_congr hc (Side.namespaces.sameTable_restored hspaces rfl rfl others spared)
  · exact runResource_congr hc (Side.resources.sameTable_restored hresources rfl rfl others spared)

/-- Two namespaces and a resource. The namespace "a" and the name "b-c" would join to the tag of the
resource in the namespace "a-b". -/
def hyphenated : List TableCall :=
  [.namespaces (.register "a-b" 1 5), .namespaces (.register "a" 2 5),
    .resources (.register "c" (.int 1) 10 5 .model)]

/-- A grant to the caller 6, an upgrade, and a registration whose tag is taken. -/
def meanwhile : List TableCall :=
  [.resources (.grant ⟨5, false⟩ (.int 10) 6), .resources (.upgrade (.int 10) 3),
    .resources (.register "b-c" (.int 2) 11 5 .model)]

/-- The caller 6 may write after the grant, but no longer once the resources of before are restored. -/
theorem saved_tables_answer_hyphenated :
    ((empty.after hyphenated).runResource (.register "b-c" (.int 2) 11 5 .model)).1 =
        .error (.denied (.resourceTaken "a" "b-c")) ∧
      ((empty.after (hyphenated ++ meanwhile)).runResource (.checkWrite "a-b-c" ⟨6, false⟩)).1 =
        .ok (.resource ⟨"a-b", "c", 10, 1, 5, .model, [6], some 3, 2⟩) ∧
      (((empty.after hyphenated).after (.resources (.save "s") :: meanwhile ++
          .resources (.restore "s") :: [.namespaces (.register "d" 4 5)])).runResource
        (.checkWrite "a-b-c" ⟨6, false⟩)).1 = .error (.denied (.writeRefused "a-b-c" 6)) := by
  obtain ⟨-, -, -, hrestored⟩ := saved_tables_answer hyphenated
  refine ⟨by rfl, by rfl, ?_⟩
  have hothers : ∀ call ∈ meanwhile, Side.resources.access call ≠ .saving "s" := by
    simp [meanwhile, Side.resources, ResourceCall.access]
  have hspared : ∀ call ∈ [TableCall.namespaces (.register "d" 4 5)],
      (Side.resources.access call).spares = true := by
    simp [Side.resources, Access.spares]
  rw [(hrestored "s" meanwhile _).2 hothers hspared _ rfl]
  rfl

end Tables

end OwnershipRegistry
