import OwnershipRegistry.Proofs.Application

/-!
# Open transactions

How deep in transactions a world is, and which changes wait for their end.
Flows change neither; a transaction that is left leaves the depth and the
waiting changes of its entry, and the outermost one leaves none waiting.
-/

namespace OwnershipRegistry

namespace World

/-- A world inside of so many transactions. Outside of them, no change waits for an end. -/
structure Settled (w : World) (level : Nat) : Prop where
  depth : w.core.depth = level
  pending : level = 0 → w.core.pending = 0

namespace Settled

variable {w w' before : World} {level : Nat} {flows : List Flow} {failure : Failure} {m : Manifest}
  {caller : Int}

theorem opened (h : w.Settled level) : w.opened.Settled (level + 1) :=
  ⟨congrArg (· + 1) h.depth, fun hzero => absurd hzero (Nat.succ_ne_zero level)⟩

/-- Flows neither enter nor leave transactions. -/
theorem decide (h : w.Settled level) (flow : Flow) : (World.decide flow w).2.Settled level := by
  constructor
  · rw [decide_core, Core.after_depth]
    exact h.depth
  · intro hzero
    rw [decide_core, Core.after_pending_outside (h.depth.trans hzero)]
    exact h.pending hzero

/-- Inside of a transaction changes may wait. -/
theorem did (h : w.Settled (level + 1)) (did : Did flows w w') : w'.Settled (level + 1) := by
  refine ⟨?_, fun hzero => absurd hzero (Nat.succ_ne_zero level)⟩
  rw [did.core, Core.afterAll_depth]
  exact h.depth

theorem stopped (h : w.Settled (level + 1)) (stopped : Stopped flows w w' failure) :
    w'.Settled (level + 1) := by
  obtain ⟨done, flow, rest, v, -, hdid, hfails⟩ := stopped
  have hlast := (h.did hdid).decide flow
  rw [hfails] at hlast
  exact hlast

/-- The outermost transaction leaves no change waiting when it succeeds. -/
theorem conclude (h : w.Settled (level + 1)) : w.conclude.Settled level := by
  have hdepth : w.core.depth - 1 = level := by rw [h.depth, Nat.add_sub_cancel]
  unfold World.conclude
  by_cases hzero : level = 0
  · simp only [hdepth, hzero, if_true]
    exact ⟨rfl, fun _ => rfl⟩
  · simp only [hdepth, hzero, if_false]
    exact ⟨rfl, fun h => absurd h hzero⟩

/-- Rolling back leaves the changes waiting that waited before. -/
theorem rollBack (h : w.Settled (level + 1)) (entry : before.Settled level) :
    (World.rollBack before w).Settled level :=
  ⟨congrArg (· - 1) h.depth, entry.pending⟩

theorem apply (h : w.Settled level) (m : Manifest) (caller : Int) :
    (World.apply m caller w).2.Settled level := by
  cases happly : World.apply m caller w with
  | mk outcome after =>
      cases outcome with
      | ok p =>
          obtain ⟨-, last, hdid, rfl⟩ := apply_did happly
          have hconcluded := (h.opened.did hdid).conclude
          exact ⟨hconcluded.depth, hconcluded.pending⟩
      | error failure =>
          obtain ⟨last, rfl, ⟨-, rfl⟩ | ⟨p, -, hstopped⟩⟩ := apply_stopped happly
          · exact h.opened.rollBack h
          · exact (h.opened.stopped hstopped).rollBack h

end Settled

end World

end OwnershipRegistry
