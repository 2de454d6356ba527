import Rendezvous.Proofs.Run.Pace
import Rendezvous.Proofs.Traffic.Refusal

/-!
# How far a wait on a handle has come

A wait on a handle that has not been built goes through stages that it may go through again: it
knocks, finds nothing to wait at, tries to build, and knocks once more. The second time the slot owns
a barrier, or will before anybody is let in again (`Arena.settled`), since whoever is done with
building leaves a barrier behind or has found one (`Operation.Aware`). So the stages count as later
ones if the slot is settled, and each turn of a wait that nobody asks to stop takes it further
(`InUse.rises`).
-/

set_option autoImplicit false

namespace Rendezvous

open Barrier Handle

/-- Slot 0 owns a barrier, or somebody is about to put one there and keeps others out. -/
def Arena.settled (a : Arena) : Bool :=
  decide ((a.slot 0).status = .live) || (a.holds 0).exclusive

theorem Arena.settled_of_live {a : Arena} {b : Nat} (live : a.slot 0 = .live b) :
    a.settled = true := by
  simp [settled, live, Slot.status]

theorem Arena.settled_setHolds {a : Arena} (known : 0 < a.handles.size) {x : Holds} :
    (a.setHolds 0 x).settled = (decide ((a.slot 0).status = .live) || x.exclusive) := by
  rw [settled, slot_setHolds, holds_setHolds_self x known]

theorem Barrier.Construction.left_le (c : Construction) : c.left ≤ 6 := by
  cases c <;> simp [Construction.left]

namespace Handle

/-- Whoever has been at the slot to build knows that it owns a barrier. -/
def Operation.Aware (a : Arena) : Operation → Prop
  | leave m => m ≠ .again
  | release _ m | giveUp _ m | unguard m => m = .again ∧ a.slot 0 = .live 0
  | _ => True

theorem Operation.Aware.congr {a a' : Arena} {op : Operation} (aware : op.Aware a)
    (live : a.slot 0 = .live 0 → a'.slot 0 = .live 0) : op.Aware a' := by
  cases op with
  | release | giveUp | unguard => exact ⟨aware.1, live aware.2⟩
  | _ => exact aware

/-- How far a wait has come, in this arena. -/
def Operation.progress (a : Arena) : Operation → Nat
  | knock _ => if a.settled then 17 else 0
  | look _ => if (a.slot 0).status = .live then 18 else 1
  | leave .resolve => 2
  | guard _ => 3
  | reserve _ => 4
  | inspect _ => 5
  | build _ c => 12 - c.left
  | announce .. => 13
  | store .. => 14
  | release .. | giveUp .. => 15
  | unguard _ => 16
  | inside _ w => 19 + w.pace (a.barrier 0)
  | leave _ => 44
  | finished _ => 45
  | _ => 0

theorem Operation.progress_le (a : Arena) (op : Operation) : op.progress a ≤ 45 := by
  cases op with
  | knock | look =>
    simp only [progress]
    split <;> omega
  | leave m => cases m <;> simp [progress]
  | inside b w =>
    have := w.pace_le (a.barrier 0)
    simp only [progress]
    omega
  | build e c =>
    simp only [progress]
    omega
  | _ => simp [progress]

/-- What others do does not change how far it has come. -/
def Operation.Rests (a : Arena) : Operation → Prop
  | knock _ => a.settled = true
  | look _ => False
  | inside _ w => ∀ b b', w.pace b' = w.pace b
  | _ => True

theorem Operation.rests_of_stuck {a : Arena} {c : Cancellation} {supply : Supply} {op : Operation}
    (stuck : op.step a 0 c supply none = none) : op.Rests a := by
  cases op with
  | knock q =>
    simp only [step] at stuck
    split at stuck
    · cases stuck
    · next taken =>
      have taken : (a.holds 0).exclusive = true := by simpa [Holds.mayShare] using taken
      simp [Rests, Arena.settled, taken]
  | look => cases stuck
  | inside k w =>
    by_cases ended : ∃ r, w = .finished r
    · obtain ⟨r, rfl⟩ := ended
      cases stuck
    · rw [step_inside fun r hr => ended ⟨r, hr⟩, Option.map_eq_none_iff] at stuck
      intro b b'
      rw [Wait.pace_of_stuck b stuck, Wait.pace_of_stuck b' stuck]
  | _ => trivial

theorem Operation.Rests.congr {a a' : Arena} {op : Operation} (rests : op.Rests a)
    (settled : a.settled = true → a'.settled = true) :
    op.Rests a' ∧ op.progress a' = op.progress a := by
  cases op with
  | knock =>
    refine ⟨settled rests, ?_⟩
    simp only [progress, show a.settled = true from rests, settled rests]
  | look => exact rests.elim
  | inside => exact ⟨rests, congrArg (19 + ·) (rests _ _)⟩
  | leave m => cases m <;> exact ⟨trivial, rfl⟩
  | _ => exact ⟨trivial, rfl⟩

end Handle

namespace Traffic

variable {supply : Supply} {n : UInt32} {b : Barrier} {s : Traffic} {i : Nat} {v : Job}
  {turn : Operation.Turn}

namespace InUse

/-- A slot that owns a barrier goes on to own it. -/
theorem live_after (u : InUse supply n (.ok b) s) (hv : v ∈ s.jobs)
    (moved : v.stage.step s.arena 0 (s.settings v.thread) supply none = some turn)
    (live : s.arena.slot 0 = .live 0) : turn.arena.slot 0 = .live 0 := by
  obtain ⟨q, use, serves⟩ := u.serves hv
  have d := u.custody.deed hv (by rw [u.handle hv]; exact moved)
  rw [u.handle hv] at d
  rcases d.slot (by rw [u.single]; exact Nat.one_pos) with same | ⟨e, new, stage, -, stored, -⟩ |
    ⟨_, stage, -⟩
  · exact same.trans live
  · have track := u.onTrack v hv
    rw [stage] at track
    exact stored.trans track
  · rw [stage] at serves
    cases serves
    cases use

/-- A turn of a wait takes it further, and it still knows what it has to know. -/
theorem rises (u : InUse supply n (.ok b) s) (hv : v ∈ s.jobs) (wait : v.purpose = .inquire .wait)
    (aware : v.stage.Aware s.arena) (unasked : (s.settings v.thread).pending = false)
    (moved : v.stage.step s.arena 0 (s.settings v.thread) supply none = some turn) :
    v.stage.progress s.arena < turn.stage.progress turn.arena ∧ turn.stage.Aware turn.arena := by
  have serves := wait ▸ u.custody.serves v hv
  have track := u.onTrack v hv
  have known : 0 < s.arena.handles.size := by rw [u.single]; exact Nat.one_pos
  have uses_lt {k : Nat} (uses : v.stage.uses = some k) := u.custody.uses_lt hv uses
  have uses_eq {k : Nat} (uses : v.stage.uses = some k) := (u.slot_of_uses hv uses).2
  obtain ⟨thread, h, aim, op, build⟩ := v
  dsimp only at *
  cases Operation.stride_of_step moved with
  | @knock q may =>
    have shared : (s.arena.holds 0).exclusive = false := by simpa [Holds.mayShare] using may
    refine ⟨?_, trivial⟩
    simp only [Operation.progress, Arena.settled, shared, Bool.or_false, Arena.slot_setHolds,
      decide_eq_true_eq]
    split <;> omega
  | look =>
    cases serves
    rcases u.place.slot with slot | slot
    · simp [slot, Inquiry.look, Operation.progress, Operation.Aware, Slot.status]
    · simp [slot, Inquiry.look, Operation.progress, Operation.Aware, Slot.status, Wait.pace]
  | @inside k w t stepped =>
    obtain rfl := uses_eq rfl
    refine ⟨?_, trivial⟩
    have rises := Wait.pace_step unasked stepped
    simp only [Operation.progress, Arena.barrier_setBarrier_self _ (uses_lt rfl)]
    omega
  | outside => exact ⟨by simp [Operation.progress, Wait.pace], by rintro ⟨⟩⟩
  | @leave m =>
    cases m with
    | answer | resolve => exact ⟨Nat.lt_succ_self _, trivial⟩
    | again => exact absurd rfl aware
    | discard | claim => cases serves
  | guard | reserve => exact ⟨Nat.lt_succ_self _, trivial⟩
  | @inspect e =>
    obtain rfl := Errand.eq_resolve rfl serves
    rcases u.place.slot with slot | slot
    · simp [slot, Errand.inspect, Operation.progress, Operation.Aware, Construction.left]
    · simp [slot, Errand.inspect, Operation.progress, Operation.Aware]
  | @build e c t stepped =>
    have left := Construction.left_step stepped
    have le := c.left_le
    refine ⟨?_, trivial⟩
    simp only [Operation.progress]
    omega
  | built => exact ⟨Nat.lt_succ_self _, trivial⟩
  | failed => cases Construction.Yields.of_finished track
  | announce => exact ⟨Nat.lt_succ_self _, trivial⟩
  | @store e new =>
    obtain rfl := Errand.eq_resolve rfl serves
    obtain rfl : new = .live 0 := track
    exact ⟨Nat.lt_succ_self _, rfl, Arena.slot_setSlot_self _ known⟩
  | @release e m | @giveUp e m =>
    obtain rfl := Errand.eq_resolve rfl serves.1
    exact ⟨Nat.lt_succ_self _, aware.1, (Arena.slot_setHolds ..).trans aware.2⟩
  | @unguard m =>
    obtain ⟨rfl, live⟩ := aware
    refine ⟨?_, trivial⟩
    have settled : ({ s.arena with guarded := false } : Arena).settled = true :=
      Arena.settled_of_live (a := { s.arena with guarded := false }) live
    simp [Next.stage, Operation.progress, settled]
  | abandon => exact track.elim
  | _ => cases serves

/-- A slot that is settled stays so. -/
theorem settled_after (u : InUse supply n (.ok b) s) (hv : v ∈ s.jobs)
    (aware : v.stage.Aware s.arena)
    (moved : v.stage.step s.arena 0 (s.settings v.thread) supply none = some turn)
    (settled : s.arena.settled = true) : turn.arena.settled = true := by
  rcases u.place.slot with unbuilt | live
  · -- somebody keeps others out, and stops only when the slot owns a barrier
    have serves := u.custody.serves v hv
    obtain ⟨q, use, wait⟩ := u.uses v hv
    rw [wait] at serves
    have track := u.onTrack v hv
    have known : 0 < s.arena.handles.size := by rw [u.single]; exact Nat.one_pos
    have taken : (s.arena.holds 0).exclusive = true := by
      simpa [Arena.settled, unbuilt, Slot.status] using settled
    have kept {x : Holds} (same : x.exclusive = true) :
        (s.arena.setHolds 0 x).settled = true := by
      rw [Arena.settled_setHolds known, same, Bool.or_true]
    obtain ⟨thread, h, aim, op, build⟩ := v
    dsimp only at *
    cases Operation.stride_of_step moved with
    | knock | leave | reserve | giveUp => exact kept taken
    | announce | claim => exact kept rfl
    | release => cases unbuilt.symm.trans aware.2
    | @store e new =>
      obtain rfl : new = .live 0 := track
      exact Arena.settled_of_live (Arena.slot_setSlot_self _ known)
    | abandon => exact track.elim
    | clear | detach =>
      cases serves
      cases use
    | _ => exact settled
  · exact Arena.settled_of_live (u.live_after hv moved live)

end InUse

end Traffic

end Rendezvous
