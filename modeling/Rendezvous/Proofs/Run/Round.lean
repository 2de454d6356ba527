import Rendezvous.Proofs.Run.Heat
import Rendezvous.Proofs.Settling

/-!
# Where a round of a race comes to rest

Once the sign is given, the workers of a round cannot be held up for good: where none of them can
move, all have finished (`Mirrors.over_of_jammed`). Nobody is held up by the group's lock, by the slot
or by the process-wide lock when all are held up, since its holder could go on. So whoever has not
finished is asleep in the barrier (`Mirrors.asleep`), and that cannot be all of as many as it takes
(`InStep.outside_of_still`).

If the workers and the one that gives the sign take turns, they get there (`Mirrors.atRest_settle`),
since each of them has a pace.
-/

set_option autoImplicit false

namespace Rendezvous

open Barrier Handle
open Plain (Stage)

namespace Run.Race

open Crowd Worker

/-- The worker has ended, well or not. -/
def Worker.isFinished : Worker → Bool
  | .finished _ => true
  | _ => false

/-- All workers have finished. -/
def Over (r : Race) : Prop := ∀ w ∈ r.workers, w.isFinished = true

instance (r : Race) : Decidable r.Over :=
  inferInstanceAs (Decidable (∀ w ∈ r.workers, w.isFinished = true))

/-- No worker can move. -/
def Jammed (r : Race) : Prop := ∀ i < r.workers.size, r.step i = none

section

variable {supply : Supply} {threads : UInt32} {b : Barrier} {r : Race} {s : Traffic} {c : Crowd}
  {i : Nat} {w : Worker}

/-! ## Who can move -/

theorem Jammed.stuck (jammed : r.Jammed) (hw : r.workers[i]? = some w) :
    r.stepWorker i w = none := by
  have low := (Array.getElem?_eq_some_iff.mp hw).1
  have stuck := jammed i low
  rw [Race.step, if_neg (Nat.ne_of_lt low), hw, Option.bind_some, Option.map_eq_none_iff] at stuck
  exact stuck

theorem Mirrors.group_free (h : Mirrors supply threads b r s c) (jammed : r.Jammed) :
    r.crew.group.locked = false := by
  refine Crew.group_free .enlist h.guarded (fun w holds => ?_) fun i stage hw going => ?_
  · cases w with
    | enlist stage => exact ⟨stage, rfl, holds⟩
    | _ => cases holds
  · have stuck := jammed.stuck hw
    rwa [stepWorker_enlist r i going, Option.map_eq_none_iff] at stuck

/-- How a worker can be held up. -/
inductive Halted (supply : Supply) (r : Race) (s : Traffic) (i : Nat) : Worker → Prop where
  | hold : r.go = false → Halted supply r s i .hold
  | wait {op : Operation} : op.isOver = false →
      op.step s.arena 0 (s.settings i) supply none = none → Halted supply r s i (.wait op)
  | finished : Halted supply r s i (.finished (.ok ()))

theorem Mirrors.halted (h : Mirrors supply threads b r s c) (jammed : r.Jammed)
    (hw : r.workers[i]? = some w) : Halted supply r s i w := by
  have stuck := jammed.stuck hw
  obtain ⟨v, -, -, -, place, -⟩ := h.calls i w hw
  cases w with
  | enlist stage =>
    by_cases ended : stage = .finished
    · subst ended
      cases stuck
    · rw [stepWorker_enlist r i ended, Option.map_eq_none_iff] at stuck
      rcases Crew.confer_eq_none stuck with ended' | ⟨locked, -⟩
      · exact absurd ended' ended
      · cases (h.group_free jammed).symm.trans locked
  | ready | mark => cases stuck
  | hold =>
    cases go : r.go with
    | false => exact .hold go
    | true => simp [stepWorker, go] at stuck
  | wait op =>
    cases ended : op.isOver with
    | true =>
      obtain ⟨outcome, rfl⟩ := h.outcome_of_over hw ended
      cases outcome <;> cases stuck
    | false =>
      rw [stepWorker_wait r i ended, Option.map_eq_none_iff, Crew.operate, Option.map_eq_none_iff,
        h.arena, h.cancels, h.supply_eq] at stuck
      exact .wait ended stuck
  | abort => exact absurd place not_at_abort
  | finished result =>
    obtain ⟨rfl, -⟩ := place.ok_of_finished
    exact .finished

theorem Mirrors.worker_of_user (h : Mirrors supply threads b r s c)
    (user : i ∈ List.range threads.toNat) : ∃ w, r.workers[i]? = some w := by
  rw [List.mem_range, ← h.size] at user
  exact ⟨_, Array.getElem?_eq_getElem user⟩

/-- Then no call can go on. -/
theorem Mirrors.still (h : Mirrors supply threads b r s c) (go : r.go = true) (jammed : r.Jammed) :
    Traffic.Still supply s := by
  refine h.use.still_of_stuck fun i v hv => ?_
  have user : i ∈ List.range threads.toNat := by
    rw [List.mem_range, ← h.length]
    exact (List.getElem?_eq_some_iff.mp hv).1
  obtain ⟨w, hw⟩ := h.worker_of_user user
  obtain ⟨v', hv', own, -, place, -⟩ := h.calls i w hw
  obtain rfl := Option.some.inj (hv.symm.trans hv')
  cases h.halted jammed hw with
  | hold held => cases go.symm.trans held
  | wait _ stuck => rwa [place.eq_of_wait, own]
  | finished =>
    obtain ⟨-, outcome, stage⟩ := place.ok_of_finished
    rw [stage]
    rfl

/-- Whoever waits then is asleep in the barrier. -/
theorem Mirrors.asleep (h : Mirrors supply threads b r s c) (go : r.go = true) (jammed : r.Jammed)
    {op : Operation} (hw : r.workers[i]? = some (.wait op)) :
    ∃ v ∈ c.visits, v.thread = i ∧ v.inside = true ∧ Stage.Stands c i (.inside v.stage) ∧
      v.stage.step c.barrier (c.settings i) none = none := by
  obtain ⟨v, hv, own, -, place, stands⟩ := h.calls i _ hw
  have stage := place.eq_of_wait
  cases h.halted jammed hw with
  | wait going stuck =>
    obtain ⟨live, w, inside, inner, notOver⟩ :=
      h.use.inside_of_still (h.still go jammed) hv (stage ▸ going)
    rw [inside, Operation.plain_inside inner] at stands
    rw [← stage, inside, Operation.step_inside notOver, Option.map_eq_none_iff,
      ← Arena.sight_of_live (b := b) live, ← h.barrier, ← h.settings] at stuck
    cases stands with
    | @inside visit there own' within rounds =>
      exact ⟨visit, there, own', within, .inside there own' within rounds, stuck⟩
    | passed outcome => exact absurd rfl (notOver (.ok outcome))

/-- With the sign given, workers are not held up for good. -/
theorem Mirrors.over_of_jammed (h : Mirrors supply threads b r s c) (new : Pristine threads b)
    (go : r.go = true) (jammed : r.Jammed) : r.Over := by
  have halts (i : Nat) (user : i ∈ List.range threads.toNat) :
      ∃ x, Stage.Stands c i x ∧ x ≠ .coming .wait ∧ x.step c.barrier (c.settings i) = none := by
    obtain ⟨w, hw⟩ := h.worker_of_user user
    have halted := h.halted jammed hw
    cases halted with
    | hold held => cases go.symm.trans held
    | wait =>
      obtain ⟨v, -, -, inside, stands, stuck⟩ := h.asleep go jammed hw
      refine ⟨_, stands, by rintro ⟨⟩, ?_⟩
      rw [Plain.Stage.step_inside fun x hx => by simp [Visit.inside, hx, Wait.isOver] at inside,
        stuck]
      rfl
    | finished =>
      obtain ⟨v, -, -, -, place, stands⟩ := h.calls i _ hw
      obtain ⟨-, outcome, stage⟩ := place.ok_of_finished
      rw [stage] at stands
      exact ⟨_, stands, by rintro ⟨⟩, rfl⟩
  have still : c.Still := h.inStep.still_of_stuck new fun i user =>
    (halts i user).imp fun _ halted => ⟨halted.1, halted.2.2⟩
  have outside := h.inStep.outside_of_still new List.nodup_range List.length_range still
    fun i user => (halts i user).imp fun _ halted => ⟨halted.1, halted.2.1⟩
  intro w hw
  obtain ⟨i, hi⟩ := Array.mem_iff_getElem?.mp hw
  have halted := h.halted jammed hi
  cases halted with
  | hold held => cases go.symm.trans held
  | wait =>
    obtain ⟨v, there, own, inside, -⟩ := h.asleep go jammed hi
    cases inside.symm.trans (isOutside_iff.mp (outside i (h.user hi)) v there own)
  | finished => rfl

/-- The sign is given if nothing else can be done. -/
theorem Mirrors.go_of_rest (h : Mirrors supply threads b r s c)
    (rest : Schedule.AtRest Race.step r) : r.go = true := by
  have jammed : r.Jammed := fun i _ => rest i
  have all : r.workers.size ≤ r.ready := by
    rw [h.ready, ← Array.length_toList]
    refine Nat.le_of_eq (List.countP_eq_length.mpr fun w hw => ?_).symm
    obtain ⟨i, hi⟩ := List.mem_iff_getElem?.mp hw
    have halted := h.halted jammed (w := w) (by simpa using hi)
    cases halted <;> rfl
  cases go : r.go with
  | true => rfl
  | false =>
    have stuck := rest r.workers.size
    simp [Race.step, go, all] at stuck

theorem Mirrors.over_of_rest (h : Mirrors supply threads b r s c) (new : Pristine threads b)
    (rest : Schedule.AtRest Race.step r) : r.Over :=
  h.over_of_jammed new (h.go_of_rest rest) fun i _ => rest i

/-! ## Taking turns -/

/-- How far a thread has come: a worker, or the one that gives the sign. -/
def paceOf (r : Race) (i : Nat) : Nat :=
  if i = r.workers.size then r.go.toNat else (r.workers[i]?).elim 0 (Worker.pace r.crew.arena)

/-- The thread stands where what others do does not change how far it has come. -/
def Resting (r : Race) (i : Nat) : Prop :=
  ∀ op, r.workers[i]? = some (.wait op) → op.Rests r.crew.arena

theorem paceOf_eq (hw : r.workers[i]? = some w) : r.paceOf i = w.pace r.crew.arena := by
  rw [paceOf, if_neg (Nat.ne_of_lt (Array.getElem?_eq_some_iff.mp hw).1), hw]
  rfl

theorem paceOf_le (r : Race) (i : Nat) : r.paceOf i ≤ 54 := by
  rw [paceOf]
  split
  · exact Nat.le_trans (Bool.toNat_le _) (by decide)
  · cases r.workers[i]? with
    | none => exact Nat.zero_le _
    | some w => exact w.pace_le _

/-- What another worker's turn does not change. -/
theorem Resting.congr {t : Race} {j : Nat} (rests : Resting r j)
    (settled : r.crew.arena.settled = true → t.crew.arena.settled = true)
    (same : t.workers[j]? = r.workers[j]?) (size : t.workers.size = r.workers.size)
    (go : j = r.workers.size → t.go = r.go) : Resting t j ∧ t.paceOf j = r.paceOf j := by
  refine ⟨fun op hop => ((rests op (same ▸ hop)).congr settled).1, ?_⟩
  rw [paceOf, paceOf, size, same]
  split
  · next sign => rw [go sign]
  · cases hw : r.workers[j]? with
    | none => rfl
    | some w =>
      cases w with
      | wait op => exact congrArg (7 + ·) ((rests op hw).congr settled).2
      | _ => rfl

theorem Mirrors.resting_of_stuck (h : Mirrors supply threads b r s c) (stuck : r.step i = none) :
    Resting r i := by
  intro op hw
  have low := (Array.getElem?_eq_some_iff.mp hw).1
  rw [Race.step, if_neg (Nat.ne_of_lt low), hw, Option.bind_some, Option.map_eq_none_iff] at stuck
  cases ended : op.isOver with
  | true =>
    obtain ⟨outcome, rfl⟩ := h.outcome_of_over hw ended
    trivial
  | false =>
    rw [stepWorker_wait r i ended, Option.map_eq_none_iff, Crew.operate, Option.map_eq_none_iff]
      at stuck
    exact Operation.rests_of_stuck stuck

theorem paced (new : Pristine threads b) :
    Schedule.Paced Race.step (fun r => ∃ s c, Mirrors supply threads b r s c) Resting paceOf 54 where
  kept := by
    rintro r t i ⟨s, c, h⟩ move
    exact h.step new move
  rises := by
    rintro r t i ⟨s, c, h⟩ move
    rcases h.step_cases new move with ⟨rfl, go, rfl⟩ | ⟨-, w, w', u, s', d, hw, rfl, turn⟩
    · simp [paceOf, go]
    · have there : i < u.workers.size := by
        rw [turn.workers_eq]
        exact (Array.getElem?_eq_some_iff.mp hw).1
      have now : (u.workers.setIfInBounds i w')[i]? = some w' := by
        rw [Array.getElem?_setIfInBounds_self, if_pos there]
      rw [paceOf_eq hw, paceOf_eq (r := { u with workers := u.workers.setIfInBounds i w' }) now]
      exact turn.rises
  bounded := by
    rintro r i -
    exact r.paceOf_le i
  rests := by
    rintro r i ⟨s, c, h⟩ stuck
    exact h.resting_of_stuck stuck
  stays := by
    rintro r t i j ⟨s, c, h⟩ move other rests
    rcases h.step_cases new move with ⟨rfl, -, rfl⟩ | ⟨-, w, w', u, s', d, -, rfl, turn⟩
    · exact rests.congr id rfl rfl fun sign => absurd sign other
    · refine rests.congr turn.settled ?_ ?_ fun _ => turn.go
      · show (u.workers.setIfInBounds i w')[j]? = _
        rw [Array.getElem?_setIfInBounds_ne (Ne.symm other), turn.workers_eq]
      · show (u.workers.setIfInBounds i w').size = _
        rw [Array.size_setIfInBounds, turn.workers_eq]

theorem reaches_settled (r : Race) : Schedule.Reaches Race.step r r.settle :=
  Schedule.reaches_settle _ _ _ _ _

/-- Threads that take turns come to rest. -/
theorem Mirrors.atRest_settle (h : Mirrors supply threads b r s c) (new : Pristine threads b)
    (resting : ∀ i, Resting r i) : Schedule.AtRest Race.step r.settle := by
  obtain ⟨s', d, settled⟩ := Mirrors.of_reaches new h (reaches_settled r)
  have enough : (List.range (r.workers.size + 1)).length * 54 <
      ((List.range (r.workers.size + 1)).map r.paceOf).sum + Race.turn * (r.workers.size + 2) := by
    rw [List.length_range, Race.turn]
    omega
  intro i
  by_cases there : i < r.workers.size + 1
  · exact (paced new).settle (by decide) _ ⟨s, c, h⟩ resting enough i (List.mem_range.mpr there)
  · have same : r.settle.workers.size = r.workers.size := settled.size.trans h.size.symm
    have outside : r.settle.workers[i]? = none := by
      apply Array.getElem?_eq_none
      omega
    rw [Race.step, if_neg (by omega), outside]
    rfl

theorem resting_start (supply : Supply) (threads : UInt32) (i : Nat) :
    Resting (start supply threads) i := by
  intro op hw
  cases (eq_of_start hw).2

end

end Run.Race

end Rendezvous
