import Rendezvous.Proofs.Crowd.Rest
import Rendezvous.Proofs.Run.Mirror
import Rendezvous.Proofs.Settling

/-!
# Where a stress run comes to rest

Where no worker of a stress run can move, all have finished. A worker that is away from the barrier
is held up by nothing but the group's lock, whose holder can go on. So the others are inside and
asleep, and since a barrier at rest has room for one more, some worker is away and therefore has
been through all generations. Then as many generations have ended (`InStep.rounds_of_isOutside`),
and nobody can be in a wait of an earlier one (`Mirrors.done_of_rest`).

Workers that take turns get there (`Mirrors.atRest_settle`), since each has a pace.
-/

set_option autoImplicit false

namespace Rendezvous

open Barrier Handle

namespace Crowd.InStep

variable {users : List Nat} {parties : UInt32} {b : Barrier} {settings : Nat → Cancellation}
  {s : Crowd}

theorem rest (h : InStep users parties b settings s) (new : Pristine parties b) (still : s.Still) :
    Rest s := by
  have convoy := h.unasked.convoy new
  exact still.rest convoy.register (Guarded.of_reaches new h.unasked.reached) convoy.ledger
    convoy.excused convoy.fit

/-- Where nobody can go on, somebody is outside. -/
theorem exists_outside (h : InStep users parties b settings s) (new : Pristine parties b)
    (apart : users.Nodup) (all : users.length = parties.toNat) (still : s.Still) :
    ∃ thread ∈ users, s.isOutside thread = true := by
  have convoy := h.unasked.convoy new
  have missing := convoy.ledger.missing_pos
  have positive := new.parties_pos
  have inside_eq := (h.rest new still).inside_eq convoy.excused
  rw [parties_of_reaches new h.unasked.reached] at inside_eq
  apply Decidable.byContradiction
  intro nobody
  have among : users ⊆ s.insiders := by
    intro thread user
    apply Decidable.byContradiction
    intro outside
    exact nobody ⟨thread, user, not_mem_insiders.mp outside⟩
  have le := apart.length_le_of_subset among
  rw [length_insiders] at le
  omega

/-- Whoever is inside then has been through as many waits as there were generations. -/
theorem rounds_of_still (h : InStep users parties b settings s) (new : Pristine parties b)
    (still : s.Still) {v : Visit} (hv : v ∈ s.visits) (inside : v.inside = true) :
    s.rounds v.thread = s.trips := by
  have counted := (h.rest new still).counted_open (h.unasked.convoy new) hv inside
  exact h.standing v hv inside s.trips (Visit.standsIn_iff.mpr (.inl counted))

end Crowd.InStep

namespace Run.Stress

open Crowd Worker

section

variable {sizes : StressSizes} {b : Barrier} {s : Stress} {c : Crowd} {i : Nat} {w : Worker}

/-! ## Who can move -/

theorem stepWorker_of_stuck (stuck : s.step i = none) (hw : s.workers[i]? = some w) :
    s.stepWorker i w = none := by
  rw [Stress.step, hw, Option.bind_some, Option.map_eq_none_iff] at stuck
  exact stuck

theorem Mirrors.group_free (h : Mirrors sizes b s c) (rest : Schedule.AtRest Stress.step s) :
    s.crew.group.locked = false := by
  refine Crew.group_free .enlist h.guarded (fun w holds => ?_) fun i stage hw going => ?_
  · cases w with
    | enlist stage => exact ⟨stage, rfl, holds⟩
    | _ => cases holds
  · have stuck := stepWorker_of_stuck (rest i) hw
    rwa [stepWorker_enlist s i going, Option.map_eq_none_iff] at stuck

/-- A worker that is away from the barrier goes on unless it has finished. -/
theorem Mirrors.finished_of_stuck (h : Mirrors sizes b s c) (free : s.crew.group.locked = false)
    (hw : s.workers[i]? = some w) {k : Nat} (away : Away sizes.generations.toNat w k)
    (stuck : s.stepWorker i w = none) : w = .finished (.ok ()) := by
  cases away with
  | @enlist stage enlists =>
    by_cases ended : stage = .finished
    · subst ended
      cases stuck
    · rw [stepWorker_enlist s i ended, Option.map_eq_none_iff] at stuck
      rcases Crew.confer_eq_none stuck with ended' | ⟨locked, -⟩
      · exact absurd ended' ended
      · cases free.symm.trans locked
  | arrive =>
    simp only [stepWorker] at stuck
    split at stuck <;> cases stuck
  | knock =>
    simp only [stepWorker, Crew.operate_knock h.arena] at stuck
    cases stuck
  | look =>
    simp only [stepWorker, Crew.operate_look h.arena] at stuck
    cases stuck
  | passed =>
    simp only [stepWorker, Crew.operate_over] at stuck
    cases stuck
  | leave =>
    obtain ⟨n, -, shared⟩ := h.shelter_of hw
    simp only [stepWorker, Crew.operate_leave shared] at stuck
    cases stuck
  | back outcome => cases outcome <;> cases stuck
  | mark | check => cases stuck
  | finished => rfl

/-- A worker that is inside is held up at the barrier. -/
theorem Mirrors.still_of_stuck (h : Mirrors sizes b s c) {g : Nat} {v : Visit}
    (inside : v.inside = true)
    (stuck : s.stepWorker v.thread (.wait g (.inside 0 v.stage)) = none) :
    v.stage.step c.barrier (c.settings v.thread) none = none := by
  have going : v.stage.isOver = false := by simpa [Visit.inside] using inside
  change Option.map _ (s.crew.operate v.thread (.inside 0 v.stage)) = none at stuck
  rw [Crew.operate_inside h.arena going, h.cancels] at stuck
  exact Option.map_eq_none_iff.mp (Option.map_eq_none_iff.mp stuck)

theorem Mirrors.worker_of_user (h : Mirrors sizes b s c)
    (user : i ∈ List.range sizes.parties.toNat) : ∃ w, s.workers[i]? = some w := by
  rw [List.mem_range, ← h.workers_size] at user
  exact ⟨_, Array.getElem?_eq_getElem user⟩

theorem Mirrors.still (h : Mirrors sizes b s c) (new : Pristine sizes.parties b)
    (rest : Schedule.AtRest Stress.step s) : c.Still := by
  intro v hv
  rw [Option.isNone_iff_eq_none]
  cases inside : v.inside with
  | false =>
    cases stage : v.stage with
    | finished r => rfl
    | _ => simp [Visit.inside, Wait.isOver, stage] at inside
  | true =>
    obtain ⟨w, hw⟩ := h.worker_of_user (h.inStep.only v hv)
    have stuck := stepWorker_of_stuck (rest _) hw
    cases h.stands _ _ hw with
    | away _ outside => cases inside.symm.trans (isOutside_iff.mp outside v hv rfl)
    | @inside g v' _ hv' own inside' =>
      obtain ⟨j, hj⟩ := List.mem_iff_getElem?.mp hv
      obtain ⟨k, hk⟩ := List.mem_iff_getElem?.mp hv'
      obtain rfl := (h.inStep.unasked.convoy new).register.alone hk hj own inside' inside
      obtain rfl := Option.some.inj (hk.symm.trans hj)
      exact h.still_of_stuck inside stuck

theorem Mirrors.done_of_rest (h : Mirrors sizes b s c) (new : Pristine sizes.parties b)
    (rest : Schedule.AtRest Stress.step s) : ∀ w ∈ s.workers, w = .finished (.ok ()) := by
  have free := h.group_free rest
  have still := h.still new rest
  -- somebody has been through all generations
  have trips : c.trips = sizes.generations.toNat := by
    obtain ⟨i, user, outside⟩ :=
      h.inStep.exists_outside new List.nodup_range List.length_range still
    obtain ⟨w, hw⟩ := h.worker_of_user user
    cases h.stands i w hw with
    | away away _ rounds =>
      obtain rfl := h.finished_of_stuck free hw away (stepWorker_of_stuck (rest _) hw)
      cases away
      rw [← h.inStep.rounds_of_isOutside user outside, rounds]
    | inside _ hv own inside => cases inside.symm.trans (isOutside_iff.mp outside _ hv own)
  intro w hw
  obtain ⟨i, hi⟩ := Array.mem_iff_getElem?.mp hw
  cases h.stands i w hi with
  | away away => exact h.finished_of_stuck free hi away (stepWorker_of_stuck (rest i) hi)
  | inside lt hv own inside rounds =>
    have all := h.inStep.rounds_of_still new still hv inside
    rw [own, rounds, trips] at all
    exact absurd all (Nat.ne_of_lt lt)

/-! ## Taking turns -/

/-- How far worker `i` has come. -/
def paceOf (s : Stress) (i : Nat) : Nat :=
  match s.workers[i]? with
  | some w => w.pace s.sizes.generations.toNat (s.crew.arena.barrier 0)
  | none => 0

/-- Worker `i` stands where its pace has nothing to do with the barrier. -/
def Resting (s : Stress) (i : Nat) : Prop :=
  ∀ w, s.workers[i]? = some w → ∀ b b' : Barrier,
    w.pace s.sizes.generations.toNat b' = w.pace s.sizes.generations.toNat b

theorem Mirrors.paceOf_eq (h : Mirrors sizes b s c) (hw : s.workers[i]? = some w) :
    s.paceOf i = w.pace sizes.generations.toNat c.barrier := by
  rw [paceOf, hw, h.sizes_eq, h.arena]
  rfl

theorem Mirrors.paceOf_le (h : Mirrors sizes b s c) (i : Nat) :
    s.paceOf i ≤ 32 * sizes.generations.toNat + 6 := by
  cases hw : s.workers[i]? with
  | none =>
    rw [paceOf, hw]
    exact Nat.zero_le _
  | some w =>
    rw [h.paceOf_eq hw]
    cases h.stands i w hw with
    | away away => exact away.pace_le c.barrier
    | @inside g v lt =>
      have le := v.stage.pace_le c.barrier
      simp only [pace, Operation.pace]
      omega

/-- A worker that is held up rests. -/
theorem Mirrors.resting_of_stuck (h : Mirrors sizes b s c) (stuck : s.step i = none) :
    Resting s i := by
  intro w hw b₁ b₂
  have stuck := stepWorker_of_stuck stuck hw
  cases h.stands i w hw with
  | away away =>
    rw [h.sizes_eq]
    exact away.pace_eq b₁ b₂
  | inside _ hv own inside =>
    subst own
    have still := h.still_of_stuck inside stuck
    simp only [pace, Operation.pace, Wait.pace_of_stuck _ still]

theorem paced (new : Pristine sizes.parties b) :
    Schedule.Paced Stress.step (fun s => ∃ c, Mirrors sizes b s c) Resting paceOf
      (32 * sizes.generations.toNat + 6) where
  kept := by
    rintro s t i ⟨c, h⟩ move
    exact h.step new move
  rises := by
    rintro s t i ⟨c, h⟩ move
    obtain ⟨w, w', u, d, hw, rfl, turn⟩ := h.step_cases new move
    have there : i < u.workers.size := by
      rw [turn.workers_eq]
      exact (Array.getElem?_eq_some_iff.mp hw).1
    have now : (u.workers.setIfInBounds i w')[i]? = some w' := by
      rw [Array.getElem?_setIfInBounds_self, if_pos there]
    rw [h.paceOf_eq hw, (h.put hw turn).paceOf_eq now]
    exact turn.rises
  bounded := by
    rintro s i ⟨c, h⟩
    exact h.paceOf_le i
  rests := by
    rintro s i ⟨c, h⟩ stuck
    exact h.resting_of_stuck stuck
  stays := by
    rintro s t i j ⟨c, h⟩ move other rests
    obtain ⟨w, w', u, d, hw, rfl, turn⟩ := h.step_cases new move
    have same : (u.workers.setIfInBounds i w')[j]? = s.workers[j]? := by
      rw [Array.getElem?_setIfInBounds_ne (Ne.symm other), turn.workers_eq]
    constructor
    · intro x hx
      rw [turn.sizes_eq]
      exact rests x (same ▸ hx)
    · simp only [paceOf, same, turn.sizes_eq]
      cases hx : s.workers[j]? with
      | none => rfl
      | some x => exact rests x hx _ _

theorem reaches_settled (s : Stress) : Schedule.Reaches Stress.step s s.settle :=
  Schedule.reaches_settle _ _ _ _ _

/-- Workers that take turns come to rest. -/
theorem Mirrors.atRest_settle (h : Mirrors sizes b s c) (new : Pristine sizes.parties b)
    (resting : ∀ i, Resting s i) : Schedule.AtRest Stress.step s.settle := by
  obtain ⟨d, settled⟩ := Mirrors.of_reaches new h (reaches_settled s)
  have long : 32 * sizes.generations.toNat + 6 ≤ Stress.turn s.sizes := by
    rw [Stress.turn, h.sizes_eq]
    omega
  have enough : (List.range s.workers.size).length * (32 * sizes.generations.toNat + 6) <
      ((List.range s.workers.size).map s.paceOf).sum +
        Stress.turn s.sizes * (s.workers.size + 1) := by
    have le := Nat.mul_le_mul_left s.workers.size long
    have more : Stress.turn s.sizes * (s.workers.size + 1) =
        s.workers.size * Stress.turn s.sizes + Stress.turn s.sizes := by
      rw [Nat.mul_add_one, Nat.mul_comm]
    rw [List.length_range]
    omega
  intro i
  by_cases there : i < s.workers.size
  · exact (paced new).settle long _ ⟨c, h⟩ resting enough i (List.mem_range.mpr there)
  · have outside : s.settle.workers[i]? = none := by
      apply Array.getElem?_eq_none
      rw [settled.workers_size, ← h.workers_size]
      exact Nat.le_of_not_lt there
    rw [Stress.step, outside]
    rfl

theorem resting_start (sizes : StressSizes) (crew : Crew) (i : Nat) :
    Resting (start sizes crew) i := by
  intro w hw _ _
  have first : w ∈ Array.replicate sizes.parties.toNat (Worker.enlist CancelGroup.enlist) :=
    Array.mem_of_getElem? hw
  rw [(Array.mem_replicate.mp first).2]
  rfl

end

end Run.Stress

end Rendezvous
