import Rendezvous.Proofs.Run.Round
import Rendezvous.Proofs.Run.Verdict
import Rendezvous.Proofs.Traffic.FirstUse

/-!
# Every round of a race verifies

When all workers of a round have finished, the one generation has ended and has had its one serial
outcome (`InStep.passed`), and the handle is a slot with the barrier in it, at which nobody is left
(`Mirrors.arena_of_over`). So the count of generations can be read, the barrier can be destroyed, and
a wait is refused after that: the round is in order (`Mirrors.verified`).

## Main statements

* `rounds_verify`: whatever the workers do, every round of a race ends well.
-/

set_option autoImplicit false

namespace Rendezvous

open Barrier Handle

theorem Arena.eq_shelter {a : Arena} (handles : a.handles.size = 1) (barriers : a.barriers.size = 1)
    (live : a.slot 0 = .live 0) (idle : a.holds 0 = {}) (free : a.guarded = false) :
    a = Run.shelter (a.barrier 0) 0 := by
  obtain ⟨handles', barriers', guarded⟩ := a
  obtain ⟨⟨slot, holds⟩, rfl⟩ := Array.size_eq_one_iff.mp handles
  obtain ⟨b, rfl⟩ := Array.size_eq_one_iff.mp barriers
  obtain rfl : slot = .live 0 := live
  obtain rfl : holds = {} := idle
  obtain rfl : guarded = false := free
  rfl

/-- Nobody is left at the slot when all calls are over. -/
theorem Traffic.InUse.eq_shelter {supply : Supply} {n : UInt32} {b : Barrier} {s : Traffic}
    (u : InUse supply n (.ok b) s) (ended : ∀ v ∈ s.jobs, v.stage.isOver = true)
    (live : s.arena.slot 0 = .live 0) : s.arena = Run.shelter (s.arena.barrier 0) 0 := by
  have idle := u.custody.around ended s.settings
  have sharers : 0 = (s.arena.holds 0).sharers := idle.holds 0 .shared
  have reserved : 0 = (s.arena.holds 0).reserved.toNat := idle.holds 0 .reserved
  have exclusive : 0 = (s.arena.holds 0).exclusive.toNat := idle.holds 0 .exclusive
  have guarded : 0 = s.arena.guarded.toNat := idle.guarded
  have barriers : s.arena.barriers.size = 1 := by
    cases u.place with
    | live _ one => exact one
    | unbuilt slot | built slot => cases slot.symm.trans live
  refine Arena.eq_shelter u.single barriers live ?_ (Bool.toNat_eq_zero.mp guarded.symm)
  calc s.arena.holds 0
      = ⟨(s.arena.holds 0).sharers, (s.arena.holds 0).reserved, (s.arena.holds 0).exclusive⟩ := rfl
    _ = {} := by
      rw [← sharers, Bool.toNat_eq_zero.mp reserved.symm, Bool.toNat_eq_zero.mp exclusive.symm]

namespace Run.Race

open Crowd Worker

/-- What there is to find when a round is over. -/
structure Verified (r : Race) : Prop where
  done : ∀ w ∈ r.workers, w = .finished (.ok ())
  serials : r.serials = 1
  status : (r.crew.arena.slot Crew.theHandle).status = .live
  generation : (r.crew.alone (.ask (.gauge .generation))).2 = .ok (.number 1)
  destroyed : (r.crew.alone .destroy).2 = .ok .done
  /-- After that the handle is empty, and a wait is refused. -/
  refused : ((r.crew.alone .destroy).1.alone .wait).2 =
    .error (.barrier (.invalidArgument .notInitialized))
  empty : ((r.crew.alone .destroy).1.alone .wait).1.arena.slot Crew.theHandle = .empty

variable {supply : Supply} {threads : UInt32} {b : Barrier} {r : Race} {s : Traffic} {c : Crowd}
  {i : Nat} {w : Worker}

/-! ## The verdict -/

theorem Verified.verify (h : Verified r) (round : Nat) : r.verify round = .ok () := by
  obtain ⟨-, serials, status, generation, destroyed, refused, empty⟩ := h
  obtain ⟨k, live⟩ : ∃ k, r.crew.arena.slot Crew.theHandle = .live k := by
    cases slot : r.crew.arena.slot Crew.theHandle with
    | live k => exact ⟨k, rfl⟩
    | _ => rw [slot] at status; cases status
  simp only [Race.verify, serials, live, generation]
  generalize r.crew.alone .destroy = ended at destroyed refused empty ⊢
  obtain ⟨crew, answer⟩ := ended
  obtain rfl : answer = .ok .done := destroyed
  simp [Race.refused, refused, empty]

theorem Verified.concluded (h : Verified r) (round : Nat) : r.conclude round = .ok () := by
  have ok : rootCause (r.workers.toList.map Worker.result) = .ok () := by
    apply rootCause_of_ok
    intro result hr
    obtain ⟨w, hw, rfl⟩ := List.mem_map.mp hr
    rw [h.done w (Array.mem_toList_iff.mp hw)]
    rfl
  rw [conclude, ok]
  exact h.verify round

/-! ## When all workers have finished -/

theorem Mirrors.finished_of_over (h : Mirrors supply threads b r s c) (ended : r.Over)
    (hw : r.workers[i]? = some w) : w = .finished (.ok ()) ∧ ∃ v outcome, s.jobs[i]? = some v ∧
      v.stage = .finished (.ok (.outcome outcome)) ∧ c.isOutside i = true ∧ c.rounds i = 1 := by
  obtain ⟨v, hv, -, -, place, stands⟩ := h.calls i w hw
  have finished := ended w (Array.mem_of_getElem? hw)
  cases w with
  | finished result =>
    obtain ⟨rfl, outcome, stage⟩ := place.ok_of_finished
    rw [stage] at stands
    cases stands with
    | returned _ outside rounds => exact ⟨rfl, v, outcome, hv, stage, outside, rounds⟩
  | _ => cases finished

theorem Mirrors.passed (h : Mirrors supply threads b r s c) (new : Pristine threads b)
    (ended : r.Over) : Passed c := by
  refine h.inStep.passed new List.length_range fun i user => ?_
  obtain ⟨w, hw⟩ := h.worker_of_user user
  obtain ⟨-, _, _, -, -, outside, rounds⟩ := h.finished_of_over ended hw
  exact ⟨outside, rounds⟩

theorem Mirrors.arena_of_over (h : Mirrors supply threads b r s c) (new : Pristine threads b)
    (ended : r.Over) : r.crew.arena = shelter c.barrier 0 := by
  have returned : ∀ v ∈ s.jobs, v.stage.isOver = true := by
    intro v hv
    obtain ⟨i, hi⟩ := List.mem_iff_getElem?.mp hv
    have user : i ∈ List.range threads.toNat := by
      rw [List.mem_range, ← h.length]
      exact (List.getElem?_eq_some_iff.mp hi).1
    obtain ⟨w, hw⟩ := h.worker_of_user user
    obtain ⟨-, v', outcome, hv', stage, -⟩ := h.finished_of_over ended hw
    obtain rfl := Option.some.inj (hi.symm.trans hv')
    rw [stage]
    rfl
  -- a barrier that has ended a generation is not one that is still to be built
  have live : s.arena.slot 0 = .live 0 := by
    refine h.use.place.slot.resolve_left fun unbuilt => ?_
    have same := h.barrier.trans (Arena.sight_of_unbuilt unbuilt)
    have one := (h.passed new ended).generation
    rw [same, new.generation] at one
    cases one
  rw [h.arena, h.barrier, Arena.sight_of_live live]
  exact h.use.eq_shelter returned live

theorem Mirrors.verified (h : Mirrors supply threads b r s c) (new : Pristine threads b)
    (ended : r.Over) : Verified r := by
  have passed := h.passed new ended
  have arena := h.arena_of_over new ended
  have done : ∀ w ∈ r.workers, w = .finished (.ok ()) := by
    intro w hw
    obtain ⟨i, hi⟩ := Array.mem_iff_getElem?.mp hw
    exact (h.finished_of_over ended hi).1
  have noted : r.workers.toList.countP owesMark = 0 := by
    refine List.countP_eq_zero.mpr fun w hw => ?_
    rw [done w (Array.mem_toList_iff.mp hw)]
    exact Bool.false_ne_true
  have serials := h.serials
  rw [noted, passed.serials] at serials
  obtain ⟨refused, empty⟩ := Crew.alone_wait_destroyed arena passed.free
  refine ⟨done, serials, by rw [arena]; rfl, ?_, Crew.alone_destroy arena passed.free, refused, empty⟩
  rw [Crew.alone_generation arena passed.free, passed.generation]
  rfl

/-! ## The whole race -/

theorem Mirrors.begin (memory : supply.memory = true) (listening : supply.rule = .whileBlocked)
    (pos : 1 ≤ threads) (few : threads ≤ Semaphore.maxValue) :
    ∃ b, Pristine threads b ∧ Mirrors supply threads b (Race.start supply threads)
      (called threads threads.toNat) (around b Stress.fresh) := by
  have nonzero : threads ≠ 0 := by
    rintro rfl
    exact absurd pos (by decide)
  have fits : ¬ Semaphore.maxValue < threads := UInt32.not_lt.mpr few
  refine ⟨_, (delivered_fresh nonzero fits memory).pristine listening, Mirrors.start ?_⟩
  rw [Construction.verdict, if_neg nonzero, if_neg fits, if_pos memory]

theorem playRounds_of_verified (verified : Verified (start supply threads).settle)
    (first left : Nat) :
    playRounds (fun round => (start supply threads).settle.conclude round) first left = .ok () := by
  induction left generalizing first with
  | zero => rfl
  | succ left ih =>
    rw [playRounds, verified.concluded]
    exact ih (first + 1)

/-- Every round of a race over semaphores that listen while they block verifies, with any number of
threads that a barrier can have. Whatever its workers do, in whatever order: where the sign has been
given and none of them can move, all have finished; and when all have finished, none has failed and
one has been noted as the serial one, the handle has come to own a barrier that has completed one
generation and can be destroyed, and the next wait is refused and leaves the handle empty. The race
plays as many rounds as it is asked for. -/
theorem rounds_verify (supply : Supply) (threads : UInt32) (memory : supply.memory = true)
    (listening : supply.rule = .whileBlocked) (pos : 1 ≤ threads)
    (few : threads ≤ Semaphore.maxValue) :
    (∀ r, Schedule.Reaches Race.step (start supply threads) r →
      (r.go = true → r.Jammed → r.Over) ∧ (Schedule.AtRest Race.step r → r.Over) ∧
      (r.Over → r.Verified ∧ ∀ round, r.conclude round = .ok ())) ∧
    Schedule.AtRest Race.step (start supply threads).settle ∧
    ∀ rounds : UInt64, 1 ≤ rounds → run supply ⟨threads, rounds⟩ = .ok ⟨threads, rounds⟩ := by
  obtain ⟨b, new, beginning⟩ := Mirrors.begin memory listening pos few
  have rest := beginning.atRest_settle new (resting_start supply threads)
  have outcome (r : Race) (reached : Schedule.Reaches Race.step (start supply threads) r) :
      (r.go = true → r.Jammed → r.Over) ∧ (Schedule.AtRest Race.step r → r.Over) ∧
        (r.Over → r.Verified ∧ ∀ round, r.conclude round = .ok ()) := by
    obtain ⟨s, c, h⟩ := Mirrors.of_reaches new beginning reached
    refine ⟨h.over_of_jammed new, h.over_of_rest new, fun ended => ?_⟩
    have verified := h.verified new ended
    exact ⟨verified, verified.concluded⟩
  refine ⟨outcome, rest, fun rounds often => ?_⟩
  obtain ⟨-, ended, verified⟩ := outcome _ (reaches_settled _)
  have valid : validate ⟨threads, rounds⟩ = .ok () := by
    have nonzero : threads ≠ 0 := by
      rintro rfl
      exact absurd pos (by decide)
    have rounds_ne : rounds ≠ 0 := by
      rintro rfl
      exact absurd often (by decide)
    rw [validate, if_neg nonzero, if_neg rounds_ne]
  rw [run, runWith, valid]
  show (playRounds (fun round => (start supply threads).settle.conclude round) 0
    rounds.toNat).bind _ = _
  rw [playRounds_of_verified (verified (ended rest)).1]
  rfl

/-- Of two workers that find the handle unbuilt the first builds the barrier and goes to sleep in it
before the second, which wanted to build it too, comes back to look at the slot. -/
def lateLoser : List Nat :=
  List.replicate 6 0 ++ List.replicate 6 1 ++ [2] ++ List.replicate 4 0 ++ List.replicate 4 1 ++
    List.replicate 21 0 ++ List.replicate 16 1 ++ List.replicate 7 0

theorem rounds_verify_lateLoser :
    run {} ⟨2, 3⟩ = .ok ⟨2, 3⟩ ∧
    ∃ r, Schedule.Reaches Race.step (start {} 2) r ∧ r.Verified ∧ r.conclude 0 = .ok () := by
  have reached := Schedule.reaches_get
    (show (Schedule.run Race.step (start {} 2) lateLoser).isSome by decide +kernel)
  have ended : ((Schedule.run Race.step (start {} 2) lateLoser).get (by decide +kernel)).Over := by
    decide +kernel
  obtain ⟨always, -, plays⟩ := rounds_verify {} 2 rfl rfl (by decide) (by decide)
  obtain ⟨verified, concluded⟩ := (always _ reached).2.2 ended
  exact ⟨plays 3 (by decide), _, reached, verified, concluded 0⟩

end Run.Race

end Rendezvous
