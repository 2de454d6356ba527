import Rendezvous.Proofs.Run.Standstill
import Rendezvous.Proofs.Run.Verdict

/-!
# A stress run raises no false alarm

Once all workers of a stress run have finished, the books of the run are those of its crowd, in
which each generation has ended and has got its one last one. So the verdict is a good one
(`Mirrors.concluded`). And all workers do finish, if they take turns (`Mirrors.atRest_settle`) and
where none of them can move in any other order (`Mirrors.done_of_rest`).

## Main statements

* `no_false_alarm`: whatever the workers do, the run ends well and finds nothing to complain about.
-/

set_option autoImplicit false

namespace Rendezvous

open Barrier Handle

namespace Run.Stress

open Crowd Worker

/-- The worker has ended, well or not. -/
def Worker.isFinished : Worker → Bool
  | .finished _ => true
  | _ => false

theorem Worker.eq_finished {w : Worker} (h : w.isFinished = true) : ∃ r, w = .finished r := by
  cases w with
  | finished r => exact ⟨r, rfl⟩
  | _ => cases h

/-- All workers have finished. -/
def Over (s : Stress) : Prop := ∀ w ∈ s.workers, w.isFinished = true

instance (s : Stress) : Decidable s.Over :=
  inferInstanceAs (Decidable (∀ w ∈ s.workers, w.isFinished = true))

section

variable {sizes : StressSizes} {b : Barrier} {s : Stress} {c : Crowd} {i : Nat} {w : Worker}

/-! ## When all workers have finished -/

theorem Mirrors.over_of_rest (h : Mirrors sizes b s c) (new : Pristine sizes.parties b)
    (rest : Schedule.AtRest Stress.step s) : s.Over := by
  intro w hw
  rw [h.done_of_rest new rest w hw]
  rfl

/-- Nobody has failed. -/
theorem Mirrors.done_of_over (h : Mirrors sizes b s c) (ended : s.Over) :
    ∀ w ∈ s.workers, w = .finished (.ok ()) := by
  intro w hw
  obtain ⟨r, rfl⟩ := Worker.eq_finished (ended w hw)
  obtain ⟨i, hi⟩ := Array.mem_iff_getElem?.mp hw
  cases h.stands i _ hi with
  | away away =>
    cases away
    rfl

theorem Mirrors.outside_of_over (h : Mirrors sizes b s c) (ended : s.Over)
    (user : i ∈ List.range sizes.parties.toNat) :
    c.isOutside i = true ∧ c.trips = sizes.generations.toNat := by
  obtain ⟨w, hw⟩ := h.worker_of_user user
  obtain rfl := h.done_of_over ended w (Array.mem_of_getElem? hw)
  cases h.stands i _ hw with
  | away away outside rounds =>
    cases away
    rw [← h.inStep.rounds_of_isOutside user outside, rounds]
    exact ⟨outside, rfl⟩

theorem Over.countP (ended : s.Over) {p : Worker → Bool} (not : ∀ r, p (.finished r) = false) :
    s.workers.toList.countP p = 0 := by
  apply List.countP_eq_zero.mpr
  intro w hw
  obtain ⟨r, rfl⟩ := Worker.eq_finished (ended w (Array.mem_toList_iff.mp hw))
  rw [not]
  exact Bool.false_ne_true

/-- The barrier has been left by everybody. -/
theorem Mirrors.left_of_over (h : Mirrors sizes b s c) (ended : s.Over) :
    ∀ v ∈ c.visits, v.inside = false := by
  intro v hv
  obtain ⟨outside, -⟩ := h.outside_of_over ended (h.inStep.only v hv)
  exact isOutside_iff.mp outside v hv rfl

/-- Each generation has been noted once. -/
theorem Mirrors.count_serials (h : Mirrors sizes b s c) (new : Pristine sizes.parties b)
    (ended : s.Over) {n : Nat} (lt : n < sizes.generations.toNat) : s.serials.count n = 1 := by
  obtain ⟨-, trips⟩ := h.outside_of_over ended (List.mem_range.mpr new.parties_pos)
  have noted := h.serials n
  rw [ended.countP fun _ => rfl, Nat.add_zero] at noted
  rw [noted, ← (Led.of_reaches new h.inStep.unasked.reached).each n (trips ▸ lt)]
  apply List.countP_congr
  intro v hv
  simp [Visit.isLastOver, h.left_of_over ended v hv]

theorem Mirrors.destroyed (h : Mirrors sizes b s c) (new : Pristine sizes.parties b)
    (ended : s.Over) : (s.crew.alone .destroy).2 = .ok .done := by
  have nobody : c.inside = 0 := by
    apply List.countP_eq_zero.mpr
    intro v hv
    rw [h.left_of_over ended v hv]
    exact Bool.false_ne_true
  have arena := h.arena
  rw [ended.countP fun _ => rfl] at arena
  exact Crew.alone_destroy arena ((Guarded.of_reaches new h.inStep.unasked.reached).free nobody)

theorem Mirrors.regular (h : Mirrors sizes b s c) (new : Pristine sizes.parties b)
    (ended : s.Over) : s.serialCounts = Array.replicate sizes.generations.toNat 1 := by
  rw [← h.sizes_eq]
  apply serialCounts_of_each
  intro n lt
  rw [h.sizes_eq] at lt
  exact h.count_serials new ended lt

theorem Mirrors.concluded (h : Mirrors sizes b s c) (new : Pristine sizes.parties b)
    (ended : s.Over) : s.conclude = .ok ⟨sizes, sizes.generations.toNat, 0⟩ := by
  have regular := h.regular new ended
  rw [← h.sizes_eq] at regular ⊢
  exact conclude_of_regular (h.done_of_over ended) (h.destroyed new ended) regular h.early

/-! ## The counters -/

/-- Whoever checks works on one of the generations that were asked for. -/
theorem Mirrors.required_le (h : Mirrors sizes b s c) {g : Nat}
    (hw : s.workers[i]? = some (.check g)) :
    s.required g ≤ sizes.parties.toNat * sizes.generations.toNat := by
  have le := h.entered_le hw
  rw [required, h.sizes_eq, Nat.mul_comm]
  exact Nat.mul_le_mul_left _ le

theorem product_lt {sizes : StressSizes} (few : sizes.parties ≤ Semaphore.maxValue)
    (short : sizes.generations.toNat ≤ generationLimit) :
    sizes.parties.toNat * sizes.generations.toNat < 2 ^ 64 := by
  have few : sizes.parties.toNat ≤ 2147483647 := few
  calc sizes.parties.toNat * sizes.generations.toNat
      ≤ 2147483647 * 16777216 := Nat.mul_le_mul few short
    _ < 2 ^ 64 := by decide

end

/-! ## The whole run -/

/-- All workers at their beginning, around the handle that a run builds for them. -/
def begun (supply : Supply) (sizes : StressSizes) : Stress :=
  start sizes ((Crew.around supply {}).alone (.init sizes.parties false)).1

theorem run_eq {supply : Supply} {sizes : StressSizes} (valid : validate sizes = .ok ())
    (built : ((Crew.around supply {}).alone (.init sizes.parties false)).2 = .ok .done) :
    run supply sizes = (begun supply sizes).settle.conclude := by
  rw [run, runWith_of_valid valid, build, begun]
  generalize (Crew.around supply {}).alone (.init sizes.parties false) = made at built ⊢
  obtain ⟨crew, answer⟩ := made
  subst built
  rfl

theorem validate_of_range {sizes : StressSizes} (pos : sizes.parties ≠ 0)
    (often : 1 ≤ sizes.generations) (short : sizes.generations.toNat ≤ generationLimit) :
    validate sizes = .ok () := by
  have generations : ¬ (sizes.generations = 0 ∨ generationLimit < sizes.generations.toNat) := by
    rintro (zero | long)
    · rw [zero] at often
      exact absurd often (by decide)
    · exact Nat.not_lt.mpr short long
  rw [validate, if_neg pos, if_neg generations]

/-- A run begins with a crowd around a barrier that has just been built. -/
theorem Mirrors.begin {supply : Supply} {sizes : StressSizes} (pos : sizes.parties ≠ 0)
    (few : ¬ Semaphore.maxValue < sizes.parties) (memory : supply.memory = true)
    (listening : supply.rule = .whileBlocked) :
    ∃ b, Pristine sizes.parties b ∧ Mirrors sizes b (begun supply sizes) (around b fresh) := by
  refine ⟨_, (delivered_fresh pos few memory).pristine listening, ?_⟩
  rw [begun, Crew.alone_init pos few memory]
  exact Mirrors.start sizes _ supply

/-- A stress run over semaphores that listen while they block never blames a barrier that has done
nothing wrong. It ends well. And so it does whatever its workers do, in whatever order: where none
of them can move, all have finished, and when all have finished, each generation has been noted
once, nobody has been found early, and the barrier can be destroyed. Until then no counter has left
its word. -/
theorem no_false_alarm (supply : Supply) (sizes : StressSizes) (memory : supply.memory = true)
    (listening : supply.rule = .whileBlocked) (pos : 1 ≤ sizes.parties)
    (few : sizes.parties ≤ Semaphore.maxValue) (often : 1 ≤ sizes.generations)
    (short : sizes.generations.toNat ≤ generationLimit) :
    run supply sizes = (begun supply sizes).settle.conclude ∧
    run supply sizes = .ok ⟨sizes, sizes.generations.toNat, 0⟩ ∧
    ∀ s, Schedule.Reaches Stress.step (begun supply sizes) s →
      (Schedule.AtRest Stress.step s → s.Over) ∧
      (s.Over → s.serialCounts = Array.replicate sizes.generations.toNat 1 ∧ s.early = 0 ∧
        (s.crew.alone .destroy).2 = .ok .done ∧
        s.conclude = .ok ⟨sizes, sizes.generations.toNat, 0⟩) ∧
      s.arrivals < 2 ^ 64 ∧
      ∀ i g : Nat, s.workers[i]? = some (.check g) → s.required g < 2 ^ 64 := by
  have nonzero : sizes.parties ≠ 0 := by
    intro zero
    rw [zero] at pos
    exact absurd pos (by decide)
  have fits : ¬ Semaphore.maxValue < sizes.parties := UInt32.not_lt.mpr few
  have product := product_lt few short
  obtain ⟨b, new, beginning⟩ := Mirrors.begin nonzero fits memory listening
  have course : run supply sizes = (begun supply sizes).settle.conclude := by
    apply run_eq (validate_of_range nonzero often short)
    rw [Crew.alone_init nonzero fits memory]
  refine ⟨course, ?_, ?_⟩
  · obtain ⟨c, h⟩ := Mirrors.of_reaches new beginning (reaches_settled _)
    have rest := beginning.atRest_settle new (resting_start _ _)
    rw [course]
    exact h.concluded new (h.over_of_rest new rest)
  · intro s reached
    obtain ⟨c, h⟩ := Mirrors.of_reaches new beginning reached
    refine ⟨h.over_of_rest new, ?_, Nat.lt_of_le_of_lt h.arrivals_le product, ?_⟩
    · intro ended
      exact ⟨h.regular new ended, h.early, h.destroyed new ended, h.concluded new ended⟩
    · intro i g hw
      exact Nat.lt_of_le_of_lt (h.required_le hw) product

/-- Two workers meet three times. Whoever finds the other asleep goes on into the next generation
and is asleep there when the other one comes, so that both gates are used, and the first of them
again. -/
def threeMeetings : List Nat :=
  List.replicate 15 0 ++ List.replicate 28 1 ++ List.replicate 31 0 ++ List.replicate 22 1 ++
    List.replicate 9 0

theorem no_false_alarm_threeMeetings :
    run {} ⟨2, 3⟩ = .ok ⟨⟨2, 3⟩, 3, 0⟩ ∧
    ∃ s, Schedule.Reaches Stress.step (begun {} ⟨2, 3⟩) s ∧ s.serialCounts = #[1, 1, 1] ∧
      s.early = 0 ∧ s.conclude = .ok ⟨⟨2, 3⟩, 3, 0⟩ := by
  have reached := Schedule.reaches_get
    (show (Schedule.run Stress.step (begun {} ⟨2, 3⟩) threeMeetings).isSome by decide +kernel)
  have ended : ((Schedule.run Stress.step (begun {} ⟨2, 3⟩) threeMeetings).get
      (by decide +kernel)).Over := by
    decide +kernel
  obtain ⟨-, ended_well, always⟩ :=
    no_false_alarm {} ⟨2, 3⟩ rfl rfl (by decide) (by decide) (by decide) (by decide)
  obtain ⟨-, books, -⟩ := always _ reached
  obtain ⟨regular, early, -, concluded⟩ := books ended
  exact ⟨ended_well, _, reached, regular, early, concluded⟩

end Run.Stress

end Rendezvous
