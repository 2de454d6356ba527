import Mathlib.Algebra.Group.Action.Defs
import Mathlib.Algebra.Order.BigOperators.Group.List
import Mathlib.Algebra.Order.Ring.Nat
import Rendezvous.Proofs.Counting
import Rendezvous.Proofs.Crowd.Serial
import Rendezvous.Proofs.Run.Worker

/-!
# A stress run is a crowd that keeps step

The workers of a stress run are the users of its barrier, and as many as make up a generation. What
they do at the barrier is a run of a crowd, which is kept beside the stress run to speak of it
(`Mirrors`). The other books of the run are then read off the stages of the workers: how often the
slot is shared, whether the group is locked, how many arrivals have been counted, which generations
have been noted.

The one step that looks at what others have done is the check. A worker that checks in generation
`g` is away with `g + 1` waits over, so that as many generations have ended
(`InStep.rounds_of_isOutside`), so that every worker has been counted in as often
(`Mirrors.trips_le_entered`), and the count is never short.
-/

set_option autoImplicit false

namespace Rendezvous

open Barrier Handle

namespace Barrier

/-- The last one of generation `n`, back from its wait. -/
def Visit.isLastOver (n : Nat) (v : Visit) : Bool := v.arrival = .last n && !v.inside

/-- The wait is over, and was that of the last one. -/
def Wait.isSerial : Wait → Bool
  | finished (.ok .serial) => true
  | _ => false

end Barrier

namespace Crowd.InStep

variable {users : List Nat} {parties : UInt32} {b : Barrier} {settings : Nat → Cancellation}
  {s : Crowd}

/-- Whoever is inside is in the open generation or in the one before. -/
theorem trips_le (h : InStep users parties b settings s) (new : Pristine parties b) {v : Visit}
    (hv : v ∈ s.visits) (inside : v.inside = true) : s.trips ≤ s.rounds v.thread + 1 := by
  obtain ⟨i, hi⟩ := List.mem_iff_getElem?.mp hv
  by_cases stands : ∃ g, v.standsIn g = true
  · obtain ⟨g, stands⟩ := stands
    rw [h.standing v hv inside g stands]
    exact (h.unasked.convoy new).near v hv inside g stands
  · have free : ∀ g, v.standsIn g = false := fun g =>
      Bool.eq_false_iff.mpr fun here => stands ⟨g, here⟩
    rw [h.rounds_of_due new hi inside free]
    exact Nat.le_succ _

/-- With its turn a thread is let through, or it stays inside. -/
theorem after_cases (h : InStep users parties b settings s) (new : Pristine parties b) {k : Nat}
    {v : Visit} {turn : Wait.Turn} (hv : s.visits[k]? = some v)
    (hturn : v.stage.step s.barrier (s.settings v.thread) none = some turn) :
    (∃ outcome, turn.stage = .finished (.ok outcome) ∧
      (s.after k v turn).isOutside v.thread = true ∧
      (s.after k v turn).rounds v.thread = s.rounds v.thread + 1) ∨
    ((v.enter s.trips turn.stage).inside = true ∧
      (s.after k v turn).rounds v.thread = s.rounds v.thread) := by
  have inside := inside_of_step hturn
  cases gone : turn.stage.isOver with
  | true =>
    have left : (v.enter s.trips turn.stage).inside = false := by
      rw [inside_enter, gone]
      rfl
    obtain ⟨outcome, ok⟩ := (h.unasked.after hv hturn).ok_of_over new (enter_mem_after hv turn) left
    refine .inl ⟨outcome, ok, (h.unasked.convoy new).register.isOutside_after hv inside gone, ?_⟩
    rw [rounds_after hv inside, gone]
    simp
  | false =>
    have going : (v.enter s.trips turn.stage).inside = true := by
      rw [inside_enter, gone]
      rfl
    refine .inr ⟨going, ?_⟩
    rw [rounds_after hv inside, gone, Bool.and_false]
    rfl

/-- Whoever comes back as the serial one does so as the last one of the generation that it has
been through as many waits before as its number tells. -/
theorem isLastOver_enter (h : InStep users parties b settings s) (new : Pristine parties b) {k : Nat}
    {v : Visit} {turn : Wait.Turn} (hv : s.visits[k]? = some v)
    (hturn : v.stage.step s.barrier (s.settings v.thread) none = some turn) (n : Nat) :
    (v.enter s.trips turn.stage).isLastOver n =
      (turn.stage.isSerial && decide (s.rounds v.thread = n)) := by
  have inside := inside_of_step hturn
  have member := List.mem_of_getElem? hv
  have later := h.unasked.after hv hturn
  have there := enter_mem_after hv turn
  cases stage : turn.stage with
  | finished r =>
    have gone : (v.enter s.trips turn.stage).inside = false := by
      simp [Visit.inside, Visit.enter, stage, Wait.isOver]
    obtain ⟨outcome, ok⟩ := later.ok_of_over new there gone
    have agrees := (later.convoy new).register.agrees _ there
    rw [ok] at agrees
    obtain rfl : r = .ok outcome := by
      have ok : turn.stage = .finished (.ok outcome) := ok
      rw [stage] at ok
      cases ok
      rfl
    rw [stage] at agrees gone
    have kept : (v.enter s.trips (.finished (.ok outcome))).arrival = v.arrival := rfl
    rw [kept] at agrees
    cases outcome with
    | serial =>
      obtain ⟨m, last⟩ := agrees
      have own : s.rounds v.thread = m :=
        h.standing v member inside m (Visit.standsIn_iff.mpr (.inr last))
      simp [Wait.isSerial, Visit.isLastOver, gone, kept, last, own]
    | released =>
      obtain ⟨m, counted⟩ := agrees
      simp [Wait.isSerial, Visit.isLastOver, kept, counted]
  | _ => simp [Wait.isSerial, Visit.isLastOver, Visit.enter, Visit.inside, Wait.isOver]

end Crowd.InStep

namespace Run.Stress

open Crowd Worker

/-- The settings of fresh threads. -/
def fresh : Nat → Cancellation := fun _ => {}

/-- The crowd does at the barrier what the workers of the run do, and the books of the run are what
the stages of its workers say. -/
structure Mirrors (sizes : StressSizes) (b : Barrier) (s : Stress) (c : Crowd) : Prop where
  sizes_eq : s.sizes = sizes
  workers_size : s.workers.size = sizes.parties.toNat
  inStep : InStep (List.range sizes.parties.toNat) sizes.parties b fresh c
  stands : ∀ i w, s.workers[i]? = some w → Stands sizes.generations.toNat c i w
  arena : s.crew.arena = shelter c.barrier (s.workers.toList.countP shares)
  cancels : ∀ i, s.crew.cancels.getD i {} = c.settings i
  cancels_size : s.crew.cancels.size = sizes.parties.toNat
  calm : s.crew.group.aborted = false
  guarded : s.workers.toList.countP confers = s.crew.group.locked.toNat
  arrivals : s.arrivals = (s.workers.toList.map (entered sizes.generations.toNat)).sum
  serials : ∀ n, s.serials.count n + s.workers.toList.countP (owesMark n) =
    c.visits.countP (Visit.isLastOver n)
  early : s.early = 0

/-- What a step of worker `i` from `w` to `w'` does, with `t` the run before the worker's new stage
is put down. -/
structure Turn (sizes : StressSizes) (b : Barrier) (s : Stress) (c : Crowd) (i : Nat) (w : Worker)
    (t : Stress) (d : Crowd) (w' : Worker) : Prop where
  sizes_eq : t.sizes = s.sizes
  workers_eq : t.workers = s.workers
  inStep : InStep (List.range sizes.parties.toNat) sizes.parties b fresh d
  stands : Stands sizes.generations.toNat d i w'
  others : ∀ j x, j ≠ i → Stands sizes.generations.toNat c j x →
    Stands sizes.generations.toNat d j x
  arena : ∀ n, s.crew.arena = shelter c.barrier (n + (shares w).toNat) →
    t.crew.arena = shelter d.barrier (n + (shares w').toNat)
  cancels : ∀ j, t.crew.cancels.getD j {} = d.settings j
  cancels_size : t.crew.cancels.size = s.crew.cancels.size
  calm : t.crew.group.aborted = false
  guarded : t.crew.group.locked.toNat + (confers w).toNat =
    s.crew.group.locked.toNat + (confers w').toNat
  arrivals : t.arrivals + entered sizes.generations.toNat w =
    s.arrivals + entered sizes.generations.toNat w'
  serials : ∀ n, t.serials.count n + (owesMark n w').toNat + c.visits.countP (Visit.isLastOver n) =
    s.serials.count n + (owesMark n w).toNat + d.visits.countP (Visit.isLastOver n)
  early : t.early = 0
  rises : w.pace sizes.generations.toNat c.barrier < w'.pace sizes.generations.toNat d.barrier

section

variable {sizes : StressSizes} {b : Barrier} {s t : Stress} {c d : Crowd} {i : Nat} {w w' : Worker}

/-- Every worker is a user of the barrier. -/
theorem Mirrors.user (h : Mirrors sizes b s c) (hw : s.workers[i]? = some w) :
    i ∈ List.range sizes.parties.toNat := by
  rw [List.mem_range, ← h.workers_size]
  exact (Array.getElem?_eq_some_iff.mp hw).1

/-- Every worker has settings. -/
theorem Mirrors.low (h : Mirrors sizes b s c) (hw : s.workers[i]? = some w) :
    i < s.crew.cancels.size := by
  rw [h.cancels_size]
  exact List.mem_range.mp (h.user hw)

/-- How often the slot is shared besides by this worker. -/
theorem Mirrors.shelter_of (h : Mirrors sizes b s c) (hw : s.workers[i]? = some w) :
    ∃ n, s.workers.toList.countP shares = n + (shares w).toNat ∧
      s.crew.arena = shelter c.barrier (n + (shares w).toNat) := by
  have one : (shares w).toNat ≤ s.workers.toList.countP shares := by
    cases shared : shares w with
    | false => exact Nat.zero_le _
    | true =>
      have there : w ∈ s.workers.toList := by simpa using Array.mem_of_getElem? hw
      exact List.countP_pos_iff.mpr ⟨w, there, shared⟩
  obtain ⟨n, split⟩ := Nat.exists_eq_add_of_le' one
  refine ⟨n, split, ?_⟩
  rw [← split]
  exact h.arena

theorem Mirrors.put (h : Mirrors sizes b s c) (hw : s.workers[i]? = some w)
    (turn : Turn sizes b s c i w t d w') :
    Mirrors sizes b { t with workers := t.workers.setIfInBounds i w' } d := by
  have there : s.workers.toList[i]? = some w := by simpa using hw
  have now : (t.workers.setIfInBounds i w').toList = s.workers.toList.set i w' := by
    rw [Array.toList_setIfInBounds, turn.workers_eq]
  have count (p : Worker → Bool) := countP_set_add p w' there
  constructor
  case sizes_eq => exact turn.sizes_eq.trans h.sizes_eq
  case workers_size =>
    show (t.workers.setIfInBounds i w').size = _
    rw [Array.size_setIfInBounds, turn.workers_eq]
    exact h.workers_size
  case inStep => exact turn.inStep
  case stands =>
    intro j x hx
    change (t.workers.setIfInBounds i w')[j]? = some x at hx
    rw [Array.getElem?_setIfInBounds, turn.workers_eq] at hx
    split at hx
    · next same =>
      subst same
      split at hx
      · obtain rfl := Option.some.inj hx
        exact turn.stands
      · cases hx
    · next other => exact turn.others j x (Ne.symm other) (h.stands j x hx)
  case arena =>
    obtain ⟨n, split, before⟩ := h.shelter_of hw
    have shared := count shares
    rw [turn.arena n before, now]
    congr 1
    omega
  case cancels => exact turn.cancels
  case cancels_size => exact turn.cancels_size.trans h.cancels_size
  case calm => exact turn.calm
  case guarded =>
    have conferred := count confers
    have before := h.guarded
    have balance := turn.guarded
    show (t.workers.setIfInBounds i w').toList.countP confers = t.crew.group.locked.toNat
    rw [now]
    omega
  case arrivals =>
    have counted := sum_map_set_add (entered sizes.generations.toNat) w' there
    have before := h.arrivals
    have balance := turn.arrivals
    show t.arrivals = ((t.workers.setIfInBounds i w').toList.map _).sum
    rw [now]
    omega
  case serials =>
    intro n
    have owed := count (owesMark n)
    have before := h.serials n
    have balance := turn.serials n
    show t.serials.count n + (t.workers.setIfInBounds i w').toList.countP (owesMark n) = _
    rw [now]
    omega
  case early => exact turn.early

/-! ## Steps that concern the worker alone -/

/-- A step that leaves the crew alone. -/
theorem Mirrors.turn_alone (h : Mirrors sizes b s c) {k : Nat}
    (away : Away sizes.generations.toNat w' k) (outside : c.isOutside i = true)
    (rounds : c.rounds i = k) (shared : shares w' = shares w) (conferred : confers w' = confers w)
    (sizes_eq : t.sizes = s.sizes) (workers_eq : t.workers = s.workers) (crew : t.crew = s.crew)
    (arrivals : t.arrivals + entered sizes.generations.toNat w =
      s.arrivals + entered sizes.generations.toNat w')
    (serials : ∀ n, t.serials.count n + (owesMark n w').toNat =
      s.serials.count n + (owesMark n w).toNat)
    (early : t.early = 0)
    (rises : w.pace sizes.generations.toNat c.barrier < w'.pace sizes.generations.toNat c.barrier) :
    Turn sizes b s c i w t c w' where
  sizes_eq := sizes_eq
  workers_eq := workers_eq
  inStep := h.inStep
  stands := .away away outside rounds
  others _ _ _ stands := stands
  arena n arena := by
    rw [crew, shared]
    exact arena
  cancels := by
    rw [crew]
    exact h.cancels
  cancels_size := by rw [crew]
  calm := by
    rw [crew]
    exact h.calm
  guarded := by rw [crew, conferred]
  arrivals := arrivals
  serials n := by rw [serials n]
  early := early
  rises := rises

/-- A step that takes or gives back a share of the slot. -/
theorem Mirrors.turn_share (h : Mirrors sizes b s c) {k n : Nat} {arena : Arena}
    (away : Away sizes.generations.toNat w' k) (outside : c.isOutside i = true)
    (rounds : c.rounds i = k) (conferred : confers w' = confers w)
    (before : s.crew.arena = shelter c.barrier (n + (shares w).toNat))
    (after : arena = shelter c.barrier (n + (shares w').toNat))
    (arrived : entered sizes.generations.toNat w' = entered sizes.generations.toNat w)
    (owed : ∀ n, owesMark n w' = owesMark n w)
    (rises : w.pace sizes.generations.toNat c.barrier < w'.pace sizes.generations.toNat c.barrier) :
    Turn sizes b s c i w { s with crew := { s.crew with arena } } c w' where
  sizes_eq := rfl
  workers_eq := rfl
  inStep := h.inStep
  stands := .away away outside rounds
  others _ _ _ stands := stands
  arena m found := by
    obtain rfl : m = n := Nat.add_right_cancel (sharers_of_shelter (found.symm.trans before))
    exact after
  cancels := h.cancels
  cancels_size := rfl
  calm := h.calm
  guarded := by rw [conferred]
  arrivals := by rw [arrived]
  serials n := by rw [owed n]
  early := h.early
  rises := rises

/-! ## Steps that others may notice -/

/-- A stage of enlisting. -/
theorem Mirrors.turn_enlist (h : Mirrors sizes b s c) {stage stage' : CancelGroup.Stage}
    (hw : s.workers[i]? = some (.enlist stage)) {crew : Crew} (enlists : stage.enlists = true)
    (outside : c.isOutside i = true) (rounds : c.rounds i = 0)
    (conferred : s.crew.confer i stage = some (crew, stage')) :
    ∃ d, Turn sizes b s c i (.enlist stage) { s with crew } d (.enlist stage') := by
  have there : Worker.enlist stage ∈ s.workers.toList := by
    simpa using Array.mem_of_getElem? hw
  have turn := Crew.confer_enlists h.calm enlists conferred
  obtain ⟨effects, group⟩ := turn.group
  have guarded := CancelGroup.step_locked group fun holds => eq_true_of_countP h.guarded there holds
  obtain ⟨d, inStep, visits, barrier, cancels, size⟩ :=
    turn.crowd h.inStep (h.low hw) outside h.cancels
  refine ⟨d, ?_⟩
  have count (p : Visit → Bool) : d.visits.countP p = c.visits.countP p := by rw [visits]
  have same (j : Nat) : d.isOutside j = c.isOutside j := by rw [isOutside, visits, isOutside]
  constructor
  case sizes_eq => rfl
  case workers_eq => rfl
  case inStep => exact inStep
  case stands =>
    exact .away (.enlist turn.enlists) ((same i).trans outside) ((count _).trans rounds)
  case others =>
    intro j x _ stands
    exact stands.congr (same j).trans (count _) fun _ hv _ => visits ▸ hv
  case arena =>
    intro n before
    rw [barrier, turn.arena]
    exact before
  case cancels => exact cancels
  case cancels_size => exact size
  case calm => exact turn.calm
  case guarded => exact guarded
  case arrivals => rfl
  case serials =>
    intro n
    rw [count]
    rfl
  case early => exact h.early
  case rises => exact turn.rises

/-- A worker comes to the barrier. -/
theorem Mirrors.turn_begin (h : Mirrors sizes b s c) (new : Pristine sizes.parties b) {g : Nat}
    (hw : s.workers[i]? = some (.wait g (.look .wait))) (lt : g < sizes.generations.toNat)
    (outside : c.isOutside i = true) (rounds : c.rounds i = g) :
    ∃ d, Turn sizes b s c i (.wait g (.look .wait)) s d (.wait g (.inside 0 .enter)) := by
  have user := h.user hw
  refine ⟨{ c with visits := c.visits ++ [{ thread := i }] }, ?_⟩
  constructor
  case sizes_eq => rfl
  case workers_eq => rfl
  case inStep => exact h.inStep.begin new (Nat.le_of_eq List.length_range) user outside
  case stands =>
    refine .inside (v := { thread := i }) lt ?_ rfl rfl ((rounds_begin c.visits i i).trans rounds)
    exact List.mem_append_right _ List.mem_cons_self
  case others =>
    intro j x ne stands
    refine stands.congr ?_ (rounds_begin c.visits i j) fun v hv _ => List.mem_append_left _ hv
    exact isOutside_begin_of_ne ne
  case arena => exact fun _ arena => arena
  case cancels => exact h.cancels
  case cancels_size => rfl
  case calm => exact h.calm
  case guarded => rfl
  case arrivals => rfl
  case serials =>
    intro n
    have kept : (c.visits ++ [({ thread := i } : Visit)]).countP (Visit.isLastOver n) =
        c.visits.countP (Visit.isLastOver n) := countP_begin (by simp [Visit.isLastOver])
    rw [kept]
    rfl
  case early => exact h.early
  case rises =>
    simp only [pace, Operation.pace, Wait.pace]
    omega

/-- Whoever comes back as the serial one does so from the wait whose number it bears. -/
theorem Mirrors.owesMark_after (h : Mirrors sizes b s c) (new : Pristine sizes.parties b) {k : Nat}
    {v : Visit} {turn : Wait.Turn} (hv : c.visits[k]? = some v)
    (hturn : v.stage.step c.barrier (c.settings v.thread) none = some turn) (n : Nat) :
    owesMark n (.wait (c.rounds v.thread) (.inside 0 turn.stage)) =
      (v.enter c.trips turn.stage).isLastOver n := by
  rw [h.inStep.isLastOver_enter new hv hturn n]
  cases turn.stage with
  | finished r =>
    rcases r with e | outcome
    · rfl
    · cases outcome with
      | serial => exact (Bool.true_and _).symm
      | released => rfl
  | _ => rfl

/-- A worker goes on with its wait at the barrier. -/
theorem Mirrors.turn_inside (h : Mirrors sizes b s c) (new : Pristine sizes.parties b) {k : Nat}
    {v : Visit} {turn : Wait.Turn} (low : v.thread < s.crew.cancels.size)
    (lt : c.rounds v.thread < sizes.generations.toNat) (hv : c.visits[k]? = some v)
    (hturn : v.stage.step c.barrier (c.settings v.thread) none = some turn) {arena : Arena}
    (shelters : ∀ n, s.crew.arena = shelter c.barrier n → arena = shelter turn.barrier n) :
    Turn sizes b s c v.thread (.wait (c.rounds v.thread) (.inside 0 v.stage))
      { s with crew := { s.crew with
          arena, cancels := s.crew.cancels.setIfInBounds v.thread turn.cancel } }
      (c.after k v turn) (.wait (c.rounds v.thread) (.inside 0 turn.stage)) := by
  have inside := inside_of_step hturn
  constructor
  case sizes_eq => rfl
  case workers_eq => rfl
  case inStep => exact h.inStep.after new List.length_range hv hturn
  case stands =>
    rcases h.inStep.after_cases new hv hturn with ⟨outcome, ok, outside, rounds⟩ | ⟨going, rounds⟩
    · rw [ok]
      exact .away (.passed outcome lt) outside rounds
    · exact .inside (v := v.enter c.trips turn.stage) lt (enter_mem_after hv turn) rfl going rounds
  case others =>
    intro j x ne stands
    refine stands.congr (isOutside_after_of_ne turn ne)
      (rounds_after_of_ne hv inside (Ne.symm ne)) ?_
    intro w hw own
    exact mem_after_of_ne hv hw (own ▸ ne)
  case arena => exact fun n before => shelters _ before
  case cancels =>
    intro j
    show (s.crew.cancels.setIfInBounds v.thread turn.cancel).getD j {} =
      if j = v.thread then turn.cancel else c.settings j
    rw [Crew.getD_setIfInBounds _ _ _ low, h.cancels]
  case cancels_size => exact Array.size_setIfInBounds
  case calm => exact h.calm
  case guarded => rfl
  case arrivals => rfl
  case serials =>
    intro n
    have change := countP_after (Visit.isLastOver n) turn hv
    have before : v.isLastOver n = false := by simp [Visit.isLastOver, inside]
    have idle : owesMark n (.wait (c.rounds v.thread) (.inside 0 v.stage)) = false := by
      unfold Visit.inside at inside
      cases stage : v.stage with
      | finished r => simp [stage, Wait.isOver] at inside
      | _ => rfl
    rw [before] at change
    rw [h.owesMark_after new hv hturn, idle]
    simp only [Bool.toNat_false] at change ⊢
    omega
  case early => exact h.early
  case rises =>
    have unasked : (c.settings v.thread).pending = false := by
      rw [Cancellation.pending, h.inStep.unasked.calm, Bool.and_false]
    have rises := Wait.pace_step unasked hturn
    simp only [pace, Operation.pace]
    exact Nat.add_lt_add_left (Nat.add_lt_add_left rises 2) _

/-! ## Every step -/

theorem Mirrors.trips_le_entered (h : Mirrors sizes b s c) (new : Pristine sizes.parties b)
    (hw : s.workers[i]? = some w) : c.trips ≤ w.entered sizes.generations.toNat := by
  have user := h.user hw
  cases h.stands i w hw with
  | away away outside rounds =>
    rw [← h.inStep.rounds_of_isOutside user outside, rounds]
    exact away.le_entered
  | inside _ hv own inside rounds =>
    have near := h.inStep.trips_le new hv inside
    rwa [own, rounds] at near

theorem Mirrors.entered_le (h : Mirrors sizes b s c) (hw : s.workers[i]? = some w) :
    w.entered sizes.generations.toNat ≤ sizes.generations.toNat := by
  cases h.stands i w hw with
  | away away => exact away.entered_le
  | inside lt => exact lt

/-- All arrivals of the generations that have ended have been counted. -/
theorem Mirrors.le_arrivals (h : Mirrors sizes b s c) (new : Pristine sizes.parties b) :
    c.trips * sizes.parties.toNat ≤ s.arrivals := by
  have le := List.card_nsmul_le_sum (s.workers.toList.map (entered sizes.generations.toNat))
    c.trips (by
      intro x hx
      obtain ⟨w, hw, rfl⟩ := List.mem_map.mp hx
      obtain ⟨i, hi⟩ := List.mem_iff_getElem?.mp hw
      exact h.trips_le_entered new (by simpa using hi))
  rw [List.length_map, Array.length_toList, h.workers_size, smul_eq_mul, Nat.mul_comm] at le
  rw [h.arrivals]
  exact le

theorem Mirrors.arrivals_le (h : Mirrors sizes b s c) :
    s.arrivals ≤ sizes.parties.toNat * sizes.generations.toNat := by
  have le := List.sum_le_card_nsmul (s.workers.toList.map (entered sizes.generations.toNat))
    sizes.generations.toNat (by
      intro x hx
      obtain ⟨w, hw, rfl⟩ := List.mem_map.mp hx
      obtain ⟨i, hi⟩ := List.mem_iff_getElem?.mp hw
      exact h.entered_le (by simpa using hi))
  rw [List.length_map, Array.length_toList, h.workers_size, smul_eq_mul] at le
  rw [h.arrivals]
  exact le

theorem stepWorker_enlist {stage : CancelGroup.Stage} (s : Stress) (i : Nat)
    (going : stage ≠ .finished) :
    s.stepWorker i (.enlist stage) = (s.crew.confer i stage).map fun (crew, stage) =>
      ({ s with crew }, .enlist stage) := by
  cases stage with
  | finished => exact absurd rfl going
  | _ => rfl

/-- A worker that checks finds that all arrivals of its generation have been counted. -/
theorem Mirrors.not_early (h : Mirrors sizes b s c) (new : Pristine sizes.parties b) {g : Nat}
    (hw : s.workers[i]? = some (.check g)) (outside : c.isOutside i = true)
    (rounds : c.rounds i = g + 1) : ¬ s.arrivals < s.required g := by
  have user := h.user hw
  have le := h.le_arrivals new
  rw [← h.inStep.rounds_of_isOutside user outside, rounds] at le
  rw [required, h.sizes_eq]
  exact Nat.not_lt.mpr le

/-- A step of a worker that is away from the barrier. -/
theorem Mirrors.turn_away (h : Mirrors sizes b s c) (new : Pristine sizes.parties b)
    (hw : s.workers[i]? = some w) (move : s.stepWorker i w = some (t, w')) {k : Nat}
    (away : Away sizes.generations.toNat w k) (outside : c.isOutside i = true)
    (rounds : c.rounds i = k) : ∃ d, Turn sizes b s c i w t d w' := by
  cases away with
  | @enlist stage enlists =>
    by_cases last : stage = .finished
    · subst last
      cases move
      exact ⟨c, h.turn_alone (.arrive (Nat.zero_le _)) outside rounds rfl rfl rfl rfl rfl rfl
        (fun _ => rfl) h.early (Nat.lt_succ_self 4)⟩
    · rw [stepWorker_enlist s i last] at move
      obtain ⟨⟨crew, stage'⟩, conferred, same⟩ := Option.map_eq_some_iff.mp move
      cases same
      exact h.turn_enlist hw enlists outside rounds conferred
  | arrive le =>
    simp only [stepWorker] at move
    split at move
    · next lt =>
      cases move
      rw [h.sizes_eq] at lt
      exact ⟨c, h.turn_alone (.knock lt) outside rounds rfl rfl rfl rfl rfl
        (Nat.add_right_comm _ _ _) (fun _ => rfl) h.early (Nat.lt_succ_self _)⟩
    · next last =>
      cases move
      rw [h.sizes_eq] at last
      obtain rfl := Nat.le_antisymm le (Nat.le_of_not_lt last)
      exact ⟨c, h.turn_alone .finished outside rounds rfl rfl rfl rfl rfl rfl (fun _ => rfl)
        h.early (Nat.lt_succ_self _)⟩
  | knock lt =>
    obtain ⟨n, -, before⟩ := h.shelter_of hw
    have operated := Crew.operate_knock (i := i) before
    simp only [stepWorker, operated, Option.map_some] at move
    cases move
    exact ⟨c, h.turn_share (.look lt) outside rounds rfl before rfl rfl (fun _ => rfl)
      (Nat.lt_succ_self _)⟩
  | look lt =>
    have operated := Crew.operate_look (i := i) h.arena
    simp only [stepWorker, operated, Option.map_some] at move
    cases move
    exact h.turn_begin new hw lt outside rounds
  | @passed g outcome lt =>
    have operated := Crew.operate_over s.crew i (.ok outcome)
    simp only [stepWorker, operated, Option.map_some] at move
    cases move
    refine ⟨c, h.turn_alone (.leave outcome lt) outside rounds rfl rfl rfl rfl rfl rfl ?_
      h.early (Nat.lt_succ_self _)⟩
    intro n
    cases outcome <;> rfl
  | @leave g outcome lt =>
    obtain ⟨n, -, before⟩ := h.shelter_of hw
    have operated := Crew.operate_leave (i := i) before (.ok (.outcome outcome))
    simp only [stepWorker, operated, Option.map_some] at move
    cases move
    refine ⟨c, h.turn_share (.back outcome lt) outside rounds rfl before rfl rfl ?_
      (Nat.lt_succ_self _)⟩
    intro n
    cases outcome <;> rfl
  | @back g outcome lt =>
    have mark : 32 * g + 6 + 28 < 32 * g + 35 := Nat.lt_succ_self _
    cases outcome with
    | serial =>
      cases move
      exact ⟨c, h.turn_alone (.mark lt) outside rounds rfl rfl rfl rfl rfl rfl (fun _ => rfl)
        h.early mark⟩
    | released =>
      cases move
      exact ⟨c, h.turn_alone (.check lt) outside rounds rfl rfl rfl rfl rfl rfl (fun _ => rfl)
        h.early (Nat.lt_succ_of_lt mark)⟩
  | @mark g lt =>
    cases move
    refine ⟨c, h.turn_alone (.check lt) outside rounds rfl rfl rfl rfl rfl rfl ?_ h.early
      (Nat.lt_succ_self _)⟩
    intro n
    show (g :: s.serials).count n + 0 = s.serials.count n + (decide (g = n)).toNat
    rw [List.count_cons]
    by_cases same : g = n <;> simp [same]
  | @check g lt =>
    have complete := h.not_early new hw outside rounds
    cases move
    refine ⟨c, h.turn_alone (.arrive lt) outside rounds rfl rfl rfl rfl rfl rfl (fun _ => rfl)
      ((if_neg complete).trans h.early) ?_⟩
    simp only [pace]
    omega
  | finished => cases move

theorem Mirrors.turn (h : Mirrors sizes b s c) (new : Pristine sizes.parties b)
    (hw : s.workers[i]? = some w) (move : s.stepWorker i w = some (t, w')) :
    ∃ d, Turn sizes b s c i w t d w' := by
  cases h.stands i w hw with
  | away away outside rounds => exact h.turn_away new hw move away outside rounds
  | @inside g v lt hv own inside rounds =>
    subst own rounds
    obtain ⟨k, hk⟩ := List.mem_iff_getElem?.mp hv
    have going : v.stage.isOver = false := by simpa [Visit.inside] using inside
    have low := h.low hw
    change Option.map _ (s.crew.operate v.thread (.inside 0 v.stage)) = _ at move
    rw [Crew.operate_inside h.arena going, h.cancels] at move
    obtain ⟨⟨crew, op⟩, operated, same⟩ := Option.map_eq_some_iff.mp move
    obtain ⟨turn, hturn, put⟩ := Option.map_eq_some_iff.mp operated
    cases put
    cases same
    refine ⟨c.after k v turn, h.turn_inside new low lt hk hturn fun n before => ?_⟩
    rw [sharers_of_shelter (h.arena.symm.trans before)]

/-- A step of the run is one of a worker. -/
theorem Mirrors.step_cases (h : Mirrors sizes b s c) (new : Pristine sizes.parties b)
    (move : s.step i = some t) : ∃ w w' u d, s.workers[i]? = some w ∧
      t = { u with workers := u.workers.setIfInBounds i w' } ∧ Turn sizes b s c i w u d w' := by
  obtain ⟨w, hw, moved⟩ := Option.bind_eq_some_iff.mp move
  obtain ⟨⟨u, w'⟩, stepped, rfl⟩ := Option.map_eq_some_iff.mp moved
  obtain ⟨d, turn⟩ := h.turn new hw stepped
  exact ⟨w, w', u, d, hw, rfl, turn⟩

theorem Mirrors.step (h : Mirrors sizes b s c) (new : Pristine sizes.parties b)
    (move : s.step i = some t) : ∃ d, Mirrors sizes b t d := by
  obtain ⟨w, w', u, d, hw, rfl, turn⟩ := h.step_cases new move
  exact ⟨d, h.put hw turn⟩

end

theorem countP_start (sizes : StressSizes) (crew : Crew) {p : Worker → Bool}
    (not : p (.enlist CancelGroup.enlist) = false) :
    (start sizes crew).workers.toList.countP p = 0 := by
  rw [start, Array.toList_replicate, List.countP_replicate, not]
  rfl

theorem Mirrors.start (sizes : StressSizes) (b : Barrier) (supply : Supply) :
    Mirrors sizes b (start sizes { arena := shelter b 0, cancels := #[], supply })
      (around b fresh) where
  sizes_eq := rfl
  workers_size := Array.size_replicate
  inStep := .start fun _ => rfl
  stands := by
    intro i w hw
    have first : w ∈ Array.replicate sizes.parties.toNat (Worker.enlist CancelGroup.enlist) :=
      Array.mem_of_getElem? hw
    rw [(Array.mem_replicate.mp first).2]
    exact .away (.enlist rfl) rfl rfl
  arena := by
    rw [countP_start _ _ rfl]
    rfl
  cancels := by
    intro i
    show (Array.replicate sizes.parties.toNat ({} : Cancellation)).getD i {} = {}
    rw [Array.getD_eq_getD_getElem?, Array.getElem?_replicate]
    split <;> rfl
  cancels_size := Array.size_replicate
  calm := rfl
  guarded := by
    rw [countP_start _ _ rfl]
    rfl
  arrivals := by
    simp [Stress.start, entered]
  serials := by
    intro n
    rw [countP_start _ _ rfl]
    rfl
  early := rfl

/-- Beside every state of a run there is a crowd that does the same at the barrier. -/
theorem Mirrors.of_reaches {sizes : StressSizes} {b : Barrier} {s t : Stress} {c : Crowd}
    (new : Pristine sizes.parties b) (h : Mirrors sizes b s c)
    (run : Schedule.Reaches Stress.step s t) : ∃ d, Mirrors sizes b t d := by
  apply run.keeps (P := fun t => ∃ d, Mirrors sizes b t d)
  · rintro s t i ⟨c, h⟩ move
    exact h.step new move
  · exact ⟨c, h⟩

end Run.Stress

end Rendezvous
