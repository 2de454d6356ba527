import Rendezvous.Proofs.Run.Once
import Rendezvous.Proofs.Traffic.Headway
import Rendezvous.Run.Race

/-!
# A round of a race

The workers of a round wait once each on a handle that has not been built. Beside the round two more
systems are kept (`Mirrors`): the traffic on its handle, which knows what the slot owns and who holds
it, and a crowd around the barrier that the callers see, which knows what the waits come to. A worker
that has not begun to wait has not knocked, and so nobody has to say when a call begins.

A turn of a worker is a turn of its call, and nothing or a turn in the crowd (`Mirrors.turn_wait`).
It is immaterial who builds the barrier and when the others find it.
-/

set_option autoImplicit false

namespace Rendezvous

open Barrier Handle
open Plain (Stage)

namespace Run.Race

open Crowd
open Stress (fresh)

namespace Worker

/-- The worker has not begun to wait, and nobody has aborted. -/
def isEarly : Worker → Bool
  | .enlist stage => stage.enlists
  | .ready | .hold => true
  | _ => false

/-- Where the call of a worker stands. -/
inductive At : Worker → Operation → Prop where
  | early {w : Worker} : w.isEarly = true → At w (.knock .wait)
  | waits {op : Operation} : At (.wait op) op
  | mark : At .mark (.finished (.ok (.outcome .serial)))
  | finished (outcome : Outcome) : At (.finished (.ok ())) (.finished (.ok (.outcome outcome)))

theorem At.of_early {w : Worker} {op : Operation} (h : w.At op) (early : w.isEarly = true) :
    op = .knock .wait := by
  cases h with
  | early => rfl
  | _ => cases early

theorem At.eq_of_wait {op op' : Operation} (h : (Worker.wait op).At op') : op' = op := by
  cases h with
  | early early => cases early
  | waits => rfl

theorem At.enlists {stage : CancelGroup.Stage} {op : Operation} (h : (Worker.enlist stage).At op) :
    stage.enlists = true := by
  cases h with
  | early early => exact early

theorem not_at_abort {e : RunError} {stage : CancelGroup.Stage} {op : Operation} :
    ¬ (Worker.abort e stage).At op := by
  rintro (early | _)
  cases early

theorem At.ok_of_finished {result : Except RunError Unit} {op : Operation}
    (h : (Worker.finished result).At op) :
    result = .ok () ∧ ∃ outcome, op = .finished (.ok (.outcome outcome)) := by
  cases h with
  | early early => cases early
  | finished outcome => exact ⟨rfl, outcome, rfl⟩

/-- It is in the group's critical section. -/
def confers : Worker → Bool
  | .enlist stage => stage.holdsLock
  | _ => false

/-- It has reported that it is ready. -/
def reported : Worker → Bool
  | .enlist _ | .ready | .abort .. => false
  | _ => true

/-- It comes back as the serial one and has not been noted. -/
def owesMark : Worker → Bool
  | .wait op => op.plain.isSerial
  | .mark => true
  | _ => false

/-- How far it has come. -/
def pace (a : Arena) : Worker → Nat
  | .enlist stage => stage.pace
  | .ready => 5
  | .hold => 6
  | .wait op => 7 + op.progress a
  | .mark => 53
  | .finished _ => 54
  | .abort .. => 0

theorem pace_le (a : Arena) (w : Worker) : w.pace a ≤ 54 := by
  cases w with
  | enlist stage => cases stage <;> simp [pace, CancelGroup.Stage.pace]
  | wait op =>
    have le := op.progress_le a
    simp only [pace]
    omega
  | _ => simp [pace]

end Worker

open Worker

/-- Beside a round there are the traffic on its handle and the crowd at the barrier that is seen, and
the books of the round are what the stages of its workers tell. -/
structure Mirrors (supply : Supply) (threads : UInt32) (b : Barrier) (r : Race) (s : Traffic)
    (c : Crowd) : Prop where
  supply_eq : r.crew.supply = supply
  size : r.workers.size = threads.toNat
  use : Traffic.InUse supply threads (.ok b) s
  aware : ∀ v ∈ s.jobs, v.stage.Aware s.arena
  length : s.jobs.length = threads.toNat
  calls : ∀ i w, r.workers[i]? = some w → ∃ v, s.jobs[i]? = some v ∧ v.thread = i ∧
    v.purpose = .inquire .wait ∧ w.At v.stage ∧ Stage.Stands c i v.stage.plain
  arena : r.crew.arena = s.arena
  cancels : ∀ i, r.crew.cancels.getD i {} = s.settings i
  cancels_size : r.crew.cancels.size = threads.toNat
  inStep : InStep (List.range threads.toNat) threads b fresh c
  barrier : c.barrier = s.arena.sight b
  settings : c.settings = s.settings
  calm : r.crew.group.aborted = false
  guarded : r.workers.toList.countP confers = r.crew.group.locked.toNat
  ready : r.ready = r.workers.toList.countP reported
  serials : r.serials + r.workers.toList.countP owesMark = c.visits.countP (Visit.isLastOver 0)

/-- What a step of worker `i` from `w` to `w'` does, with `t` the round before the worker's new stage
is put down. -/
structure Turn (supply : Supply) (threads : UInt32) (b : Barrier) (r : Race) (s : Traffic)
    (c : Crowd) (i : Nat) (w : Worker) (t : Race) (s' : Traffic) (d : Crowd) (w' : Worker) :
    Prop where
  supply_eq : t.crew.supply = r.crew.supply
  workers_eq : t.workers = r.workers
  go : t.go = r.go
  use : Traffic.InUse supply threads (.ok b) s'
  aware : ∀ v ∈ s'.jobs, v.stage.Aware s'.arena
  length : s'.jobs.length = s.jobs.length
  call : ∃ v, s'.jobs[i]? = some v ∧ v.thread = i ∧ v.purpose = .inquire .wait ∧ w'.At v.stage ∧
    Stage.Stands d i v.stage.plain
  others : ∀ j, j ≠ i → s'.jobs[j]? = s.jobs[j]?
  stand : ∀ j x, j ≠ i → Stage.Stands c j x → Stage.Stands d j x
  arena : t.crew.arena = s'.arena
  cancels : ∀ j, t.crew.cancels.getD j {} = s'.settings j
  cancels_size : t.crew.cancels.size = r.crew.cancels.size
  inStep : InStep (List.range threads.toNat) threads b fresh d
  barrier : d.barrier = s'.arena.sight b
  settings : d.settings = s'.settings
  calm : t.crew.group.aborted = false
  guarded : t.crew.group.locked.toNat + (confers w).toNat =
    r.crew.group.locked.toNat + (confers w').toNat
  ready : t.ready + (reported w).toNat = r.ready + (reported w').toNat
  serials : t.serials + (owesMark w').toNat + c.visits.countP (Visit.isLastOver 0) =
    r.serials + (owesMark w).toNat + d.visits.countP (Visit.isLastOver 0)
  rises : w.pace r.crew.arena < w'.pace t.crew.arena
  settled : r.crew.arena.settled = true → t.crew.arena.settled = true

section

variable {supply : Supply} {threads : UInt32} {b : Barrier} {r t : Race} {s s' : Traffic}
  {c d : Crowd} {i : Nat} {w w' : Worker}

/-- Every worker is a user of the barrier. -/
theorem Mirrors.user (h : Mirrors supply threads b r s c) (hw : r.workers[i]? = some w) :
    i ∈ List.range threads.toNat := by
  rw [List.mem_range, ← h.size]
  exact (Array.getElem?_eq_some_iff.mp hw).1

/-- Every worker has settings. -/
theorem Mirrors.low (h : Mirrors supply threads b r s c) (hw : r.workers[i]? = some w) :
    i < r.crew.cancels.size := by
  rw [h.cancels_size]
  exact List.mem_range.mp (h.user hw)

theorem Mirrors.put (h : Mirrors supply threads b r s c) (hw : r.workers[i]? = some w)
    (turn : Turn supply threads b r s c i w t s' d w') :
    Mirrors supply threads b { t with workers := t.workers.setIfInBounds i w' } s' d := by
  have there : r.workers.toList[i]? = some w := by simpa using hw
  have now : (t.workers.setIfInBounds i w').toList = r.workers.toList.set i w' := by
    rw [Array.toList_setIfInBounds, turn.workers_eq]
  have count (p : Worker → Bool) := countP_set_add p w' there
  constructor
  case supply_eq => exact turn.supply_eq.trans h.supply_eq
  case size =>
    show (t.workers.setIfInBounds i w').size = _
    rw [Array.size_setIfInBounds, turn.workers_eq]
    exact h.size
  case use => exact turn.use
  case aware => exact turn.aware
  case length => exact turn.length.trans h.length
  case calls =>
    intro j x hx
    change (t.workers.setIfInBounds i w')[j]? = some x at hx
    rw [Array.getElem?_setIfInBounds, turn.workers_eq] at hx
    split at hx
    · next same =>
      subst same
      split at hx
      · obtain rfl := Option.some.inj hx
        exact turn.call
      · cases hx
    · next other =>
      obtain ⟨v, hv, own, wait, place, stands⟩ := h.calls j x hx
      exact ⟨v, (turn.others j (Ne.symm other)).trans hv, own, wait, place,
        turn.stand j _ (Ne.symm other) stands⟩
  case arena => exact turn.arena
  case cancels => exact turn.cancels
  case cancels_size => exact turn.cancels_size.trans h.cancels_size
  case inStep => exact turn.inStep
  case barrier => exact turn.barrier
  case settings => exact turn.settings
  case calm => exact turn.calm
  case guarded =>
    have conferred := count confers
    have before := h.guarded
    have balance := turn.guarded
    show (t.workers.setIfInBounds i w').toList.countP confers = t.crew.group.locked.toNat
    rw [now]
    omega
  case ready =>
    have counted := count reported
    have before := h.ready
    have balance := turn.ready
    show t.ready = (t.workers.setIfInBounds i w').toList.countP reported
    rw [now]
    omega
  case serials =>
    have owed := count owesMark
    have before := h.serials
    have balance := turn.serials
    show t.serials + (t.workers.setIfInBounds i w').toList.countP owesMark = _
    rw [now]
    omega

/-! ## Steps that concern the worker alone -/

/-- A step that leaves the crew alone. -/
theorem Mirrors.turn_alone (h : Mirrors supply threads b r s c) (hw : r.workers[i]? = some w)
    (place : ∀ op, w.At op → w'.At op) (conferred : confers w' = confers w)
    (workers_eq : t.workers = r.workers) (crew : t.crew = r.crew) (go : t.go = r.go)
    (ready : t.ready + (reported w).toNat = r.ready + (reported w').toNat)
    (serials : t.serials + (owesMark w').toNat = r.serials + (owesMark w).toNat)
    (rises : w.pace r.crew.arena < w'.pace r.crew.arena) :
    Turn supply threads b r s c i w t s c w' where
  supply_eq := by rw [crew]
  workers_eq := workers_eq
  go := go
  use := h.use
  aware := h.aware
  length := rfl
  call := by
    obtain ⟨v, hv, own, wait, was, stands⟩ := h.calls i w hw
    exact ⟨v, hv, own, wait, place _ was, stands⟩
  others _ _ := rfl
  stand _ _ _ stands := stands
  arena := by
    rw [crew]
    exact h.arena
  cancels := by
    rw [crew]
    exact h.cancels
  cancels_size := by rw [crew]
  inStep := h.inStep
  barrier := h.barrier
  settings := h.settings
  calm := by
    rw [crew]
    exact h.calm
  guarded := by rw [crew, conferred]
  ready := ready
  serials := by rw [serials]
  rises := by
    rw [crew]
    exact rises
  settled := by
    rw [crew]
    exact id

/-! ## Steps that others may notice -/

/-- A stage of enlisting. -/
theorem Mirrors.turn_enlist (h : Mirrors supply threads b r s c) {stage stage' : CancelGroup.Stage}
    (hw : r.workers[i]? = some (.enlist stage)) {crew : Crew} (enlists : stage.enlists = true)
    (conferred : r.crew.confer i stage = some (crew, stage')) :
    ∃ s' d, Turn supply threads b r s c i (.enlist stage) { r with crew } s' d (.enlist stage') := by
  have there : Worker.enlist stage ∈ r.workers.toList := by simpa using Array.mem_of_getElem? hw
  have turn := Crew.confer_enlists h.calm enlists conferred
  obtain ⟨effects, group⟩ := turn.group
  have guarded := CancelGroup.step_locked group fun holds => eq_true_of_countP h.guarded there holds
  obtain ⟨v, hv, own, wait, place, stands⟩ := h.calls i _ hw
  have coming : v.stage = .knock .wait := place.of_early enlists
  have outside : c.isOutside i = true := by
    rw [coming] at stands
    cases stands
    assumption
  obtain ⟨d, inStep, visits, barrier, cancels, size⟩ :=
    turn.crowd h.inStep (h.low hw) outside fun j => (h.cancels j).trans (by rw [h.settings])
  have stand (j : Nat) (x : Stage) (was : Stage.Stands c j x) : Stage.Stands d j x := by
    refine was.congr (fun outside => ?_) ?_ fun v hv _ => visits ▸ hv
    · rw [isOutside, visits]
      exact outside
    · rw [rounds, visits, rounds]
  refine ⟨{ s with settings := d.settings }, d, ?_⟩
  constructor
  case supply_eq => exact Crew.supply_of_confer conferred
  case workers_eq => rfl
  case go => rfl
  case use => exact h.use.sets _
  case aware => exact h.aware
  case length => rfl
  case call => exact ⟨v, hv, own, wait, coming ▸ .early turn.enlists, stand _ _ stands⟩
  case others => exact fun _ _ => rfl
  case stand => exact fun j x _ => stand j x
  case arena => exact turn.arena.trans h.arena
  case cancels => exact cancels
  case cancels_size => exact size
  case inStep => exact inStep
  case barrier => exact barrier.trans h.barrier
  case settings => rfl
  case calm => exact turn.calm
  case guarded => exact guarded
  case ready => rfl
  case serials => rw [visits]; rfl
  case rises => exact turn.rises
  case settled =>
    show r.crew.arena.settled = true → crew.arena.settled = true
    rw [turn.arena]
    exact id

/-- What a turn of a wait does at the barrier that is seen. -/
theorem Mirrors.turned (h : Mirrors supply threads b r s c) (new : Pristine threads b)
    {k : Nat} {v : Job} {turn : Operation.Turn} (hv : s.jobs[k]? = some v)
    (user : v.thread ∈ List.range threads.toNat) (wait : v.purpose = .inquire .wait)
    (stands : Stage.Stands c v.thread v.stage.plain)
    (moved : v.stage.step s.arena 0 (s.settings v.thread) supply none = some turn) :
    ∃ d, Turned (List.range threads.toNat) threads b fresh c v.thread v.stage.plain
      (turn.arena.sight b) turn.cancel turn.stage.plain d := by
  cases h.use.seen new.parties_eq hv moved with
  | quiet still sight keeps =>
    have alone := Turned.still h.inStep (still ▸ stands) (y := turn.stage.plain) (by rw [still])
    rw [sight, keeps, ← h.barrier, ← h.settings]
    exact ⟨c, alone⟩
  | shown shown =>
    rw [← h.barrier, ← h.settings] at shown
    exact Crowd.turned h.inStep new List.length_range user stands shown
  | nought asks =>
    have serves := wait ▸ h.use.custody.serves v (List.mem_of_getElem? hv)
    rw [asks] at serves
    cases serves

/-- A stage of a wait. -/
theorem Mirrors.turn_wait (h : Mirrors supply threads b r s c) (new : Pristine threads b)
    {op op' : Operation} (hw : r.workers[i]? = some (.wait op)) {crew : Crew}
    (operated : r.crew.operate i op = some (crew, op')) :
    ∃ s' d, Turn supply threads b r s c i (.wait op) { r with crew } s' d (.wait op') := by
  obtain ⟨turn, moved, same⟩ := Option.map_eq_some_iff.mp operated
  cases same
  rw [h.arena, h.cancels, h.supply_eq] at moved
  obtain ⟨v, hv, own, wait, place, stands⟩ := h.calls i _ hw
  have user := h.user hw
  have low := h.low hw
  have stage := place.eq_of_wait
  subst own stage
  have mem := List.mem_of_getElem? hv
  have unasked : (s.settings v.thread).pending = false := by
    rw [← h.settings, Cancellation.pending, h.inStep.unasked.calm, Bool.and_false]
  obtain ⟨rises, aware⟩ := h.use.rises mem wait (h.aware v mem) unasked moved
  obtain ⟨d, turned⟩ := h.turned new hv user wait stands moved
  have settings : d.settings = (s.after v.thread v turn).settings := by
    rw [turned.settings_eq, h.settings]
    rfl
  refine ⟨s.after v.thread v turn, d, ?_⟩
  constructor
  case supply_eq => rfl
  case workers_eq => rfl
  case go => rfl
  case use => exact h.use.goes hv moved
  case aware =>
    intro w hw
    rcases List.mem_or_eq_of_mem_set hw with hw | rfl
    · exact (h.aware w hw).congr (h.use.live_after mem moved)
    · exact aware
  case length => exact List.length_set
  case call =>
    exact ⟨_, Traffic.job_after_self hv, rfl, wait, .waits, turned.own⟩
  case others => exact fun j other => List.getElem?_set_ne (Ne.symm other)
  case stand => exact fun j x other => turned.others j x other
  case arena => rfl
  case cancels =>
    intro j
    show (r.crew.cancels.setIfInBounds v.thread turn.cancel).getD j {} =
      if j = v.thread then turn.cancel else s.settings j
    rw [Crew.getD_setIfInBounds _ _ _ low, h.cancels]
  case cancels_size => exact Array.size_setIfInBounds
  case inStep => exact turned.inStep
  case barrier => exact turned.barrier
  case settings => exact settings
  case calm => exact h.calm
  case guarded => rfl
  case ready => rfl
  case serials =>
    have balance := turned.serials
    simp only [owesMark]
    omega
  case rises =>
    simp only [pace, h.arena]
    exact Nat.add_lt_add_left rises 7
  case settled =>
    rw [h.arena]
    exact h.use.settled_after mem (h.aware v mem) moved

/-! ## Every step -/

theorem stepWorker_enlist {stage : CancelGroup.Stage} (r : Race) (i : Nat)
    (going : stage ≠ .finished) :
    r.stepWorker i (.enlist stage) = (r.crew.confer i stage).map fun (crew, stage) =>
      ({ r with crew }, .enlist stage) := by
  cases stage with
  | finished => exact absurd rfl going
  | _ => rfl

theorem stepWorker_wait {op : Operation} (r : Race) (i : Nat) (going : op.isOver = false) :
    r.stepWorker i (.wait op) = (r.crew.operate i op).map fun (crew, op) =>
      ({ r with crew }, .wait op) := by
  cases op with
  | finished => cases going
  | _ => rfl

/-- Nobody fails, and so nobody aborts. -/
theorem Mirrors.outcome_of_over (h : Mirrors supply threads b r s c) {op : Operation}
    (hw : r.workers[i]? = some (.wait op)) (ended : op.isOver = true) :
    ∃ outcome, op = .finished (.ok (.outcome outcome)) := by
  obtain ⟨v, -, -, -, place, stands⟩ := h.calls i _ hw
  rw [place.eq_of_wait] at stands
  cases op with
  | finished result =>
    cases stands with
    | returned outcome => exact ⟨outcome, rfl⟩
  | _ => cases ended

theorem Mirrors.turn (h : Mirrors supply threads b r s c) (new : Pristine threads b)
    (hw : r.workers[i]? = some w) (move : r.stepWorker i w = some (t, w')) :
    ∃ s' d, Turn supply threads b r s c i w t s' d w' := by
  cases w with
  | enlist stage =>
    obtain ⟨v, -, -, -, place, -⟩ := h.calls i _ hw
    have enlists := place.enlists
    by_cases last : stage = .finished
    · subst last
      cases move
      exact ⟨s, c, h.turn_alone hw (fun _ was => was.of_early rfl ▸ .early rfl) rfl rfl rfl rfl rfl rfl
        (Nat.lt_succ_self 4)⟩
    · rw [stepWorker_enlist r i last] at move
      obtain ⟨⟨crew, stage'⟩, conferred, same⟩ := Option.map_eq_some_iff.mp move
      cases same
      exact h.turn_enlist hw enlists conferred
  | ready =>
    cases move
    exact ⟨s, c, h.turn_alone hw (fun _ was => was.of_early rfl ▸ .early rfl) rfl rfl rfl rfl rfl rfl
      (Nat.lt_succ_self 5)⟩
  | hold =>
    simp only [stepWorker] at move
    split at move
    · cases move
      exact ⟨s, c, h.turn_alone hw (fun _ was => was.of_early rfl ▸ .waits) rfl rfl rfl rfl rfl rfl
        (Nat.lt_add_right _ (Nat.lt_succ_self 6))⟩
    · cases move
  | wait op =>
    cases ended : op.isOver with
    | true =>
      obtain ⟨outcome, rfl⟩ := h.outcome_of_over hw ended
      cases outcome with
      | serial =>
        cases move
        exact ⟨s, c, h.turn_alone hw (fun _ was => was.eq_of_wait ▸ .mark) rfl rfl rfl rfl rfl rfl
          (Nat.lt_succ_self 52)⟩
      | released =>
        cases move
        exact ⟨s, c, h.turn_alone hw (fun _ was => was.eq_of_wait ▸ .finished _) rfl rfl rfl rfl rfl
          rfl (Nat.lt_succ_of_lt (Nat.lt_succ_self 52))⟩
    | false =>
      rw [stepWorker_wait r i ended] at move
      obtain ⟨⟨crew, op'⟩, operated, same⟩ := Option.map_eq_some_iff.mp move
      cases same
      exact h.turn_wait new hw operated
  | mark =>
    cases move
    refine ⟨s, c, h.turn_alone hw ?_ rfl rfl rfl rfl rfl rfl (Nat.lt_succ_self 53)⟩
    rintro op (early | _ | _)
    · cases early
    · exact .finished _
  | abort e stage =>
    obtain ⟨v, -, -, -, place, -⟩ := h.calls i _ hw
    exact absurd place not_at_abort
  | finished result => cases move

/-- A step of the round is one of a worker, or the sign. -/
theorem Mirrors.step_cases (h : Mirrors supply threads b r s c) (new : Pristine threads b)
    (move : r.step i = some t) :
    (i = r.workers.size ∧ r.go = false ∧ t = { r with go := true }) ∨
      i ≠ r.workers.size ∧ ∃ w w' u s' d, r.workers[i]? = some w ∧
        t = { u with workers := u.workers.setIfInBounds i w' } ∧
        Turn supply threads b r s c i w u s' d w' := by
  simp only [Race.step] at move
  split at move
  · next sign =>
    split at move
    · next may =>
      cases move
      exact .inl ⟨sign, may.1, rfl⟩
    · cases move
  · next worker =>
    obtain ⟨w, hw, moved⟩ := Option.bind_eq_some_iff.mp move
    obtain ⟨⟨u, w'⟩, stepped, rfl⟩ := Option.map_eq_some_iff.mp moved
    obtain ⟨s', d, turn⟩ := h.turn new hw stepped
    exact .inr ⟨worker, w, w', u, s', d, hw, rfl, turn⟩

theorem Mirrors.sign (h : Mirrors supply threads b r s c) :
    Mirrors supply threads b { r with go := true } s c :=
  ⟨h.supply_eq, h.size, h.use, h.aware, h.length, h.calls, h.arena, h.cancels, h.cancels_size,
    h.inStep, h.barrier, h.settings, h.calm, h.guarded, h.ready, h.serials⟩

theorem Mirrors.step (h : Mirrors supply threads b r s c) (new : Pristine threads b)
    (move : r.step i = some t) : ∃ s' d, Mirrors supply threads b t s' d := by
  rcases h.step_cases new move with ⟨-, -, rfl⟩ | ⟨-, w, w', u, s', d, hw, rfl, turn⟩
  · exact ⟨s, c, h.sign⟩
  · exact ⟨s', d, h.put hw turn⟩

/-- Beside every state of a round there are the traffic on its handle and the crowd. -/
theorem Mirrors.of_reaches (new : Pristine threads b) (h : Mirrors supply threads b r s c)
    (run : Schedule.Reaches Race.step r t) : ∃ s' d, Mirrors supply threads b t s' d := by
  apply run.keeps (P := fun t => ∃ s' d, Mirrors supply threads b t s' d)
  · rintro r t i ⟨s, c, h⟩ move
    exact h.step new move
  · exact ⟨s, c, h⟩

end

/-! ## The beginning -/

/-- The call that a thread makes. -/
def call (thread : Nat) : Job :=
  { thread, handle := 0, purpose := .inquire .wait, stage := .knock .wait }

/-- So many threads have called the handle, and none has gone on. -/
def called (threads : UInt32) (calls : Nat) : Traffic :=
  { Traffic.start [some threads] fresh with jobs := (List.range calls).map call }

theorem inUse_called (supply : Supply) (threads : UInt32) (calls : Nat) :
    Traffic.InUse supply threads (Construction.verdict supply threads) (called threads calls) := by
  induction calls with
  | zero => exact .start supply threads fresh
  | succ calls ih =>
    have outside : (called threads calls).isOutside calls = true := by
      refine List.all_eq_true.mpr fun v hv => ?_
      obtain ⟨thread, low, rfl⟩ := List.mem_map.mp hv
      have other : thread ≠ calls := Nat.ne_of_lt (List.mem_range.mp low)
      simpa [call] using .inl other
    have next : called threads (calls + 1) =
        { called threads calls with jobs := (called threads calls).jobs ++ [call calls] } := by
      simp [called, List.range_succ]
    have begins : (called threads calls).act supply (.call calls .wait) =
        some (called threads (calls + 1)) := by
      have known : 0 < (called threads calls).arena.handles.size := Nat.one_pos
      simp only [next, Traffic.act, Inquiry.isUse, Act.move, Traffic.step, outside, known,
        decide_true, Bool.and_self, reduceIte]
      rfl
    exact ih.step begins

theorem countP_start (supply : Supply) (threads : UInt32) {p : Worker → Bool}
    (not : p (.enlist CancelGroup.enlist) = false) :
    (start supply threads).workers.toList.countP p = 0 := by
  rw [start, Array.toList_replicate, List.countP_replicate, not]
  rfl

theorem eq_of_start {supply : Supply} {threads : UInt32} {i : Nat} {w : Worker}
    (hw : (start supply threads).workers[i]? = some w) :
    i < threads.toNat ∧ w = .enlist CancelGroup.enlist := by
  have first : w ∈ Array.replicate threads.toNat (Worker.enlist CancelGroup.enlist) :=
    Array.mem_of_getElem? hw
  refine ⟨?_, (Array.mem_replicate.mp first).2⟩
  have low := (Array.getElem?_eq_some_iff.mp hw).1
  rwa [start, Array.size_replicate] at low

theorem Mirrors.start {supply : Supply} {threads : UInt32} {b : Barrier}
    (verdict : Construction.verdict supply threads = .ok b) :
    Mirrors supply threads b (start supply threads) (called threads threads.toNat)
      (Crowd.around b fresh) where
  supply_eq := rfl
  size := Array.size_replicate
  use := verdict ▸ inUse_called supply threads threads.toNat
  aware := by
    intro v hv
    obtain ⟨thread, -, rfl⟩ := List.mem_map.mp hv
    trivial
  length := by simp [called]
  calls := by
    intro i w hw
    obtain ⟨low, rfl⟩ := eq_of_start hw
    exact ⟨call i, by simp [called, low], rfl, rfl, .early rfl, .coming rfl rfl⟩
  arena := rfl
  cancels := by
    intro i
    show (Array.replicate threads.toNat ({} : Cancellation)).getD i {} = {}
    rw [Array.getD_eq_getD_getElem?, Array.getElem?_replicate]
    split <;> rfl
  cancels_size := Array.size_replicate
  inStep := .start fun _ => rfl
  barrier := rfl
  settings := rfl
  calm := rfl
  guarded := by
    rw [countP_start _ _ rfl]
    rfl
  ready := by
    rw [countP_start _ _ rfl]
    rfl
  serials := by
    rw [countP_start _ _ rfl]
    rfl

end Run.Race

end Rendezvous
