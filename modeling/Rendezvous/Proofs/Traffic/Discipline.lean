import Rendezvous.Proofs.Runs
import Rendezvous.Proofs.Traffic.Seclusion

/-!
# Discipline with the lock

The lock of a barrier is taken in one stage and given back in another, and there are many ways
between them. What a call does with the lock shows in what it tells: `Event.handling` goes through
the events of one call at one barrier and stops at the first that must not be, which is taking the
lock twice, giving it back without having it, and going to a gate or tearing the lock down with the
lock in hand. No call is ever stopped, and it has the lock after the last event exactly if its stage
says so (`Traffic.told_handling`).

What the lock guards is the count. A turn of a call that does not have the lock comes out the same
whatever the count is, and leaves it as it is (`Custody.step_recount`).
-/

set_option autoImplicit false

namespace Rendezvous

open Barrier Handle

/-! ## Handling a lock -/

def Event.takesLock : Event → Bool
  | ⟨.lock, .done⟩ | ⟨.tryLock, .flag true⟩ => true
  | _ => false

def Event.givesLock : Event → Bool
  | ⟨.unlock, _⟩ => true
  | _ => false

/-- The event is one of a call that must not have the lock then. -/
def Event.wantsFree : Event → Bool
  | ⟨.semWait _, _⟩ | ⟨.semPost .., _⟩ | ⟨.lockDestroy, _⟩ => true
  | _ => false

/-- Whether a call has the lock after an event that it tells, if it had it or not before; `none` if
the event must not be. -/
def Event.handling (held : Bool) (e : Event) : Option Bool :=
  if e.takesLock then if held then none else some true
  else if e.givesLock then if held then some false else none
  else if e.wantsFree && held then none
  else some held

theorem Event.givesLock_of_takesLock {e : Event} (takes : e.takesLock = true) :
    e.givesLock = false := by
  rcases e with ⟨_ | _ | _ | _ | _ | _ | _ | _ | _, _⟩ <;> first | rfl | cases takes

theorem Event.handling_count {e : Event} {held next : Bool} (h : e.handling held = some next) :
    e.takesLock.toNat + held.toNat = e.givesLock.toNat + next.toNat := by
  unfold handling at h
  cases takes : e.takesLock with
  | true =>
    rw [givesLock_of_takesLock takes]
    cases held <;> simp_all
  | false =>
    cases gives : e.givesLock with
    | true => cases held <;> simp_all
    | false =>
      have same : held = next := by
        rw [takes, gives] at h
        exact (Option.ite_none_left_eq_some.mp h).2 |> Option.some.inj
      rw [same]

/-- Whoever is never stopped has given the lock back as often as it has taken it, or has it. -/
theorem Event.handling_balance {events : List Event} {held held' : Bool}
    (handled : events.foldlM Event.handling held = some held') :
    events.countP Event.takesLock + held.toNat = events.countP Event.givesLock + held'.toNat := by
  induction events generalizing held with
  | nil =>
    obtain rfl := Option.some.inj handled
    rfl
  | cons e rest ih =>
    obtain ⟨next, first, handled⟩ := Option.bind_eq_some_iff.mp handled
    have rest := ih handled
    have here := handling_count first
    rw [List.countP_cons, List.countP_cons]
    cases takes : e.takesLock <;> cases gives : e.givesLock <;> simp [takes, gives] at here ⊢ <;>
      omega

namespace Barrier

/-- The wait is about to post, at a gate or on its way there, or over. -/
def Wait.letsGo : Wait → Bool
  | post _ | pause _ | blocked .. | turnBack _ | claim _ | claiming .. | finished _ => true
  | _ => false

theorem Wait.holdsLock_of_letsGo {w : Wait} (lets : w.letsGo = true) : w.holdsLock = false := by
  cases w <;> first | rfl | cases lets

section Handling

variable {b : Barrier} {c : Cancellation} {fault : Option PrimitiveError}

theorem Wait.step_handling {w : Wait} {turn : Wait.Turn} (move : w.step b c fault = some turn) :
    turn.events.foldlM Event.handling w.holdsLock = some turn.stage.holdsLock := by
  cases w with
  | enter | turnBack g | claim g =>
    cases fault <;> obtain rfl := Option.some.inj move <;> rfl
  | lock | relock g =>
    simp only [step] at move
    split at move
    · cases move
    · obtain rfl := Option.some.inj move
      rfl
  | arrive | judge g =>
    simp only [step] at move
    split at move <;> obtain rfl := Option.some.inj move <;> rfl
  | trip g | counted g | retracted g | overtaken g =>
    obtain rfl := Option.some.inj move
    rfl
  | post g =>
    cases fault with
    | some e =>
      obtain rfl := Option.some.inj move
      rfl
    | none =>
      simp only [step] at move
      split at move <;> obtain rfl := Option.some.inj move <;> rfl
  | pause g =>
    cases fault with
    | some e =>
      obtain rfl := Option.some.inj move
      cases e <;> rfl
    | none =>
      obtain rfl := Option.some.inj move
      rfl
  | blocked g shield w =>
    rcases AtGate.blocked.cases move with ⟨r, rfl⟩ | ⟨_, _, _, -, -, rfl⟩
    · obtain rfl := Option.some.inj move
      rcases r with (_ | _) | _ <;> rfl
    · rfl
  | claiming g shield w =>
    rcases AtGate.claiming.cases move with ⟨r, rfl⟩ | ⟨_, _, _, -, -, rfl⟩
    · obtain rfl := Option.some.inj move
      cases r <;> rfl
    · rfl
  | finished r => cases move

theorem Probe.step_handling {gauge : Gauge} {p : Probe} {turn : Probe.Turn}
    (move : p.step b gauge fault = some turn) :
    turn.events.foldlM Event.handling p.holdsLock = some turn.stage.holdsLock := by
  cases p with
  | enter => cases fault <;> obtain rfl := Option.some.inj move <;> rfl
  | lock =>
    simp only [step] at move
    split at move
    · cases move
    · obtain rfl := Option.some.inj move
      rfl
  | read | leave value =>
    obtain rfl := Option.some.inj move
    rfl
  | finished r => cases move

theorem Teardown.step_handling {t : Teardown} {turn : Teardown.Turn}
    (move : t.step b fault = some turn) :
    turn.events.foldlM Event.handling t.holdsLock = some turn.stage.holdsLock := by
  cases t with
  | evenGate | oddGate =>
    obtain rfl := Option.some.inj move
    cases fault <;> rfl
  | unlock =>
    obtain rfl := Option.some.inj move
    rfl
  | lock =>
    obtain rfl := Option.some.inj move
    cases b.locked <;> cases fault <;> rfl
  | finished => cases move

end Handling

/-! ## What the lock guards -/

/-- The same barrier with another count. -/
def recount (b : Barrier) (missing : UInt32) (generation : UInt64) : Barrier :=
  { b with missing, generation }

section Recount

variable (b : Barrier) (missing : UInt32) (generation : UInt64)

@[simp] theorem parties_recount : (b.recount missing generation).parties = b.parties := rfl

@[simp] theorem locked_recount : (b.recount missing generation).locked = b.locked := rfl

@[simp] theorem gate_recount (side : Side) :
    (b.recount missing generation).gate side = b.gate side := by cases side <;> rfl

@[simp] theorem setGate_recount (side : Side) (s : Semaphore) :
    (b.recount missing generation).setGate side s = (b.setGate side s).recount missing generation := by
  cases side <;> rfl

theorem Wait.AtGate.step_recount {g : UInt64} {shield : Shield} {x : Semaphore.Wait → Wait}
    (here : AtGate g shield x) (w : Semaphore.Wait) (c : Cancellation)
    (fault : Option PrimitiveError) :
    (x w).step (b.recount missing generation) c fault =
      ((x w).step b c fault).map fun t =>
        { t with barrier := t.barrier.recount missing generation } := by
  by_cases ended : ∃ r, w = .finished r
  · obtain ⟨r, rfl⟩ := ended
    cases here <;> rfl
  · have going : ∀ r, w ≠ .finished r := fun r hr => ended ⟨r, hr⟩
    rw [here.step going, here.step going, Option.map_map, gate_recount]
    exact Option.map_congr fun turn _ => by simp

/-- Who does not have the lock neither reads the count nor writes it. -/
theorem Wait.step_recount {w : Wait} (free : w.holdsLock = false) (c : Cancellation)
    (fault : Option PrimitiveError) :
    w.step (b.recount missing generation) c fault =
      (w.step b c fault).map fun t => { t with barrier := t.barrier.recount missing generation } := by
  cases w with
  | enter | turnBack g => cases fault <;> rfl
  | pause g | claim g => cases fault <;> simp [step]
  | lock | relock g => by_cases held : b.locked = true <;> simp [step, held]; rfl
  | post g =>
    cases fault with
    | some e => rfl
    | none =>
      simp only [step, gate_recount, parties_recount, setGate_recount]
      split <;> rfl
  | blocked g shield w => exact AtGate.blocked.step_recount b missing generation w c fault
  | claiming g shield w => exact AtGate.claiming.step_recount b missing generation w c fault
  | finished r => rfl
  | _ => cases free

theorem Probe.step_recount {p : Probe} (free : p.holdsLock = false) (gauge : Gauge)
    (fault : Option PrimitiveError) :
    p.step (b.recount missing generation) gauge fault =
      (p.step b gauge fault).map fun t =>
        { t with barrier := t.barrier.recount missing generation } := by
  cases p with
  | enter => cases fault <;> rfl
  | lock => by_cases held : b.locked = true <;> simp [step, held]; rfl
  | finished r => rfl
  | _ => cases free

theorem Teardown.step_recount {t : Teardown} (free : t.holdsLock = false)
    (fault : Option PrimitiveError) :
    t.step (b.recount missing generation) fault =
      (t.step b fault).map fun u => { u with barrier := u.barrier.recount missing generation } := by
  cases t with
  | lock | finished => rfl
  | _ => cases free

end Recount

end Barrier

/-! ## Operations -/

/-- The same with another count at barrier `b`. -/
def Arena.recount (a : Arena) (b : Nat) (missing : UInt32) (generation : UInt64) : Arena :=
  a.setBarrier b ((a.barrier b).recount missing generation)

theorem Arena.barrier_recount_self {a : Arena} {b : Nat} (hb : b < a.barriers.size)
    (missing : UInt32) (generation : UInt64) :
    (a.recount b missing generation).barrier b = (a.barrier b).recount missing generation :=
  Arena.barrier_setBarrier_self _ hb

theorem Arena.setBarrier_recount {a : Arena} {b : Nat} (hb : b < a.barriers.size) (x : Barrier)
    (missing : UInt32) (generation : UInt64) :
    (a.recount b missing generation).setBarrier b (x.recount missing generation) =
      (a.setBarrier b x).recount b missing generation := by
  rw [Arena.recount, Arena.recount, Arena.barrier_setBarrier_self x hb]
  simp [Arena.setBarrier]

namespace Handle

variable {a : Arena} {h b : Nat} {d : Cancellation} {supply : Supply}
  {fault : Option PrimitiveError} {op : Operation} {turn : Operation.Turn}

/-- The operation is about to post, at a gate or on its way there, or it is over, in the barrier or
altogether. -/
def Operation.letsGo : Operation → Bool
  | inside _ w => w.letsGo
  | probe _ _ (.finished _) | finished _ => true
  | _ => false

theorem Operation.locks_of_letsGo (lets : op.letsGo = true) (b : Nat) : op.locks b = false := by
  cases op with
  | inside c w => simp [locks, hands, Wait.holdsLock_of_letsGo lets]
  | probe c gauge p =>
    cases p with
    | finished r => rfl
    | _ => cases lets
  | finished r => rfl
  | _ => cases lets

theorem Operation.step_handling (move : op.step a h d supply fault = some turn)
    (uses : op.uses = some b) :
    turn.events.foldlM Event.handling (op.locks b) = some (turn.stage.locks b) := by
  cases stride_of_step move with
  | inside stepped =>
    obtain rfl := Option.some.inj uses
    have handled := Wait.step_handling stepped
    simpa [locks, hands] using handled
  | probe stepped =>
    obtain rfl := Option.some.inj uses
    have handled := Probe.step_handling stepped
    simpa [locks, hands] using handled
  | tearDown stepped =>
    obtain rfl := Option.some.inj uses
    have handled := Teardown.step_handling stepped
    simpa [locks, hands] using handled
  | seize =>
    obtain rfl := Option.some.inj uses
    simp [locks, hands, Event.handling, Event.takesLock]
  | clear | detach =>
    obtain rfl := Option.some.inj uses
    rfl
  | outside | probed | seizeNot | tornDown => rfl
  | _ => cases uses

/-- Away from a barrier nobody has its lock or comes to have it. -/
theorem Operation.locks_of_apart (move : op.step a h d supply fault = some turn)
    (apart : op.uses ≠ some b) : turn.stage.locks b = op.locks b := by
  have lacks : op.locks b = false := decide_eq_false fun locks => apart (uses_of_locks locks)
  rw [lacks]
  cases stride_of_step move with
  | @inside c | @probe c | @tearDown c | @seize c | @clear c | @detach c =>
    have ne : c ≠ b := fun same => apart (congrArg some same)
    simp [locks, hands, ne]
  | look | leave | inspect | release | giveUp | unguard | abandon => simp [locks]
  | _ => rfl

theorem Operation.step_recount (hb : b < a.barriers.size) (free : op.locks b = false)
    (guarded : ∀ e, op = .guard e → e.guarded = true) (missing : UInt32) (generation : UInt64) :
    op.step (a.recount b missing generation) h d supply fault =
      (op.step a h d supply fault).map fun t =>
        { t with arena := t.arena.recount b missing generation } := by
  by_cases uses : op.uses = some b
  · cases op with
    | inside c w =>
      obtain rfl := Option.some.inj uses
      have free : w.holdsLock = false := by simpa [locks, hands] using free
      by_cases ended : ∃ r, w = .finished r
      · obtain ⟨r, rfl⟩ := ended
        rfl
      · rw [step_inside fun r hr => ended ⟨r, hr⟩, step_inside fun r hr => ended ⟨r, hr⟩,
          Arena.barrier_recount_self hb, Wait.step_recount _ _ _ free, Option.map_map,
          Option.map_map]
        exact Option.map_congr fun t _ => by simp only [Function.comp, Arena.setBarrier_recount hb]
    | probe c gauge p =>
      obtain rfl := Option.some.inj uses
      have free : p.holdsLock = false := by simpa [locks, hands] using free
      by_cases ended : ∃ r, p = .finished r
      · obtain ⟨r, rfl⟩ := ended
        rfl
      · rw [step_probe fun r hr => ended ⟨r, hr⟩, step_probe fun r hr => ended ⟨r, hr⟩,
          Arena.barrier_recount_self hb, Probe.step_recount _ _ _ free, Option.map_map,
          Option.map_map]
        exact Option.map_congr fun t _ => by simp only [Function.comp, Arena.setBarrier_recount hb]
    | tearDown c t =>
      obtain rfl := Option.some.inj uses
      have free : t.holdsLock = false := by simpa [locks, hands] using free
      by_cases ended : t = .finished
      · subst ended
        rfl
      · rw [step_tearDown ended, step_tearDown ended, Arena.barrier_recount_self hb,
          Teardown.step_recount _ _ _ free, Option.map_map, Option.map_map]
        exact Option.map_congr fun u _ => by simp only [Function.comp, Arena.setBarrier_recount hb]
    | seize c =>
      obtain rfl := Option.some.inj uses
      simp only [step, Arena.barrier_recount_self hb, locked_recount]
      by_cases busy : (fault.isSome || (a.barrier c).locked) = true
      · rw [if_pos busy, if_pos busy]
        rfl
      · rw [if_neg busy, if_neg busy, Option.map_some, ← Arena.setBarrier_recount hb]
        rfl
    | clear c | detach c =>
      have held : some c ≠ some b := of_decide_eq_false free
      exact absurd uses held
    | _ => cases uses
  · have alike : ((a.barrier b).recount missing generation).parties = (a.barrier b).parties ∨
        op.hands.owns ≠ some b ∧ a.slot h ≠ .live b := .inl rfl
    rw [Arena.recount, step_setBarrier hb uses alike]
    refine Option.map_congr fun t moved => ?_
    have same : t.arena.barrier b = a.barrier b := (step_deed guarded moved).untouched hb uses
    rw [Arena.recount, same]

end Handle

namespace Traffic

variable {mayFail : Ask → Bool} {s t u : Traffic} {m : Move} {moves : List Move} {i j b : Nat}
  {v w : Job} {handles : List (Option UInt32)} {settings : Nat → Cancellation}

/-! ## What a call tells -/

/-- What a move tells as a turn of call `i` at barrier `b`. -/
def tells (i b : Nat) (s : Traffic) : Move → List Event
  | .go j supply fault =>
      if j = i then
        match s.jobs[i]? with
        | some v =>
            if v.stage.uses = some b then
              ((v.stage.step s.arena v.handle (s.settings v.thread) supply fault).map
                (·.events)).getD []
            else []
        | none => []
      else []
  | _ => []

/-- All that call `i` tells of barrier `b` on a run. -/
def told (mayFail : Ask → Bool) (i b : Nat) : Traffic → List Move → List Event :=
  Schedule.gather (step mayFail) (tells i b)

/-- Call `i` has the lock of barrier `b`. -/
def hasLock (s : Traffic) (i b : Nat) : Bool := (s.jobs[i]?).any (Job.locks b)

theorem tells_of_ne (other : m.job? ≠ some i) : tells i b s m = [] := by
  cases m with
  | go j => exact if_neg fun same => other (congrArg some same)
  | _ => rfl

theorem step_handling (move : s.step mayFail m = some t) :
    (tells i b s m).foldlM Event.handling (s.hasLock i b) = some (t.hasLock i b) := by
  by_cases own : m.job? = some i
  · cases step_effect move with
    | begins => cases own
    | sets quiet => cases quiet.symm.trans own
    | @goes j supply fault v turn hv _ moved =>
      obtain rfl := Option.some.inj own
      have now : (s.after j v turn).jobs[j]? = some (v.enter s.books turn.stage) :=
        List.getElem?_set_self (List.getElem?_eq_some_iff.mp hv).1
      simp only [hasLock, now, hv, Option.any_some, tells, if_true, moved, Option.map_some,
        Option.getD_some]
      split
      · next uses => exact Operation.step_handling moved uses
      · next apart => exact congrArg some (Operation.locks_of_apart moved apart).symm
  · rw [tells_of_ne own]
    refine congrArg some ?_
    unfold hasLock
    cases hv : s.jobs[i]? with
    | some v =>
      obtain ⟨w, hw, -, -, ⟨rfl, -⟩ | turned⟩ := job_step move hv
      · rw [hw]
      · cases turned
        exact absurd rfl own
    | none =>
      cases hw : t.jobs[i]? with
      | none => rfl
      | some w =>
        rcases job_of_step move hw with ⟨v, hv', -⟩ | ⟨-, -, first⟩
        · cases hv.symm.trans hv'
        · simp [Job.locks, Operation.locks, first]

/-- No call is ever stopped, and at the end it has the lock if its stage says so. -/
theorem told_handling (run : Schedule.run (step mayFail) (start handles settings) moves = some s) :
    (told mayFail i b (start handles settings) moves).foldlM Event.handling false =
      some (s.hasLock i b) := by
  refine Schedule.run_induction (P := fun moves s =>
    (told mayFail i b (start handles settings) moves).foldlM Event.handling false =
      some (s.hasLock i b)) rfl ?_ run
  intro moves m t u reach move ih
  rw [told, Schedule.gather_concat reach move, List.foldlM_append]
  exact (congrArg (· >>= _) ih).trans (step_handling move)

/-! ## Who may count -/

/-- The same with another count at barrier `b`. -/
def recount (s : Traffic) (b : Nat) (missing : UInt32) (generation : UInt64) : Traffic :=
  { s with arena := s.arena.recount b missing generation }

/-- A move of a call that does not have the lock neither reads the count nor writes it. -/
theorem Custody.step_recount (c : Custody s) (hb : b < s.arena.barriers.size)
    (free : ∀ i, m.job? = some i → s.hasLock i b = false) (missing : UInt32) (generation : UInt64) :
    (s.recount b missing generation).step mayFail m =
      (s.step mayFail m).map (·.recount b missing generation) := by
  refine step_mapArena (f := (·.recount b missing generation)) (fun _ => rfl)
    (fun a => Arena.size_setBarrier a b _) fun j w whose hw supply fault => ?_
  have lacks : w.stage.locks b = false := by simpa [hasLock, hw, Job.locks] using free j whose
  refine Operation.step_recount hb lacks (fun e stage => ?_) missing generation
  have serves := c.serves w (List.mem_of_getElem? hw)
  rw [stage] at serves
  exact serves.1

/-! ## The lock at the end of a barrier -/

/-- A lock that is about to be torn down is free. -/
theorem Custody.unlocked_of_tearDown (c : Custody s) (hv : v ∈ s.jobs)
    (stage : v.stage = .tearDown b .lock) : (s.arena.barrier b).locked = false := by
  obtain ⟨i, hi⟩ := List.mem_iff_getElem?.mp hv
  have owns : v.stage.hands.owns = some b := by rw [stage]; rfl
  have most := Nat.le_trans (c.owned b) (Bool.toNat_le _)
  have inHand := owns_pos hv owns
  -- whoever had the lock would be at the barrier, which is in the hand of this call
  have nobody : s.jobs.countP (Job.locks b) = 0 := by
    refine List.countP_eq_zero.mpr fun w hw locks => ?_
    have locks : w.stage.hands.locks = some b := of_decide_eq_true locks
    rcases (c.fits w hw).place (Operation.uses_of_locks locks) with slot | owns'
    · have inSlot := Arena.owning_pos slot
      omega
    · obtain ⟨j, hj⟩ := List.mem_iff_getElem?.mp hw
      obtain rfl := eq_of_countP_le_one (p := Job.owns b) (by omega) hj hi
        (decide_eq_true owns') (decide_eq_true owns)
      obtain rfl := Option.some.inj (hj.symm.trans hi)
      rw [stage] at locks
      cases locks
  rw [c.locked b] at nobody
  exact Bool.toNat_eq_zero.mp nobody

/-- So it never refuses to go. -/
theorem Custody.no_refusal (c : Custody s) (hv : v ∈ s.jobs) (stage : v.stage = .tearDown b .lock)
    {supply : Supply} {fault : Option PrimitiveError} {turn : Operation.Turn}
    (moved : v.stage.step s.arena v.handle (s.settings v.thread) supply fault = some turn)
    (e : PrimitiveError) : ⟨.lockDestroy, .failed e⟩ ∉ turn.events := by
  have free := c.unlocked_of_tearDown hv stage
  rw [stage] at moved
  obtain rfl := Option.some.inj moved
  cases fault <;> simp [Teardown.lockEvents, free, teardownEvents]

/-! ## Destroys that find the barrier busy -/

/-- A turn of call `i` leaves some barrier otherwise than it was. -/
def Disturbs (i : Nat) (s : Traffic) (m : Move) (t : Traffic) : Prop :=
  m.job? = some i ∧ t.arena.barriers ≠ s.arena.barriers

/-- A destroy disturbs a barrier only with its lock in hand, and then it will be done. -/
theorem disturbs_of_destroy (c : Custody s) (hv : s.jobs[i]? = some v)
    (aim : v.purpose = .inquire .destroy) (move : s.step mayFail m = some t)
    (turned : Job.Turned s i v m t w) (disturbed : t.arena.barriers ≠ s.arena.barriers) :
    (∃ b, w.stage = .clear b) ∨ ∃ b, Dismantles b w.stage := by
  cases turned with
  | @took supply fault turn moved =>
    have mem := List.mem_of_getElem? hv
    have serves := c.serves v mem
    have fits := c.fits v mem
    rw [aim] at serves
    have changed : turn.arena.barriers ≠ s.arena.barriers := disturbed
    show (∃ b, turn.stage = .clear b) ∨ ∃ b, Dismantles b turn.stage
    generalize v.stage = op at serves fits moved
    cases Operation.stride_of_step moved with
    | seize => exact .inl ⟨_, rfl⟩
    | @tearDown b => exact .inr ⟨b, rfl⟩
    | inside | probe => cases serves
    | @built e =>
      cases e with
      | discard =>
        obtain ⟨n, nothing, -⟩ := fits
        exact nothing.elim
      | _ => cases serves
    | _ => exact absurd rfl changed

/-- If call `i` is a destroy, it has disturbed nothing until it has come to have the lock. -/
structure Spares (mayFail : Ask → Bool) (handles : List (Option UInt32))
    (settings : Nat → Cancellation) (i : Nat) (moves : List Move) (s : Traffic) : Prop where
  absent : s.jobs[i]? = none →
    ¬ Schedule.Passes (step mayFail) (start handles settings) moves (Disturbs i)
  present : ∀ v, s.jobs[i]? = some v → v.purpose = .inquire .destroy →
    ((∃ b, v.stage = .clear b) ∨ ∃ b, Dismantles b v.stage) ∨
      ¬ Schedule.Passes (step mayFail) (start handles settings) moves (Disturbs i)

/-- A call that has not begun disturbs nothing. -/
theorem not_disturbs_of_absent {t u : Traffic} {m : Move} (move : t.step mayFail m = some u)
    (absent : t.jobs[i]? = none) : ¬ Disturbs i t m u := by
  intro disturbs
  have own := disturbs.1
  cases step_effect move with
  | begins => cases own
  | sets quiet => cases quiet.symm.trans own
  | goes hu =>
    obtain rfl := Option.some.inj own
    cases absent.symm.trans hu

theorem Spares.step {t u : Traffic} {m : Move}
    (reach : Schedule.run (Traffic.step mayFail) (start handles settings) moves = some t)
    (move : t.step mayFail m = some u) (h : Spares mayFail handles settings i moves t) :
    Spares mayFail handles settings i (moves ++ [m]) u := by
  have custody := Custody.of_reaches (Schedule.reaches_run reach)
  -- somebody else's move disturbs nothing on this call's account
  have others (calm : ¬ Disturbs i t m u)
      (undone : ¬ Schedule.Passes (Traffic.step mayFail) (start handles settings) moves
        (Disturbs i)) :
      ¬ Schedule.Passes (Traffic.step mayFail) (start handles settings) (moves ++ [m])
        (Disturbs i) :=
    fun passes => (Schedule.Passes.of_concat passes reach move).elim undone calm
  constructor
  case absent =>
    intro absent
    have absent' : t.jobs[i]? = none := by
      cases hv : t.jobs[i]? with
      | none => rfl
      | some v =>
        obtain ⟨w, hw, -⟩ := job_step move hv
        cases absent.symm.trans hw
    exact others (not_disturbs_of_absent move absent') (h.absent absent')
  case present =>
    intro w hw aim
    rcases job_of_step move hw with ⟨v, hv, -, purpose, ⟨rfl, other⟩ | turned⟩ | ⟨new, begins, -⟩
    · exact (h.present w hv aim).imp_right (others fun own => other own.1)
    · rcases h.present v hv (purpose.symm.trans aim) with (⟨b, stage⟩ | ⟨b, leaving⟩) | undone
      · cases turned with
        | took moved =>
          rw [stage] at moved
          obtain rfl := Option.some.inj moved
          exact .inl (.inr ⟨b, rfl⟩)
      · cases turned with
        | took moved => exact .inl (.inr ⟨b, leaving.step moved⟩)
      · by_cases changed : u.arena.barriers = t.arena.barriers
        · exact .inr (others (fun disturbs => disturbs.2 changed) undone)
        · exact .inl (disturbs_of_destroy custody hv (purpose.symm.trans aim) move turned changed)
    · have absent : t.jobs[i]? = none := List.getElem?_eq_none_iff.mpr (Nat.le_of_eq new.symm)
      exact .inr (others (not_disturbs_of_absent move absent) (h.absent absent))

/-- A destroy that has come to have the lock will be done; until then it has disturbed nothing. -/
theorem undisturbed_of_destroy
    (run : Schedule.run (step mayFail) (start handles settings) moves = some s)
    (hv : s.jobs[i]? = some v) (aim : v.purpose = .inquire .destroy) :
    ((∃ b, v.stage = .clear b) ∨ ∃ b, Dismantles b v.stage) ∨
      ¬ Schedule.Passes (step mayFail) (start handles settings) moves (Disturbs i) := by
  have spares : Spares mayFail handles settings i moves s := by
    refine Schedule.run_induction (P := Spares mayFail handles settings i) ?_ ?_ run
    · constructor
      · rintro - ⟨early, m, late, t, u, split, -⟩
        simp at split
      · intro v hv
        cases hv
    · intro moves m t u reach move before
      exact before.step reach move
  exact spares.present v hv aim

/-! ## All of it -/

/-- The lock of a barrier is handled properly by every call, also by those that fail: its events
take the lock and give it back in turn, and after the last of them the call has it exactly if its
stage says so. At most one of all calls has a lock, and it is locked then (`Custody.locked`); it is
what guards the count, because no turn without it depends on the count. A destroy that finds the
barrier busy has disturbed nothing, for until it has the lock it only looks and tries; and a lock
that is torn down is free by then, as nobody is left who could have it. -/
theorem lock_disciplined
    (run : Schedule.run (step mayFail) (start handles settings) moves = some s) :
    -- from the first event that a call tells of a barrier to the last, it takes the lock only when it
    -- does not have it, gives it back only when it has it, and does not have it when it goes to a
    -- gate; when it is about to post, at a gate or over, it has given the lock back as often as it
    -- has taken it
    (∀ (i : Nat) (v : Job) b, s.jobs[i]? = some v →
      (told mayFail i b (start handles settings) moves).foldlM Event.handling false =
          some (v.stage.locks b) ∧
        (v.stage.letsGo = true → v.stage.locks b = false ∧
          (told mayFail i b (start handles settings) moves).countP Event.takesLock =
            (told mayFail i b (start handles settings) moves).countP Event.givesLock)) ∧
      -- what a call has taken is locked, and no other call has it
      (∀ (i j : Nat) (v w : Job) b, s.jobs[i]? = some v → s.jobs[j]? = some w → v.stage.locks b = true →
        (s.arena.barrier b).locked = true ∧ (w.stage.locks b = true → i = j)) ∧
      -- whoever does not have the lock neither reads the count nor writes it
      (∀ b m, b < s.arena.barriers.size → (∀ i, m.job? = some i → s.hasLock i b = false) →
        ∀ missing generation, (s.recount b missing generation).step mayFail m =
          (s.step mayFail m).map (·.recount b missing generation)) ∧
      -- a destroy that has found the barrier busy has left all barriers as they were
      (∀ (i : Nat) (v : Job) e, s.jobs[i]? = some v → v.purpose = .inquire .destroy →
        v.stage = .finished (.error (.busy e)) →
          ¬ Schedule.Passes (step mayFail) (start handles settings) moves (Disturbs i)) ∧
      -- a lock that is about to be torn down is free, and does not refuse
      ∀ v ∈ s.jobs, ∀ b, v.stage = .tearDown b .lock →
        (s.arena.barrier b).locked = false ∧ ∀ supply fault turn,
          v.stage.step s.arena v.handle (s.settings v.thread) supply fault = some turn →
            ∀ e, ⟨.lockDestroy, .failed e⟩ ∉ turn.events := by
  have c := Custody.of_reaches (Schedule.reaches_run run)
  have handled {i : Nat} {v : Job} (b : Nat) (hv : s.jobs[i]? = some v) :
      (told mayFail i b (start handles settings) moves).foldlM Event.handling false =
        some (v.stage.locks b) := by
    have handled := told_handling (i := i) (b := b) run
    simpa [hasLock, hv, Job.locks] using handled
  refine ⟨fun i v b hv => ⟨handled b hv, fun lets => ?_⟩,
    fun i j v w b hv hw has => ⟨?_, fun has' => ?_⟩,
    fun b m hb free missing generation => c.step_recount hb free missing generation,
    fun i v e hv aim busy => ?_,
    fun v hv b stage => ⟨c.unlocked_of_tearDown hv stage, fun supply fault turn moved e =>
      c.no_refusal hv stage moved e⟩⟩
  · have free := Operation.locks_of_letsGo lets b
    have balance := Event.handling_balance (handled b hv)
    rw [free] at balance
    exact ⟨free, balance⟩
  · exact c.locked_of_locks (List.mem_of_getElem? hv) (of_decide_eq_true has)
  · have one : s.jobs.countP (Job.locks b) ≤ 1 := by
      rw [c.locked b]
      exact Bool.toNat_le _
    exact eq_of_countP_le_one one hv hw has has'
  · rcases undisturbed_of_destroy run hv aim with (⟨b, stage⟩ | ⟨b, leaving⟩) | undone
    · cases stage.symm.trans busy
    · rw [busy] at leaving
      cases leaving
    · exact undone

/-- A thread comes and leaves again, because it is asked to stop. Another one tries for the lock, and
the try is made to fail; it calls again and gets as far as tearing the lock down. -/
def turnedAway : List Move :=
  .begin 0 0 (.inquire .wait) :: Move.goes 0 24 ++ [.request 0] ++ Move.goes 0 9 ++
    .begin 1 0 (.inquire .destroy) :: Move.goes 1 5 ++ [.go 1 {} (some .canceled), .go 1] ++
    .begin 1 0 (.inquire .destroy) :: Move.goes 2 11

/-- One handle that waits to be used by two, and threads that may be asked to stop anywhere. -/
def unused : Traffic := start [some 2] fun _ => { type := .asynchronous }

def aboutToLetGo : Traffic := (Schedule.run (step anything) unused turnedAway).get (by decide)

theorem lock_disciplined_turnedAway :
    Schedule.run (step anything) unused turnedAway = some aboutToLetGo ∧
      (told anything 0 0 unused turnedAway).countP Event.takesLock =
        (told anything 0 0 unused turnedAway).countP Event.givesLock ∧
      ¬ Schedule.Passes (step anything) unused turnedAway (Disturbs 1) ∧
      (aboutToLetGo.recount 0 1 5).step anything (.go 2) =
        (aboutToLetGo.step anything (.go 2)).map (·.recount 0 1 5) ∧
      (aboutToLetGo.arena.barrier 0).locked = false := by
  have run : Schedule.run (step anything) unused turnedAway = some aboutToLetGo :=
    (Option.some_get (by decide)).symm
  obtain ⟨handled, -, counted, busy, torn⟩ := lock_disciplined run
  have first := List.getElem?_eq_getElem (show 0 < aboutToLetGo.jobs.length by decide)
  have second := List.getElem?_eq_getElem (show 1 < aboutToLetGo.jobs.length by decide)
  have third := List.getElem?_eq_getElem (show 2 < aboutToLetGo.jobs.length by decide)
  refine ⟨run, ((handled 0 _ 0 first).2 (by decide)).2, busy 1 _ .lockHeld second rfl rfl,
    counted 0 (.go 2) (by decide) (fun i same => ?_) 1 5,
    (torn _ (List.mem_of_getElem? third) 0 rfl).1⟩
  obtain rfl := Option.some.inj same
  decide

end Traffic

end Rendezvous
