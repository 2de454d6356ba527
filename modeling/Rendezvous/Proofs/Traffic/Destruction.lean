import Rendezvous.Proofs.Traffic.Seclusion

/-!
# Destroying

A destroy of a handle that owns a barrier answers that it is done only if it has emptied the slot
itself, and it empties the slot only while nobody else is in the barrier (`takesOut_of_done`). From
then on the barrier is out of everybody's reach (`Custody.secluded`), and whoever waits at the handle
is told that there is nothing to wait at (`Custody.refuses`), until somebody builds another barrier
into it (`Custody.refilled`).

With nobody else in a call on the handle, a destroy goes through thirteen stages in a fixed order,
none of which can be kept from going on (`OnCourse`): the slot is free because nobody holds it, and
the lock is free because whoever holds the lock is in the barrier, whatever has happened to the
barrier before.
-/

set_option autoImplicit false

namespace Rendezvous

open Barrier Handle

namespace Handle

variable {a : Arena} {h b n : Nat} {d : Cancellation} {supply : Supply}
  {fault : Option PrimitiveError} {op : Operation} {turn : Operation.Turn}

/-! ## How a destroy comes to say that it is done -/

theorem Operation.answer?_stage {n : Next} (unsettled : ∀ r, n ≠ .answer r) :
    n.stage.answer? = none := by
  cases n with
  | answer r => exact absurd rfl (unsettled r)
  | _ => rfl

theorem Operation.answer?_afterSlot_next {e : Errand} {n : Next} (unsettled : ∀ r, n ≠ .answer r) :
    (e.afterSlot n).answer? = none := by
  unfold Errand.afterSlot
  split
  · cases n with
    | answer r => exact absurd rfl (unsettled r)
    | _ => rfl
  · exact answer?_stage unsettled

/-- It has written the slot, as the discard of an unused handle or as the end of a barrier. -/
theorem Operation.done_of_step (serves : op.Serves (.inquire .destroy))
    (unsettled : op.answer? = none) (move : op.step a h d supply fault = some turn)
    (done : turn.stage.answer? = some (.ok .done)) :
    (∃ e new, op = .store e new) ∨ ∃ b, op = .clear b := by
  cases stride_of_step move with
  | look =>
    cases serves
    cases slot : a.slot h <;> simp only [slot, Inquiry.look, answer?] at done <;> cases done
  | inside | probe => cases serves
  | @leave n | @unguard n | @abandon n =>
    have going : ∀ r, n ≠ .answer r := by
      rintro r rfl
      cases unsettled
    cases (answer?_stage going).symm.trans done
  | @inspect e =>
    cases e with
    | discard =>
      cases slot : a.slot h <;> simp only [slot, Errand.inspect, answer?] at done <;> cases done
    | _ => cases serves
  | @build e s t =>
    obtain ⟨stage, _, _⟩ := t
    cases stage with
    | finished r => cases r <;> cases done
    | _ => cases done
  | @store e new => exact .inl ⟨e, new, rfl⟩
  | @release e n | @giveUp e n =>
    have going : ∀ r, n ≠ .answer r := by
      rintro r rfl
      cases unsettled
    cases (answer?_afterSlot_next going).symm.trans done
  | @clear b => exact .inr ⟨b, rfl⟩
  | outside | probed => cases serves
  | detach | tearDown | tornDown => cases unsettled
  | _ => cases done

/-! ## Looking at an empty slot -/

/-- The operation is about to look at its slot. -/
def Operation.looks : Operation → Bool
  | look _ | inspect _ => true
  | _ => false

theorem Operation.refused_of_looks (looks : op.looks = true) (serves : op.Serves (.inquire .wait))
    (empty : a.slot h = .empty) (d : Cancellation) (supply : Supply)
    (fault : Option PrimitiveError) :
    ∃ turn e, op.step a h d supply fault = some turn ∧
      turn.stage.answer? = some (.error (.invalidArgument e)) := by
  cases op with
  | look q =>
    cases serves
    exact ⟨_, .notInitialized, rfl, by simp only [Inquiry.look, empty, answer?]⟩
  | inspect e =>
    cases e with
    | resolve =>
      exact ⟨_, .destroyedWhilePending, rfl, by simp only [Errand.inspect, empty, answer?]⟩
    | _ => cases serves
  | _ => cases looks

/-! ## The course of a destroy -/

/-- The stages of a destroy that nothing gets in the way of. -/
def destroyCourse (b : Nat) : List Operation :=
  [.knock .destroy, .look .destroy, .leave .claim, .claim, .verify, .seize b, .clear b, .detach b,
    .tearDown b .evenGate, .tearDown b .oddGate, .tearDown b .unlock, .tearDown b .lock,
    .tearDown b .finished, .finished (.ok .done)]

/-- What is in the way of a destroy at each of its stages, if it is not in the way, keeps no stage
from leading to the next. -/
theorem destroyCourse_step (place : (destroyCourse b)[n]? = some op) (more : n < 13)
    (free : n = 0 ∨ n = 3 → (a.holds h).free = true) (live : n ≤ 5 → a.slot h = .live b)
    (unlocked : n = 5 → (a.barrier b).locked = false ∧ fault = none) :
    ∃ turn, op.step a h d supply fault = some turn ∧
      (destroyCourse b)[n + 1]? = some turn.stage ∧ (n ≤ 5 → turn.arena.slot h = .live b) := by
  match n, more with
  | 0, _ =>
    obtain rfl := Option.some.inj place
    have free := free (.inl rfl)
    simp only [Holds.free, Bool.and_eq_true, Bool.not_eq_true'] at free
    refine ⟨⟨a.setHolds h (a.holds h).share, d, .look .destroy, [], []⟩, ?_, rfl, fun _ => ?_⟩
    · simp [Operation.step, Holds.mayShare, free.2]
    · exact (Arena.slot_setHolds ..).trans (live (by decide))
  | 1, _ =>
    obtain rfl := Option.some.inj place
    refine ⟨_, rfl, ?_, fun _ => live (by decide)⟩
    rw [live (by decide)]
    rfl
  | 2, _ =>
    obtain rfl := Option.some.inj place
    exact ⟨_, rfl, rfl, fun _ => (Arena.slot_setHolds ..).trans (live (by decide))⟩
  | 3, _ =>
    obtain rfl := Option.some.inj place
    exact ⟨_, if_pos (free (.inr rfl)), rfl,
      fun _ => (Arena.slot_setHolds ..).trans (live (by decide))⟩
  | 4, _ =>
    obtain rfl := Option.some.inj place
    refine ⟨⟨a, d, .seize b, [], []⟩, ?_, rfl, fun _ => live (by decide)⟩
    simp [Operation.step, live]
  | 5, _ =>
    obtain rfl := Option.some.inj place
    obtain ⟨unlocked, lucky⟩ := unlocked rfl
    refine ⟨⟨a.setBarrier b (a.barrier b).lock, d, .clear b, [⟨.tryLock, .flag true⟩], []⟩, ?_, rfl,
      fun _ => live (by decide)⟩
    simp [Operation.step, unlocked, lucky]
  | 6, _ | 7, _ | 8, _ | 9, _ | 10, _ | 11, _ | 12, _ =>
    obtain rfl := Option.some.inj place
    exact ⟨_, rfl, rfl, fun early => absurd early (by decide)⟩

end Handle

namespace Traffic

variable {mayFail : Ask → Bool} {s t u : Traffic} {m : Move} {moves : List Move} {h i j b n : Nat}
  {v w : Job}

/-! ## Destroys that answer that they are done -/

/-- Call `i` takes a barrier out of slot `h` while nobody else works at it. -/
def TakesOut (h i : Nat) (s : Traffic) (m : Move) (t : Traffic) : Prop :=
  m.job? = some i ∧ ∃ b, s.arena.slot h = .live b ∧ t.arena.slot h = .empty ∧ UsedOnlyBy s b i

/-- A destroy that comes to be done on a handle that has been used takes its barrier out. -/
theorem takesOut_of_settling (c : Custody s) (used : ∀ n, s.arena.slot h ≠ .unbuilt n)
    (hv : s.jobs[i]? = some v) (here : v.handle = h) (aim : v.purpose = .inquire .destroy)
    (move : s.step mayFail m = some t) (turned : Job.Turned s i v m t w)
    (unsettled : v.stage.answer? = none) (done : w.stage.answer? = some (.ok .done)) :
    TakesOut h i s m t := by
  cases turned with
  | @took supply fault turn moved =>
    have mem := List.mem_of_getElem? hv
    have fits := c.fits v mem
    have serves := c.serves v mem
    rw [aim] at serves
    rcases Operation.done_of_step serves unsettled moved done with ⟨e, new, stage⟩ | ⟨b, stage⟩
    · -- an errand of a destroy writes only unused slots
      rw [stage] at fits serves
      have fits : e.Plans s.arena (s.arena.slot v.handle) new := fits
      cases new with
      | empty =>
        obtain ⟨-, n, unused⟩ := fits
        rw [here] at unused
        exact absurd unused (used n)
      | live b => cases e <;> first | exact fits.elim | cases serves
      | unbuilt n => exact fits.elim
    · have alone := c.usedOnlyBy_of_clear hv stage
      rw [stage] at fits moved
      obtain rfl := Option.some.inj moved
      rw [← here]
      exact ⟨rfl, b, fits.1, Arena.slot_setSlot_self _ (c.known v mem), alone⟩

theorem takesOut_of_done (c : Custody s) (used : ∀ n, s.arena.slot h ≠ .unbuilt n)
    (hv : s.jobs[i]? = some v) (here : v.handle = h) (aim : v.purpose = .inquire .destroy)
    (unsettled : v.stage.answer? = none)
    (run : Schedule.run (step mayFail) s moves = some t) (hw : t.jobs[i]? = some w)
    (done : w.stage.answer? = some (.ok .done)) :
    Schedule.Passes (step mayFail) s moves (TakesOut h i) := by
  have kept := Schedule.run_induction
    (P := fun moves t => ∃ w, t.jobs[i]? = some w ∧ w.handle = h ∧ w.purpose = .inquire .destroy ∧
      (w.stage.answer? = some (.ok .done) →
        Schedule.Passes (step mayFail) s moves (TakesOut h i)))
    ⟨v, hv, here, aim, fun done => absurd (unsettled.symm.trans done) nofun⟩ ?_ run
  · obtain ⟨w', hw', -, -, passes⟩ := kept
    obtain rfl := Option.some.inj (hw'.symm.trans hw)
    exact passes done
  rintro moves m t u reach move ⟨w, hw, here, aim, passes⟩
  have reached := Schedule.reaches_run reach
  obtain ⟨w', hw', here', aim', became⟩ := job_step move hw
  refine ⟨w', hw', here'.trans here, aim'.trans aim, fun done => ?_⟩
  rcases became with ⟨rfl, -⟩ | turned
  · exact (passes done).concat m
  · cases settled : w.stage.answer? with
    | none =>
      have used : ∀ n, t.arena.slot h ≠ .unbuilt n := fun n unused =>
        used n (unbuilt_of_reaches c reached unused)
      have custody := reached.keeps Custody.step c
      exact .last reach move (takesOut_of_settling custody used hw here aim move turned settled done)
    | some r =>
      obtain ⟨w'', hw'', kept⟩ := answer?_of_step move hw settled
      obtain rfl := Option.some.inj (hw'.symm.trans hw'')
      exact (passes (settled.trans (kept.symm.trans done))).concat m

/-! ## Nobody in the way -/

/-- A handle on which all calls are over is free. -/
theorem Custody.free_of_idle (c : Custody s)
    (idle : ∀ w ∈ s.jobs, w.handle = h → w.stage.hands.grip = .none) :
    (s.arena.holds h).free = true := by
  have nobody (g : Grip) : (s.arena.holds h).count g = 0 := by
    rw [← c.holds h g]
    refine List.countP_eq_zero.mpr fun w hw grips => ?_
    simp only [Job.grips, Operation.grips, Bool.and_eq_true, decide_eq_true_eq] at grips
    exact grips.2.1 (grips.2.2.symm.trans (idle w hw grips.1))
  have sharers := nobody .shared
  have reserved := nobody .reserved
  have exclusive := nobody .exclusive
  simp only [Holds.count, Bool.toNat_eq_zero] at sharers reserved exclusive
  simp [Holds.free, sharers, reserved, exclusive]

/-- The lock of a barrier whose slot nobody holds is free. -/
theorem Custody.unlocked_of_idle (c : Custody s) (slot : s.arena.slot h = .live b)
    (idle : ∀ w ∈ s.jobs, w.handle = h → w.stage.hands.locks ≠ some b) :
    (s.arena.barrier b).locked = false := by
  have nobody : s.jobs.countP (Job.locks b) = 0 := by
    refine List.countP_eq_zero.mpr fun w hw locks => ?_
    have locks : w.stage.hands.locks = some b := of_decide_eq_true locks
    exact idle w hw (c.handle_of_uses slot hw (Operation.uses_of_locks locks)).1 locks
  rw [c.locked b] at nobody
  exact Bool.toNat_eq_zero.mp nobody

/-- Call `i` is a destroy of handle `h` at its stage number `n`, and all others on this handle are
over. -/
structure OnCourse (h b i n : Nat) (s : Traffic) : Prop where
  custody : Custody s
  standing : ∃ v, s.jobs[i]? = some v ∧ v.handle = h ∧ (destroyCourse b)[n]? = some v.stage
  live : n ≤ 6 → s.arena.slot h = .live b
  alone : ∀ j w, s.jobs[j]? = some w → j ≠ i → w.handle = h → w.stage.isOver = true

namespace OnCourse

/-- It can go on, and gets to its next stage. -/
theorem next (o : OnCourse h b i n s) (more : n < 13) (hv : s.jobs[i]? = some v) (supply : Supply)
    {fault : Option PrimitiveError} (lucky : n = 5 → fault = none) :
    ∃ turn, v.stage.step s.arena v.handle (s.settings v.thread) supply fault = some turn ∧
      (destroyCourse b)[n + 1]? = some turn.stage ∧ (n ≤ 5 → turn.arena.slot h = .live b) := by
  obtain ⟨v', hv', rfl, place⟩ := o.standing
  obtain rfl := Option.some.inj (hv.symm.trans hv')
  -- whoever else was on the handle has nothing left in hand, and this call has nothing yet
  have idle {P : Operation → Prop} (none : ∀ r, P (.finished r)) (here : P v.stage) :
      ∀ w ∈ s.jobs, w.handle = v.handle → P w.stage := by
    intro w hw same
    obtain ⟨j, hj⟩ := List.mem_iff_getElem?.mp hw
    by_cases me : j = i
    · subst me
      rw [← Option.some.inj (hv.symm.trans hj)]
      exact here
    · have ended := o.alone j w hj me same
      cases stage : w.stage with
      | finished r => exact none r
      | _ =>
        rw [stage] at ended
        cases ended
  refine destroyCourse_step place more (fun begins => ?_) (fun early => o.live (by omega))
    fun five => ⟨?_, lucky five⟩
  · refine o.custody.free_of_idle (idle (P := fun op => op.hands.grip = .none) (fun _ => rfl) ?_)
    rcases begins with rfl | rfl <;> obtain stage := Option.some.inj place <;> rw [← stage] <;> rfl
  · subst five
    refine o.custody.unlocked_of_idle (o.live (by decide))
      (idle (P := fun op => op.hands.locks ≠ some b) (fun _ => nofun) ?_)
    rw [← Option.some.inj place]
    exact nofun

/-- Whatever the others do elsewhere, it is as far on as it has had turns. -/
theorem step (o : OnCourse h b i n s) (lucky : mayFail .tryLock = false)
    (elsewhere : m.calls? ≠ some h) (move : s.step mayFail m = some t) :
    OnCourse h b i (if m.job? = some i then n + 1 else n) t := by
  obtain ⟨v, hv, here, place⟩ := o.standing
  have alone : ∀ j w, t.jobs[j]? = some w → j ≠ i → w.handle = h → w.stage.isOver = true := by
    intro j w hw ne same
    rcases job_of_step move hw with ⟨u, hu, handle, -, ⟨rfl, -⟩ | turned⟩ | ⟨-, begins, -⟩
    · exact o.alone j w hu ne same
    · cases turned with
      | took moved =>
        have ended := o.alone j u hu ne (handle.symm.trans same)
        cases stage : u.stage with
        | finished r =>
          rw [stage] at moved
          cases moved
        | _ =>
          rw [stage] at ended
          cases ended
    · rw [begins, same] at elsewhere
      exact absurd rfl elsewhere
  obtain ⟨w, hw, handle, -, ⟨rfl, other⟩ | turned⟩ := job_step move hv
  · rw [if_neg other]
    refine ⟨o.custody.step move, ⟨w, hw, here, place⟩, fun early => ?_, alone⟩
    -- only a call on the handle could have taken its barrier out
    by_contra changed
    obtain ⟨j, u, _, whose, hu, same, stage, -⟩ :=
      o.custody.emptying move (o.live early) changed
    have ended := o.alone j u hu (fun me => other (me ▸ whose)) same
    rw [stage] at ended
    cases ended
  · cases turned with
    | @took supply fault turn moved =>
      have more : n < 13 := by
        by_contra late
        obtain ⟨short, stage⟩ := List.getElem?_eq_some_iff.mp place
        obtain rfl : n = 13 := Nat.le_antisymm (Nat.le_of_lt_succ short) (Nat.le_of_not_lt late)
        rw [← stage] at moved
        cases moved
      have lucky : n = 5 → fault = none := by
        rintro rfl
        cases fault with
        | none => rfl
        | some e =>
          have may := permits_of_step move hv
          rw [← Option.some.inj place] at may
          cases lucky.symm.trans may
      obtain ⟨turn', moved', place', live'⟩ := o.next more hv supply lucky
      obtain rfl := Option.some.inj (moved'.symm.trans moved)
      rw [show (if (Move.go i supply fault).job? = some i then n + 1 else n) = n + 1 from if_pos rfl]
      exact ⟨o.custody.step move, ⟨_, hw, here, place'⟩,
        fun early => live' (Nat.le_of_succ_le_succ early), alone⟩

/-- So it is after any number of moves, and until it is over it can go on. -/
theorem run (o : OnCourse h b i 0 s) (lucky : mayFail .tryLock = false)
    (elsewhere : ∀ m ∈ moves, m.calls? ≠ some h)
    (run : Schedule.run (Traffic.step mayFail) s moves = some t) :
    OnCourse h b i (Move.turnsOf i moves) t := by
  have kept := Schedule.run_induction
    (P := fun moves t => (∀ m ∈ moves, m.calls? ≠ some h) →
      OnCourse h b i (Move.turnsOf i moves) t)
    (fun _ => o) ?_ run
  · exact kept elsewhere
  intro moves m t u _ move before elsewhere
  have o := before fun m hm => elsewhere m (List.mem_append_left _ hm)
  have next := o.step lucky (elsewhere m (List.mem_append_right _ List.mem_cons_self)) move
  rw [Move.turnsOf, List.countP_append, List.countP_singleton]
  by_cases own : m.job? = some i
  · simpa [Move.turnsOf, own] using next
  · simpa [Move.turnsOf, own] using next

theorem goes (o : OnCourse h b i n s) (more : n < 13) :
    (s.step mayFail (.go i)).isSome = true := by
  obtain ⟨v, hv, -, -⟩ := o.standing
  obtain ⟨turn, moved, -, -⟩ := o.next more hv {} fun _ => rfl
  simp [Traffic.step, hv, permits, moved]

/-- A destroy that begins on a handle that owns a barrier, with all other calls over. -/
theorem of_begin {thread : Nat} (c : Custody s) (live : s.arena.slot h = .live b)
    (idle : ∀ v ∈ s.jobs, v.handle = h → v.stage.isOver = true)
    (begins : s.step mayFail (.begin thread h (.inquire .destroy)) = some t) :
    OnCourse h b s.jobs.length 0 t := by
  obtain ⟨arena, jobs⟩ := jobs_of_begin begins
  refine ⟨c.step begins, ⟨_, by rw [jobs, List.getElem?_concat_length], rfl, rfl⟩,
    fun _ => by rw [arena]; exact live, fun j w hw ne same => ?_⟩
  have short := (List.getElem?_eq_some_iff.mp hw).1
  rw [jobs, List.length_append, List.length_singleton] at short
  rw [jobs, List.getElem?_append_left (by omega)] at hw
  exact idle w (List.mem_of_getElem? hw) same

end OnCourse

/-! ## What is left of a barrier and of its slot -/

/-- Whoever takes a barrier out of its slot is a destroy that will be done, alone with the barrier
then and ever after. -/
theorem Custody.secluded (c : Custody s) (live : s.arena.slot h = .live b)
    (move : s.step mayFail m = some t) (left : t.arena.slot h ≠ .live b) :
    t.arena.slot h = .empty ∧ ∃ i v, m.job? = some i ∧ s.jobs[i]? = some v ∧
      v.purpose = .inquire .destroy ∧ Settles mayFail t i (.ok .done) ∧ UsedOnlyBy s b i ∧
      ∀ u, Schedule.Reaches (Traffic.step mayFail) t u →
        UsedOnlyBy u b i ∧ (∀ k, u.arena.slot k ≠ .live b) ∧
        ∀ m x, m.job? ≠ some i →
          (u.withBarrier b x).step mayFail m = (u.step mayFail m).map (·.withBarrier b x) := by
  obtain ⟨i, v, w, whose, hv, here, stage, hw, taken, empty⟩ := c.emptying move live left
  have serves := c.serves v (List.mem_of_getElem? hv)
  rw [stage] at serves
  have custody := c.step move
  have gone := Gone.of_detach custody hw taken
  refine ⟨empty, i, v, whose, hv, serves, settles_of_answer? hw (by rw [taken]; rfl),
    c.usedOnlyBy_of_clear hv stage, fun u later => ?_⟩
  have custody' := later.keeps Custody.step custody
  have gone' := gone.of_reaches custody later
  exact ⟨gone'.usedOnlyBy custody', gone'.slot_ne,
    fun m x other => gone'.step_withBarrier custody' other x⟩

/-- Whoever comes to wait looks at an empty slot and is refused. -/
theorem Custody.refuses (c : Custody s) (empty : s.arena.slot h = .empty)
    (hv : s.jobs[i]? = some v) (here : v.handle = h) (aim : v.purpose = .inquire .wait)
    (looks : v.stage.looks = true) {supply : Supply} {fault : Option PrimitiveError}
    (move : s.step mayFail (.go i supply fault) = some t) :
    ∃ e, Settles mayFail t i (.error (.invalidArgument e)) := by
  have serves := c.serves v (List.mem_of_getElem? hv)
  rw [aim] at serves
  rw [← here] at empty
  obtain ⟨turn, e, moved, refused⟩ := Operation.refused_of_looks looks serves empty
    (s.settings v.thread) supply fault
  obtain ⟨w, hw, -, -, ⟨-, other⟩ | turned⟩ := job_step move hv
  · exact absurd rfl other
  · cases turned with
    | took moved' =>
      obtain rfl := Option.some.inj (moved'.symm.trans moved)
      exact ⟨e, settles_of_answer? hw refused⟩

/-- An empty slot is filled by an explicit init that will be done, and by nothing else. -/
theorem Custody.refilled (c : Custody s) (empty : s.arena.slot h = .empty)
    (move : s.step mayFail m = some t) :
    t.arena.slot h = .empty ∨
      ∃ i v parties shared, m.job? = some i ∧ s.jobs[i]? = some v ∧ v.handle = h ∧
        v.purpose = .init parties shared ∧ Settles mayFail t i (.ok .done) := by
  rcases c.change move h with still | ⟨i, v, w, whose, hv, hw, here, change, settled⟩
  · exact .inl (still.trans empty)
  · rw [empty] at change
    cases aim : v.purpose with
    | init parties shared =>
      exact .inr ⟨i, v, parties, shared, whose, hv, here, aim,
        settles_of_answer? hw (settled (by rw [aim]; nofun))⟩
    | inquire q =>
      rw [aim] at change
      cases change

/-! ## All of it -/

/-- A barrier is destroyed only while nobody else is in it, and nobody comes near it afterwards. It
leaves its slot by a destroy that has the slot to itself, and whoever is in a barrier shares the
slot that owns it; so nobody is there then, and nobody can get there later (`Custody.secluded`).
The empty slot refuses waits until an explicit init fills it, and with nobody else in a call a
destroy gets through, since what it needs is free then (`OnCourse`). -/
theorem destroy_safe {handles : List (Option UInt32)} {settings : Nat → Cancellation} (h : Nat)
    (run : Schedule.Reaches (step mayFail) (start handles settings) s) :
    -- a destroy that begins while the handle owns a barrier, and is done, has taken the handle's
    -- barrier out at a moment at which nobody else was in it
    (∀ b thread t moves u v, s.arena.slot h = .live b →
      s.step mayFail (.begin thread h (.inquire .destroy)) = some t →
      Schedule.run (step mayFail) t moves = some u → u.jobs[s.jobs.length]? = some v →
      v.stage = .finished (.ok .done) →
        Schedule.Passes (step mayFail) t moves (TakesOut h s.jobs.length)) ∧
      -- whenever a barrier leaves its slot, a destroy that will be done has taken it out, nobody
      -- else was in it, and nobody else will ever read it or write it
      (∀ b m t, s.arena.slot h = .live b → s.step mayFail m = some t → t.arena.slot h ≠ .live b →
        t.arena.slot h = .empty ∧ ∃ i v, m.job? = some i ∧ s.jobs[i]? = some v ∧
          v.purpose = .inquire .destroy ∧ Settles mayFail t i (.ok .done) ∧ UsedOnlyBy s b i ∧
          ∀ u, Schedule.Reaches (step mayFail) t u →
            UsedOnlyBy u b i ∧ (∀ k, u.arena.slot k ≠ .live b) ∧
            ∀ m x, m.job? ≠ some i →
              (u.withBarrier b x).step mayFail m = (u.step mayFail m).map (·.withBarrier b x)) ∧
      -- whoever looks at an empty slot to wait is refused, and the slot is empty until an explicit
      -- init that will be done has built into it
      (s.arena.slot h = .empty →
        (∀ i v supply fault t, s.jobs[i]? = some v → v.handle = h → v.purpose = .inquire .wait →
          v.stage.looks = true → s.step mayFail (.go i supply fault) = some t →
            ∃ e, Settles mayFail t i (.error (.invalidArgument e))) ∧
          ∀ m t, s.step mayFail m = some t → t.arena.slot h = .empty ∨
            ∃ i v parties shared, m.job? = some i ∧ s.jobs[i]? = some v ∧ v.handle = h ∧
              v.purpose = .init parties shared ∧ Settles mayFail t i (.ok .done)) ∧
      -- with all other calls on the handle over, and if the try for the lock is not made to fail,
      -- a destroy goes through its thirteen stages, one with each of its turns, and is done
      ∀ b thread t luck moves u, s.arena.slot h = .live b →
        (∀ v ∈ s.jobs, v.handle = h → v.stage.isOver = true) → luck .tryLock = false →
        s.step luck (.begin thread h (.inquire .destroy)) = some t →
        (∀ m ∈ moves, m.calls? ≠ some h) → Schedule.run (step luck) t moves = some u →
          ∃ v, u.jobs[s.jobs.length]? = some v ∧
            (destroyCourse b)[Move.turnsOf s.jobs.length moves]? = some v.stage ∧
            (Move.turnsOf s.jobs.length moves < 13 →
              (u.step luck (.go s.jobs.length)).isSome = true) := by
  have c := Custody.of_reaches run
  refine ⟨fun b thread t moves u v live begins moved hv ended => ?_,
    fun b m t live move left => c.secluded live move left,
    fun empty => ⟨fun i v supply fault t hv here aim looks move =>
      c.refuses empty hv here aim looks move, fun m t move => c.refilled empty move⟩,
    fun b thread t luck moves u live idle lucky begins elsewhere moved => ?_⟩
  · obtain ⟨arena, jobs⟩ := jobs_of_begin begins
    have used : ∀ n, t.arena.slot h ≠ .unbuilt n := fun n unused => by
      rw [arena, live] at unused
      cases unused
    exact takesOut_of_done (c.step begins) used (by rw [jobs, List.getElem?_concat_length]) rfl rfl
      rfl moved hv (by rw [ended]; rfl)
  · have course := (OnCourse.of_begin c live idle begins).run lucky elsewhere moved
    obtain ⟨v, hv, -, place⟩ := course.standing
    exact ⟨v, hv, place, course.goes⟩

/-- A thread waits for another one, is asked to stop, and leaves. -/
def cameAndLeft : List Move :=
  .begin 0 0 (.inquire .wait) :: Move.goes 0 24 ++ [.request 0] ++ Move.goes 0 9

/-- Anything may fail but the try for the lock. -/
def allButTheTry : Ask → Bool := fun ask => ask != .tryLock

def leftBehind : Traffic :=
  (Schedule.run (step allButTheTry) (start [some 2] fun _ => { type := .asynchronous })
    cameAndLeft).get (by decide)

/-- Another thread has called for the end of the barrier. -/
def calledFor : Traffic :=
  (leftBehind.step allButTheTry (.begin 1 0 (.inquire .destroy))).get (by decide)

/-- It has the slot and the lock. -/
def aboutToClear : Traffic :=
  (Schedule.run (step allButTheTry) calledFor (Move.goes 1 6)).get (by decide)

/-- It is done, and the first thread is about to look at the handle once more. -/
def lookingAgain : Traffic :=
  (Schedule.run (step allButTheTry) calledFor
    (Move.goes 1 13 ++ [.begin 0 0 (.inquire .wait), .go 2])).get (by decide)

theorem destroy_safe_cameAndLeft :
    Schedule.Reaches (step allButTheTry) (start [some 2] fun _ => { type := .asynchronous })
        leftBehind ∧
      leftBehind.arena.slot 0 = .live 0 ∧
      (∃ u v, Schedule.run (step allButTheTry) calledFor (Move.goes 1 13) = some u ∧
        u.jobs[1]? = some v ∧ v.stage = .finished (.ok .done) ∧
        Schedule.Passes (step allButTheTry) calledFor (Move.goes 1 13) (TakesOut 0 1)) ∧
      (∃ t, aboutToClear.step allButTheTry (.go 1) = some t ∧
        ∀ u, Schedule.Reaches (step allButTheTry) t u → UsedOnlyBy u 0 1) ∧
      ∃ t e, lookingAgain.step allButTheTry (.go 2) = some t ∧
        Settles allButTheTry t 2 (.error (.invalidArgument e)) := by
  have reached := Schedule.reaches_get (show (Schedule.run (step allButTheTry)
    (start [some 2] fun _ => { type := .asynchronous }) cameAndLeft).isSome by decide)
  have begins : leftBehind.step allButTheTry (.begin 1 0 (.inquire .destroy)) = some calledFor :=
    (Option.some_get (by decide)).symm
  have called := Schedule.Reaches.tail _ reached begins
  have cleared := called.trans (Schedule.reaches_get
    (show (Schedule.run (step allButTheTry) calledFor (Move.goes 1 6)).isSome by decide))
  have looking := called.trans (Schedule.reaches_get (show (Schedule.run (step allButTheTry) calledFor
    (Move.goes 1 13 ++ [.begin 0 0 (.inquire .wait), .go 2])).isSome by decide))
  obtain ⟨taken, -, -, course⟩ := destroy_safe 0 reached
  obtain ⟨-, gone, -⟩ := destroy_safe 0 cleared
  obtain ⟨-, -, refused, -⟩ := destroy_safe 0 looking
  refine ⟨reached, by decide, ?_, ?_, ?_⟩
  · have moved := (Option.some_get
      (show (Schedule.run (step allButTheTry) calledFor (Move.goes 1 13)).isSome by decide)).symm
    obtain ⟨v, hv, place, -⟩ := course 0 1 _ _ _ _ (by decide) (by decide) (by decide) begins
      (by decide) moved
    have ended : v.stage = .finished (.ok .done) := (Option.some.inj place).symm
    exact ⟨_, v, moved, hv, ended, taken 0 1 _ _ _ v (by decide) begins moved hv ended⟩
  · have moved := (Option.some_get
      (show (aboutToClear.step allButTheTry (.go 1)).isSome by decide)).symm
    obtain ⟨-, i, v, whose, -, -, -, -, later⟩ := gone 0 _ _ (by decide) moved (by decide)
    obtain rfl := Option.some.inj whose
    exact ⟨_, moved, fun u more => (later u more).1⟩
  · have moved := (Option.some_get
      (show (lookingAgain.step allButTheTry (.go 2)).isSome by decide)).symm
    obtain ⟨e, settles⟩ := (refused (by decide)).1 2 _ {} none _ (Option.some_get (by decide)).symm
      (by decide) (by decide) (by decide) moved
    exact ⟨_, e, moved, settles⟩

end Traffic

end Rendezvous
