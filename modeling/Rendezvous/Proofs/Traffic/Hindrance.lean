import Rendezvous.Proofs.Runs
import Rendezvous.Proofs.Traffic.Deadlock

/-!
# When a destroy is kept waiting

A destroy tries for its slot and for the lock of the barrier, and does not wait for either. On its
way it takes three other things, though, and for these it does wait: it shares the slot to look at
it, it goes through the process-wide lock if the handle was never used, and as any other errand it
reserves such a slot and lets the sharers go before it writes.

Whether a destroy is kept waiting if nobody else moves can therefore be told from where the others
have stopped (`Operation.Unhindered`). Its own turns do not change the answer
(`Operation.unhindered_step`), and each of them brings it nearer to its end (`Operation.ahead`); so a
destroy gets through by itself exactly if nothing is in its way when it begins, which is if nobody
keeps others out of its slot and, on a handle that was never used, if nobody holds the slot or the
process-wide lock in any way (`destroy_unhindered_iff`). The process-wide lock is held for errands on
other handles as well, as long as a construction takes.
-/

set_option autoImplicit false

namespace Rendezvous

open Barrier Handle

namespace Handle

variable {a : Arena} {h : Nat} {d : Cancellation} {supply : Supply} {fault : Option PrimitiveError}
  {op : Operation} {turn : Operation.Turn}

/-! ## What is in the way -/

/-- What follows gets through by its own turns. -/
def Next.Unhindered (a : Arena) (h : Nat) : Next → Prop
  | answer _ => True
  | discard => a.guarded = false ∧ (a.holds h).mayReserve = true ∧
      ((a.slot h).status = .unbuilt → (a.holds h).sharers = 0)
  | claim => (a.holds h).free = true → (a.slot h).status = .unbuilt → a.guarded = false
  | again | resolve => False

/-- From this stage of a destroy on, nothing that others hold keeps it from its end. -/
def Operation.Unhindered (a : Arena) (h : Nat) : Operation → Prop
  | knock _ => (a.holds h).exclusive = false ∧ ((a.slot h).status = .unbuilt →
      a.guarded = false ∧ (a.holds h).reserved = false ∧ (a.holds h).sharers = 0)
  | look _ => (a.slot h).status = .unbuilt →
      Next.discard.Unhindered (a.setHolds h (a.holds h).unshare) h
  | leave n => n.Unhindered (a.setHolds h (a.holds h).unshare) h
  | guard _ => Next.discard.Unhindered a h
  | reserve _ => (a.holds h).mayReserve = true ∧
      ((a.slot h).status = .unbuilt → (a.holds h).sharers = 0)
  | inspect _ => (a.slot h).status = .unbuilt → (a.holds h).sharers = 0
  | announce .. | store .. => (a.holds h).sharers = 0
  | release _ n =>
      n.Unhindered { a.setHolds h (a.holds h).unclaim with guarded := false } h
  | giveUp _ n =>
      n.Unhindered { a.setHolds h (a.holds h).unreserve with guarded := false } h
  | unguard n => n.Unhindered { a with guarded := false } h
  | claim => Next.claim.Unhindered a h
  | verify => (a.slot h).status = .unbuilt →
      Next.discard.Unhindered (a.setHolds h (a.holds h).unclaim) h
  | abandon n => n.Unhindered (a.setHolds h (a.holds h).unclaim) h
  | _ => True

/-- How many more stages there can be. -/
def Next.ahead : Next → Nat
  | answer _ => 0
  | discard => 7
  | claim => 10
  | again | resolve => 0

/-- How many more stages a destroy can have from this one on. -/
def Operation.ahead : Operation → Nat
  | knock _ => 13
  | look _ => 12
  | leave n | unguard n | abandon n => n.ahead + 1
  | claim => 10
  | verify => 9
  | seize _ => 8
  | clear _ => 7
  | detach _ => 6
  | tearDown _ .evenGate => 5
  | tearDown _ .oddGate => 4
  | tearDown _ .unlock => 3
  | tearDown _ .lock => 2
  | tearDown _ .finished => 1
  | guard _ => 7
  | reserve _ => 6
  | inspect _ => 5
  | announce .. => 4
  | store .. => 3
  | release _ n | giveUp _ n => n.ahead + 2
  | _ => 0

theorem Next.ahead_stage {n : Next} (serves : n.Serves (.inquire .destroy)) :
    n.stage.ahead = n.ahead := by
  cases n <;> first | rfl | cases serves

theorem Next.unhindered_stage {n : Next} (serves : n.Serves (.inquire .destroy)) :
    n.stage.Unhindered a h ↔ n.Unhindered a h := by
  cases n <;> first | rfl | cases serves

/-! ## One turn -/

/-- A destroy builds nothing. -/
theorem Operation.Fits.builds_nothing {e : Errand} {s : Construction}
    (serves : (build e s).Serves (.inquire .destroy)) : ¬ (build e s).Fits a h := by
  rintro ⟨n, builds, -⟩
  cases e with
  | discard => exact builds
  | init | resolve => cases serves

/-- Every turn of a destroy brings it nearer to its end. -/
theorem Operation.ahead_step (serves : op.Serves (.inquire .destroy)) (fits : op.Fits a h)
    (move : op.step a h d supply fault = some turn) : turn.stage.ahead < op.ahead := by
  cases stride_of_step move with
  | look =>
    cases serves
    cases a.slot h <;> simp [Inquiry.look, ahead, Next.ahead]
  | inside | outside | probe | probed => cases serves
  | build | built | failed => exact absurd fits (Fits.builds_nothing serves)
  | @leave n | @unguard n | @abandon n =>
    rw [Next.ahead_stage serves]
    exact Nat.lt_succ_self _
  | @inspect e =>
    cases e with
    | discard => cases a.slot h <;> simp [Errand.inspect, ahead, Next.ahead]
    | init | resolve => cases serves
  | @store e =>
    cases e with
    | discard => simp [Errand.onSuccess, ahead, Next.ahead]
    | init | resolve => cases serves
  | @release e n | @giveUp e n =>
    cases e with
    | discard => exact Nat.lt_succ_self (n.ahead + 1)
    | init | resolve => cases serves.1
  | @tearDown b t u stepped =>
    cases t <;> cases stepped <;> exact Nat.lt_succ_self _
  | _ => simp [ahead, Next.ahead]

/-- Its own turns put nothing in the way of a destroy, and take nothing out of it. -/
theorem Operation.unhindered_step (hh : h < a.handles.size)
    (serves : op.Serves (.inquire .destroy)) (fits : op.Fits a h)
    (move : op.step a h d supply fault = some turn) :
    turn.stage.Unhindered turn.arena h ↔ op.Unhindered a h := by
  have own (x : Holds) : (a.setHolds h x).holds h = x := Arena.holds_setHolds_self x hh
  have again (x y : Holds) : ((a.setHolds h x).setHolds h y).holds h = y :=
    Arena.holds_setHolds_self y (by simpa [Arena.setHolds] using hh)
  have guarded (a : Arena) (x : Holds) : (a.setHolds h x).guarded = a.guarded := rfl
  cases stride_of_step move with
  | inside | outside | probe | probed => cases serves
  | build | built | failed => exact absurd fits (Fits.builds_nothing serves)
  | @leave n | @unguard n | @abandon n => exact Next.unhindered_stage serves
  | @release e n | @giveUp e n =>
    cases e with
    | discard => rfl
    | init | resolve => cases serves.1
  | @knock q may =>
    simp only [Holds.mayShare, Bool.not_eq_true'] at may
    simp [Unhindered, Next.Unhindered, own, again, guarded, Holds.share, Holds.unshare,
      Holds.mayReserve, may]
    exact imp_congr_right fun unused => by simp [unused]
  | @look q =>
    cases serves
    cases slot : a.slot h <;>
      simp [Inquiry.look, Unhindered, Next.Unhindered, slot, Slot.status]
  | @inspect e =>
    cases e with
    | discard =>
      cases slot : a.slot h <;>
        simp [Errand.inspect, Unhindered, Next.Unhindered, slot, Slot.status]
    | init | resolve => cases serves
  | @store e new alone =>
    cases e with
    | discard => simp [Errand.onSuccess, Unhindered, Next.Unhindered, alone]
    | init | resolve => cases serves
  | @guard e free =>
    exact (and_iff_right free).symm
  | @reserve e may =>
    simp [Unhindered, own, may, Holds.reserve]
  | @announce e =>
    simp [Unhindered, own, Holds.announce]
  | claim free =>
    simp only [Holds.free, Bool.and_eq_true, decide_eq_true_eq, Bool.not_eq_true'] at free
    simp [Unhindered, Next.Unhindered, own, again, guarded, Holds.claim, Holds.unclaim,
      Holds.mayReserve, Holds.free, free]
  | keptOut taken => simp [Unhindered, Next.Unhindered, taken]
  | verify live => simp [Unhindered, live, Slot.status]
  | verifyEmpty empty => simp [Unhindered, Next.Unhindered, empty, Slot.status]
  | verifyUnbuilt unused => simp [Unhindered, unused, Slot.status]
  | tearDown | seize | clear | detach | tornDown => exact Iff.rfl
  | seizeNot => exact Iff.rfl

/-- What a destroy waits for that cannot go on: to look at its slot, to take the process-wide lock,
to reserve the slot or to write it. -/
theorem Operation.stuck_destroy (serves : op.Serves (.inquire .destroy)) (fits : op.Fits a h)
    (going : op.isOver = false) (stuck : op.step a h d supply none = none) :
    op = .knock .destroy ∧ (a.holds h).exclusive = true ∨
      op = .guard .discard ∧ a.guarded = true ∨
      op = .reserve .discard ∧ (a.holds h).mayReserve = false ∨
      op = .store .discard .empty ∧ (a.holds h).sharers ≠ 0 := by
  cases op with
  | inside | probe => cases serves
  | finished => cases going
  | knock q =>
    cases serves
    simpa [step, Holds.mayShare] using stuck
  | guard e =>
    cases e with
    | discard => simpa [step] using stuck
    | init | resolve => cases serves.2
  | reserve e =>
    cases e with
    | discard => simpa [step] using stuck
    | init | resolve => cases serves
  | store e new =>
    cases e with
    | init | resolve => cases serves
    | discard =>
      cases new with
      | empty => simpa [step] using stuck
      | unbuilt n | live b => exact absurd fits id
  | _ => exact (Option.isSome_iff_ne_none.mp (goes rfl rfl going) stuck).elim

/-- A destroy with nothing in its way is over, or can go on. -/
theorem Operation.goes_of_unhindered (serves : op.Serves (.inquire .destroy)) (fits : op.Fits a h)
    (clear : op.Unhindered a h) (going : op.isOver = false) :
    ∃ turn, op.step a h d supply none = some turn := by
  refine Option.ne_none_iff_exists'.mp fun stuck => ?_
  rcases stuck_destroy serves fits going stuck with
    ⟨rfl, taken⟩ | ⟨rfl, taken⟩ | ⟨rfl, taken⟩ | ⟨rfl, taken⟩
  · cases clear.1.symm.trans taken
  · cases clear.1.symm.trans taken
  · cases clear.1.symm.trans taken
  · exact taken clear

theorem Operation.unhindered_of_over (ended : op.isOver = true) : op.Unhindered a h := by
  cases op with
  | finished => trivial
  | _ => cases ended

end Handle

namespace Traffic

variable {mayFail : Ask → Bool} {s t u : Traffic} {m : Move} {moves : List Move} {h i : Nat}
  {v w : Job}

/-! ## A destroy by itself -/

/-- The moves are all turns of call `i`, whatever fails in them. -/
def Alone (i : Nat) (moves : List Move) : Prop := ∀ m ∈ moves, m.job? = some i

/-- Turns of its own bring call `i` to its end. -/
def EndsAlone (mayFail : Ask → Bool) (s : Traffic) (i : Nat) : Prop :=
  ∃ moves u w, Alone i moves ∧ Schedule.run (step mayFail) s moves = some u ∧
    u.jobs[i]? = some w ∧ w.stage.isOver = true

/-- Turns of its own bring call `i` to where it has to wait. -/
def ParksAlone (mayFail : Ask → Bool) (s : Traffic) (i : Nat) : Prop :=
  ∃ moves u, Alone i moves ∧ Schedule.run (step mayFail) s moves = some u ∧ Parked u i

/-- What turns of its own have made of a destroy: so many stages fewer are ahead of it at least, and
what was in its way still is. -/
structure Nearer (s : Traffic) (v : Job) (turns : Nat) (t : Traffic) (w : Job) : Prop where
  handle : w.handle = v.handle
  purpose : w.purpose = v.purpose
  ahead : w.stage.ahead + turns ≤ v.stage.ahead
  clear : w.stage.Unhindered t.arena w.handle ↔ v.stage.Unhindered s.arena v.handle

theorem Custody.nearer_of_step (c : Custody s) (hv : s.jobs[i]? = some v)
    (aim : v.purpose = .inquire .destroy) (own : m.job? = some i)
    (move : s.step mayFail m = some t) : ∃ w, t.jobs[i]? = some w ∧ Nearer s v 1 t w := by
  have mem := List.mem_of_getElem? hv
  have serves := c.serves v mem
  rw [aim] at serves
  obtain ⟨w, hw, handle, purpose, ⟨-, other⟩ | turned⟩ := job_step move hv
  · exact absurd own other
  · cases turned with
    | took moved =>
      exact ⟨_, hw, rfl, rfl, Operation.ahead_step serves (c.fits v mem) moved,
        Operation.unhindered_step (c.known v mem) serves (c.fits v mem) moved⟩

theorem Custody.nearer_of_run (c : Custody s) (hv : s.jobs[i]? = some v)
    (aim : v.purpose = .inquire .destroy) (own : Alone i moves)
    (run : Schedule.run (Traffic.step mayFail) s moves = some t) :
    ∃ w, t.jobs[i]? = some w ∧ Nearer s v moves.length t w := by
  have kept := Schedule.run_induction
    (P := fun moves t => Alone i moves → ∃ w, t.jobs[i]? = some w ∧ Nearer s v moves.length t w)
    (fun _ => ⟨v, hv, rfl, rfl, Nat.le_refl _, Iff.rfl⟩) ?_ run
  · exact kept own
  intro moves m t u reach move before own
  obtain ⟨w, hw, n⟩ := before fun m hm => own m (List.mem_append_left _ hm)
  have c' := (Schedule.reaches_run reach).keeps Custody.step c
  obtain ⟨x, hx, n'⟩ := c'.nearer_of_step hw (n.purpose.trans aim)
    (own m (List.mem_append_right _ List.mem_cons_self)) move
  refine ⟨x, hx, n'.handle.trans n.handle, n'.purpose.trans n.purpose, ?_, n'.clear.trans n.clear⟩
  have here := n'.ahead
  have there := n.ahead
  rw [List.length_append, List.length_singleton]
  omega

/-- A destroy that cannot go on has to wait, whatever may fail. -/
theorem Custody.parked_of_stuck (c : Custody s) (hv : s.jobs[i]? = some v)
    (aim : v.purpose = .inquire .destroy) (going : v.stage.isOver = false)
    (stuck : v.stage.step s.arena v.handle (s.settings v.thread) {} none = none) : Parked s i := by
  have mem := List.mem_of_getElem? hv
  have serves := c.serves v mem
  rw [aim] at serves
  refine ⟨v, hv, ?_⟩
  rcases Operation.stuck_destroy serves (c.fits v mem) going stuck with
    ⟨stage, -⟩ | ⟨stage, -⟩ | ⟨stage, -⟩ | ⟨stage, -⟩ <;> rw [stage] at stuck ⊢ <;>
    exact ⟨rfl, fun _ _ => stuck⟩

/-- Left to itself, a destroy gets to its end or to where it has to wait. -/
theorem Custody.ends_or_parks (c : Custody s) (hv : s.jobs[i]? = some v)
    (aim : v.purpose = .inquire .destroy) : EndsAlone mayFail s i ∨ ParksAlone mayFail s i := by
  generalize far : v.stage.ahead = n
  induction n using Nat.strongRecOn generalizing s v with
  | ind n ih =>
    cases going : v.stage.isOver with
    | true => exact .inl ⟨[], s, v, nofun, rfl, hv, going⟩
    | false =>
      cases stuck : v.stage.step s.arena v.handle (s.settings v.thread) {} none with
      | none => exact .inr ⟨[], s, nofun, rfl, c.parked_of_stuck hv aim going stuck⟩
      | some turn =>
        have move : s.step mayFail (.go i) = some (s.after i v turn) := goes_of_step hv stuck
        obtain ⟨w, hw, n⟩ := c.nearer_of_step hv aim rfl move
        have behind (moves : List Move) (own : Alone i moves) : Alone i (.go i :: moves) :=
          List.forall_mem_cons.mpr ⟨rfl, own⟩
        rcases ih _ (far ▸ n.ahead) (c.step move) hw (n.purpose.trans aim) rfl with
          ⟨moves, u, x, own, run, hx, ended⟩ | ⟨moves, u, own, run, parked⟩
        · exact .inl ⟨_, u, x, behind moves own, by simp [Schedule.run, move, run], hx, ended⟩
        · exact .inr ⟨_, u, behind moves own, by simp [Schedule.run, move, run], parked⟩

/-- A destroy that waits has something in its way. -/
theorem Custody.hindered_of_parked (c : Custody s) (parked : Parked s i) (hv : s.jobs[i]? = some v)
    (aim : v.purpose = .inquire .destroy) : ¬ v.stage.Unhindered s.arena v.handle := by
  intro clear
  obtain ⟨v', hv', takes, stuck⟩ := parked
  obtain rfl := Option.some.inj (hv.symm.trans hv')
  have mem := List.mem_of_getElem? hv
  have serves := c.serves v mem
  rw [aim] at serves
  have going : v.stage.isOver = false := by
    cases stage : v.stage with
    | finished =>
      rw [stage] at takes
      cases takes
    | _ => rfl
  obtain ⟨turn, moved⟩ : ∃ turn, v.stage.step s.arena v.handle (s.settings v.thread) {} none =
      some turn := Operation.goes_of_unhindered serves (c.fits v mem) clear going
  cases (stuck {} none).symm.trans moved

theorem Custody.endsAlone_iff (c : Custody s) (hv : s.jobs[i]? = some v)
    (aim : v.purpose = .inquire .destroy) :
    EndsAlone mayFail s i ↔ v.stage.Unhindered s.arena v.handle := by
  constructor
  · rintro ⟨moves, u, w, own, run, hw, ended⟩
    obtain ⟨w', hw', n⟩ := c.nearer_of_run hv aim own run
    obtain rfl := Option.some.inj (hw'.symm.trans hw)
    exact n.clear.mp (Operation.unhindered_of_over ended)
  · intro clear
    have alone : EndsAlone mayFail s i ∨ ParksAlone mayFail s i := c.ends_or_parks hv aim
    rcases alone with ends | ⟨moves, u, own, run, parked⟩
    · exact ends
    · obtain ⟨w, hw, n⟩ := c.nearer_of_run hv aim own run
      have c' := (Schedule.reaches_run run).keeps Custody.step c
      exact absurd (n.clear.mpr clear) (c'.hindered_of_parked parked hw (n.purpose.trans aim))

/-! ## All of it -/

/-- When exactly a destroy has to wait. It only tries for the slot and for the lock of the barrier;
but it shares the slot in order to look at it, and on a handle that was never used it takes the
process-wide lock and the slot like any other errand, and for all of these it waits. Whether they
are to be had is decided when it begins and stays so as long as only the destroy moves, because
what it takes itself is never in its own way (`Operation.unhindered_step`). Any number of other
calls on any handles may have stopped anywhere, and anything may fail. -/
theorem destroy_unhindered_iff {handles : List (Option UInt32)} {settings : Nat → Cancellation}
    (run : Schedule.Reaches (step mayFail) (start handles settings) s) :
    -- a destroy that begins now gets to its end by turns of its own exactly if nobody keeps others
    -- out of its slot and, on a handle that was never used, nobody has the process-wide lock, a
    -- reservation or a share; it has to wait otherwise, and takes at most thirteen turns until then
    (∀ thread h t, s.step mayFail (.begin thread h (.inquire .destroy)) = some t →
      (EndsAlone mayFail t s.jobs.length ↔
        (s.arena.holds h).exclusive = false ∧ ∀ n, s.arena.slot h = .unbuilt n →
          s.arena.guarded = false ∧ (s.arena.holds h).reserved = false ∧
            (s.arena.holds h).sharers = 0) ∧
      (EndsAlone mayFail t s.jobs.length ∨ ParksAlone mayFail t s.jobs.length) ∧
      ∀ moves u, Alone s.jobs.length moves → Schedule.run (step mayFail) t moves = some u →
        moves.length ≤ 13) ∧
      -- at every later stage of a destroy it can be told as well, and its own turns, whatever fails in
      -- them, do not change it
      (∀ i v, s.jobs[i]? = some v → v.purpose = .inquire .destroy →
        (EndsAlone mayFail s i ↔ v.stage.Unhindered s.arena v.handle) ∧
        (∀ moves u, Alone i moves → Schedule.run (step mayFail) s moves = some u →
          (EndsAlone mayFail u i ↔ EndsAlone mayFail s i))) ∧
      -- what it can be kept waiting for is the slot and the process-wide lock, and never the lock of
      -- a barrier
      ∀ i v, s.jobs[i]? = some v → v.purpose = .inquire .destroy → v.stage.isOver = false →
        s.step mayFail (.go i) = none →
          v.stage = .knock .destroy ∧ (s.arena.holds v.handle).exclusive = true ∨
          v.stage = .guard .discard ∧ s.arena.guarded = true ∨
          v.stage = .reserve .discard ∧ (s.arena.holds v.handle).mayReserve = false ∨
          v.stage = .store .discard .empty ∧ (s.arena.holds v.handle).sharers ≠ 0 := by
  have c := Custody.of_reaches run
  refine ⟨fun thread h t begins => ?_, fun i v hv aim => ⟨c.endsAlone_iff hv aim, ?_⟩,
    fun i v hv aim going stuck => ?_⟩
  · obtain ⟨arena, jobs⟩ := jobs_of_begin begins
    have c' := c.step begins
    have hv : t.jobs[s.jobs.length]? = some
        { thread, handle := h, purpose := .inquire .destroy, stage := .knock .destroy } := by
      rw [jobs, List.getElem?_concat_length]
      rfl
    refine ⟨(c'.endsAlone_iff hv rfl).trans ?_, c'.ends_or_parks hv rfl, fun moves u own run => ?_⟩
    · simp only [Operation.Unhindered, arena]
      refine and_congr_right fun _ => ?_
      cases s.arena.slot h <;> simp [Slot.status]
    · obtain ⟨w, -, n⟩ := c'.nearer_of_run hv rfl own run
      exact Nat.le_trans (Nat.le_add_left _ _) n.ahead
  · intro moves u own run
    obtain ⟨w, hw, n⟩ := c.nearer_of_run hv aim own run
    have c' := (Schedule.reaches_run run).keeps Custody.step c
    rw [c.endsAlone_iff hv aim, c'.endsAlone_iff hw (n.purpose.trans aim)]
    exact n.clear
  · have mem := List.mem_of_getElem? hv
    have serves := c.serves v mem
    rw [aim] at serves
    have halted : v.stage.step s.arena v.handle (s.settings v.thread) {} none = none := by
      simpa [step, hv, permits] using stuck
    exact Operation.stuck_destroy serves (c.fits v mem) going halted

/-- A thread is building the barrier of handle 1. Handle 0 was never used, handle 2 is empty. -/
def building : Traffic :=
  (Schedule.run (step anything) (start [some 1, some 1, none] fun _ => {})
    (.begin 0 1 (.inquire .wait) :: Move.goes 0 7)).get (by decide)

theorem reaches_building :
    Schedule.Reaches (step anything) (start [some 1, some 1, none] fun _ => {}) building :=
  Schedule.reaches_get (by decide)

/-- The destroy of a handle while that goes on. -/
def meanwhile (h : Nat) (known : (building.step anything (.begin 1 h (.inquire .destroy))).isSome) :
    Traffic :=
  (building.step anything (.begin 1 h (.inquire .destroy))).get known

/-- The destroy of the unused handle waits for the construction, that of the empty one does not. -/
theorem destroy_unhindered_iff_building :
    Schedule.Reaches (step anything) (start [some 1, some 1, none] fun _ => {}) building ∧
      (¬ EndsAlone anything (meanwhile 0 (by decide)) 1 ∧
        ParksAlone anything (meanwhile 0 (by decide)) 1) ∧
      EndsAlone anything (meanwhile 2 (by decide)) 1 := by
  obtain ⟨begun, -, -⟩ := destroy_unhindered_iff reaches_building
  obtain ⟨ends, either, -⟩ := begun 1 0 (meanwhile 0 (by decide)) (Option.some_get _).symm
  obtain ⟨ends', -, -⟩ := begun 1 2 (meanwhile 2 (by decide)) (Option.some_get _).symm
  have waits : ¬ EndsAlone anything (meanwhile 0 (by decide)) 1 := by
    intro unhindered
    obtain ⟨-, idle⟩ := ends.mp unhindered
    have unguarded : building.arena.guarded = false := (idle 1 (by decide)).1
    exact absurd unguarded (by decide)
  refine ⟨reaches_building, ⟨waits, either.resolve_left waits⟩, ends'.mpr ⟨by decide, ?_⟩⟩
  intro n unused
  cases (show building.arena.slot 2 = .empty by decide).symm.trans unused

/-- Not every destroy gets to its end by turns of its own. -/
theorem not_endsAlone_building :
    ¬ ∀ (handles : List (Option UInt32)) (settings : Nat → Cancellation) (s t : Traffic)
      (thread h : Nat), Schedule.Reaches (step anything) (start handles settings) s →
        s.step anything (.begin thread h (.inquire .destroy)) = some t →
          EndsAlone anything t s.jobs.length := by
  intro always
  have begins : building.step anything (.begin 1 0 (.inquire .destroy)) =
      some (meanwhile 0 (by decide)) := (Option.some_get _).symm
  have c := (Custody.of_reaches reaches_building).step begins
  have hv : (meanwhile 0 (by decide)).jobs[1]? =
      some { thread := 1, handle := 0, purpose := .inquire .destroy, stage := .knock .destroy } := rfl
  obtain ⟨-, idle⟩ := (c.endsAlone_iff hv rfl).mp (always _ _ _ _ 1 0 reaches_building begins)
  have unguarded : building.arena.guarded = false := (idle (by decide)).1
  exact absurd unguarded (by decide)

end Traffic

end Rendezvous
