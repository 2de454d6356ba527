import Rendezvous.Proofs.Traffic.Course

/-!
# The laps of a wait

A wait looks at its slot, and if the handle is unused it calls for the barrier to be built and looks
again. Nothing counts how often it comes round. That it comes round only once rests on two things.
Whoever is sent back to look again has built the barrier or has found it built, so that its handle was
not unused at that moment (`Lap.step`); and what has been used never becomes unused, whatever the
other calls do to the slot before the second look (`Lap.mono`). They may have destroyed the barrier
and built another one: the second look finds a barrier or finds nothing, but never a reason to call
for a barrier again.
-/

set_option autoImplicit false

namespace Rendezvous

open Barrier

namespace Handle

/-- The handle is not waiting for its first use. -/
def Used (a : Arena) (h : Nat) : Prop := ∀ n, a.slot h ≠ .unbuilt n

/-- A wait is about to look at its slot. -/
def Operation.looksToWait : Operation → Bool
  | look .wait => true
  | _ => false

/-- A wait has found its handle unused and is about to call for the barrier. -/
def Operation.callsForBarrier : Operation → Bool
  | leave .resolve => true
  | _ => false

/-- Where a wait may stand that has looked so many times and called for the barrier so many times,
given whether its handle has been used. -/
def Operation.Lap (used : Prop) (looks calls : Nat) : Operation → Prop
  | knock _ | look _ => looks = calls ∧ (calls = 0 ∨ calls = 1 ∧ used)
  | inside .. => looks = calls + 1 ∧ calls ≤ 1
  | leave .resolve => looks = 1 ∧ calls = 0
  | leave (.answer _) => looks = calls + 1 ∧ calls ≤ 1
  | guard _ | reserve _ | inspect _ | build .. | announce .. | store .. => looks = 1 ∧ calls = 1
  | release _ n | giveUp _ n | unguard n =>
      looks = 1 ∧ calls = 1 ∧ (n = .again ∧ used ∨ ∃ r, n = .answer r)
  | finished _ => calls ≤ looks ∧ looks ≤ calls + 1 ∧ calls ≤ 1
  | _ => False

namespace Operation

variable {a : Arena} {h looks calls : Nat} {c : Cancellation} {supply : Supply}
  {fault : Option PrimitiveError} {op : Operation} {turn : Turn} {used used' : Prop}

/-- What was used is used, and nobody else's turn takes more from a wait than that. -/
theorem Lap.mono (lap : op.Lap used looks calls) (still : used → used') :
    op.Lap used' looks calls := by
  cases op with
  | knock | look => exact ⟨lap.1, lap.2.imp_right fun h => ⟨h.1, still h.2⟩⟩
  | release | giveUp | unguard => exact ⟨lap.1, lap.2.1, lap.2.2.imp_left fun h => ⟨h.1, still h.2⟩⟩
  | leave n => cases n <;> exact lap
  | _ => exact lap

/-- It has come round at most once. -/
theorem Lap.le (lap : op.Lap used looks calls) : looks ≤ 2 ∧ calls ≤ 1 ∧ looks ≤ calls + 1 := by
  cases op with
  | leave n => cases n <;> simp only [Lap] at lap <;> omega
  | _ => simp only [Lap] at lap <;> omega

/-- Where a wait goes on that has tried to have its barrier built. -/
theorem lap_stage {n : Next} (next : n = .again ∧ used ∨ ∃ r, n = .answer r) :
    n.stage.Lap used 1 1 := by
  rcases next with ⟨rfl, known⟩ | ⟨r, rfl⟩
  · exact ⟨rfl, .inr ⟨rfl, known⟩⟩
  · exact ⟨Nat.le_refl 1, Nat.le_succ 1, Nat.le_refl 1⟩

theorem lap_look (hh : looks = calls) (round : calls = 0 ∨ calls = 1 ∧ Used a h) :
    (Inquiry.look a .wait (a.slot h)).Lap (Used a h) (looks + 1) calls := by
  cases slot : a.slot h with
  | unbuilt n =>
    -- it looks a second time only if the handle has been used
    rcases round with rfl | ⟨-, known⟩
    · exact ⟨congrArg Nat.succ hh, rfl⟩
    · exact absurd slot (known n)
  | live | empty => exact ⟨congrArg Nat.succ hh, by omega⟩

/-- A wait's own turn adds what it does to the count, and leads to where the count says. -/
theorem Lap.step (known : h < a.handles.size) (serves : op.Serves (.inquire .wait))
    (fits : op.Fits a h) (lap : op.Lap (Used a h) looks calls)
    (move : op.step a h c supply fault = some turn) :
    turn.stage.Lap (Used turn.arena h) (looks + op.looksToWait.toNat)
      (calls + op.callsForBarrier.toNat) := by
  have same (x : Holds) : Used a h → Used (a.setHolds h x) h := fun used n => by
    rw [Arena.slot_setHolds]
    exact used n
  cases stride_of_step move with
  | @knock q may =>
    cases serves
    exact Lap.mono lap (same _)
  | @look q =>
    cases serves
    exact lap_look lap.1 lap.2
  | inside | outside => exact lap
  | @leave n =>
    cases n with
    | answer r =>
      obtain ⟨rfl, most⟩ := lap
      exact ⟨Nat.le_succ _, Nat.le_refl _, most⟩
    | resolve =>
      obtain ⟨rfl, rfl⟩ := lap
      exact ⟨rfl, rfl⟩
    | again | discard | claim => exact lap.elim
  | guard | reserve | build | built | announce => exact lap
  | @inspect e =>
    obtain ⟨rfl, rfl⟩ := lap
    cases e with
    | init | discard => cases serves
    | resolve =>
      cases slot : a.slot h with
      | unbuilt n => exact ⟨rfl, rfl⟩
      | live b => exact ⟨rfl, rfl, .inl ⟨rfl, fun n unused => by cases slot.symm.trans unused⟩⟩
      | empty => exact ⟨rfl, rfl, .inr ⟨_, rfl⟩⟩
  | failed =>
    obtain ⟨rfl, rfl⟩ := lap
    exact ⟨rfl, rfl, .inr ⟨_, rfl⟩⟩
  | @store e new alone =>
    obtain ⟨rfl, rfl⟩ := lap
    cases e with
    | init | discard => cases serves
    | resolve =>
      cases new with
      | live b =>
        refine ⟨rfl, rfl, .inl ⟨rfl, fun n unused => ?_⟩⟩
        cases (Arena.slot_setSlot_self _ known).symm.trans unused
      | unbuilt => exact fits.elim
      | empty => cases fits.1
  | @release e n | @giveUp e n =>
    obtain ⟨rfl, rfl, next⟩ := lap
    cases e with
    | init | discard => cases serves.1
    | resolve => exact ⟨rfl, rfl, next.imp_left fun h => ⟨h.1, same _ h.2⟩⟩
  | unguard =>
    obtain ⟨rfl, rfl, next⟩ := lap
    exact lap_stage next
  | _ => exact lap.elim

end Operation

end Handle

namespace Traffic

open Handle

variable {mayFail : Ask → Bool} {s t : Traffic} {m : Move} {moves : List Move} {h i : Nat} {v : Job}
  {handles : List (Option UInt32)} {settings : Nat → Cancellation}

theorem used_of_step (c : Custody s) (move : s.step mayFail m = some t) (used : Used s.arena h) :
    Used t.arena h := fun n unused => used n (unbuilt_of_step c move unused)

/-- After every run every wait stands where the number of its looks says. -/
theorem lap_of_run (run : Schedule.run (step mayFail) (start handles settings) moves = some s)
    (hv : s.jobs[i]? = some v) (waits : v.purpose = .inquire .wait) :
    v.stage.Lap (Used s.arena v.handle)
      (Schedule.tally (step mayFail) (turnAt i Operation.looksToWait) (start handles settings) moves)
      (Schedule.tally (step mayFail) (turnAt i Operation.callsForBarrier) (start handles settings)
        moves) := by
  refine course_induction (P := fun moves s v => v.purpose = .inquire .wait →
    v.stage.Lap (Used s.arena v.handle)
      (Schedule.tally (step mayFail) (turnAt i Operation.looksToWait) (start handles settings) moves)
      (Schedule.tally (step mayFail) (turnAt i Operation.callsForBarrier) (start handles settings)
        moves)) ?born ?other ?own run hv waits
  case born =>
    intro moves s v _ turnless _ stage waits
    rw [tally_turnAt_of_turnless turnless, tally_turnAt_of_turnless turnless, stage, waits]
    exact ⟨rfl, .inl rfl⟩
  case other =>
    intro moves s m t v reach move apart _ lap waits
    rw [tally_turnAt_of_ne reach move apart, tally_turnAt_of_ne reach move apart]
    exact (lap waits).mono (used_of_step (Custody.of_reaches (Schedule.reaches_run reach)) move)
  case own =>
    intro moves s supply fault v turn reach move hv moved lap waits
    have c := Custody.of_reaches (Schedule.reaches_run reach)
    have mem := List.mem_of_getElem? hv
    have serves := c.serves v mem
    rw [show v.purpose = _ from waits] at serves
    rw [tally_turnAt_own reach move hv, tally_turnAt_own reach move hv]
    exact (lap waits).step (c.known v mem) serves (c.fits v mem) moved

/-- A wait calls for its barrier to be built at most once. Only an unused handle sends it to the
building, it comes back from there only when the handle is used, and a used handle never becomes
unused (`Lap.mono`); so a second look finds a barrier or nothing, and there is no third. This holds
of every wait on any handle, whatever other calls do to the handle meanwhile, and anything may
fail. -/
theorem wait_resolves_at_most_once
    (run : Schedule.run (step mayFail) (start handles settings) moves = some s)
    (hv : s.jobs[i]? = some v) (waits : v.purpose = .inquire .wait) :
    let looks := Schedule.tally (step mayFail) (turnAt i Operation.looksToWait)
      (start handles settings) moves
    let calls := Schedule.tally (step mayFail) (turnAt i Operation.callsForBarrier)
      (start handles settings) moves
    -- it looks at its slot at most twice, calls for the barrier at most once, and looks again only
    -- when it has called
    looks ≤ 2 ∧ calls ≤ 1 ∧ looks ≤ calls + 1 ∧
      -- when it looks for the second time its handle is not unused
      (v.stage = .look .wait → looks = 1 → ∀ n, s.arena.slot v.handle ≠ .unbuilt n) ∧
      -- when it is in a barrier it has not called since it looked last
      ∀ b w, v.stage = .inside b w → looks = calls + 1 := by
  intro looks calls
  have lap := lap_of_run run hv waits
  obtain ⟨most, once, between⟩ := lap.le
  refine ⟨most, once, between, fun stage second => ?_, fun b w stage => ?_⟩
  · rw [stage] at lap
    obtain ⟨same, none | ⟨-, used⟩⟩ := lap
    · exact absurd (second.symm.trans (same.trans none)) (by decide)
    · exact used
  · rw [stage] at lap
    exact lap.1

/-- A thread waits at a handle for two that was never used, and finds it so. Before it gets to the
building, another one tries to build and fails, builds, destroys what it built, and builds again, for
three. The first one finds the handle in use and comes to look at it once more. -/
def overtaken : List Move :=
  .begin 0 0 (.inquire .wait) :: Move.goes 0 3 ++
    .begin 1 0 (.init 2 false) :: Move.goes 1 2 ++ [.go 1 { memory := false }] ++ Move.goes 1 2 ++
    .begin 1 0 (.init 2 false) :: Move.goes 2 10 ++
    .begin 1 0 (.inquire .destroy) :: Move.goes 3 13 ++
    .begin 1 0 (.init 3 false) :: Move.goes 4 10 ++ Move.goes 0 6

def secondLook : Traffic :=
  (Schedule.run (step anything) (start [some 2] fun _ => {}) overtaken).get (by decide)

theorem wait_resolves_at_most_once_overtaken :
    Schedule.run (step anything) (start [some 2] fun _ => {}) overtaken = some secondLook ∧
      Schedule.tally (step anything) (turnAt 0 Operation.looksToWait) (start [some 2] fun _ => {})
        overtaken = 1 ∧
      Schedule.tally (step anything) (turnAt 0 Operation.callsForBarrier)
        (start [some 2] fun _ => {}) overtaken = 1 ∧
      secondLook.arena.slot 0 = .live 1 ∧ ∀ n, secondLook.arena.slot 0 ≠ .unbuilt n := by
  have run : Schedule.run (step anything) (start [some 2] fun _ => {}) overtaken =
      some secondLook := (Option.some_get (by decide)).symm
  have first := List.getElem?_eq_getElem (show 0 < secondLook.jobs.length by decide)
  obtain ⟨-, -, -, again, -⟩ := wait_resolves_at_most_once run first rfl
  have looked : Schedule.tally (step anything) (turnAt 0 Operation.looksToWait)
      (start [some 2] fun _ => {}) overtaken = 1 := by decide
  exact ⟨run, looked, by decide, by decide, again rfl looked⟩

end Traffic

end Rendezvous
