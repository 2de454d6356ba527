import Rendezvous.Proofs.Crowd.Cadence
import Rendezvous.Proofs.Group.Calls
import Rendezvous.Proofs.Run.Crew
import Rendezvous.Proofs.Run.Pace
import Rendezvous.Run.Stress

/-!
# Workers and their waits

What a worker of a stress run stands for. As long as nobody aborts, a worker is either away from the
barrier, and then its stage says how many of its waits are over (`Worker.Away`), or it is inside, in
the wait whose number it bears (`Worker.Stands`). The rest of this module says what a worker adds to
the books of the run at each stage: whether it shares the slot, whether it is in the group's
critical section, how many arrivals it has counted, and whether it has yet to note a serial outcome.
How far it has come is a number too (`Worker.pace`).
-/

set_option autoImplicit false

namespace Rendezvous

/-- The stages of a call that enlists. -/
def CancelGroup.Stage.enlists : CancelGroup.Stage → Bool
  | retype | knock | sign | leave | finished => true
  | _ => false

/-- How far such a call has come. -/
def CancelGroup.Stage.pace : CancelGroup.Stage → Nat
  | retype => 0
  | knock | alarm => 1
  | sign | raise | sweep _ => 2
  | leave => 3
  | finished => 4

/-- How far an operation that waits has come. -/
def Handle.Operation.pace (b : Barrier) : Handle.Operation → Nat
  | inside _ w => 2 + w.pace b
  | look _ => 1
  | leave _ => 27
  | finished _ => 28
  | _ => 0

namespace Run

open Barrier Handle CancelGroup

namespace Crew

variable {c c' : Crew} {i : Nat} {stage stage' : CancelGroup.Stage}

/-- What a stage of enlisting does to the crew if nobody has aborted: nobody is asked to stop, and
at most the thread turns asynchronous. -/
structure Enlists (c : Crew) (i : Nat) (stage : CancelGroup.Stage) (c' : Crew)
    (stage' : CancelGroup.Stage) : Prop where
  enlists : stage'.enlists = true
  rises : stage.pace < stage'.pace
  arena : c'.arena = c.arena
  calm : c'.group.aborted = false
  group : ∃ effects, c.group.step i stage = some (c'.group, effects, stage')
  cancels : stage = .retype ∧ c'.cancels =
      c.cancels.setIfInBounds i ((c.cancels.getD i {}).setType .asynchronous) ∨
    stage ≠ .retype ∧ c'.cancels = c.cancels

theorem confer_enlists (calm : c.group.aborted = false) (enlists : stage.enlists = true)
    (h : c.confer i stage = some (c', stage')) : Enlists c i stage c' stage' := by
  obtain ⟨⟨g, effects, next⟩, turn, same⟩ := Option.map_eq_some_iff.mp h
  cases same
  cases stage with
  | retype =>
    cases turn
    exact ⟨rfl, Nat.lt_succ_self _, rfl, calm, ⟨_, rfl⟩, .inl ⟨rfl, rfl⟩⟩
  | knock =>
    have group := turn
    simp only [CancelGroup.step] at turn
    split at turn
    · cases turn
    · cases turn
      exact ⟨rfl, Nat.lt_succ_self _, rfl, calm, ⟨_, group⟩, .inr ⟨by rintro ⟨⟩, rfl⟩⟩
  | sign =>
    have group := turn
    simp only [CancelGroup.step, calm] at turn
    cases turn
    exact ⟨rfl, Nat.lt_succ_self _, rfl, rfl, ⟨_, group⟩, .inr ⟨by rintro ⟨⟩, rfl⟩⟩
  | leave =>
    have group := turn
    cases turn
    exact ⟨rfl, Nat.lt_succ_self _, rfl, calm, ⟨_, group⟩, .inr ⟨by rintro ⟨⟩, rfl⟩⟩
  | finished => cases turn
  | alarm | raise | sweep left => cases enlists

/-- Only the group's lock holds a call up. -/
theorem confer_eq_none (h : c.confer i stage = none) :
    stage = .finished ∨ c.group.locked = true ∧ stage.holdsLock = false :=
  CancelGroup.step_eq_none (Option.map_eq_none_iff.mp h)

/-- Where no worker can go on with enlisting, the group's lock is free, because whoever has it could
go on. This is of any kind of workers, of which some are enlisting (`enlist`), and of these some have
the lock (`confers`). -/
theorem group_free {W : Type} {workers : Array W} {confers : W → Bool} (enlist : Stage → W)
    (guarded : workers.toList.countP confers = c.group.locked.toNat)
    (holder : ∀ w, confers w = true → ∃ stage, w = enlist stage ∧ stage.holdsLock = true)
    (stuck : ∀ i stage, workers[i]? = some (enlist stage) → stage ≠ .finished →
      c.confer i stage = none) :
    c.group.locked = false := by
  apply Bool.eq_false_iff.mpr
  intro locked
  obtain ⟨i, w, hi, confers⟩ := exists_of_countP guarded locked
  obtain ⟨stage, rfl, holds⟩ := holder w confers
  have going : stage ≠ .finished := by
    rintro rfl
    cases holds
  rcases confer_eq_none (stuck i stage (by simpa using hi) going) with ended | ⟨-, without⟩
  · exact going ended
  · cases holds.symm.trans without

theorem supply_of_confer (h : c.confer i stage = some (c', stage')) : c'.supply = c.supply := by
  obtain ⟨_, -, same⟩ := Option.map_eq_some_iff.mp h
  cases same
  rfl

/-- The same is done in a crowd of the threads by one that is outside. -/
theorem Enlists.crowd (turn : Enlists c i stage c' stage') {users : List Nat} {parties : UInt32}
    {b : Barrier} {settings : Nat → Cancellation} {s : Crowd}
    (h : Crowd.InStep users parties b settings s) (low : i < c.cancels.size)
    (outside : s.isOutside i = true) (cancels : ∀ j, c.cancels.getD j {} = s.settings j) :
    ∃ d, Crowd.InStep users parties b settings d ∧ d.visits = s.visits ∧ d.barrier = s.barrier ∧
      (∀ j, c'.cancels.getD j {} = d.settings j) ∧ c'.cancels.size = c.cancels.size := by
  rcases turn.cancels with ⟨-, retyped⟩ | ⟨-, same⟩
  · refine ⟨_, h.retype .asynchronous outside, rfl, rfl, ?_, ?_⟩
    · intro j
      show c'.cancels.getD j {} = if j = i then _ else s.settings j
      rw [retyped, getD_setIfInBounds _ _ _ low, cancels, cancels]
    · rw [retyped, Array.size_setIfInBounds]
  · rw [same]
    exact ⟨s, h, rfl, rfl, cancels, rfl⟩

end Crew

namespace Stress.Worker

/-- The worker is not in a wait at the barrier, has come that far without failing, and so many of
its waits are over. -/
inductive Away (generations : Nat) : Worker → Nat → Prop where
  | enlist {stage : CancelGroup.Stage} : stage.enlists = true → Away generations (.enlist stage) 0
  | arrive {g : Nat} : g ≤ generations → Away generations (.arrive g) g
  | knock {g : Nat} : g < generations → Away generations (.wait g (.knock .wait)) g
  | look {g : Nat} : g < generations → Away generations (.wait g (.look .wait)) g
  | passed {g : Nat} (outcome : Outcome) : g < generations →
      Away generations (.wait g (.inside 0 (.finished (.ok outcome)))) (g + 1)
  | leave {g : Nat} (outcome : Outcome) : g < generations →
      Away generations (.wait g (.leave (.answer (.ok (.outcome outcome))))) (g + 1)
  | back {g : Nat} (outcome : Outcome) : g < generations →
      Away generations (.wait g (.finished (.ok (.outcome outcome)))) (g + 1)
  | mark {g : Nat} : g < generations → Away generations (.mark g) (g + 1)
  | check {g : Nat} : g < generations → Away generations (.check g) (g + 1)
  | finished : Away generations (.finished (.ok ())) generations

/-- What the stage of worker `i` says about its thread in the crowd. -/
inductive Stands (generations : Nat) (c : Crowd) (i : Nat) : Worker → Prop where
  | away {w : Worker} {k : Nat} : Away generations w k → c.isOutside i = true → c.rounds i = k →
      Stands generations c i w
  | inside {g : Nat} {v : Visit} : g < generations → v ∈ c.visits → v.thread = i →
      v.inside = true → c.rounds i = g → Stands generations c i (.wait g (.inside 0 v.stage))

/-- What other threads do changes nothing about it. -/
theorem Stands.congr {generations : Nat} {c d : Crowd} {i : Nat} {w : Worker}
    (h : Stands generations c i w) (outside : c.isOutside i = true → d.isOutside i = true)
    (rounds : d.rounds i = c.rounds i)
    (stay : ∀ v ∈ c.visits, v.thread = i → v ∈ d.visits) : Stands generations d i w := by
  cases h with
  | away away free count => exact .away away (outside free) (rounds.trans count)
  | inside lt hv own inside count =>
    exact .inside lt (stay _ hv own) own inside (rounds.trans count)

/-! ## What a worker adds to the books -/

/-- It shares the slot. -/
def shares : Worker → Bool
  | .wait _ (.look _) | .wait _ (.inside ..) | .wait _ (.leave _) => true
  | _ => false

/-- It is in the group's critical section. -/
def confers : Worker → Bool
  | .enlist stage => stage.holdsLock
  | _ => false

/-- How many arrivals it has counted. -/
def entered (generations : Nat) : Worker → Nat
  | .enlist _ | .abort .. => 0
  | .arrive g => g
  | .wait g _ | .mark g | .check g => g + 1
  | .finished _ => generations

/-- It is back from wait number `n` as the serial one and has not noted it. -/
def owesMark (n : Nat) : Worker → Bool
  | .wait g (.inside _ (.finished (.ok .serial))) => g = n
  | .wait g (.leave (.answer (.ok (.outcome .serial)))) => g = n
  | .wait g (.finished (.ok (.outcome .serial))) => g = n
  | .mark g => g = n
  | _ => false

/-- How far it has come, with the barrier in this state. -/
def pace (generations : Nat) (b : Barrier) : Worker → Nat
  | .enlist stage => stage.pace
  | .arrive g => 32 * g + 5
  | .wait g op => 32 * g + 6 + op.pace b
  | .mark g => 32 * g + 35
  | .check g => 32 * g + 36
  | .finished _ => 32 * generations + 6
  | .abort .. => 0

/-- While it is not in a wait at the barrier, its pace has nothing to do with the barrier. -/
theorem Away.pace_eq {generations k : Nat} {w : Worker} (h : Away generations w k)
    (b b' : Barrier) : w.pace generations b' = w.pace generations b := by
  cases h <;> rfl

theorem Away.pace_le {generations k : Nat} {w : Worker} (h : Away generations w k) (b : Barrier) :
    w.pace generations b ≤ 32 * generations + 6 := by
  cases h with
  | @enlist stage _ =>
    cases stage <;> simp only [pace, CancelGroup.Stage.pace] <;> omega
  | arrive | knock | look | passed | leave | back | mark | check | finished =>
    simp only [pace, Operation.pace, Wait.pace]
    omega

theorem Away.le_entered {generations k : Nat} {w : Worker} (h : Away generations w k) :
    k ≤ w.entered generations := by
  cases h with
  | enlist | arrive | passed | leave | back | mark | check | finished => exact Nat.le_refl _
  | knock | look => exact Nat.le_succ _

theorem Away.entered_le {generations k : Nat} {w : Worker} (h : Away generations w k) :
    w.entered generations ≤ generations := by
  cases h with
  | enlist => exact Nat.zero_le _
  | arrive le => exact le
  | finished => exact Nat.le_refl _
  | knock lt | look lt | passed _ lt | leave _ lt | back _ lt | mark lt | check lt => exact lt

end Stress.Worker

end Run

end Rendezvous
