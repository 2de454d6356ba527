import Rendezvous.Barrier.Wait
import Rendezvous.Schedule

/-!
# A crowd around a barrier

`Barrier.Wait.step` says what one thread does in one stage of a wait. A `Crowd` is any number of
threads around one barrier, each of which may wait as often as it likes. Its moves are the smallest
things a schedule can tell apart: a thread begins a wait, a wait goes on by one stage, somebody asks
a thread to stop, a thread outside changes its own settings. What holds of all states that the moves
reach holds of all runs, whatever the schedule.

## What a crowd remembers

Every call of wait is a `Visit`, and a visit that is over stays on the list with its result. A visit
also knows what has become of its arrival (`Arrival`): in which generation it was counted, whether
it was the last one, whether it was taken back. The barrier itself knows none of this. It is there
to speak about the past in statements about a state, and no stage looks at it. For the same reason
generations are numbered here without end, while the barrier's own counter starts over after the
largest number (`Crowd.trips` against `Barrier.generation`).

## Rules

`Rules` say which runs are meant: how many threads may be inside at once, and which calls on
primitives may be made to fail from outside. Without any rule broken by a schedule, all schedules
are meant.
-/

set_option autoImplicit false

namespace Rendezvous

namespace Barrier

/-! ## Visits -/

/-- What has become of the arrival of a thread that waits. -/
inductive Arrival where
  /-- Not counted yet. -/
  | due
  /-- Counted in generation `g` while others were missing. -/
  | counted (g : Nat)
  /-- Counted as the last one of generation `g`. -/
  | last (g : Nat)
  /-- Counted in generation `g`, and taken back while generation `during` was open. -/
  | withdrawn (g during : Nat)
  deriving DecidableEq, Repr

/-- What has become of it when the thread has entered a stage. Generation `trips` is the one that
was open until then. -/
def Arrival.entering (trips : Nat) (a : Arrival) : Wait → Arrival
  | .counted _ => .counted trips
  | .trip _ => .last trips
  | .retracted _ =>
      match a with
      | .counted g => .withdrawn g trips
      | a => a
  | _ => a

/-- One call of wait. -/
structure Visit where
  thread : Nat
  stage : Wait := .enter
  arrival : Arrival := .due
  deriving Repr

/-- The thread has got what it waited for: a unit, or the outcome of the last one. -/
def Wait.served : Wait → Bool
  | .blocked _ _ (.finished (.ok _)) | .claiming _ _ (.finished (.ok _)) | .finished (.ok _) => true
  | _ => false

def Wait.isOver : Wait → Bool
  | .finished _ => true
  | _ => false

/-- The stage in which a generation ends. -/
def Wait.endsGeneration : Wait → Bool
  | .trip _ => true
  | _ => false

namespace Visit

def inside (v : Visit) : Bool := !v.stage.isOver

/-- The visit when its thread has entered a stage. -/
def enter (v : Visit) (trips : Nat) (stage : Wait) : Visit :=
  { v with stage, arrival := v.arrival.entering trips stage }

/-- The visit was counted in generation `g`, and its arrival was not taken back. -/
def standsIn (g : Nat) (v : Visit) : Bool := v.arrival = .counted g || v.arrival = .last g

end Visit

end Barrier

/-! ## Crowds -/

open Barrier

structure Crowd where
  barrier : Barrier
  /-- Each thread's settings. -/
  settings : Nat → Cancellation
  /-- Generations completed so far, which is also the number of the open one. -/
  trips : Nat := 0
  /-- All calls of wait so far, in the order in which they began. -/
  visits : List Visit := []

namespace Crowd

/-- Which runs are meant. -/
structure Rules where
  /-- How many threads may be inside at once, if that is limited. -/
  room : Option Nat := none
  /-- The calls that may be made to fail from outside. -/
  mayFail : Ask → Bool := fun _ => false

namespace Rules

/-- At most so many threads are inside at once, and nothing is made to fail. -/
def upTo (room : Nat) : Rules := { room := some room }

/-- One more thread may go inside when so many are there. -/
def admits (rules : Rules) (inside : Nat) : Bool :=
  match rules.room with
  | none => true
  | some room => inside < room

/-- The failure may replace the call of this stage. -/
def permits (rules : Rules) (stage : Wait) (fault : Option PrimitiveError) : Bool :=
  match fault with
  | none => true
  | some _ => stage.asks.any rules.mayFail

end Rules

inductive Move where
  /-- A thread that is outside begins to wait. -/
  | begin (thread : Nat)
  /-- A visit, named by its place on the list, goes on by one stage. -/
  | go (visit : Nat) (fault : Option PrimitiveError := none)
  /-- Somebody asks a thread to stop. -/
  | request (thread : Nat)
  /-- A thread that is outside changes its own settings. -/
  | adjust (thread : Nat) (type : CancelType) (state : CancelState)
  deriving Repr

/-- A visit goes on by so many stages. -/
def Move.goes (visit stages : Nat) : List Move := List.replicate stages (.go visit)

/-- How many threads are inside. -/
def inside (s : Crowd) : Nat := s.visits.countP Visit.inside

def isOutside (s : Crowd) (thread : Nat) : Bool :=
  s.visits.all fun v => v.thread != thread || v.stage.isOver

def setSettings (s : Crowd) (thread : Nat) (c : Cancellation) : Crowd :=
  { s with settings := fun t => if t = thread then c else s.settings t }

/-- What is there after visit `i` has taken a turn. -/
def after (s : Crowd) (i : Nat) (v : Visit) (turn : Wait.Turn) : Crowd :=
  { s.setSettings v.thread turn.cancel with
    barrier := turn.barrier
    trips := if turn.stage.endsGeneration then s.trips + 1 else s.trips
    visits := s.visits.set i (v.enter s.trips turn.stage) }

/-- Makes a move; `none` if it cannot be made now, or not under these rules. -/
def step (rules : Rules) (s : Crowd) : Move → Option Crowd
  | .begin thread =>
      if s.isOutside thread && rules.admits s.inside then
        some { s with visits := s.visits ++ [{ thread := thread }] }
      else none
  | .go i fault =>
      (s.visits[i]?).bind fun v =>
        if rules.permits v.stage fault then
          (v.stage.step s.barrier (s.settings v.thread) fault).map (s.after i v)
        else none
  | .request thread => some (s.setSettings thread (s.settings thread).request)
  | .adjust thread type state =>
      if s.isOutside thread then some (s.setSettings thread { s.settings thread with type, state })
      else none

/-- Nobody has come yet. -/
def around (b : Barrier) (settings : Nat → Cancellation) : Crowd := { barrier := b, settings }

end Crowd

end Rendezvous
