import Rendezvous.Handle.Operation
import Rendezvous.Schedule

/-!
# Traffic on handles

`Handle.Operation.step` says what one thread does in one stage of one operation on one handle. A
`Traffic` is any number of threads that call any number of handles, as often as they like and for
any purpose. Its moves are the smallest things a schedule can tell apart: a thread calls a handle, a
call goes on by one stage, somebody asks a thread to stop, a thread between calls changes its own
settings. Which memory there is and which failure strikes is said move by move, so that what holds
of all states that the moves reach holds of all runs, whatever the schedule and whatever fails.

## Books

A lock and two gates are made for every barrier and torn down with it. Which object an event is
about cannot be told from the event, and no stage needs to know. The `Books` keep it for statements:
every construction has a number, a part is named by the construction that made it (`Piece`), and the
books list what was made and what was torn down, as the events tell it. No stage looks at them.
-/

set_option autoImplicit false

namespace Rendezvous

open Barrier

/-! ## Parts of barriers -/

/-- A part of a barrier that is made and torn down by calls of its own. -/
inductive Part where
  | lock
  | gate (index : Nat)
  deriving DecidableEq, Repr

/-- The part that an event says was made. -/
def Event.made : Event → Option Part
  | ⟨.lockInit, .done⟩ => some .lock
  | ⟨.semInit index _ _, .done⟩ => some (.gate index)
  | _ => none

/-- The part that an event says was torn down. What follows a teardown as a failure from outside is
not a second one; a teardown that refuses has torn down all the same. -/
def Event.tornDown : Event → Option Part
  | ⟨.lockDestroy, .injected _⟩ | ⟨.semDestroy .., .injected _⟩ => none
  | ⟨.lockDestroy, _⟩ => some .lock
  | ⟨.semDestroy index _, _⟩ => some (.gate index)
  | _ => none

/-- A part of a barrier of a handle, told apart from all others by its construction. -/
structure Piece where
  handle : Nat
  build : Nat
  part : Part
  deriving DecidableEq, Repr

structure Books where
  /-- How many constructions have begun. -/
  builds : Nat := 0
  /-- The construction that each barrier came from. -/
  origins : List Nat := []
  made : List Piece := []
  tornDown : List Piece := []
  deriving Repr

namespace Handle

/-! ## Calls -/

/-- What a thread calls a handle for. -/
inductive Purpose where
  | init (parties : UInt32) (shared : Bool)
  | inquire (q : Inquiry)
  deriving DecidableEq, Repr

/-- Where a call for this purpose begins. -/
def Purpose.first : Purpose → Operation
  | init parties shared => .init parties shared
  | inquire q => .ask q

def Operation.isOver : Operation → Bool
  | finished _ => true
  | _ => false

/-- The stage in which a construction begins. -/
def Operation.begins : Operation → Bool
  | build _ (.check ..) => true
  | _ => false

/-- One call of one thread on one handle. -/
structure Job where
  thread : Nat
  handle : Nat
  purpose : Purpose
  stage : Operation
  /-- The construction that it is at, or was at last. -/
  build : Nat := 0
  deriving Repr

/-- The construction that the parts come from which the next stage makes or tears down. -/
def Job.source (v : Job) (books : Books) : Nat :=
  match v.stage with
  | .tearDown b _ => books.origins.getD b 0
  | _ => v.build

/-- The call when its thread has entered a stage. -/
def Job.enter (v : Job) (books : Books) (stage : Operation) : Job :=
  { v with stage, build := if stage.begins then books.builds else v.build }

end Handle

open Handle

/-- The books after a call has taken a turn that began in an arena with so many barriers. -/
def Books.after (books : Books) (barriers : Nat) (v : Job) (turn : Operation.Turn) : Books :=
  let piece (part : Part) : Piece := ⟨v.handle, v.source books, part⟩
  { builds := if turn.stage.begins then books.builds + 1 else books.builds
    origins :=
      if barriers < turn.arena.barriers.size then books.origins ++ [v.build] else books.origins
    made := books.made ++ turn.events.filterMap fun e => e.made.map piece
    tornDown := books.tornDown ++ turn.events.filterMap fun e => e.tornDown.map piece }

/-! ## Traffic -/

/-- Handles that have not been used: an empty one, or one that waits to be built for so many. -/
def Arena.declared (handles : List (Option UInt32)) : Arena :=
  { handles := (handles.map fun parties => parties.elim {} Handle.lazy).toArray }

structure Traffic where
  arena : Arena
  /-- Each thread's settings. -/
  settings : Nat → Cancellation
  /-- All calls so far, in the order in which they began. -/
  jobs : List Job := []
  books : Books := {}

namespace Traffic

inductive Move where
  /-- A thread that is in no call calls a handle. -/
  | begin (thread handle : Nat) (purpose : Purpose)
  /-- A call, named by its place on the list, goes on by one stage. -/
  | go (job : Nat) (supply : Supply := {}) (fault : Option PrimitiveError := none)
  /-- Somebody asks a thread to stop. -/
  | request (thread : Nat)
  /-- A thread that is in no call changes its own settings. -/
  | adjust (thread : Nat) (type : CancelType) (state : CancelState)
  deriving Repr

/-- The call whose turn it is. -/
def Move.job? : Move → Option Nat
  | .go i .. => some i
  | _ => none

/-- The handle that is called. -/
def Move.calls? : Move → Option Nat
  | .begin _ handle _ => some handle
  | _ => none

/-- How many turns the moves give a call. -/
def Move.turnsOf (job : Nat) (moves : List Move) : Nat :=
  moves.countP fun m => decide (m.job? = some job)

/-- A call goes on by so many stages. -/
def Move.goes (job stages : Nat) : List Move := List.replicate stages (.go job)

def isOutside (s : Traffic) (thread : Nat) : Bool :=
  s.jobs.all fun v => v.thread != thread || v.stage.isOver

def setSettings (s : Traffic) (thread : Nat) (c : Cancellation) : Traffic :=
  { s with settings := fun t => if t = thread then c else s.settings t }

/-- What is there after call `i` has taken a turn. -/
def after (s : Traffic) (i : Nat) (v : Job) (turn : Operation.Turn) : Traffic :=
  { s.setSettings v.thread turn.cancel with
    arena := turn.arena
    jobs := s.jobs.set i (v.enter s.books turn.stage)
    books := s.books.after s.arena.barriers.size v turn }

/-- The failure may replace the call of this stage. -/
def permits (mayFail : Ask → Bool) (stage : Operation) : Option PrimitiveError → Bool
  | none => true
  | some _ => stage.asks.any mayFail

/-- Makes a move; `none` if it cannot be made now, or if its failure may not strike. -/
def step (mayFail : Ask → Bool) (s : Traffic) : Move → Option Traffic
  | .begin thread handle purpose =>
      if s.isOutside thread && handle < s.arena.handles.size then
        some { s with jobs := s.jobs ++ [{ thread, handle, purpose, stage := purpose.first }] }
      else none
  | .go i supply fault =>
      (s.jobs[i]?).bind fun v =>
        if permits mayFail v.stage fault then
          (v.stage.step s.arena v.handle (s.settings v.thread) supply fault).map (s.after i v)
        else none
  | .request thread => some (s.setSettings thread (s.settings thread).request)
  | .adjust thread type state =>
      if s.isOutside thread then some (s.setSettings thread { s.settings thread with type, state })
      else none

/-- Nobody has called yet. -/
def start (handles : List (Option UInt32)) (settings : Nat → Cancellation) : Traffic :=
  { arena := .declared handles, settings }

/-- Anything may fail. -/
def anything : Ask → Bool := fun _ => true

end Traffic

end Rendezvous
