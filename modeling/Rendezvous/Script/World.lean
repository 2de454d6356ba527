import Rendezvous.CancelGroup
import Rendezvous.Cleanup
import Rendezvous.Handle.Operation
import Rendezvous.Script.Action

/-!
# The state of a script

A `World` is everything that a script's threads and its controller see: the arena with its handles
and barriers, the bare locks and semaphores, the objects by which scripts name all of these, and
the threads with their settings and what they are in the middle of.

A thread that is in the middle of an action has an `Activity`, which is an operation of the library
at one of its stages. Objects remember how often each sort of call was made on them, because scripts
say by number which calls fail and which constructions stop.

A world also collects what has happened since it was last reported: replies, events and notices.
-/

set_option autoImplicit false

namespace Rendezvous.Script

open Barrier Handle

/-- A lock that the controller can take from outside. -/
inductive Latch where
  | barrier (b : Nat)
  | bare (l : Nat)
  deriving DecidableEq, Repr

/-- What an object holds. Barriers, locks and semaphores are named by number, since threads may
still be inside one that the object no longer holds. -/
inductive Content where
  | handle (h : Nat)
  | barrier (b : Option Nat)
  | lock (l : Option Nat)
  | semaphore (s : Option Nat)
  | attributes (cell : Attributes.Cell)
  | group (g : CancelGroup)
  deriving Repr

structure Object where
  content : Content
  injections : List Injection := []
  stalledBuilds : List Nat := []
  rule : CancelRule := .whileBlocked
  /-- The calls made on it so far that could have been made to fail. -/
  asked : List Ask := []
  /-- How many constructions got as far as making the lock. -/
  builds : Nat := 0
  /-- How many bare semaphores were made. -/
  semaphoresMade : Nat := 0
  /-- The lock made last. -/
  latch : Option Latch := none
  deriving Repr

instance : Inhabited Object := ⟨{ content := .attributes none }⟩

/-- A bare semaphore and the number that events call it by. -/
structure BareSemaphore where
  semaphore : Semaphore
  index : Nat
  deriving Repr, Inhabited

/-- Where an acquisition of a bare lock stands. -/
inductive Locking where
  | enter
  | lock
  | finished (result : Except PrimitiveError Unit)
  deriving Repr

/-- Where a wait on a bare semaphore stands. -/
inductive BareWait where
  | enter
  | blocked (w : Semaphore.Wait)
  deriving Repr

/-- What a thread is in the middle of. The first number is the object's. -/
inductive Activity where
  | handle (o h : Nat) (op : Operation)
  /-- Showing a handle takes two looks at it: one for the status, one for the parties. -/
  | inspectStatus (o h : Nat) (op : Operation)
  | inspectParties (o h : Nat) (status : Status) (op : Operation)
  | wait (o b : Nat) (w : Barrier.Wait)
  | probe (o b : Nat) (gauge : Gauge) (p : Probe)
  | construct (o : Nat) (c : Construction)
  | makeLock (o : Nat)
  | lock (o l : Nat) (stage : Locking)
  | tryLock (o l : Nat)
  | destroyLock (o l : Nat)
  | makeSemaphore (o : Nat) (value : UInt32) (shared : Bool)
  | semWait (o s : Nat) (stage : BareWait)
  | semPost (o s : Nat) (count : UInt32)
  | destroySemaphore (o s : Nat)
  | group (o : Nat) (stage : CancelGroup.Stage)
  | reply (r : Reply)
  deriving Repr

structure Thread where
  cancel : Cancellation := {}
  /-- The shields opened by the script; a closed one leaves a gap. -/
  shields : Array (Option Shield) := #[]
  /-- Newest first. -/
  cleanups : List Routine := []
  activity : Option Activity := none
  /-- Where the present action is to stop. -/
  stalls : List Stall := []
  /-- The points that the present action has passed. -/
  passed : List StallPoint := []
  stalled : Option StallPoint := none
  /-- Just resumed: the call it stopped before goes ahead. -/
  cleared : Bool := false
  /-- Whether the present action finds memory for a barrier. -/
  memory : Bool := true
  deriving Inhabited, Repr

structure World where
  arena : Arena := {}
  locks : Array Bool := #[]
  semaphores : Array BareSemaphore := #[]
  objects : Array Object := #[]
  threads : Array Thread := #[]
  /-- Whether barriers can be shared between processes. -/
  sharing : Bool := false
  /-- Threads in the order in which they came to rest, the first longest ago. -/
  queue : List Nat := []
  done : List (Nat × Reply) := []
  events : List (Nat × String) := []
  notices : List (Nat × Notice) := []
  deriving Inhabited, Repr

namespace World

def thread (w : World) (t : Nat) : Thread := w.threads.getD t default

def setThread (w : World) (t : Nat) (x : Thread) : World :=
  { w with threads := w.threads.setIfInBounds t x }

def object (w : World) (o : Nat) : Object := w.objects.getD o default

def setObject (w : World) (o : Nat) (x : Object) : World :=
  { w with objects := w.objects.setIfInBounds o x }

def setContent (w : World) (o : Nat) (x : Content) : World :=
  w.setObject o { w.object o with content := x }

def setLatch (w : World) (o : Nat) (x : Option Latch) : World :=
  w.setObject o { w.object o with latch := x }

def locked (w : World) (l : Nat) : Bool := w.locks.getD l false

def setLocked (w : World) (l : Nat) (held : Bool) : World :=
  { w with locks := w.locks.setIfInBounds l held }

def bare (w : World) (s : Nat) : BareSemaphore := w.semaphores.getD s default

def setSemaphore (w : World) (s : Nat) (x : Semaphore) : World :=
  { w with semaphores := w.semaphores.setIfInBounds s { w.bare s with semaphore := x } }

/-- Notes what thread `t` did on object `o`. -/
def log (w : World) (t o : Nat) (events : List Event) (notices : List Notice) : World :=
  { w with
    events := w.events ++ events.map fun e => (t, toString o ++ "." ++ e.text)
    notices := w.notices ++ notices.map fun n => (t, n) }

/-- What a construction by thread `t` on object `o` draws on. -/
def supply (w : World) (t o : Nat) : Supply :=
  { sharing := w.sharing, rule := (w.object o).rule, memory := (w.thread t).memory }

/-- The failure that a script wants in place of the next call of this sort on object `o`. The first
injection that applies wins. -/
def injection (w : World) (o : Nat) (ask : Ask) : Option PrimitiveError :=
  let number := (w.object o).asked.count ask + 1
  ((w.object o).injections.find? fun i =>
    i.ask = ask && match i.numbers with
      | none => true
      | some ns => ns.contains number).map (·.error)

/-- Counts a call. -/
def count (w : World) (o : Nat) (ask : Ask) : World :=
  w.setObject o { w.object o with asked := ask :: (w.object o).asked }

/-! ## Beginning -/

/-- An object as it is set up, with this content. -/
def objectOfSpec (spec : ObjectSpec) (content : Content) : Object :=
  { content := content
    injections := spec.injections
    stalledBuilds := spec.stalledBuilds
    rule := spec.rule }

/-- Puts an object into a world that is being set up. -/
def place (w : World) (spec : ObjectSpec) : World :=
  let put (content : Content) (w : World) : World :=
    { w with objects := w.objects.push (objectOfSpec spec content) }
  let putHandle (x : Handle) : World :=
    put (.handle w.arena.handles.size)
      { w with arena := { w.arena with handles := w.arena.handles.push x } }
  match spec.kind with
  | .handle => putHandle {}
  | .lazyHandle parties => putHandle (Handle.lazy parties)
  | .barrier => put (.barrier none) w
  | .lock => put (.lock none) w
  | .semaphore => put (.semaphore none) w
  | .attributes => put (.attributes none) w
  | .group => put (.group {}) w

def start (sharing : Bool) (threads : Nat) (objects : List ObjectSpec) : World :=
  objects.foldl place
    { sharing, threads := Array.replicate threads {}, queue := List.range threads }

end World

namespace Activity

/-- The object an activity is on. -/
def object : Activity → Nat
  | handle o .. | inspectStatus o .. | inspectParties o .. | wait o .. | probe o ..
  | construct o _ | makeLock o | lock o .. | tryLock o _ | destroyLock o _ | makeSemaphore o ..
  | semWait o .. | semPost o .. | destroySemaphore o _ | group o _ => o
  | reply _ => 0

/-- The call that comes next and may be made to fail. -/
def asks : Activity → Option Ask
  | handle _ _ op | inspectStatus _ _ op | inspectParties _ _ _ op => op.asks
  | wait _ _ w => w.asks
  | probe _ _ _ p => p.asks
  | construct _ c => c.asks
  | makeLock _ => some .lockInit
  | lock _ _ .enter => some .lock
  | tryLock .. => some .tryLock
  | destroyLock .. => some .lockDestroy
  | makeSemaphore .. => some .semInit
  | semWait _ _ .enter => some .semWait
  | semPost .. => some .semPost
  | destroySemaphore .. => some .semDestroy
  | _ => none

/-- The barrier a thread is in, if it is in one. -/
def barrier? : Activity → Option Nat
  | handle _ _ (.inside b _) | handle _ _ (.probe b _ _) => some b
  | wait _ b _ | probe _ b _ _ => some b
  | _ => none

def bareLock? : Activity → Option Nat
  | lock _ l _ | tryLock _ l => some l
  | _ => none

def bareSemaphore? : Activity → Option Nat
  | semWait _ s _ | semPost _ s _ => some s
  | _ => none

/-- Where a thread in a barrier's wait is held up. -/
def placeInWait (o : Nat) : Barrier.Wait → Place
  | .lock | .relock _ => .lock o
  | .blocked g .. | .claiming g .. => .semaphore o (Side.ofGeneration g).index
  | _ => .internal

/-- Where a thread that cannot move is held up. -/
def place (w : World) : Activity → Place
  | handle o _ (.inside _ x) | wait o _ x => placeInWait o x
  | handle o _ (.probe ..) | probe o .. | lock o .. => .lock o
  | semWait o s _ => .semaphore o (w.bare s).index
  | _ => .internal

end Activity

/-- What the result of an operation on a handle amounts to. -/
def Reply.ofResult : Handle.Result → Reply
  | .error e => .failed e
  | .ok .done => .done
  | .ok (.outcome o) => .outcome o
  | .ok (.number n) => .number n
  | .ok (.status s) => .text s.name
  | .ok (.parties none) => .text "None"
  | .ok (.parties (some n)) => .number n.toNat

def Reply.ofUnit : Except BarrierError Unit → Reply
  | .ok () => .done
  | .error e => .failed e

def Reply.ofPrimitive : Except PrimitiveError Unit → Reply
  | .ok () => .done
  | .error e => .refused e

end Rendezvous.Script
