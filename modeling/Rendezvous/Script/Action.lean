import Rendezvous.Barrier.Probe
import Rendezvous.Attributes
import Rendezvous.Handle.Slot

/-!
# The language of scripts

A script sets up objects and threads and then tells them what to do, one step at a time. A step
gives an action to one thread or to several, or is carried out by the controller that runs the
script. This module holds what a script can say (`Step`, `ObjectSpec`) and what comes back
(`Reply`, `Snapshot`, `Report`); running a script is the business of the other modules here.

Objects are named by their place in the list of objects, threads by number from zero.
-/

set_option autoImplicit false

namespace Rendezvous.Script

open Barrier

/-! ## Objects -/

/-- Calls of one sort on one object are numbered from one; those whose number is listed fail, or
all of them if there is no list. -/
structure Injection where
  ask : Ask
  numbers : Option (List Nat)
  error : PrimitiveError
  deriving Repr

/-- The kinds of object a script can set up. -/
inductive ObjectKind where
  | handle
  | lazyHandle (parties : UInt32)
  | barrier
  | lock
  | semaphore
  | attributes
  | group
  deriving DecidableEq, Repr

structure ObjectSpec where
  kind : ObjectKind
  injections : List Injection := []
  /-- The constructions, numbered from one, that stop just before they make the lock. -/
  stalledBuilds : List Nat := []
  rule : CancelRule := .whileBlocked
  deriving Repr

/-! ## Steps -/

/-- A place at which a thread can be made to stop until it is resumed. -/
inductive StallPoint where
  /-- About to make the lock of a new barrier. -/
  | init
  /-- About to ask for a lock. -/
  | lock
  /-- About to wait at a semaphore. -/
  | semaphore
  /-- About to post. -/
  | post
  deriving DecidableEq, Repr

def StallPoint.name : StallPoint → String
  | init => "init"
  | lock => "lock"
  | semaphore => "sem"
  | post => "post"

/-- Stop at a point the given time the thread passes it, counted from one within a step. -/
structure Stall where
  point : StallPoint
  pass : Nat
  deriving DecidableEq, Repr

/-- A cleanup routine: it notes its name, releases a lock object if that is held, and asks its own
thread to stop if told so. -/
structure Routine where
  name : String
  unlocks : Option Nat
  cancels : Bool
  deriving DecidableEq, Repr

/-- What a thread can be told to do. Objects that may be missing are optional. -/
inductive Action where
  | wait (h : Nat)
  | init (h : Nat) (parties : UInt32) (attributes : Option Nat)
  | destroy (h : Nat)
  | drop (h : Nat)
  | gauge (h : Nat) (gauge : Gauge)
  | inspect (h : Nat)
  | posixInit (h : Option Nat) (parties : UInt32) (attributes : Option Nat)
  | posixWait (h : Option Nat)
  | posixDestroy (h : Option Nat)
  | attrInit (h : Option Nat)
  | attrDestroy (h : Option Nat)
  | attrGet (h : Option Nat)
  | attrSet (h : Option Nat) (raw : Int)
  | setType (type : CancelType)
  | setState (state : CancelState)
  | test
  | settings
  | openShield (deferredOnly : Bool)
  | closeShield (index : Nat)
  | pushCleanup (routine : Routine)
  | popCleanup (execute : Bool)
  | dropCleanup
  | unwind
  | lockMake (h : Nat)
  | lock (h : Nat)
  | tryLock (h : Nat)
  | unlock (h : Nat)
  | lockDestroy (h : Nat)
  | semMake (h : Nat) (value : UInt32) (shared : Bool)
  | semWait (h : Nat)
  | semPost (h : Nat) (count : UInt32)
  | semValue (h : Nat)
  | semDestroy (h : Nat)
  | enlist (h : Nat)
  | abort (h : Nat)
  deriving Repr

/-- What the controller does itself. -/
inductive Control where
  /-- Ask a thread to stop. -/
  | cancel (thread : Nat)
  /-- Ask the first thread that is blocked at a semaphore and not asked yet. -/
  | cancelBlocked
  | resume (thread : Nat)
  /-- Take the lock of the object's latest barrier from outside. -/
  | hold (h : Nat)
  | release (h : Nat)
  deriving Repr

inductive Step where
  | act (threads : List Nat) (action : Action) (stalls : List Stall) (memory : Bool)
  | control (control : Control)
  deriving Repr

/-! ## Answers -/

/-- Why something was not carried out. -/
inductive Skip where
  | noObject
  | noScope
  | noCleanup
  | notHeld
  | inUse
  | noThread
  | threadBusy
  | nobody
  | notStalled
  | lockState
  | noLock
  deriving DecidableEq, Repr

def Skip.reason : Skip → String
  | noObject => "no object"
  | noScope => "no scope"
  | noCleanup => "no cleanup"
  | notHeld => "not held"
  | inUse => "in use"
  | noThread => "no thread"
  | threadBusy => "thread busy"
  | nobody => "nobody"
  | notStalled => "not stalled"
  | lockState => "lock state"
  | noLock => "no lock"

/-- What a thread answers when its action is complete. -/
inductive Reply where
  | done
  | outcome (outcome : Outcome)
  | failed (error : BarrierError)
  /-- A primitive's failure, from an action on the primitive itself. -/
  | refused (error : PrimitiveError)
  | number (n : Int)
  | flag (value : Bool)
  | text (s : String)
  | cancelType (type : CancelType)
  | cancelState (state : CancelState)
  | settings (c : Cancellation)
  | shieldOpened (index : Nat) (active : Bool)
  | ran (names : List String)
  | unwound (names : List String)
  | skipped (why : Skip)
  deriving Repr

/-- Where a thread is that could not finish its action. -/
inductive Place where
  | semaphore (object index : Nat)
  | lock (object : Nat)
  | stalled (point : StallPoint)
  /-- Behind another thread's unfinished construction. -/
  | internal
  deriving DecidableEq, Repr

def Place.text : Place → String
  | semaphore object index => toString object ++ ".sem" ++ toString index
  | lock object => toString object ++ ".lock"
  | stalled point => "stall:" ++ point.name
  | internal => "internal"

/-- A number inside a barrier, as far as it can be read at all. -/
inductive Reading where
  | number (n : Nat)
  /-- Somebody holds the lock. -/
  | held
  | failed (error : BarrierError)
  deriving Repr

inductive Snapshot where
  | handle (status : Status) (parties : Option UInt32) (waiting generation : Reading)
      (units : List UInt32)
  | barrier (parties : UInt32) (shared : Bool) (waiting generation : Reading)
      (units : List UInt32)
  | lock (held : Bool)
  | semaphore (value : UInt32) (shared : Bool)
  | attributes (raw : Int)
  | group
  /-- The object's slot is empty. -/
  | nothing
  deriving Repr

/-- What one step brought about. Events and notices come per thread, in order. -/
structure Report where
  done : List (Nat × Reply)
  blocked : List (Nat × Place)
  objects : List Snapshot
  events : List (Nat × List String)
  notices : List (Nat × List String)
  skip : Option Skip
  deriving Repr

end Rendezvous.Script
