import Rendezvous.Barrier.Wait

/-!
# Building a barrier

A construction checks the number of parties, sets memory aside, and then makes the lock and the two
gates in this order. If a gate cannot be made, what was made before it is torn down again, newest
first, and the failure that stopped the construction is reported unchanged. Failures on the way
down are not reported at all, since there is nothing left to go back to.
-/

set_option autoImplicit false

namespace Rendezvous.Barrier

/-- What a construction draws on. -/
structure Supply where
  /-- Whether semaphores can be shared between processes. -/
  sharing : Bool := false
  /-- The poll interval the gates will remember. -/
  poll : Duration := Tuning.standard.pollInterval
  /-- How waits at the gates notice requests. -/
  rule : CancelRule := .whileBlocked
  /-- Whether there is memory for a barrier. -/
  memory : Bool := true
  deriving DecidableEq, Repr, Inhabited

/-- Where a construction stands. -/
inductive Construction where
  /-- About to look at the number of parties and to set memory aside. -/
  | check (parties : UInt32) (shared : Bool)
  | makeLock (parties : UInt32) (shared : Bool)
  | makeEven (parties : UInt32) (shared : Bool)
  | makeOdd (parties : UInt32) (shared : Bool) (evenGate : Semaphore)
  /-- The odd gate could not be made; the even one has to go. -/
  | undoEven (evenGate : Semaphore) (e : PrimitiveError)
  /-- A gate could not be made; the lock has to go. -/
  | undoLock (e : PrimitiveError)
  | finished (result : Except BarrierError Barrier)
  deriving Repr

structure Construction.Turn where
  stage : Construction
  events : List Event := []
  notices : List Notice := []
  deriving Repr

/-- The event of a teardown call that a failure from outside may follow. -/
def teardownEvents (call : Call) : Option PrimitiveError → List Event
  | none => [⟨call, .done⟩]
  | some e => [⟨call, .done⟩, ⟨call, .injected e⟩]

namespace Construction

def asks : Construction → Option Ask
  | makeLock .. => some .lockInit
  | makeEven .. | makeOdd .. => some .semInit
  | undoEven .. => some .semDestroy
  | undoLock _ => some .lockDestroy
  | _ => none

/-- Makes a gate: the semaphore or the failure, and the event. -/
def makeGate (supply : Supply) (index : Nat) (shared : Bool) :
    Option PrimitiveError → Except PrimitiveError Semaphore × Event
  | some e => (.error e, ⟨.semInit index 0 shared, .injected e⟩)
  | none =>
      match Semaphore.create 0 shared supply.sharing supply.poll supply.rule with
      | .ok s => (.ok s, ⟨.semInit index 0 shared, .done⟩)
      | .error e => (.error e, ⟨.semInit index 0 shared, .failed e⟩)

def step (supply : Supply) (fault : Option PrimitiveError) : Construction → Option Turn
  | check parties shared =>
      if parties = 0 then some ⟨finished (.error (.invalidArgument .noParties)), [], []⟩
      else if Semaphore.maxValue < parties then
        some ⟨finished (.error (.invalidArgument (.tooManyParties parties Semaphore.maxValue))),
          [], []⟩
      else if supply.memory then some ⟨makeLock parties shared, [], []⟩
      else some ⟨finished (.error (.resourceExhausted "memory for a barrier")), [], []⟩
  | makeLock parties shared =>
      match fault with
      | some e => some ⟨finished (.error (.primitive e)), [⟨.lockInit, .injected e⟩], []⟩
      | none => some ⟨makeEven parties shared, [⟨.lockInit, .done⟩], []⟩
  | makeEven parties shared =>
      match makeGate supply Side.even.index shared fault with
      | (.ok s, event) => some ⟨makeOdd parties shared s, [event], []⟩
      | (.error e, event) => some ⟨undoLock e, [event], []⟩
  | makeOdd parties shared evenGate =>
      match makeGate supply Side.odd.index shared fault with
      | (.ok s, event) =>
          some ⟨finished (.ok (Barrier.fresh parties shared evenGate s)), [event],
            [.created parties shared]⟩
      | (.error e, event) => some ⟨undoEven evenGate e, [event], []⟩
  | undoEven evenGate e =>
      some ⟨undoLock e, teardownEvents (.semDestroy Side.even.index evenGate.value) fault,
        [.semaphoreDestroyed evenGate.value]⟩
  | undoLock e =>
      some ⟨finished (.error (.primitive e)), teardownEvents .lockDestroy fault, []⟩
  | finished _ => none

end Construction

/-! ## Tearing down

A barrier is torn down by the thread that took its lock for good. Both gates go first, then the
lock is given back and goes too. Nothing can stop a teardown: failures from outside follow the call
they concern and are forgotten. -/

/-- Where a teardown stands. -/
inductive Teardown where
  | evenGate
  | oddGate
  | unlock
  | lock
  | finished
  deriving DecidableEq, Repr

structure Teardown.Turn where
  barrier : Barrier
  stage : Teardown
  events : List Event := []
  notices : List Notice := []
  deriving Repr

namespace Teardown

def asks : Teardown → Option Ask
  | evenGate | oddGate => some .semDestroy
  | lock => some .lockDestroy
  | _ => none

/-- What the lock answers when it is torn down: it refuses while it is held, and is gone anyway. -/
def lockEvents (held : Bool) (fault : Option PrimitiveError) : List Event :=
  if held then
    ⟨.lockDestroy, .failed (.busy "lock is held")⟩ ::
      (teardownEvents .lockDestroy fault).drop 1
  else teardownEvents .lockDestroy fault

def step (b : Barrier) (fault : Option PrimitiveError) : Teardown → Option Turn
  | evenGate =>
      some ⟨b, oddGate, teardownEvents (.semDestroy Side.even.index b.evenGate.value) fault,
        [.semaphoreDestroyed b.evenGate.value]⟩
  | oddGate =>
      some ⟨b, unlock, teardownEvents (.semDestroy Side.odd.index b.oddGate.value) fault,
        [.semaphoreDestroyed b.oddGate.value]⟩
  | unlock => some ⟨b.unlock, lock, [⟨.unlock, .done⟩], []⟩
  | lock => some ⟨b, finished, lockEvents b.locked fault, [.destroyed b.parties]⟩
  | finished => none

end Teardown

end Rendezvous.Barrier
