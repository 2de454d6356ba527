import Rendezvous.Barrier.Basic
import Rendezvous.Trace

/-!
# Waiting at a barrier

A call of `wait` is a sequence of stages, and `Wait.step` performs one of them for one thread. The
stages are as fine as the machine is: asking for the lock and getting it are two, looking at the
count and giving the lock back are two, and the semaphore has stages of its own. Everything a
schedule can tell apart happens in a stage of its own, so that what holds of all sequences of steps
holds of all schedules.

## The course of a wait

```text
enter, lock, arrive ──┬── last one ──▶ trip, post ─────────────────────────▶ serial
                      └── not yet ───▶ counted, pause, blocked ──┬── unit ──▶ released
                                                                 └── asked to stop
                                                                       │
              turnBack, relock, judge ◀──────────────────────────────┘
                 ├── same generation ──▶ retracted ────────────────────────▶ canceled
                 └── tripped meanwhile ▶ overtaken, claim, claiming ── unit ▶ released
```

The blocking wait is shielded from deferred cancellation, so only a thread of asynchronous type is
ever asked to stop there. Such a thread takes its arrival back if its generation is still open. If
the generation has tripped meanwhile, a unit is on its way to this thread, which must not be left
behind: the thread fetches it, deaf to cancellation, and counts as released.

## Failures

A primitive call may be made to fail from outside: `fault` is the failure that replaces the call of
this stage, if the stage makes one that can fail (`Wait.asks`). The call then does nothing. No
failure is undone beyond what the stages show: a thread that is refused at the gate for another
reason than cancellation leaves without taking its arrival back.
-/

set_option autoImplicit false

namespace Rendezvous.Barrier

/-- The calls a failure from outside can replace. -/
inductive Ask where
  | lockInit
  | semInit
  | lock
  | tryLock
  | semWait
  | semPost
  | lockDestroy
  | semDestroy
  deriving DecidableEq, Repr

/-- Where a call of wait stands. `g` is the generation the thread arrived in. -/
inductive Wait where
  /-- About to ask for the lock. -/
  | enter
  /-- Waiting for the lock. -/
  | lock
  /-- Holding it, about to be counted in. -/
  | arrive
  /-- Holding it; this was the last arrival and the next generation has begun. -/
  | trip (g : UInt64)
  /-- About to open the gate for the others. -/
  | post (g : UInt64)
  /-- Holding it; counted in, others are missing. -/
  | counted (g : UInt64)
  /-- About to wait at the gate. -/
  | pause (g : UInt64)
  /-- At the gate. -/
  | blocked (g : UInt64) (shield : Shield) (w : Semaphore.Wait)
  /-- Asked to stop; about to ask for the lock again. -/
  | turnBack (g : UInt64)
  /-- Waiting for the lock again. -/
  | relock (g : UInt64)
  /-- Holding it, about to see whether the generation is still open. -/
  | judge (g : UInt64)
  /-- Holding it; the arrival is taken back. -/
  | retracted (g : UInt64)
  /-- Holding it; the generation tripped, so a unit is owed. -/
  | overtaken (g : UInt64)
  /-- About to fetch the unit. -/
  | claim (g : UInt64)
  /-- At the gate for the unit. -/
  | claiming (g : UInt64) (shield : Shield) (w : Semaphore.Wait)
  | finished (result : Except BarrierError Outcome)
  deriving Repr

/-- What one stage leaves behind: the barrier, the thread's settings, its next stage, and what the
stage has to tell. -/
structure Wait.Turn where
  barrier : Barrier
  cancel : Cancellation
  stage : Wait
  events : List Event := []
  notices : List Notice := []
  deriving Repr

namespace Wait

/-- The call that this stage is about to make and that may be made to fail. -/
def asks : Wait → Option Ask
  | enter | turnBack _ => some .lock
  | pause _ | claim _ => some .semWait
  | post _ => some .semPost
  | _ => none

/-- What the semaphore answered, as an event. -/
def waited (g : UInt64) : Except PrimitiveError Unit → Event
  | .ok () => ⟨.semWait (Side.ofGeneration g).index, .done⟩
  | .error e => ⟨.semWait (Side.ofGeneration g).index, .failed e⟩

/-- Where a thread goes from the gate with the answer it got there. -/
def afterGate (g : UInt64) : Except PrimitiveError Unit → Wait
  | .ok () => finished (.ok .released)
  | .error .canceled => turnBack g
  | .error e => finished (.error (.primitive e))

/-- Where a thread goes from the gate when it was there for a unit it was owed. -/
def afterClaim : Except PrimitiveError Unit → Wait
  | .ok () => finished (.ok .released)
  | .error e => finished (.error (.primitive e))

/-- One stage of a wait by a thread with settings `c`; `none` if the thread is blocked or done. -/
def step (b : Barrier) (c : Cancellation) (fault : Option PrimitiveError) : Wait → Option Turn
  | enter =>
      match fault with
      | some e => some ⟨b, c, finished (.error (.primitive e)), [⟨.lock, .injected e⟩], []⟩
      | none => some ⟨b, c, lock, [], []⟩
  | lock => if b.locked then none else some ⟨b.lock, c, arrive, [⟨.lock, .done⟩], []⟩
  | arrive =>
      if b.countIn.missing = 0 then some ⟨b.countIn.trip, c, trip b.generation, [], []⟩
      else some ⟨b.countIn, c, counted b.generation, [], []⟩
  | trip g => some ⟨b.unlock, c, post g, [⟨.unlock, .done⟩], []⟩
  | post g =>
      let index := (Side.ofGeneration g).index
      let others := b.parties - 1
      match fault with
      | some e =>
          some ⟨b, c, finished (.error (.primitive e)), [⟨.semPost index others, .injected e⟩], []⟩
      | none =>
          match (b.gate (Side.ofGeneration g)).post others with
          | .ok s =>
              some ⟨b.setGate (Side.ofGeneration g) s, c, finished (.ok .serial),
                [⟨.semPost index others, .done⟩], [.tripped (g + 1)]⟩
          | .error e =>
              some ⟨b, c, finished (.error (.primitive e)),
                [⟨.semPost index others, .failed e⟩], []⟩
  | counted g => some ⟨b.unlock, c, pause g, [⟨.unlock, .done⟩], []⟩
  | pause g =>
      match fault with
      | some e =>
          some ⟨b, c, afterGate g (.error e),
            [⟨.semWait (Side.ofGeneration g).index, .injected e⟩], []⟩
      | none =>
          some ⟨b, c.shieldDeferred.2,
            blocked g c.shieldDeferred.1 (.start (b.gate (Side.ofGeneration g)).rule), [], []⟩
  | blocked g shield (.finished r) =>
      some ⟨b, c.unshield shield, afterGate g r, [waited g r], []⟩
  | blocked g shield w =>
      (w.step (b.gate (Side.ofGeneration g)) c).map fun (s, c', w') =>
        ⟨b.setGate (Side.ofGeneration g) s, c', blocked g shield w', [], []⟩
  | turnBack g =>
      match fault with
      | some e => some ⟨b, c, finished (.error (.primitive e)), [⟨.lock, .injected e⟩], []⟩
      | none => some ⟨b, c, relock g, [], []⟩
  | relock g => if b.locked then none else some ⟨b.lock, c, judge g, [⟨.lock, .done⟩], []⟩
  | judge g =>
      if b.generation = g then some ⟨b.countOut, c, retracted g, [], []⟩
      else some ⟨b, c, overtaken g, [], []⟩
  | retracted g =>
      some ⟨b.unlock, c, finished (.error (.primitive .canceled)), [⟨.unlock, .done⟩],
        [.withdrew g]⟩
  | overtaken g => some ⟨b.unlock, c, claim g, [⟨.unlock, .done⟩], []⟩
  | claim g =>
      match fault with
      | some e =>
          some ⟨b, c, afterClaim (.error e),
            [⟨.semWait (Side.ofGeneration g).index, .injected e⟩], []⟩
      | none =>
          some ⟨b, c.shield.2,
            claiming g c.shield.1 (.start (b.gate (Side.ofGeneration g)).rule), [], []⟩
  | claiming g shield (.finished r) =>
      some ⟨b, c.unshield shield, afterClaim r, [waited g r], []⟩
  | claiming g shield w =>
      (w.step (b.gate (Side.ofGeneration g)) c).map fun (s, c', w') =>
        ⟨b.setGate (Side.ofGeneration g) s, c', claiming g shield w', [], []⟩
  | finished _ => none

/-- The stages at which the thread holds the barrier's lock. -/
def holdsLock : Wait → Bool
  | arrive | trip _ | counted _ | judge _ | retracted _ | overtaken _ => true
  | _ => false

end Wait

end Rendezvous.Barrier
