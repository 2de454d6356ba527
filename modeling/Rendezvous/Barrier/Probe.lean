import Rendezvous.Barrier.Wait

/-!
# Reading the count

How many threads are waiting, and how many generations have been completed, is known under the
barrier's lock only. A `Probe` takes the lock, reads one of the two numbers and gives the lock back.
-/

set_option autoImplicit false

namespace Rendezvous.Barrier

/-- What a probe reads. -/
inductive Gauge where
  | waiting
  | generation
  deriving DecidableEq, Repr

def read (b : Barrier) : Gauge → Nat
  | .waiting => b.waiting.toNat
  | .generation => b.generation.toNat

/-- Where a probe stands. -/
inductive Probe where
  /-- About to ask for the lock. -/
  | enter
  /-- Waiting for the lock. -/
  | lock
  /-- Holding it, about to read. -/
  | read
  /-- Holding it, with the number read. -/
  | leave (value : Nat)
  | finished (result : Except BarrierError Nat)
  deriving Repr

structure Probe.Turn where
  barrier : Barrier
  stage : Probe
  events : List Event := []
  deriving Repr

namespace Probe

def asks : Probe → Option Ask
  | enter => some .lock
  | _ => none

def step (b : Barrier) (gauge : Gauge) (fault : Option PrimitiveError) : Probe → Option Turn
  | enter =>
      match fault with
      | some e => some ⟨b, finished (.error (.primitive e)), [⟨.lock, .injected e⟩]⟩
      | none => some ⟨b, lock, []⟩
  | lock => if b.locked then none else some ⟨b.lock, read, [⟨.lock, .done⟩]⟩
  | read => some ⟨b, leave (b.read gauge), []⟩
  | leave value => some ⟨b.unlock, finished (.ok value), [⟨.unlock, .done⟩]⟩
  | finished _ => none

end Probe

end Rendezvous.Barrier
