import Rendezvous.Barrier.Construction
import Rendezvous.Barrier.Probe
import Rendezvous.Handle.Slot

/-!
# Operations on handles

Five operations work on a handle: `init` builds a barrier into it, `wait` waits at its barrier and
builds it first if the handle was never used, `destroy` tears the barrier down, and two kinds of
questions ask for its state or for the count inside. As for barriers, an operation is a sequence of
stages, and `Operation.step` performs one stage of one thread's operation on one handle.

## How the operations keep out of each other's way

Whoever looks at a slot shares it while looking, and a waiting thread goes on sharing it until its
wait is over. Whoever builds a barrier into a slot reserves it first and looks at it again under the
reservation. An unused handle has no lock of its own to settle who builds its barrier, so both
errands that start from such a handle, building on first use and discarding, go through one
process-wide lock and look again once they hold it. A thread that lost the race to build looks at
the slot afresh; a thread that finds its handle destroyed meanwhile gives up, so that a destroyed
handle is never brought back by a waiter.

Destroying never waits for waiters: it tries for the slot and then for the barrier's lock, and
reports the barrier busy if either is taken. Once it has both, the slot is emptied first and given
back, and only then are the gates and the lock torn down, out of everybody's reach.
-/

set_option autoImplicit false

namespace Rendezvous.Handle

open Barrier

/-- What an operation that begins by looking at the slot wants there. -/
inductive Inquiry where
  | wait
  | destroy
  | status
  | parties
  | gauge (gauge : Gauge)
  deriving DecidableEq, Repr

/-- What an operation that reserves the slot is about. -/
inductive Errand where
  /-- Build a barrier because somebody said so. -/
  | init (parties : UInt32) (shared : Bool)
  /-- Build the barrier of an unused handle for a waiter. -/
  | resolve
  /-- Empty an unused handle. -/
  | discard
  deriving DecidableEq, Repr

/-- Whether an errand runs under the process-wide lock. -/
def Errand.guarded : Errand → Bool
  | init .. => false
  | resolve | discard => true

/-- What an operation answers. -/
inductive Answer where
  | done
  | outcome (outcome : Outcome)
  | status (status : Status)
  | parties (parties : Option UInt32)
  | number (n : Nat)
  deriving DecidableEq, Repr, Inhabited

abbrev Result := Except BarrierError Answer

/-- What follows once a hold has been given back. -/
inductive Next where
  | answer (result : Result)
  /-- Look at the slot again, to wait. -/
  | again
  | resolve
  | discard
  /-- Try to get hold of the slot for destroying. -/
  | claim
  deriving Repr

/-- Where an operation stands. -/
inductive Operation where
  /-- About to share the slot. -/
  | knock (q : Inquiry)
  /-- Sharing it, about to look. -/
  | look (q : Inquiry)
  /-- Sharing it, in the barrier. -/
  | inside (b : Nat) (w : Wait)
  /-- Sharing it, reading the barrier's count. -/
  | probe (b : Nat) (gauge : Gauge) (p : Probe)
  /-- Sharing it, about to stop. -/
  | leave (n : Next)
  /-- About to take the process-wide lock. -/
  | guard (e : Errand)
  /-- About to reserve the slot. -/
  | reserve (e : Errand)
  /-- With the reservation, about to look. -/
  | inspect (e : Errand)
  /-- With the reservation, building. -/
  | build (e : Errand) (c : Construction)
  /-- With the reservation, about to announce a change of the slot. -/
  | announce (e : Errand) (new : Slot)
  /-- Change announced; waiting for the last sharers to go. -/
  | store (e : Errand) (new : Slot)
  /-- Slot written, about to be given back. -/
  | release (e : Errand) (n : Next)
  /-- With the reservation, about to give it up. -/
  | giveUp (e : Errand) (n : Next)
  /-- About to give the process-wide lock back. -/
  | unguard (n : Next)
  /-- About to try for an exclusive hold. -/
  | claim
  /-- Holding the slot exclusively, about to look. -/
  | verify
  /-- Holding the slot, about to try for the barrier's lock. -/
  | seize (b : Nat)
  /-- Holding both, about to empty the slot. -/
  | clear (b : Nat)
  /-- Slot emptied, about to be given back. -/
  | detach (b : Nat)
  /-- Holding the lock of a barrier that nobody else can reach. -/
  | tearDown (b : Nat) (t : Teardown)
  /-- Holding the slot exclusively, about to give up. -/
  | abandon (n : Next)
  | finished (result : Result)
  deriving Repr

structure Operation.Turn where
  arena : Arena
  cancel : Cancellation
  stage : Operation
  events : List Event := []
  notices : List Notice := []
  deriving Repr

def Next.stage : Next → Operation
  | answer result => .finished result
  | again => .knock .wait
  | resolve => .guard .resolve
  | discard => .guard .discard
  | claim => .claim

/-- Where an errand goes when it is done with the slot. -/
def Errand.afterSlot (e : Errand) (n : Next) : Operation :=
  if e.guarded then .unguard n else n.stage

/-- What follows when an errand has written the slot. -/
def Errand.onSuccess : Errand → Next
  | init .. => .answer (.ok .done)
  | resolve => .again
  | discard => .answer (.ok .done)

/-- What an errand tells the log when it has written the slot. -/
def Errand.notices (a : Arena) (new : Slot) : Errand → List Notice
  | init .. => []
  | resolve => ((a.partiesOf new).map Notice.builtOnFirstUse).toList
  | discard => [.discardedUnused]

/-- What an errand does when it finds the slot in this state. -/
def Errand.inspect : Errand → Slot → Operation
  | e@(init ..), .live _ => .giveUp e (.answer (.error (.busy .alreadyInitialized)))
  | e@(init parties shared), .unbuilt _ | e@(init parties shared), .empty =>
      .build e (.check parties shared)
  | resolve, .unbuilt parties => .build .resolve (.check parties false)
  | resolve, .live _ => .giveUp .resolve .again
  | resolve, .empty =>
      .giveUp .resolve (.answer (.error (.invalidArgument .destroyedWhilePending)))
  | discard, .unbuilt _ => .announce .discard .empty
  | discard, .live _ => .giveUp .discard (.answer (.error (.busy .initializedMeanwhile)))
  | discard, .empty => .giveUp .discard (.answer (.error (.invalidArgument .alreadyDestroyed)))

/-- What an inquiry does when it finds the slot in this state. -/
def Inquiry.look (a : Arena) : Inquiry → Slot → Operation
  | wait, .live b => .inside b .enter
  | wait, .unbuilt _ => .leave .resolve
  | destroy, .live _ => .leave .claim
  | destroy, .unbuilt _ => .leave .discard
  | wait, .empty | destroy, .empty | gauge _, .empty =>
      .leave (.answer (.error (.invalidArgument .notInitialized)))
  | status, s => .leave (.answer (.ok (.status s.status)))
  | parties, s => .leave (.answer (.ok (.parties (a.partiesOf s))))
  | gauge g, .live b => .probe b g .enter
  | gauge _, .unbuilt _ => .leave (.answer (.ok (.number 0)))

namespace Operation

/-- The call that this stage is about to make and that may be made to fail. -/
def asks : Operation → Option Ask
  | inside _ w => w.asks
  | probe _ _ p => p.asks
  | build _ c => c.asks
  | seize _ => some .tryLock
  | tearDown _ t => t.asks
  | _ => none

/-- One stage of an operation on handle `h` by a thread with settings `c`; `none` if the thread is
blocked or done. -/
def step (a : Arena) (h : Nat) (c : Cancellation) (supply : Supply)
    (fault : Option PrimitiveError) : Operation → Option Turn
  | knock q =>
      if (a.holds h).mayShare then
        some ⟨a.setHolds h (a.holds h).share, c, look q, [], []⟩
      else none
  | look q => some ⟨a, c, q.look a (a.slot h), [], []⟩
  | inside _ (.finished r) => some ⟨a, c, leave (.answer (r.map .outcome)), [], []⟩
  | inside b w =>
      (w.step (a.barrier b) c fault).map fun t =>
        ⟨a.setBarrier b t.barrier, t.cancel, inside b t.stage, t.events, t.notices⟩
  | probe _ _ (.finished r) => some ⟨a, c, leave (.answer (r.map .number)), [], []⟩
  | probe b gauge p =>
      (p.step (a.barrier b) gauge fault).map fun t =>
        ⟨a.setBarrier b t.barrier, c, probe b gauge t.stage, t.events, []⟩
  | leave n => some ⟨a.setHolds h (a.holds h).unshare, c, n.stage, [], []⟩
  | guard e => if a.guarded then none else some ⟨{ a with guarded := true }, c, reserve e, [], []⟩
  | reserve e =>
      if (a.holds h).mayReserve then
        some ⟨a.setHolds h (a.holds h).reserve, c, inspect e, [], []⟩
      else none
  | inspect e => some ⟨a, c, e.inspect (a.slot h), [], []⟩
  | build e (.finished (.ok b)) => some ⟨(a.adopt b).1, c, announce e (.live (a.adopt b).2), [], []⟩
  | build e (.finished (.error err)) => some ⟨a, c, giveUp e (.answer (.error err)), [], []⟩
  | build e s =>
      (s.step supply fault).map fun t => ⟨a, c, build e t.stage, t.events, t.notices⟩
  | announce e new => some ⟨a.setHolds h (a.holds h).announce, c, store e new, [], []⟩
  | store e new =>
      if (a.holds h).sharers = 0 then
        some ⟨a.setSlot h new, c, release e e.onSuccess, [], e.notices a new⟩
      else none
  | release e n => some ⟨a.setHolds h (a.holds h).unclaim, c, e.afterSlot n, [], []⟩
  | giveUp e n => some ⟨a.setHolds h (a.holds h).unreserve, c, e.afterSlot n, [], []⟩
  | unguard n => some ⟨{ a with guarded := false }, c, n.stage, [], []⟩
  | claim =>
      if (a.holds h).free then some ⟨a.setHolds h (a.holds h).claim, c, verify, [], []⟩
      else some ⟨a, c, finished (.error (.busy .threadsInside)), [], []⟩
  | verify =>
      match a.slot h with
      | .live b => some ⟨a, c, seize b, [], []⟩
      | .empty =>
          some ⟨a, c, abandon (.answer (.error (.invalidArgument .alreadyDestroyed))), [], []⟩
      | .unbuilt _ => some ⟨a, c, abandon .discard, [], []⟩
  | seize b =>
      if fault.isSome || (a.barrier b).locked then
        some ⟨a, c, abandon (.answer (.error (.busy .lockHeld))), [⟨.tryLock, .flag false⟩], []⟩
      else some ⟨a.setBarrier b (a.barrier b).lock, c, clear b, [⟨.tryLock, .flag true⟩], []⟩
  | clear b => some ⟨a.setSlot h .empty, c, detach b, [], []⟩
  | detach b => some ⟨a.setHolds h (a.holds h).unclaim, c, tearDown b .evenGate, [], []⟩
  | tearDown _ .finished => some ⟨a, c, finished (.ok .done), [], []⟩
  | tearDown b t =>
      (t.step (a.barrier b) fault).map fun u =>
        ⟨a.setBarrier b u.barrier, c, tearDown b u.stage, u.events, u.notices⟩
  | abandon n => some ⟨a.setHolds h (a.holds h).unclaim, c, n.stage, [], []⟩
  | finished _ => none

/-! ### Where the operations begin -/

def init (parties : UInt32) (shared : Bool) : Operation := reserve (.init parties shared)

def wait : Operation := knock .wait

def destroy : Operation := knock .destroy

def ask (q : Inquiry) : Operation := knock q

end Operation

/-! ## Entry points that may be called without a handle -/

/-- The POSIX-shaped functions take a handle that may be missing, and refuse before anything else
if it is. -/
def required {α : Type} : Option α → Except BarrierError α
  | some h => .ok h
  | none => .error (.invalidArgument .nullHandle)

end Rendezvous.Handle
