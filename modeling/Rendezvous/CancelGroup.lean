import Rendezvous.Cancellation

/-!
# Groups that are canceled together

Threads working on one job enlist in a `CancelGroup`, and any of them may abort the job, which asks
every member to stop. The difficulty is the late joiner: a thread that enlists while somebody
aborts must be asked too. Both calls therefore work under the group's own lock. Enlisting looks at
the flag and signs the list in one critical section; aborting raises the flag and sweeps the list in
another.

A call is a sequence of `Stage`s and `step` performs one of them for one thread, so that calls of
different threads interleave as finely as they do on a machine. What a stage does to threads is
returned as `Effect`s, because a group knows its members by number only.
-/

set_option autoImplicit false

namespace Rendezvous

structure CancelGroup where
  /-- Somebody is inside a critical section. -/
  locked : Bool := false
  aborted : Bool := false
  /-- Members in the order in which they signed, a thread as often as it enlisted. -/
  members : List Nat := []
  deriving DecidableEq, Repr, Inhabited

namespace CancelGroup

/-- Where a call of a thread stands. -/
inductive Stage where
  /-- Enlisting: about to turn the thread's type asynchronous. -/
  | retype
  /-- Enlisting: about to enter the critical section. -/
  | knock
  /-- Enlisting: inside, about to look at the flag and sign the list. -/
  | sign
  /-- Aborting: about to enter the critical section. -/
  | alarm
  /-- Aborting: inside, about to raise the flag. -/
  | raise
  /-- Aborting: these members are still to be asked to stop. -/
  | sweep (left : List Nat)
  /-- About to leave the critical section. -/
  | leave
  | finished
  deriving DecidableEq, Repr, Inhabited

def enlist : Stage := .retype

def abort : Stage := .alarm

/-- What a stage does to a thread. -/
inductive Effect where
  | becomeAsynchronous (thread : Nat)
  | request (thread : Nat)
  deriving DecidableEq, Repr

/-- One stage of a call by thread `self`; `none` if it has to wait for the lock or is finished. -/
def step (g : CancelGroup) (self : Nat) : Stage → Option (CancelGroup × List Effect × Stage)
  | .retype => some (g, [.becomeAsynchronous self], .knock)
  | .knock => if g.locked then none else some ({ g with locked := true }, [], .sign)
  | .sign =>
      some ({ g with members := g.members ++ [self] },
        if g.aborted then [.request self] else [], .leave)
  | .alarm => if g.locked then none else some ({ g with locked := true }, [], .raise)
  | .raise => some ({ g with aborted := true }, [], .sweep g.members)
  | .sweep [] => some (g, [], .leave)
  | .sweep (member :: left) => some (g, [.request member], .sweep left)
  | .leave => some ({ g with locked := false }, [], .finished)
  | .finished => none

/-- What an effect means for the settings of the thread it names. -/
def Effect.apply : Effect → Cancellation → Cancellation
  | becomeAsynchronous _, c => c.setType .asynchronous
  | request _, c => c.request

def Effect.thread : Effect → Nat
  | becomeAsynchronous thread => thread
  | request thread => thread

end CancelGroup

end Rendezvous
