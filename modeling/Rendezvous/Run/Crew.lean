import Rendezvous.CancelGroup
import Rendezvous.Handle.Operation
import Rendezvous.RunError

/-!
# Crews

A crew is a number of threads that work on one handle and can be stopped together. A `Crew` holds
what its threads share: the arena with the handle, the group in which they enlist, and the settings
of each thread. Operations on the handle and calls on the group are carried out stage by stage, so
that the threads of a crew can be interleaved at will.

Before the threads start and after they are gone one more thread uses the handle, on its own.
`Crew.alone` carries out a whole operation for it.
-/

set_option autoImplicit false

namespace Rendezvous.Run

open Barrier Handle

structure Crew where
  arena : Arena
  group : CancelGroup := {}
  /-- Each thread's settings. -/
  cancels : Array Cancellation
  supply : Supply := {}
  deriving Repr

namespace Crew

/-- A handle around which there are no threads yet. -/
def around (supply : Supply) (handle : Handle) : Crew :=
  { arena := { handles := #[handle] }, cancels := #[], supply }

/-- So many fresh threads. -/
def staff (c : Crew) (threads : Nat) : Crew := { c with cancels := Array.replicate threads {} }

/-- The number of the crew's handle. -/
def theHandle : Nat := 0

/-- One stage of an operation on the handle by thread `i`. -/
def operate (c : Crew) (i : Nat) (op : Operation) : Option (Crew × Operation) :=
  (op.step c.arena theHandle (c.cancels.getD i {}) c.supply none).map fun turn =>
    ({ c with arena := turn.arena, cancels := c.cancels.setIfInBounds i turn.cancel }, turn.stage)

/-- One stage of a call on the group by thread `i`. -/
def confer (c : Crew) (i : Nat) (stage : CancelGroup.Stage) : Option (Crew × CancelGroup.Stage) :=
  (c.group.step i stage).map fun (group, effects, stage) =>
    let cancels := effects.foldl
      (fun (cancels : Array Cancellation) e =>
        cancels.setIfInBounds e.thread (e.apply (cancels.getD e.thread {})))
      c.cancels
    ({ c with group, cancels }, stage)

/-- More stages than an operation has for which nobody is in the way. -/
def patience : Nat := 200

/-- Goes on with an operation of a thread outside the crew, with settings of its own. -/
def finish (supply : Supply) : Nat → Arena → Cancellation → Operation → Option (Arena × Result)
  | 0, _, _, _ => none
  | fuel + 1, arena, cancel, op =>
      match op with
      | .finished r => some (arena, r)
      | op =>
          match op.step arena theHandle cancel supply none with
          | some turn => finish supply fuel turn.arena turn.cancel turn.stage
          | none => none

/-- A whole operation by a thread outside the crew; one that cannot finish counts as lost. -/
def alone (c : Crew) (op : Operation) : Crew × Except RunError Answer :=
  match finish c.supply patience c.arena {} op with
  | some (arena, r) => ({ c with arena }, r.mapError .barrier)
  | none => (c, .error .workerPanicked)

end Crew

end Rendezvous.Run
