import Rendezvous.Duration
import Rendezvous.Error

/-!
# Traces

Two records of what a run did. An `Event` is one call that a barrier made on its lock or on one of
its semaphores, with the answer it got; a failure that was injected from outside, in place of the
call, is told apart from one that the primitive reported itself. A `Notice` is a line for the log.

Both are values here, and only their `text` decides how they look. The owner of the primitives
(which barrier, which object) is not part of an event: whoever collects events knows whose they
are.
-/

set_option autoImplicit false

namespace Rendezvous

/-! ## Calls on primitives -/

/-- A call on a lock or on the semaphore with the given index. -/
inductive Call where
  | lockInit
  | lock
  | unlock
  | tryLock
  | lockDestroy
  | semInit (index : Nat) (value : UInt32) (shared : Bool)
  | semWait (index : Nat)
  | semPost (index : Nat) (count : UInt32)
  | semDestroy (index : Nat) (value : UInt32)
  deriving DecidableEq, Repr

/-- What came back from a call. -/
inductive CallResult where
  | done
  | flag (value : Bool)
  | failed (error : PrimitiveError)
  /-- The call was replaced, or in a teardown followed, by a failure from outside. -/
  | injected (error : PrimitiveError)
  deriving DecidableEq, Repr

structure Event where
  call : Call
  result : CallResult
  deriving DecidableEq, Repr

/-- The name of a call with its arguments. -/
def Call.text : Call → String
  | lockInit => "lock.init"
  | lock => "lock.lock"
  | unlock => "lock.unlock"
  | tryLock => "lock.try"
  | lockDestroy => "lock.destroy"
  | semInit index value shared =>
      "sem" ++ toString index ++ ".init(" ++ toString value.toNat ++ "," ++ toString shared ++ ")"
  | semWait index => "sem" ++ toString index ++ ".wait"
  | semPost index count => "sem" ++ toString index ++ ".post(" ++ toString count.toNat ++ ")"
  | semDestroy index value =>
      "sem" ++ toString index ++ ".destroy(" ++ toString value.toNat ++ ")"

/-- Calls that can fail by themselves say so when they did not. -/
def Call.confirms : Call → Bool
  | lockDestroy | semInit .. | semWait _ | semPost .. => true
  | lockInit | lock | unlock | tryLock | semDestroy .. => false

def Event.text (e : Event) : String :=
  match e.result, e.call with
  | .done, call => call.text ++ if call.confirms then "=ok" else ""
  | .flag value, call => call.text ++ "=" ++ toString value
  | .failed error, call => call.text ++ "=" ++ error.kind
  | .injected error, .semDestroy index _ =>
      "sem" ++ toString index ++ ".destroy!" ++ error.kind
  | .injected error, call => call.text ++ "!" ++ error.kind

/-! ## Log lines -/

/-- Something worth a line in the log. -/
inductive Notice where
  | created (parties : UInt32) (shared : Bool)
  | tripped (generation : UInt64)
  | withdrew (generation : UInt64)
  | semaphoreDestroyed (units : UInt32)
  | destroyed (parties : UInt32)
  | builtOnFirstUse (parties : UInt32)
  | discardedUnused
  | cleaningUp
  | configured (poll : Duration)
  deriving DecidableEq, Repr

inductive Level where
  | trace
  | debug
  deriving DecidableEq, Repr

namespace Notice

def level : Notice → Level
  | withdrew _ | builtOnFirstUse _ | configured _ => .debug
  | created .. | tripped _ | semaphoreDestroyed _ | destroyed _ | discardedUnused
  | cleaningUp => .trace

def message : Notice → String
  | created parties shared =>
      "barrier created: parties=" ++ toString parties.toNat ++ ", shared=" ++ toString shared
  | tripped generation =>
      "barrier breached, generation " ++ toString generation.toNat ++ " begins"
  | withdrew generation =>
      "canceled waiter withdrew from generation " ++ toString generation.toNat
  | semaphoreDestroyed units =>
      "semaphore destroyed with " ++ toString units.toNat ++ " units left"
  | destroyed parties => "barrier destroyed: parties=" ++ toString parties.toNat
  | builtOnFirstUse parties =>
      "auto-initialized barrier for " ++ toString parties.toNat ++ " parties"
  | discardedUnused => "unused auto-init barrier destroyed"
  | cleaningUp => "running cleanup routine during unwind"
  | configured poll => "rdv-sync configured: cancel_poll_interval=" ++ poll.text

def text (n : Notice) : String :=
  (match n.level with
    | .trace => "TRACE "
    | .debug => "DEBUG ") ++ n.message

end Notice

end Rendezvous
