import Rendezvous.Text.Quoted

/-!
# What can go wrong

Failures come in two layers. A lock, a semaphore or a cancellation point refuses with a
`PrimitiveError`. A barrier, a handle or an attributes object refuses with a `BarrierError`,
which either names a cause of its own or passes a primitive's failure on as it came.

Each cause is a constructor and its wording is written once, in a `message` function. The short
name under which a failure appears in traces is its `kind`; `errno` is the number the POSIX
interface would return for it; `inspect` shows the value with its parts, as a diagnostic does.
-/

set_option autoImplicit false

namespace Rendezvous

open Text

/-! ## Primitives -/

/-- Why a lock, a semaphore or a cancellation point refused. -/
inductive PrimitiveError where
  /-- The calling thread acted on a pending cancellation request. -/
  | canceled
  /-- The mode asked for is not available in this build. -/
  | notSupported (feature : String)
  /-- A semaphore's value would exceed its maximum. -/
  | overflow (value added max : UInt32)
  /-- The primitive is in use and cannot be torn down. -/
  | busy (reason : String)
  /-- A failure reported by the platform. -/
  | system (operation : String) (code : Int)
  deriving DecidableEq, Repr, Inhabited

namespace PrimitiveError

def kind : PrimitiveError → String
  | canceled => "Canceled"
  | notSupported _ => "NotSupported"
  | overflow .. => "Overflow"
  | busy _ => "Busy"
  | system .. => "System"

def message : PrimitiveError → String
  | canceled => "Operation canceled"
  | notSupported feature => "Operation not supported: " ++ feature
  | overflow value added max =>
      "Semaphore overflow: value " ++ toString value.toNat ++ " + " ++ toString added.toNat ++
        " exceeds " ++ toString max.toNat
  | busy reason => "Primitive busy: " ++ reason
  | system operation code => "System error in " ++ operation ++ ": code " ++ toString code

def inspect : PrimitiveError → String
  | canceled => "Canceled"
  | notSupported feature => "NotSupported(" ++ quoted feature ++ ")"
  | overflow value added max =>
      "Overflow \x7b value: " ++ toString value.toNat ++ ", added: " ++ toString added.toNat ++
        ", max: " ++ toString max.toNat ++ " \x7d"
  | busy reason => "Busy(" ++ quoted reason ++ ")"
  | system operation code =>
      "System \x7b operation: " ++ quoted operation ++ ", code: " ++ toString code ++ " \x7d"

/-- Linux error numbers; a platform failure keeps its own. -/
def errno : PrimitiveError → Int
  | canceled => 125
  | notSupported _ => 38
  | overflow .. => 75
  | busy _ => 16
  | system _ code => code

def isCanceled : PrimitiveError → Bool
  | canceled => true
  | _ => false

end PrimitiveError

/-! ## Barriers and handles -/

/-- What makes a call meaningless in itself or in the state it finds. -/
inductive Misuse where
  | noParties
  | tooManyParties (count : UInt32) (limit : UInt32)
  | unknownSharing (raw : Int)
  | notInitialized
  | alreadyDestroyed
  /-- The handle was destroyed while a waiter queued to construct its barrier. -/
  | destroyedWhilePending
  | nullHandle
  | nullAttributes
  /-- Reading from a missing attributes object, which is worded apart from writing to one. -/
  | nothingToRead
  /-- A cause that a caller states in words of its own. -/
  | stated (text : String)
  deriving DecidableEq, Repr, Inhabited

def Misuse.message : Misuse → String
  | noParties => "participant count must be > 0"
  | tooManyParties count limit =>
      "participant count " ++ toString count.toNat ++ " exceeds " ++ toString limit.toNat
  | unknownSharing raw => "unknown sharing mode " ++ toString raw
  | notInitialized => "barrier is not initialized or has been destroyed"
  | alreadyDestroyed => "barrier has already been destroyed"
  | destroyedWhilePending => "barrier was destroyed while auto-initialization was pending"
  | nullHandle => "barrier handle is null"
  | nullAttributes => "barrier attributes are null"
  | nothingToRead => "barrier attributes is null"
  | stated text => text

/-- What keeps a barrier from being built over or torn down. -/
inductive InUse where
  | alreadyInitialized
  | threadsInside
  | lockHeld
  /-- Somebody constructed the barrier of an unused handle that was about to be discarded. -/
  | initializedMeanwhile
  /-- A cause that a caller states in words of its own. -/
  | stated (text : String)
  deriving DecidableEq, Repr, Inhabited

def InUse.message : InUse → String
  | alreadyInitialized => "barrier is already initialized"
  | threadsInside => "barrier has threads inside wait"
  | lockHeld => "barrier is locked by a participant"
  | initializedMeanwhile => "barrier was initialized concurrently and is assumed in use"
  | stated text => text

/-- Why an operation on a barrier, a handle or an attributes object refused. -/
inductive BarrierError where
  | invalidArgument (cause : Misuse)
  | resourceExhausted (resource : String)
  | busy (cause : InUse)
  | notSupported (feature : String)
  /-- A failure of the lock or a semaphore, passed on unchanged. -/
  | primitive (error : PrimitiveError)
  deriving DecidableEq, Repr, Inhabited

namespace BarrierError

def kind : BarrierError → String
  | invalidArgument _ => "InvalidArgument"
  | resourceExhausted _ => "ResourceExhausted"
  | busy _ => "Busy"
  | notSupported _ => "NotSupported"
  | primitive error => "Sync." ++ error.kind

def message : BarrierError → String
  | invalidArgument cause => "Invalid argument: " ++ cause.message
  | resourceExhausted resource => "Resource exhausted: " ++ resource
  | busy cause => "Resource busy: " ++ cause.message
  | notSupported feature => "Operation not supported: " ++ feature
  | primitive error => error.message

def inspect : BarrierError → String
  | invalidArgument cause => "InvalidArgument(" ++ quoted cause.message ++ ")"
  | resourceExhausted resource =>
      "ResourceExhausted \x7b resource: " ++ quoted resource ++ " \x7d"
  | busy cause => "Busy(" ++ quoted cause.message ++ ")"
  | notSupported feature => "NotSupported(" ++ quoted feature ++ ")"
  | primitive error => "Sync(" ++ error.inspect ++ ")"

def errno : BarrierError → Int
  | invalidArgument _ => 22
  | resourceExhausted _ => 12
  | busy _ => 16
  | notSupported _ => 38
  | primitive error => error.errno

/-- Only a primitive can report a cancellation. -/
def isCanceled : BarrierError → Bool
  | primitive error => error.isCanceled
  | _ => false

theorem isCanceled_iff {e : BarrierError} : e.isCanceled = true ↔ e = primitive .canceled := by
  cases e with
  | primitive error => cases error <;> simp [isCanceled, PrimitiveError.isCanceled]
  | _ => simp [isCanceled]

end BarrierError

end Rendezvous
