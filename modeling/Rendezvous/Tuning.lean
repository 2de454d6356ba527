import Rendezvous.Duration
import Rendezvous.Text.Number

/-!
# Tuning of the primitives

There is one setting: how often a blocked semaphore waiter looks whether it has been canceled. It
has to be positive, or a blocked waiter would spin, and at most a second, or a request would go
unnoticed for too long.

A process has one installed `Tuning`. `configure` replaces it only by a valid one, and a semaphore
remembers the interval that was installed when it was made.
-/

set_option autoImplicit false

namespace Rendezvous

structure Tuning where
  pollInterval : Duration
  deriving DecidableEq, Repr

inductive TuningError where
  | pollZero
  | pollTooLong
  deriving DecidableEq, Repr

namespace Tuning

def maxPoll : Duration := .ofSeconds 1

def standard : Tuning := ⟨.ofMilliseconds 10⟩

instance : Inhabited Tuning := ⟨standard⟩

def validate (t : Tuning) : Except TuningError Unit :=
  if t.pollInterval.nanoseconds = 0 then .error .pollZero
  else if maxPoll < t.pollInterval then .error .pollTooLong
  else .ok ()

/-- What is installed after an attempt to install `new` over `installed`. -/
def configure (installed new : Tuning) : Except TuningError Unit × Tuning :=
  match new.validate with
  | .ok () => (.ok (), new)
  | .error e => (.error e, installed)

/-- The environment variable that holds the interval in microseconds. -/
def pollVariable : String := "RDV_CANCEL_POLL_US"

/-- The tuning an environment asks for; a value that is no number is as good as none. -/
def ofEnvironment (value : Option String) : Tuning :=
  match value with
  | none => standard
  | some text =>
      match Text.readNat Text.maxUnsigned64 text with
      | .ok us => ⟨.ofMicroseconds us⟩
      | .error _ => standard

theorem validate_eq_ok_iff {t : Tuning} :
    t.validate = .ok () ↔ 0 < t.pollInterval.nanoseconds ∧ t.pollInterval ≤ maxPoll := by
  have le_def : t.pollInterval ≤ maxPoll ↔
      t.pollInterval.nanoseconds ≤ maxPoll.nanoseconds := Iff.rfl
  have lt_def : maxPoll < t.pollInterval ↔
      maxPoll.nanoseconds < t.pollInterval.nanoseconds := Iff.rfl
  unfold validate
  rw [le_def]
  split
  · simp_all
  · split
    · next _ h => rw [lt_def] at h; simp; omega
    · next _ h => rw [lt_def] at h; simp; omega

end Tuning

def TuningError.message : TuningError → String
  | pollZero => "Invalid poll interval: cancel_poll_interval must be > 0"
  | pollTooLong =>
      "Invalid poll interval: cancel_poll_interval must be <= " ++
        toString Tuning.maxPoll.milliseconds ++ "ms"

end Rendezvous
