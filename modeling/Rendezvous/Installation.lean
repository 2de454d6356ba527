import Rendezvous.Semaphore

/-!
# The installed tuning and the semaphores made under it

An `Installation` is the part of a process that tuning concerns: the `Tuning` that is in force, and
the semaphores made so far, each of which remembers the poll interval that was in force when it was
made. `Installation.step` carries out one request.

The two halves meet in one direction only. Making a semaphore reads the tuning; no request reads a
semaphore to decide about the tuning, and none goes back to a semaphore made earlier. So a poll
interval, once remembered, stays.
-/

set_option autoImplicit false

namespace Rendezvous

structure Installation where
  tuning : Tuning := Tuning.standard
  semaphores : List Semaphore := []
  deriving Repr, Inhabited

namespace Installation

/-- What a process can do about its tuning. -/
inductive Request where
  /-- Only check a poll interval. -/
  | validate (poll : Duration)
  | configure (poll : Duration)
  /-- Look at the tuning that the environment asks for, and install it if told so. -/
  | environment (value : Option String) (install : Bool)
  | standard
  | makeSemaphore
  /-- The poll interval of a semaphore, by its place. -/
  | pollOf (index : Nat)
  deriving Repr

inductive Reply where
  | checked (result : Except TuningError Unit)
  /-- A tuning from the environment: the interval, whether it is valid, and the result of installing
  it if that was asked for. -/
  | found (poll : Duration) (valid : Except TuningError Unit)
      (installed : Option (Except TuningError Unit))
  | interval (poll : Duration)
  | made (index : Nat)
  /-- How an interval is written. -/
  | shown (poll : Duration)
  | noSemaphore
  deriving Repr

/-- Installs a tuning if it is valid. -/
def install (i : Installation) (new : Tuning) : Except TuningError Unit × Installation :=
  ((i.tuning.configure new).1, { i with tuning := (i.tuning.configure new).2 })

/-- Makes a semaphore under the tuning in force. -/
def addSemaphore (i : Installation) : Installation :=
  { i with semaphores := i.semaphores ++ [{ value := 0, poll := i.tuning.pollInterval }] }

def step (i : Installation) : Request → Reply × Installation
  | .validate poll => (.checked (Tuning.validate ⟨poll⟩), i)
  | .configure poll => (.checked (i.install ⟨poll⟩).1, (i.install ⟨poll⟩).2)
  | .environment value false =>
      let found := Tuning.ofEnvironment value
      (.found found.pollInterval found.validate none, i)
  | .environment value true =>
      let found := Tuning.ofEnvironment value
      (.found found.pollInterval found.validate (some (i.install found).1), (i.install found).2)
  | .standard => (.interval Tuning.standard.pollInterval, i)
  | .makeSemaphore => (.made i.semaphores.length, i.addSemaphore)
  | .pollOf index =>
      match i.semaphores[index]? with
      | some s => (.shown s.poll, i)
      | none => (.noSemaphore, i)

/-- Carries out requests in order. Each reply comes with the interval in force after it. -/
def run : Installation → List Request → List (Reply × Duration)
  | _, [] => []
  | i, request :: rest =>
      let (reply, i) := i.step request
      (reply, i.tuning.pollInterval) :: run i rest

end Installation

end Rendezvous
