import Rendezvous.Report
import Rendezvous.Run.Crew
import Rendezvous.Schedule
import Rendezvous.Settings

/-!
# The race

In every round some threads are let loose on a fresh handle whose barrier does not exist yet, as
many as the barrier will have parties. The handle has to be built once, to complete one generation,
and to be destroyed cleanly; after that a wait on it has to be refused.

The threads of a round first report that they are ready and then hold until all are, so that their
waits begin together. The thread that gives the sign counts as one more thread of the system, with
the number after the last worker's.
-/

set_option autoImplicit false

namespace Rendezvous.Run

open Barrier Handle

namespace Race

/-- Where a worker stands. -/
inductive Worker where
  | enlist (stage : CancelGroup.Stage)
  /-- About to report that it is ready. -/
  | ready
  /-- Waiting for the sign. -/
  | hold
  | wait (op : Operation)
  /-- Back as the serial one, about to note it. -/
  | mark
  /-- Failed, about to stop the others. -/
  | abort (error : RunError) (stage : CancelGroup.Stage)
  | finished (result : Except RunError Unit)
  deriving Repr

end Race

/-- One round of a race. -/
structure Race where
  crew : Crew
  /-- How many workers have reported. -/
  ready : Nat := 0
  /-- The sign to begin. -/
  go : Bool := false
  /-- How many workers were noted as the serial one. -/
  serials : Nat := 0
  workers : Array Race.Worker
  deriving Repr

namespace Race

/-- The range of sizes that a race accepts. -/
def validate (sizes : RaceSizes) : Except RunError Unit :=
  if sizes.threads = 0 then .error (.outOfRange .threads)
  else if sizes.rounds = 0 then .error (.outOfRange .rounds)
  else .ok ()

/-- All workers at their beginning, around a handle that was never used. -/
def start (supply : Supply) (threads : UInt32) : Race :=
  { crew := (Crew.around supply (Handle.lazy threads)).staff threads.toNat
    workers := Array.replicate threads.toNat (.enlist CancelGroup.enlist) }

/-- One step of worker `i`, which stands where `w` says. -/
def stepWorker (r : Race) (i : Nat) : Worker → Option (Race × Worker)
  | .enlist .finished => some (r, .ready)
  | .enlist stage => (r.crew.confer i stage).map fun (crew, stage) =>
      ({ r with crew }, .enlist stage)
  | .ready => some ({ r with ready := r.ready + 1 }, .hold)
  | .hold => if r.go then some (r, .wait .wait) else none
  | .wait (.finished (.ok (.outcome .serial))) => some (r, .mark)
  | .wait (.finished (.ok _)) => some (r, .finished (.ok ()))
  | .wait (.finished (.error e)) => some (r, .abort (.barrier e) CancelGroup.abort)
  | .wait op => (r.crew.operate i op).map fun (crew, op) => ({ r with crew }, .wait op)
  | .mark => some ({ r with serials := r.serials + 1 }, .finished (.ok ()))
  | .abort e .finished => some (r, .finished (.error e))
  | .abort e stage => (r.crew.confer i stage).map fun (crew, stage) =>
      ({ r with crew }, .abort e stage)
  | .finished _ => none

/-- One step of thread `i`: a worker, or the one that gives the sign. -/
def step (r : Race) (i : Nat) : Option Race :=
  if i = r.workers.size then
    if r.go = false ∧ r.workers.size ≤ r.ready then some { r with go := true } else none
  else
    (r.workers[i]?).bind fun w =>
      (r.stepWorker i w).map fun (r, w) => { r with workers := r.workers.setIfInBounds i w }

/-- What a worker has come to; one that is not done has been lost. -/
def Worker.result : Worker → Except RunError Unit
  | .finished r => r
  | _ => .error .workerPanicked

/-- How a result of waiting is shown. -/
def showWait : Except BarrierError Answer → String
  | .ok (.outcome o) => "Ok(" ++ o.name ++ ")"
  | .ok _ => "Ok(())"
  | .error e => "Err(" ++ e.inspect ++ ")"

/-- The wait on the destroyed handle was refused, and the handle is empty. -/
def refused (r : Race) (round : Nat) (answer : Except RunError Answer) : Except RunError Unit :=
  match answer with
  | .error (.barrier (.invalidArgument cause)) =>
      if r.crew.arena.slot Crew.theHandle = .empty then .ok ()
      else
        .error (.broken (.waitAccepted round (showWait (.error (.invalidArgument cause)))))
  | .error (.barrier e) => .error (.broken (.waitAccepted round (showWait (.error e))))
  | .error e => .error e
  | .ok a => .error (.broken (.waitAccepted round (showWait (.ok a))))

/-- Looks at the handle when all workers are done. -/
def verify (r : Race) (round : Nat) : Except RunError Unit := do
  if r.serials ≠ 1 then .error (.broken (.serialOutcomes round r.serials))
  else
    match r.crew.arena.slot Crew.theHandle with
    | .live _ =>
        match (r.crew.alone (.ask (.gauge .generation))).2 with
        | .error e => .error e
        | .ok answer =>
            if answer ≠ .number 1 then .error (.broken (.notCompleted round))
            else
              match r.crew.alone .destroy with
              | (_, .error e) => .error e
              | (crew, .ok _) =>
                  let (crew, answer) := crew.alone .wait
                  { r with crew }.refused round answer
    | _ => .error (.broken (.notCompleted round))

/-- What follows when nothing moves any more. -/
def conclude (r : Race) (round : Nat) : Except RunError Unit := do
  rootCause (r.workers.toList.map Worker.result)
  r.verify round

/-- More steps than a thread makes in a round. -/
def turn : Nat := 256

/-- Runs all threads until none moves any more. -/
def settle (r : Race) : Race :=
  Schedule.settle step (List.range (r.workers.size + 1)) turn (turn * (r.workers.size + 2)) r

/-- The rounds from one on, as long as they are in order. -/
def playRounds (play : Nat → Except RunError Unit) (first : Nat) : Nat → Except RunError Unit
  | 0 => .ok ()
  | left + 1 =>
      match play first with
      | .ok () => playRounds play (first + 1) left
      | .error e => .error e

/-- A race of which the rounds are left open. Once the sizes are accepted `play` is handed the
workers at their beginning and the number of the round. -/
def runWith (play : Race → Nat → Except RunError Unit) (supply : Supply) (sizes : RaceSizes) :
    Except RunError RaceSizes := do
  validate sizes
  playRounds (play (start supply sizes.threads)) 0 sizes.rounds.toNat
  pure sizes

def run : Supply → RaceSizes → Except RunError RaceSizes :=
  runWith fun r round => r.settle.conclude round

/-- The report of a race that took so long. -/
def report (sizes : RaceSizes) (elapsed : Duration) : RaceReport :=
  { threads := sizes.threads
    rounds := sizes.rounds
    elapsedMs := elapsed.toFloat * 1000.0
    roundsPerSecond := rate sizes.rounds elapsed }

end Race

end Rendezvous.Run
