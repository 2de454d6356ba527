import Rendezvous.Report
import Rendezvous.Run.Crew
import Rendezvous.Schedule
import Rendezvous.Settings

/-!
# The stress run

All parties of one barrier wait on it for many generations. Every worker counts its arrival before
it waits. When it comes back it notes whether it was the serial one, and looks at the count of
arrivals: if not all arrivals of its generation are counted, it was released too early.

A worker enlists in the crew's group before anything else. One whose wait fails aborts the group,
which gets the others out of their waits, and ends with the error.

The run is in order if nobody was released early and every generation had exactly one serial
outcome.
-/

set_option autoImplicit false

namespace Rendezvous.Run

open Barrier Handle

namespace Stress

/-- Where a worker stands. The number is that of the generation it works on, from zero. -/
inductive Worker where
  | enlist (stage : CancelGroup.Stage)
  /-- About to begin a generation, or to end if it was the last. -/
  | arrive (generation : Nat)
  | wait (generation : Nat) (op : Operation)
  /-- Back as the serial one, about to note it. -/
  | mark (generation : Nat)
  /-- About to look at the count of arrivals. -/
  | check (generation : Nat)
  /-- Failed, about to stop the others. -/
  | abort (error : RunError) (stage : CancelGroup.Stage)
  | finished (result : Except RunError Unit)
  deriving Repr

end Stress

structure Stress where
  sizes : StressSizes
  crew : Crew
  arrivals : Nat := 0
  /-- The generations in which somebody was noted as the serial one, latest first. -/
  serials : List Nat := []
  early : Nat := 0
  workers : Array Stress.Worker
  deriving Repr

namespace Stress

/-- The range of sizes that a run accepts. -/
def validate (sizes : StressSizes) : Except RunError Unit :=
  if sizes.parties = 0 then .error (.outOfRange .parties)
  else if sizes.generations = 0 ∨ generationLimit < sizes.generations.toNat then
    .error (.outOfRange .generations)
  else .ok ()

/-- All workers at their beginning, around a handle that was built before. -/
def start (sizes : StressSizes) (crew : Crew) : Stress :=
  { sizes
    crew := crew.staff sizes.parties.toNat
    workers := Array.replicate sizes.parties.toNat (.enlist CancelGroup.enlist) }

/-- Arrivals that are counted once a generation is complete. -/
def required (s : Stress) (generation : Nat) : Nat := (generation + 1) * s.sizes.parties.toNat

/-- One step of worker `i`, which stands where `w` says. -/
def stepWorker (s : Stress) (i : Nat) : Worker → Option (Stress × Worker)
  | .enlist .finished => some (s, .arrive 0)
  | .enlist stage => (s.crew.confer i stage).map fun (crew, stage) =>
      ({ s with crew }, .enlist stage)
  | .arrive g =>
      if g < s.sizes.generations.toNat then
        some ({ s with arrivals := s.arrivals + 1 }, .wait g .wait)
      else some (s, .finished (.ok ()))
  | .wait g (.finished (.ok (.outcome .serial))) => some (s, .mark g)
  | .wait g (.finished (.ok _)) => some (s, .check g)
  | .wait _ (.finished (.error e)) => some (s, .abort (.barrier e) CancelGroup.abort)
  | .wait g op => (s.crew.operate i op).map fun (crew, op) => ({ s with crew }, .wait g op)
  | .mark g => some ({ s with serials := g :: s.serials }, .check g)
  | .check g =>
      some ({ s with early := if s.arrivals < s.required g then s.early + 1 else s.early },
        .arrive (g + 1))
  | .abort e .finished => some (s, .finished (.error e))
  | .abort e stage => (s.crew.confer i stage).map fun (crew, stage) =>
      ({ s with crew }, .abort e stage)
  | .finished _ => none

/-- One step of worker `i`; `none` if it is blocked, done, or not there. -/
def step (s : Stress) (i : Nat) : Option Stress :=
  (s.workers[i]?).bind fun w =>
    (s.stepWorker i w).map fun (s, w) => { s with workers := s.workers.setIfInBounds i w }

/-- What a worker has come to; one that is not done has been lost. -/
def Worker.result : Worker → Except RunError Unit
  | .finished r => r
  | _ => .error .workerPanicked

/-- How often each generation had a serial outcome. -/
def serialCounts (s : Stress) : Array Nat :=
  s.serials.foldl (fun counts g => counts.modify g (· + 1))
    (Array.replicate s.sizes.generations.toNat 0)

/-- What a run has counted. -/
structure Tally where
  sizes : StressSizes
  serialOutcomes : Nat
  earlyReleases : Nat
  deriving DecidableEq, Repr

/-- Looks at the books when all workers are done and the barrier is gone. -/
def verify (s : Stress) : Except RunError Tally :=
  let counts := s.serialCounts
  let irregular := counts.countP (· ≠ 1)
  if 0 < s.early then .error (.broken (.earlyReleases s.early))
  else if 0 < irregular then .error (.broken (.irregularGenerations irregular))
  else .ok ⟨s.sizes, counts.foldl (· + ·) 0, s.early⟩

/-- What follows when no worker moves any more. -/
def conclude (s : Stress) : Except RunError Tally := do
  rootCause (s.workers.toList.map Worker.result)
  let _ ← (s.crew.alone .destroy).2
  s.verify

/-- More steps than a worker makes in its whole life. -/
def turn (sizes : StressSizes) : Nat := 64 * (sizes.generations.toNat + 2)

/-- Runs the workers until none moves any more. -/
def settle (s : Stress) : Stress :=
  Schedule.settle step (List.range s.workers.size) (turn s.sizes)
    (turn s.sizes * (s.workers.size + 1)) s

/-- A run of which two parts are left open. Once the sizes are accepted `build` makes the barrier,
and if that goes well `work` lets the workers work on it, from their beginning, and judges what they
did. -/
def runWith (build : Supply → UInt32 → Crew × Except RunError Answer)
    (work : Stress → Except RunError Tally) (supply : Supply) (sizes : StressSizes) :
    Except RunError Tally := do
  validate sizes
  match build supply sizes.parties with
  | (_, .error e) => .error e
  | (crew, .ok _) => work (start sizes crew)

/-- What a run comes to once its sizes are accepted. -/
theorem runWith_of_valid {sizes : StressSizes} (valid : validate sizes = .ok ())
    (build : Supply → UInt32 → Crew × Except RunError Answer)
    (work : Stress → Except RunError Tally) (supply : Supply) :
    runWith build work supply sizes =
      match build supply sizes.parties with
      | (_, .error e) => .error e
      | (crew, .ok _) => work (start sizes crew) := by
  rw [runWith, valid]
  rfl

/-- The barrier of a run, made by a thread that is no worker. -/
def build (supply : Supply) (parties : UInt32) : Crew × Except RunError Answer :=
  (Crew.around supply {}).alone (.init parties false)

def run : Supply → StressSizes → Except RunError Tally :=
  runWith build fun s => s.settle.conclude

/-- The report of a run that took so long. -/
def Tally.report (t : Tally) (elapsed : Duration) : StressReport :=
  { parties := t.sizes.parties
    generations := t.sizes.generations
    serialOutcomes := t.serialOutcomes.toUInt64
    earlyReleases := t.earlyReleases.toUInt64
    elapsedMs := elapsed.toFloat * 1000.0
    generationsPerSecond := rate t.sizes.generations elapsed }

end Stress

end Rendezvous.Run
