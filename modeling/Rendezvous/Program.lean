import Rendezvous.CommandLine.Invocation
import Rendezvous.Run.Race
import Rendezvous.Run.Stress

/-!
# The test program

From the words of its command line to what it prints. The program reads its command line, then its
settings, checks the tuning that they ask for, and runs the command with the sizes it was given.
Each of these steps can be the last one, and nothing that comes after a failed step happens.

The outer world enters in three places only: the environment, a look at files, and the time that the
run took. All of it is handed in, so that a run is a function of its `Machine` and a time.

A run is put together from `Stages`, so that it can be said of it what it has not begun yet.
-/

set_option autoImplicit false

namespace Rendezvous.Program

open CommandLine Run

/-- What the program sees of the machine it runs on. -/
structure Machine where
  env : String → Option String
  source : String → Settings.Source
  processors : Nat

/-- The environment variables that the program looks at. -/
def environmentNames : List String :=
  (everywhere.filterMap Flag.environmentName?) ++ [Tuning.pollVariable, "XDG_CONFIG_HOME", "HOME"]

/-! ## Settings -/

/-- The path of a name in a directory. -/
def join (directory name : String) : String :=
  if directory.isEmpty || directory.endsWith "/" then directory ++ name
  else directory ++ "/" ++ name

/-- The directory of the user's settings. One that the environment names counts only if it is given
from the root. -/
def userDirectory (env : String → Option String) : Option String :=
  match (env "XDG_CONFIG_HOME").filter fun d => d.startsWith "/" with
  | some d => some d
  | none => ((env "HOME").filter fun h => !h.isEmpty).map fun h => join h ".config"

/-- Where a settings file is looked for when the command line names none, in order. -/
def places (env : String → Option String) : List String :=
  Settings.fileName ::
    ((userDirectory env).map fun d => join (join d "rdvt") Settings.fileName).toList

/-- The settings for a command line. A file that it names has to be there. -/
def settings (m : Machine) (i : Invocation) : Except RunError Settings :=
  let load (path : String) := Settings.load (.ofProcessors m.processors) path (m.source path)
  match i.config with
  | some path => load path
  | none =>
      match (places m.env).find? fun path => (m.source path).exists with
      | some path => load path
      | none => .ok (.standard m.processors)

/-- The files that the settings of a command line may be read from, in the order in which they are
looked for. A line that is refused reads none. -/
def candidates (env : String → Option String) (words : List String) : List String :=
  match CommandLine.read env words with
  | .error _ => []
  | .ok i =>
      match i.config with
      | some path => [path]
      | none => places env

/-! ## Plans -/

inductive Job where
  | stress (sizes : StressSizes)
  | race (sizes : RaceSizes)
  deriving DecidableEq, Repr

/-- Everything that is settled before the run begins. -/
structure Plan where
  job : Job
  json : Bool
  verbose : Bool
  tuning : Tuning
  deriving DecidableEq, Repr

/-- The job of a command: a size that it leaves open is taken from the settings. -/
def Job.ofCommand (s : Settings) : Command → Job
  | .stress parties generations _ =>
      .stress ⟨parties.getD s.stress.parties, generations.getD s.stress.generations⟩
  | .race threads rounds _ => .race ⟨threads.getD s.race.threads, rounds.getD s.race.rounds⟩

def wantsJson : Command → Bool
  | .stress _ _ json | .race _ _ json => json

/-- The plan for a command line. -/
def plan (m : Machine) (i : Invocation) : Except RunError Plan := do
  let s ← settings m i
  let wanted := s.tuning (m.env Tuning.pollVariable)
  match Tuning.standard.configure wanted with
  | (.error e, _) => .error (.settings (.invalidTuning e))
  | (.ok (), tuning) =>
      pure
        { job := .ofCommand s i.command
          json := wantsJson i.command
          verbose := i.verbose || s.verbose
          tuning }

/-! ## Running -/

/-- What a run that was in order counted. -/
inductive Tally where
  | stress (tally : Stress.Tally)
  | race (sizes : RaceSizes)
  deriving DecidableEq, Repr

/-- The parts of a run that come after its sizes are accepted. A refusal that is the same whatever
they are has come before them, when there is no barrier yet and no worker. -/
structure Stages where
  /-- Builds the barrier of a stress run. -/
  build : Barrier.Supply → UInt32 → Crew × Except RunError Handle.Answer
  /-- Lets the workers of a stress run work, from their beginning, and judges what they did. -/
  work : Stress → Except RunError Stress.Tally
  /-- The same for a round of a race. -/
  round : Race → Nat → Except RunError Unit

/-- The workers take their turns as the program's own schedule has it. -/
def Stages.usual : Stages where
  build := Stress.build
  work s := s.settle.conclude
  round r n := r.settle.conclude n

/-- Runs the job, with these parts. -/
def Plan.runWith (stages : Stages) (p : Plan) : Except RunError Tally :=
  let supply : Barrier.Supply := { poll := p.tuning.pollInterval }
  match p.job with
  | .stress sizes => (Stress.runWith stages.build stages.work supply sizes).map .stress
  | .race sizes => (Race.runWith stages.round supply sizes).map .race

/-- Runs the job. -/
def Plan.run (p : Plan) : Except RunError Tally := p.runWith .usual

/-- What the program leaves behind. -/
structure Ending where
  exitCode : Nat
  output : String := ""
  complaint : String := ""
  deriving DecidableEq, Repr

def Ending.ofError (e : RunError) : Ending :=
  { exitCode := 1, complaint := "Error: " ++ e.inspect ++ "\n" }

def Ending.ofUsage (e : UsageError) : Ending :=
  if e.exitCode = 0 then { exitCode := 0, output := e.text ++ "\n" }
  else { exitCode := e.exitCode, complaint := e.text ++ "\n" }

/-- The name of a job in the line that praises a run. -/
def Tally.title : Tally → String
  | stress _ => "Stress"
  | race _ => "Race"

/-- The end of a run that took so long. -/
def Plan.ending (p : Plan) (elapsed : Duration) : Except RunError Tally → Ending
  | .error e => .ofError e
  | .ok tally =>
      { exitCode := 0
        output := match tally with
          | .stress t => (t.report elapsed).emit p.json
          | .race sizes => (Race.report sizes elapsed).emit p.json
        complaint := if p.verbose then "✅ " ++ tally.title ++ " run passed\n" else "" }

/-- The plan for the words of a command line, or the end that comes before there is one. -/
def start (m : Machine) (words : List String) : Except Ending Plan :=
  match CommandLine.read m.env words with
  | .error e => .error (.ofUsage e)
  | .ok i => (plan m i).mapError .ofError

end Rendezvous.Program
