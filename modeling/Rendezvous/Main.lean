import Rendezvous.Program

/-!
# The command

Hands the program its words, its variables, its files and the time, and prints what comes back.
-/

set_option autoImplicit false

namespace Rendezvous.Command

open Program

/-- Variables with their values, for those that have one. -/
def readVariables : IO (List (String × String)) :=
  environmentNames.filterMapM fun name => do
    pure ((← IO.getEnv name).map fun value => (name, value))

/-- The number of the failure to read a directory as if it were a file. -/
def isDirectory : UInt32 := 21

/-- What is found at a path. -/
def readSource (path : String) : IO Settings.Source := do
  try
    pure (.bytes (← IO.FS.readBinFile path))
  catch
    | .inappropriateType _ code _ =>
        pure (if code = isDirectory then .directory else .missing)
    | .permissionDenied .. => pure .locked
    | _ => pure .missing

/-- The number of processors that the system lists; one if it lists none. -/
def readProcessors : IO Nat := do
  try
    let text ← IO.FS.readFile "/proc/cpuinfo"
    let count := (text.splitOn "\n").countP fun line => line.startsWith "processor"
    pure (max 1 count)
  catch _ => pure 1

def finish (e : Ending) : IO UInt32 := do
  IO.eprint e.complaint
  IO.print e.output
  pure e.exitCode.toUInt32

end Rendezvous.Command

open Rendezvous Program in
def main (words : List String) : IO UInt32 := do
  let found ← Command.readVariables
  let env (name : String) : Option String := found.lookup name
  let sources ← (candidates env words).mapM fun path => do
    pure (path, ← Command.readSource path)
  let machine : Machine :=
    { env
      source := fun path => (sources.lookup path).getD .missing
      processors := ← Command.readProcessors }
  match start machine words with
  | .error ending => Command.finish ending
  | .ok plan =>
      let began ← IO.monoNanosNow
      let result ← IO.lazyPure fun _ => plan.run
      let ended ← IO.monoNanosNow
      Command.finish (plan.ending ⟨ended - began⟩ result)
