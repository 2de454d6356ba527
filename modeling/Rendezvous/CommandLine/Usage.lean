import Rendezvous.CommandLine.Option

/-!
# Answers instead of a run

A command line that does not say what to run is answered by a `UsageError`. Asking for help or for
the version is one of them, and the only kind that ends well; all others end with exit code 2.
`UsageError.headline` is the first line of an answer and says what is wrong.
-/

set_option autoImplicit false

namespace Rendezvous.CommandLine

/-- Why a value is none for its option. -/
inductive ValueFault where
  | number (error : Text.NumberError)
  /-- A number, but not one from 0 to the limit. -/
  | outOfRange (n : Int) (limit : Nat)
  deriving DecidableEq, Repr

def ValueFault.message : ValueFault → String
  | number error => error.message
  | outOfRange n limit => toString n ++ " is not in 0..=" ++ toString limit

inductive UsageError where
  | helpAsked (level : Level)
  | versionAsked (level : Level)
  /-- Neither options nor a command. -/
  | nothingGiven
  /-- Options, but no command. -/
  | commandMissing
  | unknownCommand (word : String)
  | unknownArgument (word : String)
  | valueMissing (flag : Flag)
  /-- A value for a switch, from the environment, that is neither true nor false. -/
  | notTruth (flag : Flag) (value : String)
  | badValue (flag : Flag) (value : String) (fault : ValueFault)
  | repeated (flag : Flag)
  /-- A value for a switch on the command line. -/
  | valueUnwanted (flag : Flag) (value : String)
  deriving DecidableEq, Repr

/-! ## Help -/

namespace Level

/-- An option with its letter, as a list of options names it. -/
def optionName (f : Flag) : String :=
  (match f.short? with
    | some c => "-" ++ String.singleton c ++ ", "
    | none => "    ") ++ f.shown

/-- One option in a list of options, what it does in a column of its own. -/
def optionLine (column : Nat) (f : Flag) : String :=
  let name := optionName f
  "  " ++ name ++ String.ofList (List.replicate (column - name.length) ' ') ++ f.summary

def helpText (level : Level) : String :=
  let usage := match level with
    | program => " [OPTIONS] <COMMAND>"
    | _ => " [OPTIONS]"
  let commands := match level with
    | program =>
        ["Commands:", "  stress  " ++ stress.summary, "  race    " ++ race.summary,
          "  help    Print this message or the help of the given subcommand(s)", ""]
    | _ => []
  let longest := (level.flags.map fun f => (optionName f).length).foldl max 0
  "\n".intercalate
    ([level.summary, "", "Usage: " ++ level.callName ++ usage, ""] ++ commands ++
      "Options:" :: level.flags.map (optionLine (longest + 2)))

end Level

namespace UsageError

def exitCode : UsageError → Nat
  | helpAsked _ | versionAsked _ => 0
  | _ => 2

def quote (s : String) : String := "'" ++ s ++ "'"

/-- The first line of the answer. -/
def headline : UsageError → String
  | helpAsked level => level.summary
  | versionAsked level => level.displayName ++ " " ++ programVersion
  | nothingGiven => Level.program.summary
  | commandMissing =>
      "error: " ++ quote programName ++ " requires a subcommand but one was not provided"
  | unknownCommand word => "error: unrecognized subcommand " ++ quote word
  | unknownArgument word => "error: unexpected argument " ++ quote word ++ " found"
  | valueMissing flag =>
      "error: a value is required for " ++ quote flag.shown ++ " but none was supplied"
  | notTruth flag value => "error: invalid value " ++ quote value ++ " for " ++ quote flag.shown
  | badValue flag value fault =>
      "error: invalid value " ++ quote value ++ " for " ++ quote flag.shown ++ ": " ++
        fault.message
  | repeated flag =>
      "error: the argument " ++ quote flag.shown ++ " cannot be used multiple times"
  | valueUnwanted flag value =>
      "error: unexpected value " ++ quote value ++ " for " ++ quote flag.shown ++
        " found; no more were expected"

/-- The whole answer. -/
def text : UsageError → String
  | helpAsked level => level.helpText
  | nothingGiven => Level.program.helpText
  | e@(versionAsked _) => e.headline
  | e => e.headline ++ "\n\nFor more information, try '--help'."

end UsageError

end Rendezvous.CommandLine
