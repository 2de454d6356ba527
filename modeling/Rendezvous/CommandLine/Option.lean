import Rendezvous.Text.Number

/-!
# The options of the test program

The program has two commands, each with options of its own, and some options that may stand before
or after the command. An option is a switch, or it takes a value; every option has a long name and
most have a letter too. Where the environment may speak for an option, it has a variable.

A `Level` is one of the places where options can stand: before the command, or after one of the two.
-/

set_option autoImplicit false

namespace Rendezvous.CommandLine

/-- The name of the program. -/
def programName : String := "rdvt"

def programVersion : String := "0.1.0"

inductive Level where
  /-- Before the command. -/
  | program
  | stress
  | race
  deriving DecidableEq, Repr

inductive Flag where
  | verbose
  | config
  | noColor
  | parties
  | generations
  | threads
  | rounds
  | json
  | help
  | version
  deriving DecidableEq, Repr

namespace Flag

def long : Flag → String
  | verbose => "verbose"
  | config => "config"
  | noColor => "no-color"
  | parties => "parties"
  | generations => "generations"
  | threads => "threads"
  | rounds => "rounds"
  | json => "json"
  | help => "help"
  | version => "version"

def short? : Flag → Option Char
  | verbose => some 'v'
  | config => some 'c'
  | parties => some 'p'
  | generations => some 'g'
  | threads => some 't'
  | rounds => some 'r'
  | help => some 'h'
  | version => some 'V'
  | noColor | json => none

/-- What stands for the value of an option that takes one. -/
def placeholder? : Flag → Option String
  | config => some "CONFIG"
  | parties => some "PARTIES"
  | generations => some "GENERATIONS"
  | threads => some "THREADS"
  | rounds => some "ROUNDS"
  | verbose | noColor | json | help | version => none

def takesValue (f : Flag) : Bool := f.placeholder?.isSome

/-- The option as messages show it. -/
def shown (f : Flag) : String :=
  match f.placeholder? with
  | some name => "--" ++ f.long ++ " <" ++ name ++ ">"
  | none => "--" ++ f.long

/-- The environment variable that speaks for an option. -/
def environmentName? : Flag → Option String
  | verbose => some "RDVT_VERBOSE"
  | config => some "RDVT_CONFIG"
  | noColor => some "RDVT_NO_COLOR"
  | _ => none

def summary : Flag → String
  | verbose => "Enable verbose output"
  | config => "Path to configuration file"
  | noColor => "Disable color output"
  | parties => "Participants per generation (default: from config)"
  | generations => "Generations to run (default: from config)"
  | threads => "Threads racing on each handle (default: from config)"
  | rounds => "Rounds to run (default: from config)"
  | json => "Print the report as JSON"
  | help => "Print help"
  | version => "Print version"

end Flag

/-- The options that may stand on either side of the command, in their order. -/
def everywhere : List Flag := [.verbose, .config, .noColor]

namespace Level

def flags : Level → List Flag
  | program => everywhere ++ [.help, .version]
  | stress => [.parties, .generations, .json] ++ everywhere ++ [.help, .version]
  | race => [.threads, .rounds, .json] ++ everywhere ++ [.help, .version]

def ofLong? (level : Level) (name : String) : Option Flag :=
  level.flags.find? fun f => f.long = name

def ofShort? (level : Level) (letter : Char) : Option Flag :=
  level.flags.find? fun f => f.short? = some letter

/-- The name under which a level's version is shown. -/
def displayName : Level → String
  | program => programName
  | stress => programName ++ "-stress"
  | race => programName ++ "-race"

/-- The words by which a level is called. -/
def callName : Level → String
  | program => programName
  | stress => programName ++ " stress"
  | race => programName ++ " race"

def summary : Level → String
  | program => "Stress and race harness for the rdv barrier"
  | stress => "Run many generations over one barrier"
  | race => "Race threads onto fresh auto-init handles"

end Level

/-- What may stand as the command. -/
inductive Word where
  | run (level : Level)
  | help
  deriving DecidableEq, Repr

def Word.ofString? : String → Option Word
  | "stress" => some (.run .stress)
  | "race" => some (.run .race)
  | "help" => some .help
  | _ => none

end Rendezvous.CommandLine
