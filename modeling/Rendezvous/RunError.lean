import Rendezvous.Error
import Rendezvous.Tuning

/-!
# Errors of the test program

The program that exercises barriers can be stopped by its settings, by a file it cannot read, by
arguments out of range, by a barrier, or by a run that found a guarantee broken. As elsewhere each
cause is a constructor with one wording; `inspect` is the form in which a failing program shows the
error that stopped it.

A run has many workers, and when one of them fails the others are canceled. `rootCause` finds
the error that explains the run: the first one that is no cancellation, and only if there is none
the first cancellation.
-/

set_option autoImplicit false

namespace Rendezvous

open Text

/-- Why the text of a settings file was refused. -/
inductive Malformation where
  /-- It is no TOML document. -/
  | notToml
  /-- A field has a value of the wrong kind or out of its range. -/
  | badField (name : String)
  deriving DecidableEq, Repr

def Malformation.message : Malformation → String
  | notToml => "the file is not a TOML document"
  | badField name => "invalid value for " ++ name

/-- What is wrong with the settings. -/
inductive SettingsFault where
  | fileNotFound (path : String)
  | malformed (what : Malformation)
  | invalidTuning (error : TuningError)
  | stated (text : String)
  deriving DecidableEq, Repr

def SettingsFault.message : SettingsFault → String
  | fileNotFound path => "Configuration file not found: " ++ path
  | malformed what => "Failed to parse configuration: " ++ what.message
  | invalidTuning error => "Invalid primitive settings: " ++ error.message
  | stated text => text

/-- The largest number of generations a stress run keeps books for. -/
def generationLimit : Nat := 16777216

/-- Which argument is out of range. -/
inductive RangeFault where
  | parties
  | generations
  | threads
  | rounds
  | stated (text : String)
  deriving DecidableEq, Repr

def RangeFault.message : RangeFault → String
  | parties => "--parties must be at least 1"
  | generations => "--generations must be between 1 and " ++ toString generationLimit
  | threads => "--threads must be at least 1"
  | rounds => "--rounds must be at least 1"
  | stated text => text

/-- Which guarantee a run found broken. -/
inductive BrokenGuarantee where
  | earlyReleases (count : Nat)
  | irregularGenerations (count : Nat)
  | serialOutcomes (round count : Nat)
  | notCompleted (round : Nat)
  | waitAccepted (round : Nat) (answer : String)
  | stated (text : String)
  deriving DecidableEq, Repr

def BrokenGuarantee.message : BrokenGuarantee → String
  | earlyReleases count =>
      toString count ++ " participant(s) released before their generation was complete"
  | irregularGenerations count =>
      toString count ++ " generation(s) without exactly one serial outcome"
  | serialOutcomes round count =>
      "round " ++ toString round ++ ": " ++ toString count ++ " serial outcomes"
  | notCompleted round =>
      "round " ++ toString round ++ ": handle not resolved to a single completed barrier"
  | waitAccepted round answer =>
      "round " ++ toString round ++ ": destroyed handle accepted a wait (" ++ answer ++ ")"
  | stated text => text

/-- Why a file could not be read. -/
inductive ReadFault where
  | isDirectory
  | notPermitted
  | notUtf8
  | stated (text : String)
  deriving DecidableEq, Repr

namespace ReadFault

def message : ReadFault → String
  | isDirectory => "Is a directory (os error 21)"
  | notPermitted => "Permission denied (os error 13)"
  | notUtf8 => "stream did not contain valid UTF-8"
  | stated text => text

def inspect : ReadFault → String
  | isDirectory =>
      "Os \x7b code: 21, kind: IsADirectory, message: " ++ quoted "Is a directory" ++ " \x7d"
  | notPermitted =>
      "Os \x7b code: 13, kind: PermissionDenied, message: " ++ quoted "Permission denied" ++
        " \x7d"
  | notUtf8 =>
      "Error \x7b kind: InvalidData, message: " ++ quoted notUtf8.message ++ " \x7d"
  | stated text => "Custom \x7b kind: Other, error: " ++ quoted text ++ " \x7d"

end ReadFault

/-- What stops the program. -/
inductive RunError where
  | settings (fault : SettingsFault)
  | outOfRange (fault : RangeFault)
  | broken (guarantee : BrokenGuarantee)
  | barrier (error : BarrierError)
  | workerPanicked
  | unreadable (fault : ReadFault)
  deriving DecidableEq, Repr

namespace RunError

def kind : RunError → String
  | settings _ => "Config"
  | outOfRange _ => "Validation"
  | broken _ => "InvariantViolated"
  | barrier error => "Barrier." ++ error.kind
  | workerPanicked => "WorkerPanicked"
  | unreadable _ => "Io"

def message : RunError → String
  | settings fault => "Configuration error: " ++ fault.message
  | outOfRange fault => "Validation error: " ++ fault.message
  | broken guarantee => "Invariant violated: " ++ guarantee.message
  | barrier error => "Barrier error: " ++ error.message
  | workerPanicked => "Worker thread panicked"
  | unreadable fault => "IO error: " ++ fault.message

def inspect : RunError → String
  | settings fault => "Config(" ++ quoted fault.message ++ ")"
  | outOfRange fault => "Validation(" ++ quoted fault.message ++ ")"
  | broken guarantee => "InvariantViolated(" ++ quoted guarantee.message ++ ")"
  | barrier error => "Barrier(" ++ error.inspect ++ ")"
  | workerPanicked => "WorkerPanicked"
  | unreadable fault => "Io(" ++ fault.inspect ++ ")"

/-- The error only says that the worker was canceled. -/
def isCanceled : RunError → Bool
  | barrier error => error.isCanceled
  | _ => false

end RunError

/-- Goes through the results of a run's workers, remembering the first cancellation. -/
def rootCauseAfter (canceled : Option RunError) :
    List (Except RunError Unit) → Except RunError Unit
  | [] =>
      match canceled with
      | some e => .error e
      | none => .ok ()
  | .ok () :: rest => rootCauseAfter canceled rest
  | .error e :: rest =>
      if e.isCanceled then rootCauseAfter (canceled <|> some e) rest else .error e

/-- The result of a run whose workers ended with these results. -/
def rootCause (results : List (Except RunError Unit)) : Except RunError Unit :=
  rootCauseAfter none results

end Rendezvous
