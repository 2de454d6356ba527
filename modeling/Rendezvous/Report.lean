import Rendezvous.Decimal.Fixed
import Rendezvous.Decimal.Shortest
import Rendezvous.Duration

/-!
# Reports

What a run tells its user: the sizes it ran with, what it counted, and how long it took. A report is
printed as a few aligned lines or as an object in JSON; both end with a line feed.

In the lines, milliseconds have two places and rates have none. In JSON every number is written with
the fewest digits that identify it.
-/

set_option autoImplicit false

namespace Rendezvous

structure StressReport where
  parties : UInt32
  generations : UInt64
  serialOutcomes : UInt64
  earlyReleases : UInt64
  elapsedMs : Float
  generationsPerSecond : Float

structure RaceReport where
  threads : UInt32
  rounds : UInt64
  elapsedMs : Float
  roundsPerSecond : Float

/-- Events in a second, or zero if no time has passed. -/
def rate (events : UInt64) (elapsed : Duration) : Float :=
  let seconds := elapsed.toFloat
  if seconds > 0.0 then events.toFloat / seconds else 0.0

namespace Report

/-- Numbers are written without an exponent from a hundred-thousandth up to, but not including, ten
to the sixteenth. What is no finite number is written as null. -/
def layout : Decimal.Layout := ⟨-5, 15, "null"⟩

/-- A JSON object on several lines, indented by two blanks. -/
def object (fields : List (String × String)) : String :=
  let line (field : String × String) : String := "  \"" ++ field.1 ++ "\": " ++ field.2
  "\x7b\n" ++ ",\n".intercalate (fields.map line) ++ "\n\x7d"

end Report

namespace StressReport

def lines (r : StressReport) : String :=
  "stress: " ++ toString r.parties.toNat ++ " parties x " ++ toString r.generations.toNat ++
    " generations\n" ++
  "  serial outcomes : " ++ toString r.serialOutcomes.toNat ++ "\n" ++
  "  early releases  : " ++ toString r.earlyReleases.toNat ++ "\n" ++
  "  elapsed         : " ++ Decimal.fixed 2 r.elapsedMs ++ "ms (" ++
    Decimal.fixed 0 r.generationsPerSecond ++ " generations/s)"

def json (r : StressReport) : String :=
  Report.object
    [("parties", toString r.parties.toNat),
      ("generations", toString r.generations.toNat),
      ("serial_outcomes", toString r.serialOutcomes.toNat),
      ("early_releases", toString r.earlyReleases.toNat),
      ("elapsed_ms", Report.layout.text r.elapsedMs),
      ("generations_per_sec", Report.layout.text r.generationsPerSecond)]

/-- What is printed. -/
def emit (r : StressReport) (json : Bool) : String :=
  (if json then r.json else r.lines) ++ "\n"

end StressReport

namespace RaceReport

def lines (r : RaceReport) : String :=
  "race: " ++ toString r.threads.toNat ++ " threads x " ++ toString r.rounds.toNat ++
    " rounds\n" ++
  "  elapsed : " ++ Decimal.fixed 2 r.elapsedMs ++ "ms (" ++
    Decimal.fixed 0 r.roundsPerSecond ++ " rounds/s)"

def json (r : RaceReport) : String :=
  Report.object
    [("threads", toString r.threads.toNat),
      ("rounds", toString r.rounds.toNat),
      ("elapsed_ms", Report.layout.text r.elapsedMs),
      ("rounds_per_sec", Report.layout.text r.roundsPerSecond)]

/-- What is printed. -/
def emit (r : RaceReport) (json : Bool) : String :=
  (if json then r.json else r.lines) ++ "\n"

end RaceReport

end Rendezvous
