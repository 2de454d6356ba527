import Rendezvous.Attributes
import Rendezvous.Barrier.Basic
import Rendezvous.Barrier.Construction
import Rendezvous.Barrier.Probe
import Rendezvous.Barrier.Wait
import Rendezvous.CancelGroup
import Rendezvous.Cancellation
import Rendezvous.Cleanup
import Rendezvous.CommandLine.Invocation
import Rendezvous.CommandLine.Option
import Rendezvous.CommandLine.Usage
import Rendezvous.Decimal.Binary
import Rendezvous.Decimal.Fixed
import Rendezvous.Decimal.Numeral
import Rendezvous.Decimal.Rounding
import Rendezvous.Decimal.Shortest
import Rendezvous.Duration
import Rendezvous.Error
import Rendezvous.Handle.Operation
import Rendezvous.Handle.Slot
import Rendezvous.Installation
import Rendezvous.Main
import Rendezvous.Program
import Rendezvous.Proofs.Crowd.Desertion
import Rendezvous.Proofs.Crowd.Isolation
import Rendezvous.Proofs.Crowd.Request
import Rendezvous.Proofs.Crowd.Rest
import Rendezvous.Proofs.Crowd.Restoration
import Rendezvous.Proofs.Crowd.Serial
import Rendezvous.Proofs.Crowd.Turnout
import Rendezvous.Proofs.Crowd.Withdrawal
import Rendezvous.Proofs.Group.Drain
import Rendezvous.Proofs.Group.Roster
import Rendezvous.Proofs.Pool
import Rendezvous.Proofs.Run.Race
import Rendezvous.Proofs.Run.Stress
import Rendezvous.Proofs.Traffic.Countdown
import Rendezvous.Proofs.Traffic.Deadlock
import Rendezvous.Proofs.Traffic.Destruction
import Rendezvous.Proofs.Traffic.Discipline
import Rendezvous.Proofs.Traffic.FirstUse
import Rendezvous.Proofs.Traffic.Hindrance
import Rendezvous.Proofs.Traffic.Inventory
import Rendezvous.Proofs.Traffic.Lifecycle
import Rendezvous.Proofs.Traffic.Retry
import Rendezvous.Report
import Rendezvous.Run.Crew
import Rendezvous.Run.Meeting
import Rendezvous.Run.Race
import Rendezvous.Run.Stress
import Rendezvous.RunError
import Rendezvous.Schedule
import Rendezvous.Script.Action
import Rendezvous.Script.Advance
import Rendezvous.Script.Begin
import Rendezvous.Script.Run
import Rendezvous.Script.World
import Rendezvous.Semaphore
import Rendezvous.Settings
import Rendezvous.Text.Number
import Rendezvous.Text.Quoted
import Rendezvous.Toml.Blank
import Rendezvous.Toml.Document
import Rendezvous.Toml.Quoted
import Rendezvous.Toml.Scalar
import Rendezvous.Toml.Value
import Rendezvous.Trace
import Rendezvous.Tuning
import Rendezvous.Proofs.Make
import Rendezvous.Proofs.Shielding
import Rendezvous.Proofs.Snapshots
import Rendezvous.Proofs.Mark
import Rendezvous.Proofs.RootCause
import Rendezvous.Proofs.Traffic.Marks
import Rendezvous.Proofs.Workshop
import Rendezvous.Proofs.Tidying
import Rendezvous.Proofs.Numerals
import Rendezvous.Proofs.Phrasing
import Rendezvous.Proofs.Toml.Numbers
import Rendezvous.Proofs.Toml.Sheets
import Rendezvous.Proofs.Excerpts
import Rendezvous.Proofs.Run.Range
import Rendezvous.Proofs.Resolution
