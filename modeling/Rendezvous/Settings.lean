import Rendezvous.RunError
import Rendezvous.Toml.Document

/-!
# Settings

The sizes of the runs and the tuning of the primitives, as far as they do not come from the command
line. They are read from a TOML file, in which everything is optional: a field that is missing has
its standard value, fields that are not known are passed over, but a field with a value of the wrong
kind spoils the file.

The sizes of a run form a section. A section is a table; its parts may also be listed in an array,
in their order. The standard number of threads is the number of processors.

What is standard is said twice, because two kinds of thing can be missing: a field of a section that
is there, and a section. `Defaults` has a place for each, and nothing in it says that the two agree.
That they do, for any number of processors, is `Defaults.ofProcessors_eq`.

A poll interval in the file comes before one in the environment (`Settings.tuning`).
-/

set_option autoImplicit false

namespace Rendezvous

structure StressSizes where
  parties : UInt32
  generations : UInt64
  deriving DecidableEq, Repr

structure RaceSizes where
  threads : UInt32
  rounds : UInt64
  deriving DecidableEq, Repr

structure Settings where
  verbose : Bool
  /-- How often a blocked waiter looks for a request, in microseconds. -/
  poll : Option UInt64
  stress : StressSizes
  race : RaceSizes
  deriving DecidableEq, Repr

/-! ## Standard values -/

/-- One thread for each processor, and four if that is more than there can be. -/
def defaultParties (processors : Nat) : UInt32 :=
  if processors < UInt32.size then processors.toUInt32 else 4

def defaultGenerations : UInt64 := 10000

def defaultRounds : UInt64 := 100

/-- The sizes of a stress run of which no section speaks. -/
def StressSizes.standard (processors : Nat) : StressSizes where
  parties := defaultParties processors
  generations := defaultGenerations

/-- The sizes of a race of which no section speaks. -/
def RaceSizes.standard (processors : Nat) : RaceSizes where
  threads := defaultParties processors
  rounds := defaultRounds

namespace Settings

/-- The settings of a machine without a file. -/
def standard (processors : Nat) : Settings where
  verbose := false
  poll := none
  stress := .standard processors
  race := .standard processors

/-- What stands in for what a file leaves out. A size has a stand-in of its own, which counts where
its section is there without it, and the section has another, which counts where it is missing. -/
structure Defaults where
  verbose : Bool
  poll : Option UInt64
  parties : UInt32
  generations : UInt64
  stress : StressSizes
  threads : UInt32
  rounds : UInt64
  race : RaceSizes

namespace Defaults

/-- The stand-ins on a machine with so many processors. -/
def ofProcessors (processors : Nat) : Defaults where
  verbose := false
  poll := none
  parties := defaultParties processors
  generations := defaultGenerations
  stress := .standard processors
  threads := defaultParties processors
  rounds := defaultRounds
  race := .standard processors

/-- Settings stand in for whatever a file leaves out, field by field. -/
def ofSettings (s : Settings) : Defaults where
  verbose := s.verbose
  poll := s.poll
  parties := s.stress.parties
  generations := s.stress.generations
  stress := s.stress
  threads := s.race.threads
  rounds := s.race.rounds
  race := s.race

instance : Coe Settings Defaults := ⟨ofSettings⟩

/-- What is standard for a field of a section is standard for it without the section. -/
theorem ofProcessors_eq (processors : Nat) : ofProcessors processors = standard processors := rfl

end Defaults

/-- The name of a settings file where no other is given. -/
def fileName : String := "rdvt.toml"

/-! ## Fields -/

def truth? : Toml.Value → Option Bool
  | .boolean b => some b
  | _ => none

/-- An integer from 0 to a limit. -/
def natural? (limit : Nat) : Toml.Value → Option Nat
  | .integer n => if 0 ≤ n ∧ n ≤ limit then some n.toNat else none
  | _ => none

def word32? (v : Toml.Value) : Option UInt32 := (natural? (UInt32.size - 1) v).map (·.toUInt32)

def word64? (v : Toml.Value) : Option UInt64 := (natural? (UInt64.size - 1) v).map (·.toUInt64)

/-- The value of a field, or the standard one if there is none. -/
def field {α : Type} (name : String) (standard : α) (read : Toml.Value → Option α)
    (v : Option Toml.Value) : Except Malformation α :=
  match v with
  | none => .ok standard
  | some v =>
      match read v with
      | some x => .ok x
      | none => .error (.badField name)

/-! ## Sections -/

/-- The parts of a section, by name or by place. -/
inductive Parts where
  | named (entries : Toml.Entries)
  | listed (items : List Toml.Value)
  deriving Repr

/-- A date counts as a table of which no part is known. -/
def Parts.ofValue? : Toml.Value → Option Parts
  | .table _ entries => some (.named entries)
  | .array items => some (.listed items)
  | .tables items => some (.listed (items.map (.table .defined)))
  | .dateTime => some (.named [])
  | _ => none

/-- The part with a name and a place. -/
def Parts.get? (parts : Parts) (name : String) (place : Nat) : Option Toml.Value :=
  match parts with
  | named entries => entries.lookup name
  | listed items => items[place]?

/-- What a section says, or what stands in for it if it is missing. -/
def section? {α : Type} (name : String) (standard : α) (read : Parts → Except Malformation α) :
    Option Toml.Value → Except Malformation α
  | none => .ok standard
  | some v =>
      match Parts.ofValue? v with
      | some parts => read parts
      | none => .error (.badField name)

/-- The sizes in a section: how many take part, and how often. Each has a name and a stand-in. -/
def sizesOf {α : Type} (make : UInt32 → UInt64 → α) (crowd : String × UInt32)
    (times : String × UInt64) (parts : Parts) : Except Malformation α := do
  let n ← field crowd.1 crowd.2 word32? (parts.get? crowd.1 0)
  let m ← field times.1 times.2 word64? (parts.get? times.1 1)
  pure (make n m)

/-! ## Files -/

/-- The settings that a document makes, with stand-ins for what it leaves out. -/
def ofEntries (d : Defaults) (entries : Toml.Entries) : Except Malformation Settings := do
  let verbose ← field "verbose" d.verbose truth? (entries.lookup "verbose")
  let poll ←
    field "cancel_poll_us" d.poll (fun v => (word64? v).map some)
      (entries.lookup "cancel_poll_us")
  let stress ← section? "stress" d.stress
    (sizesOf .mk ("parties", d.parties) ("generations", d.generations)) (entries.lookup "stress")
  let race ← section? "race" d.race
    (sizesOf .mk ("threads", d.threads) ("rounds", d.rounds)) (entries.lookup "race")
  pure { verbose, poll, stress, race }

def ofText (d : Defaults) (text : String) : Except Malformation Settings :=
  match Toml.Document.read text with
  | some entries => ofEntries d entries
  | none => .error .notToml

/-- What was found where a settings file was looked for. -/
inductive Source where
  | missing
  | directory
  /-- It may not be read. -/
  | locked
  | bytes (content : ByteArray)

/-- Something is there, if only a directory. -/
def Source.exists : Source → Bool
  | missing => false
  | _ => true

/-- The settings in the file at a path. -/
def load (d : Defaults) (path : String) : Source → Except RunError Settings
  | .missing => .error (.settings (.fileNotFound path))
  | .directory => .error (.unreadable .isDirectory)
  | .locked => .error (.unreadable .notPermitted)
  | .bytes content =>
      match String.fromUTF8? content with
      | none => .error (.unreadable .notUtf8)
      | some text => (ofText d text).mapError fun what => .settings (.malformed what)

/-! ## Tuning -/

/-- The tuning that settings and environment ask for together. -/
def tuning (s : Settings) (environment : Option String) : Tuning :=
  match s.poll with
  | some us => ⟨.ofMicroseconds us.toNat⟩
  | none => Tuning.ofEnvironment environment

end Settings

end Rendezvous
