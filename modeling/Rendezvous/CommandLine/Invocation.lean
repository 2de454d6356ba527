import Rendezvous.CommandLine.Usage

/-!
# Reading a command line

The words of a command line are taken one after the other. A word that starts with two dashes names
an option, with its value behind an equals sign or in the next word; a word with one dash lists
letters, of which one that takes a value takes the rest of the word. Two dashes alone end the
options, and nothing may follow them. The first other word is the command, and from there on the
command's level is in force.

## Which fault is reported

Faults are reported in the order in which reading comes upon them. A value in a word of its own is
only looked at when the next option begins, or at the end of its level; a value in the same word as
its option is looked at right away. So an unknown option hides a bad value that stands directly
before it. The level after the command is finished before the one in front of it.

## The environment

An option that a level leaves open is asked of the environment, on either level. In the end the
command line counts more than the environment, and between equals the word after the command
counts.
-/

set_option autoImplicit false

namespace Rendezvous.CommandLine

/-! ## What a level says -/

/-- What an option was given. -/
inductive Argument where
  | truth (b : Bool)
  | path (s : String)
  | word (n : UInt32)
  | long (n : UInt64)
  deriving DecidableEq, Repr

inductive Origin where
  | environment
  | commandLine
  deriving DecidableEq, Repr

structure Given where
  flag : Flag
  origin : Origin
  argument : Argument
  deriving DecidableEq, Repr

/-- A number from 0 to the largest of 32 bits. It is read as a number of 64 bits with a sign first,
which decides between the two faults a large number can have. -/
def readWord (flag : Flag) (value : String) : Except UsageError Argument :=
  match Text.readInt Text.maxSigned64 value with
  | .error e => .error (.badValue flag value (.number e))
  | .ok n =>
      if 0 ≤ n ∧ n < UInt32.size then .ok (.word n.toNat.toUInt32)
      else .error (.badValue flag value (.outOfRange n (UInt32.size - 1)))

/-- A number from 0 to the largest of 64 bits. -/
def readLong (flag : Flag) (value : String) : Except UsageError Argument :=
  match Text.readNat Text.maxUnsigned64 value with
  | .error e => .error (.badValue flag value (.number e))
  | .ok n => .ok (.long n.toUInt64)

/-- The value of a switch, which only the environment gives. -/
def readTruth (flag : Flag) (value : String) : Except UsageError Argument :=
  if value = "true" then .ok (.truth true)
  else if value = "false" then .ok (.truth false)
  else if value.isEmpty then .error (.valueMissing flag)
  else .error (.notTruth flag value)

def Flag.read (flag : Flag) (value : String) : Except UsageError Argument :=
  match flag with
  | .config => if value.isEmpty then .error (.valueMissing flag) else .ok (.path value)
  | .parties | .threads => readWord flag value
  | .generations | .rounds => readLong flag value
  | .verbose | .noColor | .json | .help | .version => readTruth flag value

/-- An option whose value has not been looked at yet, if it has one at all. -/
structure Pending where
  flag : Flag
  value : Option String
  deriving DecidableEq, Repr

/-- How far reading a level has come. -/
structure Progress where
  given : List Given := []
  pending : Option Pending := none
  deriving Repr

namespace Progress

/-- Notes an option, unless it was noted before. -/
def note (p : Progress) (flag : Flag) (origin : Origin)
    (argument : Except UsageError Argument) : Except UsageError Progress :=
  if p.given.any fun g => g.flag = flag then .error (.repeated flag)
  else argument.map fun argument => { p with given := p.given ++ [⟨flag, origin, argument⟩] }

/-- Looks at the value that is pending. -/
def resolve (p : Progress) : Except UsageError Progress :=
  match p.pending with
  | none => .ok p
  | some ⟨flag, none⟩ => .error (.valueMissing flag)
  | some ⟨flag, some value⟩ =>
      { p with pending := none }.note flag .commandLine (flag.read value)

/-- An option with its value. -/
def assign (p : Progress) (flag : Flag) (value : String) : Except UsageError Progress := do
  (← p.resolve).note flag .commandLine (flag.read value)

/-- An option whose value is the next word. -/
def await (p : Progress) (flag : Flag) : Except UsageError Progress := do
  pure { ← p.resolve with pending := some ⟨flag, none⟩ }

/-- A switch. -/
def turnOn (level : Level) (p : Progress) (flag : Flag) : Except UsageError Progress := do
  let p ← p.resolve
  match flag with
  | .help => .error (.helpAsked level)
  | .version => .error (.versionAsked level)
  | flag => p.note flag .commandLine (.ok (.truth true))

/-- The next word is the value of an option. -/
def awaits (p : Progress) : Bool :=
  match p.pending with
  | some ⟨_, none⟩ => true
  | _ => false

/-- Takes the word as the value that was awaited. -/
def takeValue (p : Progress) (word : String) : Progress :=
  { p with pending := p.pending.map fun x => { x with value := some word } }

/-- A word that starts with two dashes, without them. -/
def takeLong (level : Level) (p : Progress) (name : String) (value : Option String) :
    Except UsageError Progress :=
  match level.ofLong? name with
  | none => .error (.unknownArgument ("--" ++ name))
  | some flag =>
      match flag.takesValue, value with
      | true, some value => p.assign flag value
      | true, none => p.await flag
      | false, some value => .error (.valueUnwanted flag value)
      | false, none => p.turnOn level flag

/-- The letters of a word with one dash. -/
def takeLetters (level : Level) : Progress → List Char → Except UsageError Progress
  | p, [] => .ok p
  | p, c :: rest =>
      match level.ofShort? c with
      | none => .error (.unknownArgument (String.ofList ['-', c]))
      | some flag =>
          if flag.takesValue then
            match rest with
            | [] => p.await flag
            | '=' :: value => p.assign flag (String.ofList value)
            | value => p.assign flag (String.ofList value)
          else (p.turnOn level flag).bind fun p => takeLetters level p rest

/-- Asks the environment for the options that are open. -/
def askEnvironment (env : String → Option String) :
    List Flag → Progress → Except UsageError Progress
  | [], p => .ok p
  | flag :: rest, p =>
      if p.given.any fun g => g.flag = flag then askEnvironment env rest p
      else
        match flag.environmentName?.bind env with
        | none => askEnvironment env rest p
        | some value =>
            (p.note flag .environment (flag.read value)).bind (askEnvironment env rest)

/-- Ends a level. -/
def close (env : String → Option String) (p : Progress) :
    Except UsageError (List Given) := do
  pure (← (← p.resolve).askEnvironment env everywhere).given

end Progress

/-! ## Words -/

/-- What a word looks like. -/
inductive Token where
  | long (name : String) (value : Option String)
  | letters (cs : List Char)
  | plain
  deriving DecidableEq, Repr

/-- What is before the first equals sign, and what is behind it. -/
def splitEquals : List Char → List Char × Option (List Char)
  | [] => ([], none)
  | '=' :: rest => ([], some rest)
  | c :: rest => (c :: (splitEquals rest).1, (splitEquals rest).2)

def Token.ofChars : List Char → Token
  | '-' :: '-' :: name =>
      .long (String.ofList (splitEquals name).1) ((splitEquals name).2.map String.ofList)
  | '-' :: c :: rest => .letters (c :: rest)
  | _ => .plain

/-- What is wrong with a word that is neither an option, nor a value, nor a command. Behind two
dashes a command is no command either. -/
def stray (level : Level) (word : String) (behindDashes : Bool) : UsageError :=
  match level with
  | .program =>
      if behindDashes && (Word.ofString? word).isSome then .unknownArgument word
      else .unknownCommand word
  | _ => .unknownArgument word

/-- The answer to the word help and what follows it. -/
def helpFor : List String → UsageError
  | [] => .helpAsked .program
  | word :: rest =>
      match Word.ofString? word, rest with
      | none, _ => .unknownCommand word
      | some _, next :: _ => .unknownCommand next
      | some (.run level), [] => .helpAsked level
      | some .help, [] => .helpAsked .program

/-- A level that has been read, and on the program's own level the command with what follows it. -/
structure Passage where
  progress : Progress
  command : Option (Level × List String) := none
  deriving Repr

/-- Reads a level. -/
def walk (level : Level) : Progress → List String → Except UsageError Passage
  | p, [] => .ok ⟨p, none⟩
  | p, word :: rest =>
      let command := if level = .program ∧ p.awaits = false then Word.ofString? word else none
      match command with
      | some .help => .error (helpFor rest)
      | some (.run level) => .ok ⟨p, some (level, rest)⟩
      | none =>
          if word = "--" then
            match rest with
            | [] => .ok ⟨p, none⟩
            | next :: _ => .error (stray level next true)
          else
            match Token.ofChars word.toList with
            | .long name value => (p.takeLong level name value).bind fun p => walk level p rest
            | .letters cs => (p.takeLetters level cs).bind fun p => walk level p rest
            | .plain =>
                if p.awaits then walk level (p.takeValue word) rest
                else .error (stray level word false)

/-! ## The whole line -/

/-- The command, with the options that only it has. -/
inductive Command where
  | stress (parties : Option UInt32) (generations : Option UInt64) (json : Bool)
  | race (threads : Option UInt32) (rounds : Option UInt64) (json : Bool)
  deriving DecidableEq, Repr

/-- What a command line says. -/
structure Invocation where
  verbose : Bool
  config : Option String
  noColor : Bool
  command : Command
  deriving DecidableEq, Repr

/-- What a level says of an option. -/
def given? (xs : List Given) (flag : Flag) : Option Given := xs.find? fun g => g.flag = flag

/-- What two levels say of an option together. -/
def agreed (outer inner : List Given) (flag : Flag) : Option Argument :=
  match given? outer flag, given? inner flag with
  | some o, some i =>
      if o.origin = .commandLine ∧ i.origin = .environment then some o.argument
      else some i.argument
  | some o, none => some o.argument
  | none, some i => some i.argument
  | none, none => none

namespace Argument

def truth? : Option Argument → Bool
  | some (truth b) => b
  | _ => false

def path? : Option Argument → Option String
  | some (path s) => some s
  | _ => none

def word? : Option Argument → Option UInt32
  | some (word n) => some n
  | _ => none

def long? : Option Argument → Option UInt64
  | some (long n) => some n
  | _ => none

end Argument

/-- The command that a level's options make. -/
def Command.ofGiven (level : Level) (xs : List Given) : Command :=
  let own (flag : Flag) : Option Argument := (given? xs flag).map (·.argument)
  match level with
  | .race => .race (Argument.word? (own .threads)) (Argument.long? (own .rounds))
      (Argument.truth? (own .json))
  | _ => .stress (Argument.word? (own .parties)) (Argument.long? (own .generations))
      (Argument.truth? (own .json))

def Invocation.ofGiven (level : Level) (outer inner : List Given) : Invocation :=
  { verbose := Argument.truth? (agreed outer inner .verbose)
    config := Argument.path? (agreed outer inner .config)
    noColor := Argument.truth? (agreed outer inner .noColor)
    command := .ofGiven level inner }

/-- Reads the words of a command line, without the program's name. -/
def read (env : String → Option String) (words : List String) :
    Except UsageError Invocation := do
  let outer ← walk .program {} words
  match outer.command with
  | none =>
      let given ← outer.progress.close env
      if given.isEmpty then .error .nothingGiven else .error .commandMissing
  | some (level, rest) =>
      let inner ← walk level {} rest
      let inner ← inner.progress.close env
      let given ← outer.progress.close env
      pure (.ofGiven level given inner)

end Rendezvous.CommandLine
