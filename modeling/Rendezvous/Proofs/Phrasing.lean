import Mathlib.Data.List.Nodup
import Rendezvous.CommandLine.Invocation
import Rendezvous.Proofs.Numerals

/-!
# One meaning, many phrasings

An invocation can be phrased in many ways. Its options may be written in any order, and those that
may stand on either side of the command may be spread over both. A reader of the words meets two
levels, takes each option at the level where it finds it, and in the end puts together what the
levels say.

What a level says is the list of the options in the order in which they were written
(`walk_words`). From there on order does not matter, because no option is there twice: asking a list
for an option is asking whether it is in the list (`given?_eq_some_iff`), and asking two levels
for it is asking both lists as one (`agreed_eq`).
-/

set_option autoImplicit false

namespace Rendezvous.CommandLine

/-! ## Writing options -/

/-- The value of an option as it is written; a switch has none. -/
def Argument.spelling : Argument → Option String
  | truth _ => none
  | path s => some s
  | word n => some (toString n.toNat)
  | long n => some (toString n.toNat)

/-- An option in one word, by its long name. -/
def Given.phrase (g : Given) : String :=
  "--" ++ g.flag.long ++
    match g.argument.spelling with
    | some value => "=" ++ value
    | none => ""

def said (flag : Flag) (argument : Argument) : Given := ⟨flag, .commandLine, argument⟩

/-- The option was given on the command line, and what it says is of its kind: a switch is on, a
path is not empty, and the sizes and the repetitions are numbers of their width. -/
inductive Given.Proper : Given → Prop where
  | switch {flag : Flag} : flag = .verbose ∨ flag = .noColor ∨ flag = .json →
      Proper (said flag (.truth true))
  | path {s : String} : s ≠ "" → Proper (said .config (.path s))
  | word {flag : Flag} (n : UInt32) : flag = .parties ∨ flag = .threads →
      Proper (said flag (.word n))
  | long {flag : Flag} (n : UInt64) : flag = .generations ∨ flag = .rounds →
      Proper (said flag (.long n))

/-- A switch that is on is written, one that is off is not. -/
def switch (flag : Flag) : Bool → List Given
  | true => [said flag (.truth true)]
  | false => []

/-- The options of an invocation that may stand on either side of the command. -/
def Invocation.shared (i : Invocation) : List Given :=
  switch .verbose i.verbose ++ (i.config.map fun s => said .config (.path s)).toList ++
    switch .noColor i.noColor

/-- The options that only the command has. -/
def Command.own : Command → List Given
  | stress parties generations json =>
      (parties.map fun n => said .parties (.word n)).toList ++
        (generations.map fun n => said .generations (.long n)).toList ++ switch .json json
  | race threads rounds json =>
      (threads.map fun n => said .threads (.word n)).toList ++
        (rounds.map fun n => said .rounds (.long n)).toList ++ switch .json json

def Command.level : Command → Level
  | stress .. => .stress
  | race .. => .race

def Command.name : Command → String
  | stress .. => "stress"
  | race .. => "race"

/-- These words phrase the invocation: each of its options once, in any order, and only such before
the command as may stand there. -/
def Phrases (i : Invocation) (words : List String) : Prop :=
  ∃ front back : List Given,
    words = front.map Given.phrase ++ i.command.name :: back.map Given.phrase ∧
    (∀ g ∈ front, g.flag ∈ everywhere) ∧ (front ++ back).Perm (i.shared ++ i.command.own)

variable {level : Level} {flag : Flag} {g : Given} {gs front back xs ys : List Given}
  {p : Progress} {i : Invocation} {env : String → Option String} {words rest : List String}

/-! ## Reading one option -/

theorem ofLong?_long (known : flag ∈ level.flags) : level.ofLong? flag.long = some flag := by
  cases level <;> cases flag <;> first | rfl | exact absurd known (by decide)

theorem mem_flags_of_everywhere (shared : flag ∈ everywhere) : flag ∈ level.flags := by
  cases level with
  | program => exact List.mem_append_left _ shared
  | stress => exact List.mem_append_left _ (List.mem_append_right _ shared)
  | race => exact List.mem_append_left _ (List.mem_append_right _ shared)

theorem splitEquals_append {cs : List Char} (plain : '=' ∉ cs) (value : List Char) :
    splitEquals (cs ++ '=' :: value) = (cs, some value) := by
  induction cs with
  | nil => rfl
  | cons c cs ih =>
    obtain ⟨other, plain⟩ := not_or.mp (List.mem_cons.not.mp plain)
    rw [List.cons_append, splitEquals, ih plain]
    exact Ne.symm other

theorem splitEquals_of_plain {cs : List Char} (plain : '=' ∉ cs) : splitEquals cs = (cs, none) := by
  induction cs with
  | nil => rfl
  | cons c cs ih =>
    obtain ⟨other, plain⟩ := not_or.mp (List.mem_cons.not.mp plain)
    rw [splitEquals, ih plain]
    exact Ne.symm other

theorem plain_long (flag : Flag) : '=' ∉ flag.long.toList := by
  cases flag <;> decide

theorem toList_phrase (g : Given) : g.phrase.toList = '-' :: '-' :: (g.flag.long.toList ++
    match g.argument.spelling with
    | some value => '=' :: value.toList
    | none => []) := by
  unfold Given.phrase
  cases g.argument.spelling <;> simp

theorem ofChars_phrase (g : Given) :
    Token.ofChars g.phrase.toList = .long g.flag.long g.argument.spelling := by
  rw [toList_phrase, Token.ofChars]
  cases g.argument.spelling with
  | none => simp [splitEquals_of_plain (plain_long g.flag)]
  | some value => simp [splitEquals_append (plain_long g.flag)]

/-- No option is taken for a command. -/
theorem ofString?_phrase (g : Given) : Word.ofString? g.phrase = none := by
  have dashes := toList_phrase g
  unfold Word.ofString?
  split
  all_goals first | rfl | (next same => rw [same] at dashes; exact absurd dashes (by simp))

theorem phrase_ne_dashes (g : Given) : g.phrase ≠ "--" := by
  intro same
  have dashes := toList_phrase g
  rw [same] at dashes
  have nothing := (List.cons.inj (List.cons.inj dashes).2).2.symm
  have long : g.flag.long.toList = [] := (List.append_eq_nil_iff.mp nothing).1
  generalize g.flag = flag at long
  cases flag <;> exact absurd long (by decide)

theorem read_word (flag : Flag) (n : UInt32) :
    readWord flag (toString n.toNat) = .ok (.word n) := by
  have small : n.toNat < UInt32.size := n.toNat_lt_size
  have fits : n.toNat ≤ Text.maxSigned64 := by
    have : UInt32.size ≤ Text.maxSigned64 := by decide
    omega
  have range : (0 : Int) ≤ n.toNat ∧ (n.toNat : Int) < UInt32.size := by omega
  simp only [readWord, Text.readInt_toString fits, if_pos range, Int.toNat_natCast,
    UInt32.ofNat_toNat, Nat.toUInt32_eq]

theorem read_long (flag : Flag) (n : UInt64) :
    readLong flag (toString n.toNat) = .ok (.long n) := by
  have small : n.toNat < UInt64.size := n.toNat_lt_size
  have fits : n.toNat ≤ Text.maxUnsigned64 := Nat.le_pred_of_lt small
  simp only [readLong, Text.readNat_toString fits, UInt64.ofNat_toNat, Nat.toUInt64_eq]

/-- What is proper is read as it was written. -/
theorem Given.Proper.read (proper : g.Proper) :
    (g = said g.flag (.truth true) ∧ (g.flag = .verbose ∨ g.flag = .noColor ∨ g.flag = .json)) ∨
    ∃ value, g.argument.spelling = some value ∧ g.flag.takesValue = true ∧
      g.flag.read value = .ok g.argument := by
  cases proper with
  | switch listed => exact .inl ⟨rfl, listed⟩
  | @path s nonempty =>
    refine .inr ⟨s, rfl, rfl, ?_⟩
    have full : s.isEmpty = false := by simpa using nonempty
    simp [said, Flag.read, full]
  | @word flag n listed =>
    refine .inr ⟨_, rfl, ?_, ?_⟩
    · rcases listed with rfl | rfl <;> rfl
    · rcases listed with rfl | rfl <;> exact read_word _ n
  | @long flag n listed =>
    refine .inr ⟨_, rfl, ?_, ?_⟩
    · rcases listed with rfl | rfl <;> rfl
    · rcases listed with rfl | rfl <;> exact read_long _ n

theorem Given.Proper.origin (proper : g.Proper) : g.origin = .commandLine := by
  cases proper <;> rfl

/-! ## Reading a level -/

namespace Progress

theorem resolve_of_settled (settled : p.pending = none) : p.resolve = .ok p := by
  simp only [resolve, settled]

theorem note_of_new (new : ∀ x ∈ p.given, x.flag ≠ g.flag) :
    p.note g.flag g.origin (.ok g.argument) = .ok { p with given := p.given ++ [g] } := by
  have absent : (p.given.any fun x => x.flag = g.flag) = false := by simpa using new
  simp only [note, absent]
  rfl

theorem takeLong_of_proper (proper : g.Proper) (known : g.flag ∈ level.flags)
    (settled : p.pending = none) (new : ∀ x ∈ p.given, x.flag ≠ g.flag) :
    p.takeLong level g.flag.long g.argument.spelling =
      .ok { p with given := p.given ++ [g] } := by
  have noted := note_of_new new
  simp only [takeLong, ofLong?_long known]
  obtain ⟨on, listed⟩ | ⟨value, spelled, takes, read⟩ := proper.read
  · have turned : p.turnOn level g.flag = p.note g.flag .commandLine (.ok (.truth true)) := by
      rw [turnOn, resolve_of_settled settled]
      rcases listed with same | same | same <;> rw [same] <;> rfl
    have bare : g.flag.takesValue = false := by
      rcases listed with same | same | same <;> rw [same] <;> rfl
    have spelled : g.argument.spelling = none := by rw [on]; rfl
    rw [bare, spelled]
    exact turned.trans (on ▸ noted)
  · rw [takes, spelled]
    show p.assign g.flag value = _
    rw [assign, resolve_of_settled settled, read, ← noted, proper.origin]
    rfl

end Progress

/-- A level takes in the options that are written in it, in their order. -/
theorem walk_words (settled : p.pending = none) (proper : ∀ g ∈ gs, g.Proper)
    (known : ∀ g ∈ gs, g.flag ∈ level.flags)
    (new : ((p.given ++ gs).map Given.flag).Nodup) :
    walk level p (gs.map Given.phrase ++ rest) =
      walk level { p with given := p.given ++ gs } rest := by
  induction gs generalizing p with
  | nil => rw [List.append_nil]; rfl
  | cons g gs ih =>
    have fresh : ∀ x ∈ p.given, x.flag ≠ g.flag := by
      intro x hx same
      rw [List.map_append, List.map_cons] at new
      exact List.disjoint_of_nodup_append new (List.mem_map_of_mem hx) (same ▸ List.mem_cons_self)
    have taken := Progress.takeLong_of_proper (proper g List.mem_cons_self)
      (known g List.mem_cons_self) settled fresh
    rw [List.map_cons, List.cons_append, walk.eq_def]
    simp only [ofString?_phrase, ite_self, phrase_ne_dashes, if_false, ofChars_phrase, taken]
    show walk level { p with given := p.given ++ [g] } _ = _
    rw [ih (p := { p with given := p.given ++ [g] }) settled
      (fun x hx => proper x (List.mem_cons_of_mem _ hx))
      (fun x hx => known x (List.mem_cons_of_mem _ hx)) (by simpa using new)]
    simp

theorem walk_name (settled : p.pending = none) (c : Command) :
    walk .program p (c.name :: rest) = .ok ⟨p, some (c.level, rest)⟩ := by
  have awaits : p.awaits = false := by simp only [Progress.awaits, settled]
  rw [walk.eq_def]
  cases c <;> simp [awaits, Command.name, Command.level, Word.ofString?]

theorem close_of_silent (silent : ∀ f ∈ everywhere, f.environmentName?.bind env = none)
    (settled : p.pending = none) : p.close env = .ok p.given := by
  have asked : ∀ fs : List Flag, (∀ f ∈ fs, f.environmentName?.bind env = none) →
      Progress.askEnvironment env fs p = .ok p := by
    intro fs silent
    induction fs with
    | nil => rfl
    | cons f fs ih =>
      have ih := ih fun f hf => silent f (List.mem_cons_of_mem _ hf)
      rw [Progress.askEnvironment, silent f List.mem_cons_self]
      split <;> exact ih
  rw [Progress.close, Progress.resolve_of_settled settled]
  show (Progress.askEnvironment env everywhere p).bind _ = _
  rw [asked everywhere silent]
  rfl

/-! ## Asking the levels -/

/-- Where no option is given twice, what is found is what is there. -/
theorem given?_eq_some_iff (once : (xs.map Given.flag).Nodup) :
    given? xs flag = some g ↔ g ∈ xs ∧ g.flag = flag := by
  induction xs with
  | nil => simp [given?]
  | cons x xs ih =>
    rw [List.map_cons, List.nodup_cons] at once
    have ih := ih once.2
    rw [given?] at ih ⊢
    rw [List.find?_cons]
    by_cases here : x.flag = flag
    · simp only [here, decide_true, List.mem_cons, Option.some.injEq]
      refine ⟨fun same => ⟨.inl same.symm, same ▸ here⟩, ?_⟩
      rintro ⟨same | later, named⟩
      · exact same.symm
      · exact absurd (List.mem_map_of_mem later) (named ▸ here ▸ once.1)
    · simp only [here, decide_false, List.mem_cons, ih]
      refine ⟨fun ⟨later, named⟩ => ⟨.inr later, named⟩, ?_⟩
      rintro ⟨rfl | later, named⟩
      · exact absurd named here
      · exact ⟨later, named⟩

theorem given?_eq_of_perm (perm : xs.Perm ys) (once : (ys.map Given.flag).Nodup) (flag : Flag) :
    given? xs flag = given? ys flag := by
  apply Option.ext
  intro g
  rw [given?_eq_some_iff once, given?_eq_some_iff ((perm.map _).nodup_iff.mpr once), perm.mem_iff]

theorem given?_append (xs ys : List Given) (flag : Flag) :
    given? (xs ++ ys) flag = (given? xs flag).or (given? ys flag) := List.find?_append

theorem given?_eq_none (absent : ∀ g ∈ xs, g.flag ≠ flag) : given? xs flag = none := by
  simpa [given?] using absent

/-- Two levels that have no option in common say together what the one list of both says. -/
theorem agreed_eq (once : ((front ++ back).map Given.flag).Nodup) (flag : Flag) :
    agreed front back flag = (given? (front ++ back) flag).map (·.argument) := by
  rw [List.map_append] at once
  rw [agreed, given?_append]
  cases before : given? front flag with
  | none => cases given? back flag <;> rfl
  | some x =>
    have inFront := (given?_eq_some_iff once.of_append_left).mp before
    have notBehind : given? back flag = none := by
      apply given?_eq_none
      intro y hy same
      exact List.disjoint_of_nodup_append once (List.mem_map_of_mem inFront.1)
        (inFront.2 ▸ same ▸ List.mem_map_of_mem hy)
    rw [notBehind]
    rfl

/-! ## The options of an invocation -/

theorem mem_switch {b : Bool} : g ∈ switch flag b ↔ b = true ∧ g = said flag (.truth true) := by
  cases b <;> simp [switch]

theorem mem_shared : g ∈ i.shared ↔
    (i.verbose = true ∧ g = said .verbose (.truth true)) ∨
    (∃ s, i.config = some s ∧ g = said .config (.path s)) ∨
    (i.noColor = true ∧ g = said .noColor (.truth true)) := by
  simp only [Invocation.shared, List.append_assoc, List.mem_append, mem_switch, Option.mem_toList,
    Option.map_eq_some_iff, eq_comm (b := g)]

theorem Proper.of_mem_shared (path : i.config ≠ some "") (h : g ∈ i.shared) : g.Proper := by
  obtain ⟨-, rfl⟩ | ⟨s, named, rfl⟩ | ⟨-, rfl⟩ := mem_shared.mp h
  · exact .switch (.inl rfl)
  · exact .path fun empty => path (empty ▸ named)
  · exact .switch (.inr (.inl rfl))

theorem everywhere_of_mem_shared (h : g ∈ i.shared) : g.flag ∈ everywhere := by
  obtain ⟨-, rfl⟩ | ⟨s, -, rfl⟩ | ⟨-, rfl⟩ := mem_shared.mp h
  · exact (by decide : Flag.verbose ∈ everywhere)
  · exact (by decide : Flag.config ∈ everywhere)
  · exact (by decide : Flag.noColor ∈ everywhere)

/-- What belongs to a command is known at its level and nowhere else. -/
theorem of_mem_own {c : Command} (h : g ∈ c.own) :
    g.Proper ∧ g.flag ∈ c.level.flags ∧ g.flag ∉ everywhere := by
  have stress : ∀ flag ∈ [Flag.parties, .generations, .json],
      flag ∈ Level.stress.flags ∧ flag ∉ everywhere := by decide
  have race : ∀ flag ∈ [Flag.threads, .rounds, .json],
      flag ∈ Level.race.flags ∧ flag ∉ everywhere := by decide
  cases c with
  | stress parties generations json =>
    simp only [Command.own, List.append_assoc, List.mem_append, mem_switch, Option.mem_toList,
      Option.map_eq_some_iff, eq_comm (b := g)] at h
    obtain ⟨n, -, rfl⟩ | ⟨n, -, rfl⟩ | ⟨-, rfl⟩ := h
    · exact ⟨.word n (.inl rfl), stress .parties (by decide)⟩
    · exact ⟨.long n (.inl rfl), stress .generations (by decide)⟩
    · exact ⟨.switch (.inr (.inr rfl)), stress .json (by decide)⟩
  | race threads rounds json =>
    simp only [Command.own, List.append_assoc, List.mem_append, mem_switch, Option.mem_toList,
      Option.map_eq_some_iff, eq_comm (b := g)] at h
    obtain ⟨n, -, rfl⟩ | ⟨n, -, rfl⟩ | ⟨-, rfl⟩ := h
    · exact ⟨.word n (.inr rfl), race .threads (by decide)⟩
    · exact ⟨.long n (.inr rfl), race .rounds (by decide)⟩
    · exact ⟨.switch (.inr (.inr rfl)), race .json (by decide)⟩

theorem nodup_flags (i : Invocation) : ((i.shared ++ i.command.own).map Given.flag).Nodup := by
  rw [List.map_append, List.nodup_append']
  refine ⟨?_, ?_, ?_⟩
  · obtain ⟨verbose, config, noColor, command⟩ := i
    cases verbose <;> cases config <;> cases noColor <;> simp [Invocation.shared, said, switch]
  · obtain ⟨verbose, config, noColor, command⟩ := i
    cases command with
    | stress parties generations json =>
      cases parties <;> cases generations <;> cases json <;>
        simp [Command.own, said, switch]
    | race threads rounds json =>
      cases threads <;> cases rounds <;> cases json <;>
        simp [Command.own, said, switch]
  · intro flag front back
    obtain ⟨x, hx, rfl⟩ := List.mem_map.mp front
    obtain ⟨y, hy, same⟩ := List.mem_map.mp back
    exact (of_mem_own hy).2.2 (same ▸ everywhere_of_mem_shared hx)

theorem asked_shared (i : Invocation) :
    Argument.truth? ((given? i.shared .verbose).map (·.argument)) = i.verbose ∧
      Argument.path? ((given? i.shared .config).map (·.argument)) = i.config ∧
      Argument.truth? ((given? i.shared .noColor).map (·.argument)) = i.noColor := by
  obtain ⟨verbose, config, noColor, command⟩ := i
  cases verbose <;> cases config <;> cases noColor <;> exact ⟨rfl, rfl, rfl⟩

theorem ofGiven_own (c : Command) : Command.ofGiven c.level c.own = c := by
  cases c with
  | stress parties generations json =>
    cases parties <;> cases generations <;> cases json <;> rfl
  | race threads rounds json => cases threads <;> cases rounds <;> cases json <;> rfl

/-- A command is made of the options that only it has. -/
theorem ofGiven_congr (same : ∀ flag ∉ everywhere, given? xs flag = given? ys flag) :
    Command.ofGiven level xs = Command.ofGiven level ys := by
  have own : ∀ flag ∈ [Flag.parties, .generations, .threads, .rounds, .json],
      given? xs flag = given? ys flag := by
    intro flag listed
    refine same flag fun elsewhere => ?_
    cases flag <;> first | exact absurd elsewhere (by decide) | exact absurd listed (by decide)
  unfold Command.ofGiven
  cases level <;>
    simp only [own .parties (by decide), own .generations (by decide), own .threads (by decide),
      own .rounds (by decide), own .json (by decide)]

/-- Two levels that share out an invocation's options among them say the invocation. -/
theorem ofGiven_of_perm (perm : (front ++ back).Perm (i.shared ++ i.command.own))
    (outer : ∀ g ∈ front, g.flag ∈ everywhere) :
    Invocation.ofGiven i.command.level front back = i := by
  have once := nodup_flags i
  have once' := (perm.map Given.flag).nodup_iff.mpr once
  have common : ∀ flag ∈ everywhere,
      agreed front back flag = (given? i.shared flag).map (·.argument) := by
    intro flag listed
    have foreign : given? i.command.own flag = none :=
      given?_eq_none fun g hg same => (of_mem_own hg).2.2 (same ▸ listed)
    rw [agreed_eq once', given?_eq_of_perm perm once, given?_append, foreign, Option.or_none]
  have own : ∀ flag ∉ everywhere, given? back flag = given? i.command.own flag := by
    intro flag inner
    have before : given? front flag = none :=
      given?_eq_none fun g hg same => inner (same ▸ outer g hg)
    have foreign : given? i.shared flag = none :=
      given?_eq_none fun g hg same => inner (same ▸ everywhere_of_mem_shared hg)
    have whole := given?_eq_of_perm perm once flag
    rwa [given?_append, given?_append, before, foreign, Option.none_or, Option.none_or] at whole
  obtain ⟨verbose, config, noColor⟩ := asked_shared i
  rw [Invocation.ofGiven, common _ (by decide), common _ (by decide), common _ (by decide),
    verbose, config, noColor, ofGiven_congr own, ofGiven_own]

/-- Where the environment speaks for no option, the words of a command line are read as what they
phrase, so two orders of the same options are read as the same. -/
theorem read_of_phrases (silent : ∀ f ∈ everywhere, f.environmentName?.bind env = none)
    (path : i.config ≠ some "") (phrased : Phrases i words) :
    read env words = .ok i ∧ ∀ others, Phrases i others → read env others = read env words := by
  have reading (words : List String) (phrased : Phrases i words) : read env words = .ok i := by
    obtain ⟨front, back, rfl, outer, perm⟩ := phrased
    have once := (perm.map Given.flag).nodup_iff.mpr (nodup_flags i)
    rw [List.map_append] at once
    have proper : ∀ g ∈ front ++ back, g.Proper := fun g hg =>
      (List.mem_append.mp (perm.mem_iff.mp hg)).elim (Proper.of_mem_shared path)
        fun h => (of_mem_own h).1
    have known : ∀ g ∈ back, g.flag ∈ i.command.level.flags := by
      intro g hg
      rcases List.mem_append.mp (perm.mem_iff.mp (List.mem_append_right _ hg)) with h | h
      · exact mem_flags_of_everywhere (everywhere_of_mem_shared h)
      · exact (of_mem_own h).2.1
    have before :
        walk .program {} (front.map Given.phrase ++ i.command.name :: back.map Given.phrase) =
          walk .program { given := front } (i.command.name :: back.map Given.phrase) :=
      walk_words rfl (fun g hg => proper g (List.mem_append_left _ hg))
        (fun g hg => List.mem_append_left _ (outer g hg)) once.of_append_left
    have behind : walk i.command.level {} (back.map Given.phrase ++ []) =
        walk i.command.level { given := back } [] :=
      walk_words rfl (fun g hg => proper g (List.mem_append_right _ hg)) known once.of_append_right
    rw [List.append_nil] at behind
    rw [CommandLine.read, before, walk_name rfl]
    show ((walk i.command.level {} (back.map Given.phrase)).bind _) = _
    rw [behind]
    show ((Progress.close env { given := back }).bind _) = _
    rw [close_of_silent silent rfl]
    show ((Progress.close env { given := front }).bind _) = _
    rw [close_of_silent silent rfl]
    show Except.ok (Invocation.ofGiven i.command.level front back) = _
    rw [ofGiven_of_perm perm outer]
  have here := reading words phrased
  exact ⟨here, fun others h => (reading others h).trans here.symm⟩

/-- The path looks like an option, and an option that may stand anywhere stands on both sides. -/
def lookalike : Invocation where
  verbose := true
  config := some "--json=x"
  noColor := true
  command := .race (some 4) (some 18446744073709551615) false

theorem read_of_phrases_lookalike :
    read (fun _ => none)
        ["--no-color", "race", "--rounds=18446744073709551615", "--config=--json=x", "--threads=4",
          "--verbose"] = .ok lookalike ∧
      ∀ others, Phrases lookalike others → read (fun _ => none) others = .ok lookalike := by
  have phrased : Phrases lookalike
      ["--no-color", "race", "--rounds=18446744073709551615", "--config=--json=x", "--threads=4",
        "--verbose"] :=
    ⟨[said .noColor (.truth true)],
      [said .rounds (.long 18446744073709551615), said .config (.path "--json=x"),
        said .threads (.word 4), said .verbose (.truth true)],
      by decide, by decide, by decide⟩
  have silent : ∀ f ∈ everywhere,
      f.environmentName?.bind (fun _ => none) = (none : Option String) := by decide
  obtain ⟨here, elsewhere⟩ := read_of_phrases silent (by decide) phrased
  exact ⟨here, fun others h => (elsewhere others h).trans here⟩

end Rendezvous.CommandLine
