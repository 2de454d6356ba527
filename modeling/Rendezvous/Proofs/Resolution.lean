import Rendezvous.Program
import Rendezvous.Proofs.Excerpts
import Rendezvous.Proofs.Run.Range
import Rendezvous.Proofs.Snapshots

/-!
# From the sources to the run

What a run is told comes from four places: the command line, a settings file, one variable of the
environment, and the standard values. Which of them counts is settled before anything is built, and
so is whether it will do (`resolution`). The poll interval comes first, and one that is refused is
not installed. The sizes come second, and the barrier only then.

To say that something has not begun, the parts of a run that come later are left open (`Stages`). A
refusal that is the same whatever they are has come before them.
-/

set_option autoImplicit false

namespace Rendezvous.Program

open CommandLine Run

/-! ## What comes after the sizes -/

/-- The barrier is built as usual, and the workers take their turns in any order. -/
structure Stages.Scheduled (stages : Stages) : Prop where
  build : stages.build = usual.build
  work (s : Stress) : ∃ t, Schedule.Reaches Stress.step s t ∧ stages.work s = t.conclude
  round (r : Race) (n : Nat) : ∃ t, Schedule.Reaches Race.step r t ∧ stages.round r n = t.conclude n

theorem Stages.usual_scheduled : usual.Scheduled where
  build := rfl
  work s := ⟨s.settle, Schedule.reaches_settle _ _ _ _ _, rfl⟩
  round r _ := ⟨r.settle, Schedule.reaches_settle _ _ _ _ _, rfl⟩

variable {m : Machine} {words : List String} {i : Invocation} {s : Settings} {p : Plan}
  {stages : Stages}

/-! ## Sizes -/

def Job.OutOfRange : Job → Prop
  | .stress sizes => sizes.OutOfRange
  | .race sizes => sizes.OutOfRange

/-- A stress run of more parties than a semaphore can count. -/
def Job.Overfull : Job → Prop
  | .stress sizes => Semaphore.maxValue < sizes.parties
  | .race _ => False

/-- Sizes that are out of range are refused before anything else. -/
theorem runWith_of_outOfRange (out : p.job.OutOfRange) :
    ∃ fault, ∀ stages, p.runWith stages = .error (.outOfRange fault) := by
  obtain ⟨job, json, verbose, tuning⟩ := p
  cases job with
  | stress sizes =>
    obtain ⟨inside, -⟩ | ⟨-, fault, refused⟩ := Stress.validate_cases sizes
    · exact absurd out inside
    · refine ⟨fault, fun stages => ?_⟩
      simp only [Plan.runWith, Stress.runWith, refused]
      rfl
  | race sizes =>
    obtain ⟨inside, -⟩ | ⟨-, fault, refused⟩ := Race.validate_cases sizes
    · exact absurd out inside
    · refine ⟨fault, fun stages => ?_⟩
      simp only [Plan.runWith, Race.runWith, refused]
      rfl

theorem blamesNoSize_map {α β : Type} {f : α → β} {r : Except RunError α}
    (blameless : BlamesNoSize r) : BlamesNoSize (r.map f) := by
  cases r with
  | error e => exact fun fault same => blameless fault (congrArg _ (Except.error.inj same))
  | ok a => exact blamesNoSize_ok (f a)

theorem blamesNoSize_playRounds {play : Nat → Except RunError Unit}
    (each : ∀ n, BlamesNoSize (play n)) (first left : Nat) :
    BlamesNoSize (Race.playRounds play first left) := by
  induction left generalizing first with
  | zero => exact blamesNoSize_ok ()
  | succ left ih =>
    unfold Race.playRounds
    split
    · exact ih (first + 1)
    · next failed => exact failed ▸ each first

theorem blamesNoSize_stress (scheduled : stages.Scheduled) (supply : Barrier.Supply)
    {sizes : StressSizes} (valid : Stress.validate sizes = .ok ()) :
    BlamesNoSize (Stress.runWith stages.build stages.work supply sizes) := by
  rw [Stress.runWith_of_valid valid]
  split
  · next failed =>
    have built := (Crew.around supply {}).blamesNoSize_alone (.init sizes.parties false)
    rw [scheduled.build] at failed
    exact fun fault same => built fault
      ((congrArg Prod.snd failed).trans (congrArg _ (Except.error.inj same)))
  · next crew _ _ =>
    obtain ⟨t, reached, judged⟩ := scheduled.work (Stress.start sizes crew)
    exact judged ▸ Stress.blamesNoSize_conclude reached

theorem blamesNoSize_race (scheduled : stages.Scheduled) (supply : Barrier.Supply)
    {sizes : RaceSizes} (valid : Race.validate sizes = .ok ()) :
    BlamesNoSize (Race.runWith stages.round supply sizes) := by
  rw [Race.runWith, valid]
  refine .bind (blamesNoSize_ok ()) fun _ =>
    .bind (blamesNoSize_playRounds (fun n => ?_) 0 _) fun _ => blamesNoSize_ok sizes
  obtain ⟨t, reached, judged⟩ := scheduled.round (Race.start supply sizes.threads) n
  exact judged ▸ Race.blamesNoSize_conclude reached n

/-- Sizes that are in range are not complained about later, in whatever order the workers work. -/
theorem blamesNoSize_runWith (inside : ¬ p.job.OutOfRange) (scheduled : stages.Scheduled) :
    BlamesNoSize (p.runWith stages) := by
  obtain ⟨job, json, verbose, tuning⟩ := p
  cases job with
  | stress sizes =>
    obtain ⟨-, valid⟩ | ⟨out, -⟩ := Stress.validate_cases sizes
    · exact blamesNoSize_map (blamesNoSize_stress scheduled _ valid)
    · exact absurd out inside
  | race sizes =>
    obtain ⟨-, valid⟩ | ⟨out, -⟩ := Race.validate_cases sizes
    · exact blamesNoSize_map (blamesNoSize_race scheduled _ valid)
    · exact absurd out inside

theorem runWith_eq_outOfRange_iff (scheduled : stages.Scheduled) :
    (∃ fault, p.runWith stages = .error (.outOfRange fault)) ↔ p.job.OutOfRange := by
  refine ⟨fun ⟨fault, failed⟩ => ?_, fun out => ?_⟩
  · by_contra inside
    exact blamesNoSize_runWith inside scheduled fault failed
  · obtain ⟨fault, failed⟩ := runWith_of_outOfRange out
    exact ⟨fault, failed stages⟩

/-- Too many parties are refused when the barrier is to be built, and no worker has begun. -/
theorem runWith_of_overfull (inside : ¬ p.job.OutOfRange) (many : p.job.Overfull) :
    ∃ error, ∀ stages, stages.build = Stages.usual.build →
      p.runWith stages = .error (.barrier (.invalidArgument error)) := by
  obtain ⟨job, json, verbose, tuning⟩ := p
  cases job with
  | stress sizes =>
    obtain ⟨-, valid⟩ | ⟨out, -⟩ := Stress.validate_cases sizes
    · refine ⟨.tooManyParties sizes.parties Semaphore.maxValue, fun stages usual => ?_⟩
      have built := Crew.alone_init_of_tooMany { poll := tuning.pollInterval } many
      have refused : Stress.runWith stages.build stages.work { poll := tuning.pollInterval } sizes =
          .error (.barrier (.invalidArgument (.tooManyParties sizes.parties Semaphore.maxValue))) := by
        rw [Stress.runWith_of_valid valid, usual]
        split
        · next failed =>
          exact congrArg _ (Except.error.inj ((congrArg Prod.snd failed).symm.trans built))
        · next there => exact absurd ((congrArg Prod.snd there).symm.trans built) nofun
      exact congrArg (Except.map Tally.stress) refused
    · exact absurd out inside
  | race sizes => exact many.elim

/-! ## The poll interval -/

/-- The interval that a file and a variable ask for together. A variable that holds no number of 64
bits is as good as none. -/
inductive Asks (file : Option UInt64) (value : Option String) : Duration → Prop
  | file {us : UInt64} : file = some us → Asks file value (.ofMicroseconds us.toNat)
  | environment {text : String} {us : Nat} : file = none → value = some text →
      Text.readNat Text.maxUnsigned64 text = .ok us → Asks file value (.ofMicroseconds us)
  | standard : file = none →
      (∀ text, value = some text → ∀ us, Text.readNat Text.maxUnsigned64 text ≠ .ok us) →
      Asks file value (.ofMilliseconds 10)

theorem asks_tuning (s : Settings) (value : Option String) :
    Asks s.poll value (s.tuning value).pollInterval := by
  unfold Settings.tuning
  split
  · next us there => exact .file there
  · next absent =>
    unfold Tuning.ofEnvironment
    split
    · exact .standard absent fun _ same => absurd same nofun
    · next text =>
      split
      · next us number => exact .environment absent rfl number
      · next e bad =>
        refine .standard absent fun other same us number => ?_
        obtain rfl := Option.some.inj same
        exact absurd (bad.symm.trans number) nofun

/-! ## The whole program -/

/-- What the program leaves behind, if its run takes so long. -/
def outcome (m : Machine) (words : List String) (elapsed : Duration) : Ending :=
  match start m words with
  | .error ending => ending
  | .ok p => p.ending elapsed p.run

/-- The program ends with an error, and with nothing else: there is no report, and the exit code
says so. -/
def Fails (m : Machine) (words : List String) (e : RunError) : Prop :=
  ∀ elapsed, outcome m words elapsed = .ofError e ∧
    (outcome m words elapsed).output = "" ∧ (outcome m words elapsed).exitCode = 1

theorem fails_of_start {e : RunError} (h : start m words = .error (.ofError e)) :
    Fails m words e := by
  intro elapsed
  rw [outcome, h]
  exact ⟨rfl, rfl, rfl⟩

theorem fails_of_run {e : RunError} (h : start m words = .ok p) (failed : p.run = .error e) :
    Fails m words e := by
  intro elapsed
  rw [outcome, h]
  simp only [failed]
  exact ⟨rfl, rfl, rfl⟩

theorem start_of_refused {wanted : Tuning} {e : TuningError} {installed : Tuning}
    (accepted : CommandLine.read m.env words = .ok i) (loaded : settings m i = .ok s)
    (asked : s.tuning (m.env Tuning.pollVariable) = wanted)
    (refused : Tuning.standard.configure wanted = (.error e, installed)) :
    start m words = .error (.ofError (.settings (.invalidTuning e))) := by
  have planned : plan m i = .error (.settings (.invalidTuning e)) := by
    simp only [plan, loaded, bind, Except.bind, asked, refused]
  simp only [start, accepted, planned]
  rfl

theorem start_of_installed {wanted : Tuning} (accepted : CommandLine.read m.env words = .ok i)
    (loaded : settings m i = .ok s) (asked : s.tuning (m.env Tuning.pollVariable) = wanted)
    (installed : Tuning.standard.configure wanted = (.ok (), wanted)) :
    start m words = .ok ⟨.ofCommand s i.command, wantsJson i.command, i.verbose || s.verbose,
      wanted⟩ := by
  have planned : plan m i = .ok ⟨.ofCommand s i.command, wantsJson i.command,
      i.verbose || s.verbose, wanted⟩ := by
    simp only [plan, loaded, bind, Except.bind, asked, installed]
    rfl
  simp only [start, accepted, planned]
  rfl

/-- The sizes of a job are those of the command, and where it names none those of the settings. -/
inductive Takes (s : Settings) : Command → Job → Prop
  | stress (parties : Option UInt32) (generations : Option UInt64) (json : Bool) :
      Takes s (.stress parties generations json)
        (.stress ⟨parties.getD s.stress.parties, generations.getD s.stress.generations⟩)
  | race (threads : Option UInt32) (rounds : Option UInt64) (json : Bool) :
      Takes s (.race threads rounds json)
        (.race ⟨threads.getD s.race.threads, rounds.getD s.race.rounds⟩)

theorem takes_ofCommand (s : Settings) (c : Command) : Takes s c (.ofCommand s c) := by
  cases c with
  | stress parties generations json => exact .stress parties generations json
  | race threads rounds json => exact .race threads rounds json

/-- What comes of a command line that is accepted and settings that are loaded. Each value is taken
from the first source that gives one. An interval that is not allowed ends the program before it is
installed, and sizes that are out of range end the run before there is a barrier or a thread: it
comes to the same refusal whatever the later stages are. Sizes in range are never complained about,
however the workers are scheduled, because no step of a worker fails in that way. -/
theorem resolution (accepted : CommandLine.read m.env words = .ok i)
    (loaded : settings m i = .ok s) :
    ∃ wanted, Asks s.poll (m.env Tuning.pollVariable) wanted ∧
      -- An interval that is not allowed ends the program. It is not installed.
      (¬ wanted.Tolerable → (Tuning.standard.configure ⟨wanted⟩).2 = Tuning.standard ∧
        ∃ e, Fails m words (.settings (.invalidTuning e))) ∧
      -- One that is allowed is installed, and the rest of the plan taken from its sources.
      (wanted.Tolerable → (Tuning.standard.configure ⟨wanted⟩).2 = ⟨wanted⟩ ∧
        ∃ p, start m words = .ok p ∧ p.tuning = ⟨wanted⟩ ∧ p.verbose = (i.verbose || s.verbose) ∧
          Takes s i.command p.job ∧
          -- The run complains about its sizes just if they are out of range. So it does however
          -- its workers are scheduled.
          ((∃ fault, p.run = .error (.outOfRange fault)) ↔ p.job.OutOfRange) ∧
          (∀ stages : Stages, stages.Scheduled →
            ((∃ fault, p.runWith stages = .error (.outOfRange fault)) ↔ p.job.OutOfRange)) ∧
          -- It comes before any barrier and any thread.
          (p.job.OutOfRange → ∃ fault, (∀ stages, p.runWith stages = .error (.outOfRange fault)) ∧
            Fails m words (.outOfRange fault)) ∧
          -- Too many parties are refused by the barrier, before any worker begins.
          (¬ p.job.OutOfRange → p.job.Overfull → ∃ error,
            (∀ stages, stages.build = Stages.usual.build →
              p.runWith stages = .error (.barrier (.invalidArgument error))) ∧
            Fails m words (.barrier (.invalidArgument error)))) := by
  obtain ⟨wanted, asked⟩ : ∃ wanted, s.tuning (m.env Tuning.pollVariable) = ⟨wanted⟩ :=
    ⟨(s.tuning (m.env Tuning.pollVariable)).pollInterval, rfl⟩
  have asks := asks_tuning s (m.env Tuning.pollVariable)
  rw [asked] at asks
  refine ⟨wanted, asks, fun refused => ?_, fun allowed => ?_⟩
  · obtain ⟨e, kept⟩ : ∃ e, Tuning.standard.configure ⟨wanted⟩ = (.error e, Tuning.standard) :=
      Tuning.configure_of_not_tolerable Tuning.standard refused
    exact ⟨congrArg Prod.snd kept, e, fails_of_start (start_of_refused accepted loaded asked kept)⟩
  · have installed : Tuning.standard.configure ⟨wanted⟩ = (.ok (), ⟨wanted⟩) :=
      Tuning.configure_of_tolerable Tuning.standard allowed
    have started := start_of_installed accepted loaded asked installed
    refine ⟨congrArg Prod.snd installed, _, started, rfl, rfl, takes_ofCommand s i.command,
      ?_, fun stages scheduled => runWith_eq_outOfRange_iff scheduled, fun out => ?_,
      fun inside many => ?_⟩
    · exact runWith_eq_outOfRange_iff Stages.usual_scheduled
    · obtain ⟨fault, failed⟩ := runWith_of_outOfRange out
      exact ⟨fault, failed, fails_of_run started (failed .usual)⟩
    · obtain ⟨error, failed⟩ := runWith_of_overfull inside many
      exact ⟨error, failed, fails_of_run started (failed .usual rfl)⟩

/-- A settings file that says how often to look for requests, and how many generations to run. -/
def sparing : Settings.Excerpt := ⟨none, some 250, some ⟨none, some 5⟩, none⟩

/-- A machine with that file, on which a variable asks for another interval. -/
def crowded : Machine where
  env name := if name = Tuning.pollVariable then some "20000" else none
  source path := if path = "rdvt.toml" then .bytes sparing.sheet.text.toUTF8 else .missing
  processors := 8

/-- The file's interval counts, the command's parties, and the file's generations. There are more
parties than a semaphore can count, so the barrier is refused. -/
theorem resolution_crowded :
    ∃ p, start crowded ["--verbose", "stress", "--parties=3000000000"] = .ok p ∧
      p.tuning = ⟨.ofMicroseconds 250⟩ ∧ p.verbose = true ∧ p.job = .stress ⟨3000000000, 5⟩ ∧
      ∃ error, Fails crowded ["--verbose", "stress", "--parties=3000000000"]
        (.barrier (.invalidArgument error)) := by
  have accepted : CommandLine.read crowded.env ["--verbose", "stress", "--parties=3000000000"] =
      .ok ⟨true, none, false, .stress (some 3000000000) none false⟩ := by
    decide
  have loaded : settings crowded ⟨true, none, false, .stress (some 3000000000) none false⟩ =
      .ok ⟨false, some 250, ⟨8, 5⟩, ⟨8, 100⟩⟩ := by
    have lines : sparing.sheet.SameLines sparing.sheet := ⟨by decide, by decide, by decide⟩
    have fits : sparing.Fits := ⟨by decide, by decide, by decide, by decide, by decide⟩
    show Settings.load (Settings.standard 8) "rdvt.toml" (.bytes sparing.sheet.text.toUTF8) = _
    rw [Settings.load_bytes, (Settings.ofText_eq_ok_iff lines).mpr ⟨fits, rfl⟩]
    rfl
  obtain ⟨wanted, asks, -, goesOn⟩ := resolution accepted loaded
  have interval : wanted = .ofMicroseconds 250 := by
    cases asks with
    | file there => cases there; rfl
    | environment absent => cases absent
    | standard absent => cases absent
  subst interval
  obtain ⟨-, p, started, tuned, loud, takes, -, -, -, overfull⟩ := goesOn (by decide)
  have job : p.job = .stress ⟨3000000000, 5⟩ := by
    generalize p.job = job at takes
    cases takes
    rfl
  have inside : ¬ p.job.OutOfRange := by
    rw [job]
    exact not_or.mpr ⟨by decide, not_not.mpr ⟨by decide, by decide⟩⟩
  have many : p.job.Overfull := by
    rw [job]
    exact (by decide : Semaphore.maxValue < (3000000000 : UInt32))
  obtain ⟨error, -, fails⟩ := overfull inside many
  exact ⟨p, started, tuned, loud, job, error, fails⟩

end Rendezvous.Program
