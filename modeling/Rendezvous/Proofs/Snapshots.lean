import Rendezvous.Installation
import Rendezvous.Proofs.Make
import Rendezvous.Proofs.Runs

/-!
# What semaphores remember of the tuning

A process installs tunings and makes semaphores in any order, and its threads use the semaphores
meanwhile. What is in force is the last proposal that was accepted (`inForce`), and since only valid
ones are accepted it is valid at any time. A semaphore remembers what was in force when it was made;
no later proposal reaches it, and nobody who uses it changes its interval.
-/

set_option autoImplicit false

namespace Rendezvous

/-- Longer than nothing, and no longer than a second. -/
def Duration.Tolerable (d : Duration) : Prop := 0 < d.nanoseconds ∧ d ≤ ofSeconds 1

instance (d : Duration) : Decidable d.Tolerable :=
  inferInstanceAs (Decidable (0 < d.nanoseconds ∧ d ≤ Duration.ofSeconds 1))

namespace Tuning

theorem configure_of_tolerable (installed : Tuning) {new : Tuning} (h : new.pollInterval.Tolerable) :
    installed.configure new = (.ok (), new) := by
  rw [configure, validate_eq_ok_iff.mpr h]

theorem configure_of_not_tolerable (installed : Tuning) {new : Tuning}
    (h : ¬ new.pollInterval.Tolerable) :
    ∃ e, installed.configure new = (.error e, installed) := by
  cases checked : new.validate with
  | ok u => exact absurd (validate_eq_ok_iff.mp checked) h
  | error e => exact ⟨e, by rw [configure, checked]⟩

end Tuning

namespace Installation

inductive Move where
  /-- Whatever a process can ask about its tuning. -/
  | ask (request : Request)
  /-- Somebody makes a semaphore, if it can be made. -/
  | create (initial : UInt32) (shared supported : Bool) (rule : CancelRule)
  /-- A call on a semaphore, at any stage and by a thread with any settings, goes on. -/
  | use (index : Nat) (c : Cancellation) (stage : Pool.Stage)
  deriving Repr

/-- Makes a move; `none` if there is no such semaphore or no such call can go on. -/
def move (i : Installation) : Move → Option Installation
  | .ask request => some (i.step request).2
  | .create initial shared supported rule =>
      match Semaphore.create initial shared supported i.tuning.pollInterval rule with
      | .ok s => some { i with semaphores := i.semaphores ++ [s] }
      | .error _ => some i
  | .use index c stage =>
      (i.semaphores[index]?).bind fun s =>
        (stage.step s c).map fun (t, _) => { i with semaphores := i.semaphores.set index t }

/-- The interval that a move proposes for the time to come. -/
def Move.proposal? : Move → Option Duration
  | .ask (.configure poll) => some poll
  | .ask (.environment value true) => some (Tuning.ofEnvironment value).pollInterval
  | _ => none

/-- The last interval that was proposed and could be accepted, or ten milliseconds. -/
def inForce (moves : List Move) : Duration :=
  ((moves.filterMap Move.proposal?).filter fun d => d.Tolerable).getLastD (.ofMilliseconds 10)

variable {i j : Installation} {m : Move} {moves : List Move} {d : Duration}

theorem inForce_of_proposal (proposal : m.proposal? = some d) :
    inForce (moves ++ [m]) = if d.Tolerable then d else inForce moves := by
  unfold inForce
  by_cases h : d.Tolerable <;> simp [proposal, h]

theorem inForce_of_none (silent : m.proposal? = none) : inForce (moves ++ [m]) = inForce moves := by
  simp [inForce, silent]

/-! ## One move -/

/-- What a move can do. -/
inductive Change (i : Installation) : Move → Installation → Prop where
  | keeps {m : Move} : m.proposal? = none → Change i m i
  | installs {m : Move} {d : Duration} : m.proposal? = some d → d.Tolerable →
      Change i m { i with tuning := ⟨d⟩ }
  | refuses {m : Move} {d : Duration} : m.proposal? = some d → ¬ d.Tolerable → Change i m i
  | makes {m : Move} {s : Semaphore} : m.proposal? = none → s.poll = i.tuning.pollInterval →
      Change i m { i with semaphores := i.semaphores ++ [s] }
  | uses {m : Move} {index : Nat} {s t : Semaphore} : m.proposal? = none →
      i.semaphores[index]? = some s → s.Alike t →
      Change i m { i with semaphores := i.semaphores.set index t }

theorem Change.of_install {m : Move} (proposal : m.proposal? = some d) :
    Change i m (i.install ⟨d⟩).2 := by
  unfold install
  by_cases h : d.Tolerable
  · rw [Tuning.configure_of_tolerable i.tuning h]
    exact .installs proposal h
  · obtain ⟨e, refused⟩ := Tuning.configure_of_not_tolerable i.tuning h
    rw [refused]
    exact .refuses proposal h

theorem change_of_move (moved : i.move m = some j) : Change i m j := by
  cases m with
  | ask request =>
    obtain rfl := Option.some.inj moved
    cases request with
    | validate | standard => exact .keeps rfl
    | configure poll => exact .of_install rfl
    | environment value installing =>
      cases installing with
      | false => exact .keeps rfl
      | true => exact .of_install rfl
    | makeSemaphore => exact .makes rfl rfl
    | pollOf index =>
      have same : (i.step (.pollOf index)).2 = i := by
        cases found : i.semaphores[index]? <;> simp [step, found]
      rw [same]
      exact .keeps rfl
  | create initial shared supported rule =>
    simp only [move] at moved
    split at moved
    · next s made =>
      obtain rfl := Option.some.inj moved
      obtain ⟨rfl, -⟩ := Pool.eq_of_create made
      exact .makes rfl rfl
    · obtain rfl := Option.some.inj moved
      exact .keeps rfl
  | use index c stage =>
    obtain ⟨s, found, moved⟩ := Option.bind_eq_some_iff.mp moved
    obtain ⟨⟨t, d, stage'⟩, stepped, rfl⟩ := Option.map_eq_some_iff.mp moved
    exact .uses rfl found (Pool.Stage.alike_step stepped)

/-! ## All moves -/

/-- Semaphore number `k` was made by one of the moves, the first that was not before it. -/
def MadeAfter (early moves : List Move) (k : Nat) : Prop :=
  ∃ m late p q, moves = early ++ m :: late ∧ Schedule.run move {} early = some p ∧
    p.move m = some q ∧ p.semaphores.length = k ∧ q.semaphores.length = k + 1

theorem MadeAfter.concat {early : List Move} {k : Nat} (h : MadeAfter early moves k) (m : Move) :
    MadeAfter early (moves ++ [m]) k := by
  obtain ⟨n, late, p, q, rfl, made⟩ := h
  exact ⟨n, late ++ [m], p, q, by simp, made⟩

/-- What is known after these moves. -/
structure Kept (moves : List Move) (i : Installation) : Prop where
  current : i.tuning.pollInterval = inForce moves
  tolerable : i.tuning.pollInterval.Tolerable
  remembers : ∀ k s, i.semaphores[k]? = some s →
    ∃ early, MadeAfter early moves k ∧ s.poll = inForce early

theorem Kept.concat (kept : Kept moves i) (run : Schedule.run move {} moves = some i)
    (moved : i.move m = some j) : Kept (moves ++ [m]) j := by
  have later : ∀ k s, i.semaphores[k]? = some s →
      ∃ early, MadeAfter early (moves ++ [m]) k ∧ s.poll = inForce early := fun k s found =>
    have ⟨early, made, poll⟩ := kept.remembers k s found
    ⟨early, made.concat m, poll⟩
  cases change_of_move moved with
  | keeps silent =>
    exact ⟨kept.current.trans (inForce_of_none silent).symm, kept.tolerable, later⟩
  | installs proposal h =>
    refine ⟨?_, h, later⟩
    rw [inForce_of_proposal proposal, if_pos h]
  | refuses proposal h =>
    refine ⟨?_, kept.tolerable, later⟩
    rw [inForce_of_proposal proposal, if_neg h, kept.current]
  | @makes s silent poll =>
    refine ⟨kept.current.trans (inForce_of_none silent).symm, kept.tolerable, fun k x found => ?_⟩
    rcases getElem?_concat_cases found with old | ⟨rfl, rfl⟩
    · exact later k x old
    · refine ⟨moves, ⟨m, [], i, _, rfl, run, moved, rfl, ?_⟩, poll.trans kept.current⟩
      simp
  | @uses index s t silent found alike =>
    refine ⟨kept.current.trans (inForce_of_none silent).symm, kept.tolerable, fun k x there => ?_⟩
    rcases getElem?_set_cases there with ⟨rfl, rfl⟩ | ⟨-, old⟩
    · rw [alike.poll]
      exact later k s found
    · exact later k x old

theorem Kept.of_run (run : Schedule.run move {} moves = some i) : Kept moves i := by
  refine Schedule.run_induction (P := Kept) ?_ (fun reach moved kept => kept.concat reach moved) run
  exact ⟨rfl, by decide, nofun⟩

/-- A semaphore keeps the poll interval that was in force when it was made. What is in force is the
last proposal that was tolerable, as a refused one changes nothing; and no move reaches the
interval of a semaphore that has been made. Tunings are proposed, and semaphores made and used, by
anybody and in any order. -/
theorem poll_snapshots (run : Schedule.run move {} moves = some i) :
    -- what is in force is the last proposal that was accepted, and tolerable
    i.tuning.pollInterval = inForce moves ∧ i.tuning.pollInterval.Tolerable ∧
      -- exactly the tolerable intervals are accepted; they are in force from then on, and nothing
      -- changes if one is refused
      (∀ d, ((i.step (.configure d)).1 = .checked (.ok ()) ↔ d.Tolerable) ∧
        (i.step (.configure d)).2 = if d.Tolerable then { i with tuning := ⟨d⟩ } else i) ∧
      -- every semaphore has the interval that was in force when it was made
      ∀ k s, i.semaphores[k]? = some s →
        ∃ early, MadeAfter early moves k ∧ s.poll = inForce early := by
  have kept := Kept.of_run run
  refine ⟨kept.current, kept.tolerable, fun d => ?_, kept.remembers⟩
  by_cases h : d.Tolerable
  · have accepted := Tuning.configure_of_tolerable i.tuning h
    simp [step, install, accepted, h]
  · obtain ⟨e, refused⟩ := Tuning.configure_of_not_tolerable i.tuning h
    simp [step, install, refused, h]

/-- A semaphore is made after an interval of nothing was refused, and one after two milliseconds
were accepted. A second and a nanosecond are refused, a second is accepted, and then the first
semaphore is used and another one made. -/
def proposals : List Move :=
  [.ask (.configure ⟨0⟩), .ask .makeSemaphore, .ask (.configure (.ofMilliseconds 2)),
    .create 3 true true .whileBlocked, .ask (.configure (.ofParts 1 1)),
    .ask (.configure (.ofSeconds 1)), .use 0 {} (.posting 2), .ask .makeSemaphore]

def proposed : Installation := (Schedule.run move {} proposals).get (by decide)

theorem poll_snapshots_proposals :
    Schedule.run move {} proposals = some proposed ∧
      proposed.tuning.pollInterval = .ofSeconds 1 ∧
      proposed.semaphores[0]? = some { value := 2, poll := .ofMilliseconds 10 } ∧
      (∃ early, MadeAfter early proposals 0 ∧ inForce early = .ofMilliseconds 10) ∧
      proposed.semaphores[1]? = some { value := 3, shared := true, poll := .ofMilliseconds 2 } ∧
      (∃ early, MadeAfter early proposals 1 ∧ inForce early = .ofMilliseconds 2) ∧
      (proposed.step (.configure ⟨0⟩)).2 = proposed := by
  have run : Schedule.run move {} proposals = some proposed := (Option.some_get (by decide)).symm
  have first : proposed.semaphores[0]? = some { value := 2, poll := .ofMilliseconds 10 } := by
    decide
  have second : proposed.semaphores[1]? =
      some { value := 3, shared := true, poll := .ofMilliseconds 2 } := by decide
  obtain ⟨current, -, configure, remembers⟩ := poll_snapshots run
  obtain ⟨early, made, poll⟩ := remembers 0 _ first
  obtain ⟨early', made', poll'⟩ := remembers 1 _ second
  exact ⟨run, current.trans (by decide), first, ⟨early, made, poll.symm⟩, second,
    ⟨early', made', poll'.symm⟩, (configure ⟨0⟩).2.trans (if_neg (by decide))⟩

end Installation

end Rendezvous
