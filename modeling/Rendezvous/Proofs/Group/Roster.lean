import Rendezvous.Proofs.Group.Calls
import Rendezvous.Proofs.Runs

/-!
# Nobody misses an abort

A `Roster` is a group with everybody's settings: any number of threads enlist and abort as often as
they like, are asked to stop by others, and change their own settings between calls. Whoever has
signed when somebody has swept the list is asked to stop, by the sweep or as it signs under the flag
(`Orderly.asked_of_finished`); here it is said of the threads' own settings, after every run.

The type is a matter between a thread and itself. Its own enlisting makes it asynchronous before
anything else, and as long as it is in the call it cannot change it (`Enrolled.enlisting`); afterwards
only the thread can (`asynchronous_of_run`). And the group asks nobody by itself: without a call that
aborts the flag stays down, and under a lowered flag a signature is nothing but a signature
(`quiet_of_run`).
-/

set_option autoImplicit false

namespace Rendezvous

open CancelGroup

/-! ## What calls on a group do to threads -/

/-- Everybody's settings after these effects. -/
def felt (settings : Nat → Cancellation) (effects : List Effect) : Nat → Cancellation :=
  effects.foldl (fun settings e thread =>
    if thread = e.thread then e.apply (settings thread) else settings thread) settings

/-- What an effect of one kind brings about, and others leave as it is, holds of a thread afterwards
if it held before or there is such an effect on it. -/
theorem felt_iff {P : Cancellation → Prop} {kind : Nat → Effect}
    (aimed : ∀ thread, (kind thread).thread = thread)
    (brings : ∀ e c, P (e.apply c) ↔ P c ∨ e = kind e.thread) (settings : Nat → Cancellation)
    (effects : List Effect) (thread : Nat) :
    P (felt settings effects thread) ↔ P (settings thread) ∨ kind thread ∈ effects := by
  induction effects generalizing settings with
  | nil => simp [felt]
  | cons e rest ih =>
    unfold felt at ih ⊢
    rw [List.foldl_cons, ih, List.mem_cons, ← or_assoc]
    refine or_congr_left ?_
    by_cases own : thread = e.thread
    · subst own
      rw [if_pos rfl, brings, eq_comm (a := e)]
    · have other : kind thread ≠ e := by
        rintro rfl
        exact own (aimed thread).symm
      simp [own, other]

theorem requested_felt (settings : Nat → Cancellation) (effects : List Effect) (thread : Nat) :
    (felt settings effects thread).requested = true ↔
      (settings thread).requested = true ∨ .request thread ∈ effects :=
  felt_iff (P := fun c => c.requested = true) (fun _ => rfl) (fun e c => by
    cases e <;> simp [Effect.apply, Effect.thread, Cancellation.request, Cancellation.setType])
    settings effects thread

theorem type_felt (settings : Nat → Cancellation) (effects : List Effect) (thread : Nat) :
    (felt settings effects thread).type = .asynchronous ↔
      (settings thread).type = .asynchronous ∨ .becomeAsynchronous thread ∈ effects :=
  felt_iff (P := fun c => c.type = .asynchronous) (fun _ => rfl) (fun e c => by
    cases e <;> simp [Effect.apply, Effect.thread, Cancellation.request, Cancellation.setType])
    settings effects thread

namespace CancelGroup

/-- A thread that enlists under a lowered flag leaves it down, and asks nobody. -/
theorem Summons.quiet_step {g g' : CancelGroup} {asked : Nat → Prop} {c : Summons} {stage' : Stage}
    {effects : List Effect} (h : c.Agrees g asked) (enlists : c.aim ≠ .abort)
    (move : g.step c.thread c.stage = some (g', effects, stage')) (lowered : g.aborted = false) :
    g'.aborted = false ∧ ∀ thread, .request thread ∉ effects := by
  obtain ⟨thread, aim, stage⟩ := c
  cases aim with
  | abort => exact absurd rfl enlists
  | enlist =>
    cases stage with
    | retype | leave =>
      cases move
      exact ⟨lowered, by simp⟩
    | knock =>
      simp only [step] at move
      split at move
      · cases move
      · cases move
        exact ⟨lowered, by simp⟩
    | sign =>
      cases move
      exact ⟨lowered, by simp [lowered]⟩
    | finished => cases move
    | alarm | raise | sweep left => exact h.elim

/-- Nobody aborts in the end who did not before. -/
theorem Assembly.enlists_of_step {a a' : Assembly} {call : Nat} {effects : List Effect}
    (move : a.step call = some (a', effects)) (enlists : ∀ c ∈ a'.calls, c.aim ≠ .abort) :
    ∀ c ∈ a.calls, c.aim ≠ .abort := by
  intro c hc
  have kept : c.aim ∈ a'.calls.map (·.aim) := by
    rw [Assembly.aims_step move]
    exact List.mem_map_of_mem hc
  obtain ⟨d, hd, same⟩ := List.mem_map.mp kept
  rw [← same]
  exact enlists d hd

end CancelGroup

/-! ## The system -/

/-- A group, all calls on it, and the settings of all threads. -/
structure Roster where
  settings : Nat → Cancellation
  assembly : Assembly := {}

namespace Roster

inductive Move where
  /-- A thread that is in no call begins one on the group. -/
  | summon (thread : Nat) (aim : Aim)
  /-- A call, named by its place on the list, goes on by one stage. -/
  | proceed (call : Nat)
  /-- Somebody outside the group asks a thread to stop. -/
  | request (thread : Nat)
  /-- A thread that is in no call changes its own settings. -/
  | adjust (thread : Nat) (type : CancelType) (state : CancelState)
  deriving DecidableEq, Repr

def isFree (s : Roster) (thread : Nat) : Bool :=
  s.assembly.calls.all fun c => c.thread != thread || c.stage = .finished

/-- The roster when one thread's settings have become others. -/
def set (s : Roster) (thread : Nat) (c : Cancellation) : Roster :=
  { s with settings := fun t => if t = thread then c else s.settings t }

/-- Makes a move; `none` if it cannot be made now. -/
def step (s : Roster) : Move → Option Roster
  | .summon thread aim =>
      if s.isFree thread then some { s with assembly := s.assembly.summon thread aim } else none
  | .proceed call =>
      (s.assembly.step call).map fun (assembly, effects) => ⟨felt s.settings effects, assembly⟩
  | .request thread => some (s.set thread (s.settings thread).request)
  | .adjust thread type state =>
      if s.isFree thread then some (s.set thread { s.settings thread with type, state }) else none

/-- Nobody has called yet. -/
def start (settings : Nat → Cancellation) : Roster := { settings }

variable {s t u : Roster} {m : Move} {moves late : List Move} {settings : Nat → Cancellation}
  {i thread : Nat}

/-- Everything that a move can do. -/
inductive Effected (s : Roster) : Move → Roster → Prop where
  | summons {thread : Nat} {aim : Aim} : s.isFree thread = true →
      Effected s (.summon thread aim) { s with assembly := s.assembly.summon thread aim }
  | proceeds {call : Nat} {assembly : Assembly} {effects : List Effect} :
      s.assembly.step call = some (assembly, effects) →
      Effected s (.proceed call) ⟨felt s.settings effects, assembly⟩
  | requests {thread : Nat} :
      Effected s (.request thread) (s.set thread (s.settings thread).request)
  | adjusts {thread : Nat} {type : CancelType} {state : CancelState} : s.isFree thread = true →
      Effected s (.adjust thread type state) (s.set thread { s.settings thread with type, state })

theorem effected_of_step (move : s.step m = some t) : Effected s m t := by
  cases m with
  | summon thread aim =>
    simp only [step] at move
    split at move
    · next free =>
      obtain rfl := Option.some.inj move
      exact .summons free
    · cases move
  | proceed call =>
    obtain ⟨⟨assembly, effects⟩, moved, rfl⟩ := Option.map_eq_some_iff.mp move
    exact .proceeds moved
  | request thread =>
    obtain rfl := Option.some.inj move
    exact .requests
  | adjust thread type state =>
    simp only [step] at move
    split at move
    · next free =>
      obtain rfl := Option.some.inj move
      exact .adjusts free
    · cases move

theorem finished_of_isFree (free : s.isFree thread = true) {c : Summons}
    (hc : c ∈ s.assembly.calls) (own : c.thread = thread) : c.stage = .finished := by
  have said := List.all_eq_true.mp free c hc
  simpa [own] using said

/-! ## What is asked and who is asynchronous -/

/-- The thread has been asked to stop. -/
def Asked (s : Roster) (thread : Nat) : Prop := (s.settings thread).requested = true

/-- What moves do to requests. -/
theorem asked_of_effected (e : Effected s m t) (thread : Nat) :
    Asked t thread ↔ Asked s thread ∨ m = .request thread ∨
      ∃ call assembly effects, m = .proceed call ∧
        s.assembly.step call = some (assembly, effects) ∧ .request thread ∈ effects := by
  cases e with
  | summons => simp [Asked]
  | proceeds moved =>
    refine (requested_felt ..).trans (or_congr_right ?_)
    simp [moved]
  | @requests other =>
    by_cases own : thread = other
    · simp [Asked, set, own, Cancellation.request]
    · simp [Asked, set, own, Ne.symm own]
  | @adjusts other =>
    by_cases own : thread = other <;> simp [Asked, set, own]

theorem type_set_request (s : Roster) (other thread : Nat) :
    ((s.set other (s.settings other).request).settings thread).type =
      (s.settings thread).type := by
  by_cases own : thread = other
  · simp [set, own, Cancellation.request]
  · simp [set, own]

/-- After every run the calls have done what their stages say, and whoever is on its way through an
enlisting call is asynchronous. -/
structure Enrolled (s : Roster) : Prop where
  orderly : s.assembly.Orderly (Asked s)
  enlisting : ∀ c ∈ s.assembly.calls, c.aim = .enlist → c.stage ≠ .retype → c.stage ≠ .finished →
    (s.settings c.thread).type = .asynchronous

namespace Enrolled

theorem start (settings : Nat → Cancellation) : Enrolled (start settings) :=
  ⟨⟨nofun, rfl⟩, nofun⟩

theorem step (h : Enrolled s) (move : s.step m = some t) : Enrolled t := by
  have e := effected_of_step move
  have asks : ∀ thread, Asked s thread → Asked t thread := fun _ asked =>
    (asked_of_effected e _).mpr (.inl asked)
  cases e with
  | summons free =>
    refine ⟨h.orderly.summon _ _, fun c hc aim begun unfinished => ?_⟩
    rcases List.mem_append.mp hc with old | new
    · exact h.enlisting c old aim begun unfinished
    · obtain rfl := List.mem_singleton.mp new
      cases aim
      exact absurd rfl begun
  | @proceeds call assembly effects moved =>
    refine ⟨(h.orderly.step moved).mono fun thread => (requested_felt ..).mpr, ?_⟩
    intro c hc aim begun unfinished
    refine (type_felt ..).mpr ?_
    obtain ⟨d, g, stage, hd, turn, rfl⟩ := Assembly.step_cases moved
    rcases List.mem_or_eq_of_mem_set hc with old | rfl
    · exact .inl (h.enlisting c old aim begun unfinished)
    · have mem := List.mem_of_getElem? hd
      by_cases first : d.stage = .retype
      · exact .inr ((step_retypes turn).mpr ⟨first, rfl⟩)
      · exact .inl (h.enlisting d mem aim first (ne_finished_of_step turn))
  | @requests other =>
    refine ⟨h.orderly.mono asks, fun c hc aim begun unfinished => ?_⟩
    rw [type_set_request]
    exact h.enlisting c hc aim begun unfinished
  | @adjusts other type state free =>
    refine ⟨h.orderly.mono asks, fun c hc aim begun unfinished => ?_⟩
    have own : c.thread ≠ other := fun own => unfinished (finished_of_isFree free hc own)
    simpa [set, own] using h.enlisting c hc aim begun unfinished

theorem of_run (run : Schedule.run Roster.step (Roster.start settings) moves = some s) :
    Enrolled s :=
  (Schedule.reaches_run run).keeps step (start settings)

end Enrolled

/-- Whose enlisting was not over before these moves is asynchronous once it is past its first stage,
unless the thread itself has chosen otherwise with one of them. -/
theorem asynchronous_of_run (h : Enrolled s) (run : Schedule.run step s late = some t)
    (before : ∀ c, s.assembly.calls[i]? = some c → c.stage ≠ .finished) {d : Summons}
    (hd : t.assembly.calls[i]? = some d) (enlists : d.aim = .enlist) (begun : d.stage ≠ .retype) :
    (t.settings d.thread).type = .asynchronous ∨
      ∃ type state, .adjust d.thread type state ∈ late ∧ type ≠ .asynchronous := by
  refine Schedule.run_induction (P := fun late t => ∀ d, t.assembly.calls[i]? = some d →
    d.aim = .enlist → d.stage ≠ .retype → (t.settings d.thread).type = .asynchronous ∨
      ∃ type state, .adjust d.thread type state ∈ late ∧ type ≠ .asynchronous)
    ?_ ?_ run d hd enlists begun
  · intro d hd enlists begun
    exact .inl (h.enlisting d (List.mem_of_getElem? hd) enlists begun (before d hd))
  intro late m t u reach move ih d hd enlists begun
  have later : (∃ type state, .adjust d.thread type state ∈ late ∧ type ≠ .asynchronous) →
      ∃ type state, .adjust d.thread type state ∈ late ++ [m] ∧ type ≠ .asynchronous :=
    fun ⟨type, state, there, other⟩ => ⟨type, state, List.mem_append_left _ there, other⟩
  cases effected_of_step move with
  | @summons thread aim free =>
    rcases getElem?_concat_cases hd with old | ⟨-, rfl⟩
    · exact (ih d old enlists begun).imp_right later
    · cases enlists
      exact absurd rfl begun
  | @proceeds call assembly effects moved =>
    obtain ⟨c, g, stage, hc, turn, rfl⟩ := Assembly.step_cases moved
    rw [type_felt]
    rcases getElem?_set_cases hd with ⟨rfl, rfl⟩ | ⟨-, old⟩
    · by_cases first : c.stage = .retype
      · exact .inl (.inr ((step_retypes turn).mpr ⟨first, rfl⟩))
      · exact (ih c hc enlists first).imp .inl later
    · exact (ih d old enlists begun).imp .inl later
  | @requests other =>
    rw [type_set_request]
    exact (ih d hd enlists begun).imp_right later
  | @adjusts other type state free =>
    by_cases own : d.thread = other
    · subst own
      by_cases still : type = .asynchronous
      · exact .inl (by simpa [set] using still)
      · exact .inr ⟨type, state, by simp, still⟩
    · exact (ih d hd enlists begun).imp (fun type => by simpa [set, own] using type) later

/-- As long as nobody aborts, the flag is down, and whoever is asked to stop is asked by somebody
else. -/
theorem quiet_of_run (run : Schedule.run step (start settings) moves = some s)
    (joined : ∀ c ∈ s.assembly.calls, c.aim ≠ .abort) :
    s.assembly.group.aborted = false ∧
      ∀ thread, Asked s thread ↔ (settings thread).requested = true ∨ .request thread ∈ moves := by
  refine (Schedule.run_induction (P := fun moves s => (∀ c ∈ s.assembly.calls, c.aim ≠ .abort) →
    s.assembly.group.aborted = false ∧ ∀ thread, Asked s thread ↔
      (settings thread).requested = true ∨ .request thread ∈ moves) ?_ ?_ run) joined
  · exact fun _ => ⟨rfl, fun thread => by simp [Asked, start]⟩
  intro moves m t u reach move ih joined
  have h := Enrolled.of_run reach
  have asked := asked_of_effected (effected_of_step move)
  cases effected_of_step move with
  | summons =>
    obtain ⟨lowered, before⟩ := ih fun c hc => joined c (List.mem_append_left _ hc)
    exact ⟨lowered, fun thread => by simp [asked, before]⟩
  | @proceeds call assembly effects moved =>
    have earlier := Assembly.enlists_of_step moved joined
    obtain ⟨lowered, before⟩ := ih earlier
    obtain ⟨c, g, stage, hc, turn, rfl⟩ := Assembly.step_cases moved
    have mem := List.mem_of_getElem? hc
    have quiet := Summons.quiet_step (h.orderly.agrees c mem) (earlier c mem) turn lowered
    refine ⟨quiet.1, fun thread => ?_⟩
    rw [asked, before]
    simp [moved, quiet.2]
  | requests | adjusts =>
    obtain ⟨lowered, before⟩ := ih joined
    exact ⟨lowered, fun thread => by simp [asked, before, or_assoc, eq_comm (a := thread)]⟩

/-! ## All of it -/

/-- Nobody slips through between enlisting and an abort. Who signs before the list is swept is
asked by the sweep, and who signs after it signs under the flag and asks itself; both are done
under the lock of the group, so there is no third case (`Orderly.asked_of_finished`). Enlisting
makes a thread asynchronous before it signs, and only the thread itself can undo this. Without an
abort the group asks nobody. Any number of threads enlist and abort, as often as they like and in
any order. -/
theorem no_abort_missed (run : Schedule.run step (start settings) moves = some s) :
    -- when some abort is over, whoever has come back from enlisting is asked to stop
    ((∃ c ∈ s.assembly.calls, c.aim = .abort ∧ c.stage = .finished) →
      ∀ d ∈ s.assembly.calls, d.aim = .enlist → d.stage = .finished →
        (s.settings d.thread).requested = true) ∧
      -- and it is asynchronous, unless it has chosen otherwise since it enlisted
      (∀ (early late : List Move) (t : Roster) (i : Nat) (d : Summons), moves = early ++ late →
        Schedule.run step (start settings) early = some t →
        (∀ c, t.assembly.calls[i]? = some c → c.stage ≠ .finished) →
        s.assembly.calls[i]? = some d → d.aim = .enlist → d.stage = .finished →
          (s.settings d.thread).type = .asynchronous ∨
            ∃ type state, .adjust d.thread type state ∈ late ∧ type ≠ .asynchronous) ∧
      -- as long as no abort has begun, whoever is asked to stop is asked by somebody else
      ((∀ c ∈ s.assembly.calls, c.aim ≠ .abort) →
        ∀ thread, (s.settings thread).requested = true ↔
          (settings thread).requested = true ∨ .request thread ∈ moves) := by
  refine ⟨fun ⟨c, hc, aborts, swept⟩ d hd enlists signed =>
    (Enrolled.of_run run).orderly.asked_of_finished hc aborts swept hd enlists signed,
    fun early late t i d split reach before hd enlists signed => ?_,
    fun joined => (quiet_of_run run joined).2⟩
  rw [split, Schedule.run_append, reach, Option.bind_some] at run
  exact asynchronous_of_run (Enrolled.of_run reach) run before hd enlists (by rw [signed]; nofun)

/-- A thread enlists. -/
def first : List Move := .summon 0 .enlist :: List.replicate 4 (.proceed 0)

/-- Another one aborts and has the lock already when a third comes to enlist, which signs after the
list has been swept. Then the first one goes back to its old type. -/
def lateJoiner : List Move :=
  [.summon 1 .abort, .proceed 1, .summon 2 .enlist, .proceed 2] ++ List.replicate 4 (.proceed 1) ++
    List.replicate 3 (.proceed 2) ++ [.adjust 0 .deferred .enabled]

def joined : Roster := (Schedule.run step (start fun _ => {}) first).get (by decide)

def called : Roster := (Schedule.run step (start fun _ => {}) (first ++ lateJoiner)).get (by decide)

theorem no_abort_missed_lateJoiner :
    Schedule.run step (start fun _ => {}) (first ++ lateJoiner) = some called ∧
      (joined.settings 0).requested = false ∧
      (called.settings 0).requested = true ∧ (called.settings 0).type = .deferred ∧
      (called.settings 2).requested = true ∧ (called.settings 2).type = .asynchronous := by
  have early : Schedule.run step (start fun _ => {}) first = some joined :=
    (Option.some_get (by decide)).symm
  have run : Schedule.run step (start fun _ => {}) (first ++ lateJoiner) = some called :=
    (Option.some_get (by decide)).symm
  obtain ⟨-, -, quiet⟩ := no_abort_missed early
  obtain ⟨asked, chosen, -⟩ := no_abort_missed run
  have swept : ∃ c ∈ called.assembly.calls, c.aim = .abort ∧ c.stage = .finished := by decide
  refine ⟨run, Bool.eq_false_iff.mpr fun told => ?_,
    asked swept ⟨0, .enlist, .finished⟩ (by decide) rfl rfl, by decide,
    asked swept ⟨2, .enlist, .finished⟩ (by decide) rfl rfl, ?_⟩
  · rcases (quiet (by decide) 0).mp told with before | told
    · cases before
    · exact absurd told (by decide)
  · refine (chosen first lateJoiner joined 2 ⟨2, .enlist, .finished⟩ rfl early
      (fun c hc => by cases hc) (by decide) rfl rfl).resolve_right ?_
    rintro ⟨type, state, there, -⟩
    simp [lateJoiner] at there

end Roster

end Rendezvous
