import Rendezvous.Proofs.Crowd.Throng

/-!
# The settings after a wait

What holds of a throng at any turnstiles holds of a crowd at the library's semaphores, for a crowd is
such a throng: each of its moves is a move of the throng (`Throng.step_of`), and so is each of its runs
(`Throng.run_of`). So a wait leaves its thread's type and state as they were, however it ends, and
neither raises nor lowers anybody's request flag; and a request that was there before or has come
meanwhile is acted on at the next cancellation point (`Keeps`).
-/

set_option autoImplicit false

namespace Rendezvous

open Barrier Turnstile

/-! ## A crowd is a throng -/

namespace Turnstile

@[simp] theorem Passage.isOver_of (w : Wait) : (Passage.of w).isOver = w.isOver := by
  cases w <;> rfl

end Turnstile

namespace Throng

/-- A visit as a call at the library's semaphores. -/
def Call.of (v : Visit) : Call library := ⟨v.thread, .of v.stage⟩

def of (s : Crowd) : Throng library :=
  ⟨s.barrier.bare, s.barrier.gate, s.settings, s.visits.map .of⟩

def Move.of : Crowd.Move → Move library
  | .begin thread => .begin thread
  | .go i fault => .go i fault ()
  | .request thread => .request thread
  | .adjust thread type state => .adjust thread type state

variable {rules : Crowd.Rules} {s t : Crowd} {m : Crowd.Move} {moves : List Crowd.Move}

theorem isOutside_of (s : Crowd) (thread : Nat) :
    (of s).isOutside thread = s.isOutside thread := by
  unfold isOutside Crowd.isOutside of
  rw [List.all_map]
  refine congrArg s.visits.all (funext fun v => ?_)
  simp [Call.of]

theorem after_of (s : Crowd) (i : Nat) (v : Visit) (turn : Wait.Turn) :
    (of s).after i (.of v) ⟨turn.barrier.bare, turn.barrier.gate, turn.cancel, .of turn.stage⟩ =
      of (s.after i v turn) := by
  have calls : (s.visits.map Call.of).set i ⟨v.thread, .of turn.stage⟩ =
      (s.visits.set i (v.enter s.trips turn.stage)).map Call.of := by
    rw [List.map_set]
    rfl
  simp only [of, after, set, Crowd.after, Crowd.setSettings, ← calls]
  rfl

/-- A move of the crowd is a move of the throng. -/
theorem step_of (move : s.step rules m = some t) : (of s).step (.of m) = some (of t) := by
  cases m with
  | begin thread =>
    simp only [Crowd.step, Bool.and_eq_true] at move
    split at move
    · next may =>
      obtain rfl := Option.some.inj move
      refine (if_pos ((isOutside_of s thread).trans may.1)).trans (congrArg some ?_)
      simp [of, Call.of, Passage.of]
    · cases move
  | go i fault =>
    obtain ⟨v, hv, move⟩ := Option.bind_eq_some_iff.mp move
    split at move
    · obtain ⟨turn, moved, rfl⟩ := Option.map_eq_some_iff.mp move
      have there : (of s).calls[i]? = some (.of v) := by simp [of, hv]
      have goes := Passage.step_of s.barrier (s.settings v.thread) fault v.stage
      rw [moved] at goes
      simp only [step, Move.of, there, Option.bind_some]
      exact (congrArg (Option.map _) goes).trans (congrArg some (after_of s i v turn))
    · cases move
  | request thread =>
    obtain rfl := Option.some.inj move
    rfl
  | adjust thread type state =>
    simp only [Crowd.step] at move
    split at move
    · next may =>
      obtain rfl := Option.some.inj move
      exact if_pos ((isOutside_of s thread).trans may)
    · cases move

theorem run_of (run : Schedule.run (Crowd.step rules) s moves = some t) :
    Schedule.run Throng.step (of s) (moves.map .of) = some (of t) := by
  induction moves generalizing s with
  | nil =>
    obtain rfl := Option.some.inj run
    rfl
  | cons m rest ih =>
    obtain ⟨u, move, run⟩ := Option.bind_eq_some_iff.mp run
    exact Option.bind_eq_some_iff.mpr ⟨of u, step_of move, ih run⟩

end Throng

/-! ## From the beginning of a wait to its end -/

/-- The thread begins a wait in the state `s`, and the wait ends with the move that leads to `t`; the
moves in between are `mid`. -/
def Crowd.Whole (rules : Crowd.Rules) (s : Crowd) (thread : Nat) (mid : List Crowd.Move)
    (t : Crowd) : Prop :=
  ∃ u fault w, Schedule.run (Crowd.step rules) s (.begin thread :: mid) = some u ∧
    u.step rules (.go s.visits.length fault) = some t ∧ t.visits[s.visits.length]? = some w ∧
    w.stage.isOver = true

theorem Throng.whole_of {rules : Crowd.Rules} {s t : Crowd} {thread : Nat}
    {mid : List Crowd.Move} (whole : Crowd.Whole rules s thread mid t) :
    Whole (of s) thread (mid.map .of) (of t) := by
  obtain ⟨u, fault, w, run, ends, hw, ended⟩ := whole
  have length : (of s).calls.length = s.visits.length := List.length_map _
  refine ⟨of u, fault, (), .of w, run_of run, ?_, ?_, (Passage.isOver_of w.stage).trans ended⟩
  · rw [length]
    exact step_of ends
  · rw [length]
    simp [of, hw]

/-- What a thread's settings are after a call that left them alone, where others may have asked the
thread to stop meanwhile. -/
structure Keeps (before after : Cancellation) (asked : Prop) : Prop where
  type : after.type = before.type
  state : after.state = before.state
  requested : after.requested = true ↔ before.requested = true ∨ asked
  /-- A request is there for the next cancellation point. -/
  pending : before.requested = true ∨ asked → before.state = .enabled → after.test = .error .canceled

theorem Keeps.of_told {before after : Cancellation} {flag : Bool} {asked : Prop}
    (same : after = before.told flag) (iff : flag = true ↔ asked) : Keeps before after asked := by
  subst same
  have requested : (before.told flag).requested = true ↔ before.requested = true ∨ asked := by
    simp [Cancellation.told, iff]
  refine ⟨rfl, rfl, requested, fun there enabled => ?_⟩
  have pending : (before.told flag).pending = true := by
    simp [Cancellation.pending, requested.mpr there, show (before.told flag).state = _ from enabled]
  exact Cancellation.test_eq_error_iff.mpr ⟨pending, rfl⟩

theorem Throng.any_asks {K : Turnstile} {thread : Nat} {mid : List (Throng.Move K)} :
    mid.any (Move.asks thread) = true ↔ .request thread ∈ mid := by
  rw [List.any_eq_true]
  refine ⟨fun ⟨m, hm, asks⟩ => ?_, fun there => ⟨_, there, by simp [Move.asks]⟩⟩
  cases m with
  | request other =>
    obtain rfl := of_decide_eq_true asks
    exact hm
  | _ => cases asks

theorem Throng.request_mem_map {thread : Nat} {mid : List Crowd.Move} :
    .request thread ∈ mid.map Throng.Move.of ↔ .request thread ∈ mid := by
  refine ⟨fun there => ?_, fun there => List.mem_map_of_mem there⟩
  obtain ⟨m, hm, same⟩ := List.mem_map.mp there
  cases m with
  | request other =>
    cases same
    exact hm
  | _ => cases same

/-! ## All of it -/

/-- A wait leaves its thread's type and state as it found them, on every way out: what it changes
to shield itself it changes back, by the value that it saved, before it can end
(`Throng.told_of_whole`). It touches nobody else's settings, and it neither raises nor lowers a
request, so one that comes while the thread is shielded is still there when the shield is gone. The
gates may be of any kind that restores what it finds, and the library's own are
(`library_restores`). Any number of threads call, and anything may fail. -/
theorem wait_keeps_settings {K : Turnstile} (restores : K.Restores) :
    -- at gates of any kind that restore what they find, every wait leaves its thread's settings
    -- alone, however it ends and whenever others ask the thread to stop
    (∀ (b : Barrier) (gates : Side → K.State) (settings : Nat → Cancellation)
        (early mid : List (Throng.Move K)) (s t : Throng K) (thread : Nat),
      Schedule.run Throng.step (.around b gates settings) early = some s →
      s.Whole thread mid t →
        Keeps (s.settings thread) (t.settings thread) (.request thread ∈ mid)) ∧
      -- and none of its turns touches the settings of another thread
      (∀ (s t : Throng K) i fault x, s.step (.go i fault x) = some t →
        ∃ v, s.calls[i]? = some v ∧
          ∀ other, other ≠ v.thread → t.settings other = s.settings other) ∧
      -- the same is true of the waits at the library's own semaphores, under both of their rules
      (∀ (rules : Crowd.Rules) (b : Barrier) (settings : Nat → Cancellation)
          (early mid : List Crowd.Move) (s t : Crowd) (thread : Nat),
        Schedule.run (Crowd.step rules) (.around b settings) early = some s →
        s.Whole rules thread mid t →
          Keeps (s.settings thread) (t.settings thread) (.request thread ∈ mid)) ∧
      -- and there no turn of any wait so much as raises or lowers a request flag
      ∀ (rules : Crowd.Rules) (s t : Crowd) i fault, s.step rules (.go i fault) = some t →
        ∃ v, s.visits[i]? = some v ∧ ∀ other,
          (t.settings other).requested = (s.settings other).requested ∧
            (other ≠ v.thread → t.settings other = s.settings other) := by
  refine ⟨fun b gates settings early mid s t thread run whole => ?_,
    fun s t i fault x move => ?_, fun rules b settings early mid s t thread run whole => ?_,
    fun rules s t i fault move => ?_⟩
  · have apart : s.Apart := Throng.Apart.of_reaches (Schedule.reaches_run run)
    exact .of_told (Throng.told_of_whole restores apart whole) Throng.any_asks
  · cases Throng.effect_of_step move with
    | goes hv moved => exact ⟨_, hv, fun other apart => if_neg apart⟩
  · have apart : (Throng.of s).Apart :=
      Throng.Apart.of_reaches (Schedule.reaches_run (Throng.run_of run))
    exact .of_told (Throng.told_of_whole library_restores apart (Throng.whole_of whole))
      (Throng.any_asks.trans Throng.request_mem_map)
  · obtain ⟨v, turn, hv, -, moved, rfl⟩ := Crowd.step_go move
    refine ⟨v, hv, fun other => ⟨?_, fun apart => if_neg apart⟩⟩
    show (if other = v.thread then turn.cancel else s.settings other).requested = _
    split
    · next own => rw [Wait.requested_step moved, own]
    · rfl

/-- Two threads around a barrier whose gates put up a shield of their own. -/
def deafPair : Crowd :=
  .around (.fresh 2 false { value := 0, rule := .onTaking } { value := 0, rule := .onTaking })
    fun _ => {}

/-- The first one is asleep at the gate, behind two shields, when it is asked to stop; then the second
one comes and opens the gate. -/
def askedAsleep : List Crowd.Move :=
  Crowd.Move.goes 0 7 ++ [.request 0, .begin 1] ++ Crowd.Move.goes 1 5 ++ Crowd.Move.goes 0 3

def unlatched : Crowd :=
  (Schedule.run (Crowd.step {}) deafPair (.begin 0 :: askedAsleep)).get (by decide)

def woken : Crowd := (unlatched.step {} (.go 0)).get (by decide)

theorem wait_keeps_settings_askedAsleep :
    deafPair.Whole {} 0 askedAsleep woken ∧ (woken.visits[0]?).any (·.stage.served) = true ∧
      (woken.settings 0).type = .deferred ∧ (woken.settings 0).state = .enabled ∧
      (woken.settings 0).requested = true ∧ (woken.settings 0).test = .error .canceled ∧
      ((Throng.of woken).settings 0).test = .error .canceled := by
  have whole : deafPair.Whole {} 0 askedAsleep woken :=
    ⟨unlatched, none, _, (Option.some_get (by decide)).symm, (Option.some_get (by decide)).symm,
      List.getElem?_eq_getElem (by decide), by decide⟩
  obtain ⟨throng, -, crowd, -⟩ := wait_keeps_settings library_restores
  have asked : Crowd.Move.request 0 ∈ askedAsleep := by simp [askedAsleep]
  have keeps := crowd {} _ _ [] askedAsleep deafPair woken 0 rfl whole
  have keeps' := throng _ _ _ [] _ (.of deafPair) (.of woken) 0 rfl (Throng.whole_of whole)
  exact ⟨whole, by decide, keeps.type, keeps.state, keeps.requested.mpr (.inr asked),
    keeps.pending (.inr asked) rfl,
    keeps'.pending (.inr (Throng.request_mem_map.mpr asked)) rfl⟩

end Rendezvous
