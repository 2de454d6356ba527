import Rendezvous.Proofs.Crowd.Request
import Rendezvous.Proofs.Crowd.Turnstile
import Rendezvous.Proofs.Runs

/-!
# A wait leaves its thread's settings alone

A `Throng` is a crowd around a barrier whose gates are any turnstiles. Anything may fail, and nothing
is known of the barrier but that waits work at it. A wait puts shields over its thread's settings, one
on the way to the gate and one where a unit is owed, and the gate may do with the settings what it
likes as long as it restores them. What they are at any time is said by `Passage.Under`: away from the
gates they are the settings that the thread came with, but for requests that have come meanwhile, and
at a gate they are on some course of the gate's own wait behind one of the two shields
(`Turnstile.Behind`).

Nobody but the thread itself changes its settings while it is in a call, and others can only ask it to
stop. So however the wait ends, its thread has the settings it came with and has been asked to stop if
it was asked before or meanwhile (`told_of_whole`). A crowd is a throng at the library's semaphores
(`Throng.step_of`).
-/

set_option autoImplicit false

namespace Rendezvous

open Barrier

/-! ## Behind a shield -/

namespace Turnstile

variable {K : Turnstile} {opens : Cancellation → Shield × Cancellation} {found c c' : Cancellation}
  {asked : Bool} {shield : Shield} {w w' : K.Stage}

/-- Closing the shield gives back what was there when it was opened, with the requests that have come
meanwhile. -/
def Closes (opens : Cancellation → Shield × Cancellation) : Prop :=
  ∀ c asked, ((opens c).2.told asked).unshield (opens c).1 = c.told asked

/-- The thread came with the settings `found`, has opened the shield and waits at the gate. -/
def Behind (opens : Cancellation → Shield × Cancellation) (found : Cancellation) (asked : Bool)
    (c : Cancellation) (shield : Shield) (w : K.Stage) : Prop :=
  ∃ before since, asked = (before || since) ∧ shield = (opens (found.told before)).1 ∧
    K.Course (opens (found.told before)).2 since c w

theorem Behind.opened (same : c = found.told asked) (s : K.State) :
    Behind opens found asked (opens c).2 (opens c).1 (K.start s) := by
  subst same
  exact ⟨asked, false, by simp, rfl, .starts s⟩

theorem Behind.goes (h : Behind opens found asked c shield w) {x : K.Chance} {s s' : K.State}
    (move : K.step x s c w = some (s', c', w')) : Behind opens found asked c' shield w' := by
  obtain ⟨before, since, rfl, opened, course⟩ := h
  exact ⟨before, since, rfl, opened, course.goes move⟩

theorem Behind.request (h : Behind opens found asked c shield w) :
    Behind opens found true c.request shield w := by
  obtain ⟨before, since, rfl, opened, course⟩ := h
  exact ⟨before, true, by simp, opened, course.asked⟩

theorem Behind.leaves (restores : K.Restores) (closes : Closes opens)
    (h : Behind opens found asked c shield w) {r : Except PrimitiveError Unit}
    (ended : K.answer? w = some r) : c.unshield shield = found.told asked := by
  obtain ⟨before, since, rfl, rfl, course⟩ := h
  rw [restores course ended, closes, Cancellation.told_told]

/-- What the settings are at a stage of a call whose thread came with the settings `found`. -/
def Passage.Under (found : Cancellation) (asked : Bool) (c : Cancellation) : K.Passage → Prop
  | away _ => c = found.told asked
  | blocked _ shield w => Behind Cancellation.shieldDeferred found asked c shield w
  | claiming _ shield w => Behind Cancellation.shield found asked c shield w

theorem Passage.Under.request {p : K.Passage} (h : p.Under found asked c) :
    p.Under found true c.request := by
  cases p with
  | away =>
    obtain rfl := h
    exact Cancellation.request_told found asked
  | blocked | claiming => exact Behind.request h

/-- Away from the gates a stage leaves the settings alone, or opens a shield and goes to a gate. -/
theorem Passage.away_cases {b : Barrier} {gates : Side → K.State} {fault : Option PrimitiveError}
    {x : K.Chance} {w : Wait} {turn : K.Turn} (move : (away w).step b gates c fault x = some turn) :
    (turn.cancel = c ∧ ∃ w', turn.stage = away w') ∨
      ∃ g s, (turn.cancel = c.shieldDeferred.2 ∧
          turn.stage = blocked g c.shieldDeferred.1 (K.start s)) ∨
        (turn.cancel = c.shield.2 ∧ turn.stage = claiming g c.shield.1 (K.start s)) := by
  cases w with
  | enter | turnBack g =>
    cases fault <;> obtain rfl := Option.some.inj move <;> exact .inl ⟨rfl, _, rfl⟩
  | trip | counted | retracted | overtaken =>
    obtain rfl := Option.some.inj move
    exact .inl ⟨rfl, _, rfl⟩
  | lock | arrive | relock | judge =>
    simp only [step, Wait.step] at move
    split at move
    all_goals cases move <;> exact .inl ⟨rfl, _, rfl⟩
  | pause g =>
    cases fault with
    | some e =>
      obtain rfl := Option.some.inj move
      exact .inl ⟨rfl, _, rfl⟩
    | none =>
      obtain rfl := Option.some.inj move
      exact .inr ⟨g, _, .inl ⟨rfl, rfl⟩⟩
  | claim g =>
    cases fault with
    | some e =>
      obtain rfl := Option.some.inj move
      exact .inl ⟨rfl, _, rfl⟩
    | none =>
      obtain rfl := Option.some.inj move
      exact .inr ⟨g, _, .inr ⟨rfl, rfl⟩⟩
  | post g =>
    cases fault with
    | some e =>
      obtain rfl := Option.some.inj move
      exact .inl ⟨rfl, _, rfl⟩
    | none =>
      simp only [step] at move
      split at move <;> obtain rfl := Option.some.inj move <;> exact .inl ⟨rfl, _, rfl⟩
  | blocked | claiming | finished => cases move

theorem Passage.Under.step (restores : K.Restores) {b : Barrier} {gates : Side → K.State}
    {fault : Option PrimitiveError} {x : K.Chance} {p : K.Passage} {turn : K.Turn}
    (h : p.Under found asked c) (move : p.step b gates c fault x = some turn) :
    turn.stage.Under found asked turn.cancel := by
  cases p with
  | away w =>
    have own : c = found.told asked := h
    rcases away_cases move with ⟨same, w', stage⟩ | ⟨g, s, ⟨opened, stage⟩ | ⟨opened, stage⟩⟩ <;>
      rw [stage]
    · exact same.trans own
    · rw [opened]
      exact Behind.opened own s
    · rw [opened]
      exact Behind.opened own s
  | blocked g shield w =>
    simp only [Passage.step] at move
    split at move
    · next ended =>
      obtain rfl := Option.some.inj move
      exact Behind.leaves restores Cancellation.unshield_shieldDeferred_told h ended
    · obtain ⟨⟨s, d, w'⟩, moved, rfl⟩ := Option.map_eq_some_iff.mp move
      exact Behind.goes h moved
  | claiming g shield w =>
    simp only [Passage.step] at move
    split at move
    · next ended =>
      obtain rfl := Option.some.inj move
      exact Behind.leaves restores Cancellation.unshield_shield_told h ended
    · obtain ⟨⟨s, d, w'⟩, moved, rfl⟩ := Option.map_eq_some_iff.mp move
      exact Behind.goes h moved

end Turnstile

/-! ## The system -/

/-- One call of wait. -/
structure Throng.Call (K : Turnstile) where
  thread : Nat
  stage : K.Passage := .away .enter

/-- Threads around a barrier with such gates. -/
structure Throng (K : Turnstile) where
  barrier : Barrier
  gates : Side → K.State
  settings : Nat → Cancellation
  /-- All calls of wait so far, in the order in which they began. -/
  calls : List (Throng.Call K) := []

namespace Throng

variable {K : Turnstile}

inductive Move (K : Turnstile) where
  /-- A thread that is in no call begins to wait. -/
  | begin (thread : Nat)
  /-- A call, named by its place on the list, goes on by one stage. -/
  | go (call : Nat) (fault : Option PrimitiveError) (x : K.Chance)
  /-- Somebody asks a thread to stop. -/
  | request (thread : Nat)
  /-- A thread that is in no call changes its own settings. -/
  | adjust (thread : Nat) (type : CancelType) (state : CancelState)

/-- With the move somebody asks the thread to stop. -/
def Move.asks (thread : Nat) : Move K → Bool
  | .request other => decide (other = thread)
  | _ => false

def isOutside (s : Throng K) (thread : Nat) : Bool :=
  s.calls.all fun v => v.thread != thread || v.stage.isOver

/-- The throng when one thread's settings have become others. -/
def set (s : Throng K) (thread : Nat) (c : Cancellation) : Throng K :=
  { s with settings := fun t => if t = thread then c else s.settings t }

/-- What is there after call `i` has taken a turn. -/
def after (s : Throng K) (i : Nat) (v : Call K) (turn : K.Turn) : Throng K :=
  { s.set v.thread turn.cancel with
    barrier := turn.barrier
    gates := turn.gates
    calls := s.calls.set i { v with stage := turn.stage } }

/-- Makes a move; `none` if it cannot be made now. -/
def step (s : Throng K) : Move K → Option (Throng K)
  | .begin thread =>
      if s.isOutside thread then some { s with calls := s.calls ++ [{ thread }] } else none
  | .go i fault x =>
      (s.calls[i]?).bind fun v =>
        (v.stage.step s.barrier s.gates (s.settings v.thread) fault x).map (s.after i v)
  | .request thread => some (s.set thread (s.settings thread).request)
  | .adjust thread type state =>
      if s.isOutside thread then some (s.set thread { s.settings thread with type, state }) else none

/-- Nobody has come yet. -/
def around (b : Barrier) (gates : Side → K.State) (settings : Nat → Cancellation) : Throng K :=
  { barrier := b, gates, settings }

variable {s t u : Throng K} {m : Move K} {early mid : List (Move K)} {thread n : Nat}

/-- Everything that a move can do. -/
inductive Effect (s : Throng K) : Move K → Throng K → Prop where
  | begins {thread : Nat} : s.isOutside thread = true →
      Effect s (.begin thread) { s with calls := s.calls ++ [{ thread }] }
  | goes {i : Nat} {fault : Option PrimitiveError} {x : K.Chance} {v : Call K} {turn : K.Turn} :
      s.calls[i]? = some v →
      v.stage.step s.barrier s.gates (s.settings v.thread) fault x = some turn →
      Effect s (.go i fault x) (s.after i v turn)
  | requests {thread : Nat} :
      Effect s (.request thread) (s.set thread (s.settings thread).request)
  | adjusts {thread : Nat} {type : CancelType} {state : CancelState} : s.isOutside thread = true →
      Effect s (.adjust thread type state) (s.set thread { s.settings thread with type, state })

theorem effect_of_step (move : s.step m = some t) : Effect s m t := by
  cases m with
  | begin thread =>
    simp only [step] at move
    split at move
    · next free =>
      obtain rfl := Option.some.inj move
      exact .begins free
    · cases move
  | go i fault x =>
    obtain ⟨v, hv, move⟩ := Option.bind_eq_some_iff.mp move
    obtain ⟨turn, moved, rfl⟩ := Option.map_eq_some_iff.mp move
    exact .goes hv moved
  | request thread =>
    obtain rfl := Option.some.inj move
    exact .requests
  | adjust thread type state =>
    simp only [step] at move
    split at move
    · next free =>
      obtain rfl := Option.some.inj move
      exact .adjusts free
    · cases move

theorem isOver_of_isOutside (free : s.isOutside thread = true) {v : Call K} (hv : v ∈ s.calls)
    (own : v.thread = thread) : v.stage.isOver = true := by
  have said := List.all_eq_true.mp free v hv
  simpa [own] using said

theorem going_of_step {b : Barrier} {gates : Side → K.State} {c : Cancellation}
    {fault : Option PrimitiveError} {x : K.Chance} {p : K.Passage} {turn : K.Turn}
    (move : p.step b gates c fault x = some turn) : p.isOver = false := by
  cases p with
  | away w => cases w <;> first | rfl | cases move
  | _ => rfl

/-! ## Nobody is in two calls -/

/-- Of all calls of one thread at most one is not over. -/
def Apart (s : Throng K) : Prop :=
  ∀ {i j : Nat} {v w : Call K}, s.calls[i]? = some v → s.calls[j]? = some w → v.thread = w.thread →
    v.stage.isOver = false → w.stage.isOver = false → i = j

theorem Apart.step (apart : Apart s) (move : s.step m = some t) : Apart t := by
  cases effect_of_step move with
  | requests | adjusts => exact apart
  | @begins thread free =>
    have fresh {v : Call K} {i : Nat} (hv : s.calls[i]? = some v) (own : v.thread = thread) :
        v.stage.isOver = true := isOver_of_isOutside free (List.mem_of_getElem? hv) own
    intro i j v w hv hw same going going'
    rcases getElem?_concat_cases hv with old | ⟨rfl, rfl⟩ <;>
      rcases getElem?_concat_cases hw with old' | ⟨rfl, rfl⟩
    · exact apart old old' same going going'
    · cases going.symm.trans (fresh old same)
    · cases going'.symm.trans (fresh old' same.symm)
    · rfl
  | goes hu moved =>
    have was := going_of_step moved
    intro i j v w hv hw same going going'
    rcases getElem?_set_cases hv with ⟨rfl, rfl⟩ | ⟨-, old⟩ <;>
      rcases getElem?_set_cases hw with ⟨rfl, rfl⟩ | ⟨-, old'⟩
    · rfl
    · exact apart hu old' same was going'
    · exact apart old hu same going was
    · exact apart old old' same going going'

theorem Apart.of_reaches {b : Barrier} {gates : Side → K.State} {settings : Nat → Cancellation}
    (run : Schedule.Reaches Throng.step (around b gates settings) s) : Apart s :=
  run.keeps step fun hv => by cases hv

/-! ## One call, from its beginning to its end -/

/-- The thread begins a call in the state `s`, and the call ends with the move that leads to `t`; the
moves in between are `mid`. -/
def Whole (s : Throng K) (thread : Nat) (mid : List (Move K)) (t : Throng K) : Prop :=
  ∃ u fault x w, Schedule.run step s (.begin thread :: mid) = some u ∧
    u.step (.go s.calls.length fault x) = some t ∧ t.calls[s.calls.length]? = some w ∧
    w.stage.isOver = true

/-- The thread's call is over, or its settings are what the call's stage says. -/
def Abides (found : Cancellation) (asked : Bool) (n thread : Nat) (s : Throng K) : Prop :=
  ∃ v, s.calls[n]? = some v ∧ v.thread = thread ∧
    (v.stage.isOver = true ∨ v.stage.Under found asked (s.settings thread))

theorem Abides.step (restores : K.Restores) (apart : Apart s) {found : Cancellation} {asked : Bool}
    (h : Abides found asked n thread s) (move : s.step m = some t) :
    Abides found (asked || m.asks thread) n thread t := by
  obtain ⟨v, hv, own, abides⟩ := h
  have hn := (List.getElem?_eq_some_iff.mp hv).1
  cases effect_of_step move with
  | begins =>
    simp only [Move.asks, Bool.or_false]
    exact ⟨v, (List.getElem?_append_left hn).trans hv, own, abides⟩
  | @requests other =>
    refine ⟨v, hv, own, abides.imp_right fun under => ?_⟩
    by_cases same : other = thread
    · subst same
      simpa [set, Move.asks] using under.request
    · simpa [set, Move.asks, same, Ne.symm same] using under
  | @adjusts other type state free =>
    simp only [Move.asks, Bool.or_false]
    refine ⟨v, hv, own, ?_⟩
    by_cases same : thread = other
    · exact .inl (isOver_of_isOutside free (List.mem_of_getElem? hv) (own.trans same))
    · simpa [set, same] using abides
  | @goes i fault x w turn hw moved =>
    simp only [Move.asks, Bool.or_false]
    by_cases here : i = n
    · subst here
      obtain rfl := Option.some.inj (hw.symm.trans hv)
      subst own
      have under := abides.resolve_left (Bool.eq_false_iff.mp (going_of_step moved))
      refine ⟨_, List.getElem?_set_self hn, rfl, .inr ?_⟩
      simpa [after, set] using under.step restores moved
    · refine ⟨v, (List.getElem?_set_ne here).trans hv, own, ?_⟩
      by_cases same : thread = w.thread
      · -- the thread is in the other call, so this one is over
        refine .inl ?_
        by_contra going
        exact here (apart hw hv (same.symm.trans own.symm) (going_of_step moved)
          (Bool.eq_false_iff.mpr going))
      · simpa [after, set, same] using abides

/-- However a call ends, its thread has the settings it came with, but for requests that have come
meanwhile. -/
theorem told_of_whole (restores : K.Restores) (apart : Apart s) (whole : Whole s thread mid t) :
    t.settings thread = (s.settings thread).told (mid.any (Move.asks thread)) := by
  obtain ⟨u, fault, x, w, run, ends, hw, ended⟩ := whole
  obtain ⟨r, begins, run⟩ := Option.bind_eq_some_iff.mp run
  have first : Apart r ∧ Abides (s.settings thread) false s.calls.length thread r := by
    refine ⟨apart.step begins, ?_⟩
    cases effect_of_step begins
    exact ⟨_, List.getElem?_concat_length, rfl, .inr (Cancellation.told_false _).symm⟩
  have during := Schedule.run_induction (P := fun mid u =>
    Apart u ∧ Abides (s.settings thread) (mid.any (Move.asks thread)) s.calls.length thread u)
    first (fun _ move ⟨apart, abides⟩ => ⟨apart.step move, by
      simpa using abides.step restores apart move⟩) run
  obtain ⟨-, v, hv, own, abides⟩ := during
  cases effect_of_step ends with
  | @goes _ _ _ _ turn hu moved =>
    obtain rfl := Option.some.inj (hv.symm.trans hu)
    subst own
    have under := abides.resolve_left (Bool.eq_false_iff.mp (going_of_step moved))
    have hn := (List.getElem?_eq_some_iff.mp hv).1
    obtain ⟨-, rfl⟩ := (getElem?_set_cases hw).resolve_right fun other => other.1 rfl
    have left := under.step restores moved
    cases stage : turn.stage with
    | away w =>
      rw [stage] at left
      exact (if_pos rfl).trans left
    | blocked | claiming =>
      rw [stage] at ended
      cases ended

end Throng

end Rendezvous
