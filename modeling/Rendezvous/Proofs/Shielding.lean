import Rendezvous.Proofs.Crowd.Request
import Rendezvous.Proofs.Runs

/-!
# Shields within shields

A shield remembers the state that it found, and nothing ties it to the shields around it and inside
it. While it is open its thread may change its type and its state, open and close other shields,
and be asked to stop by anybody. Here any number of threads do all of this in any order.

A thread closes the shield that it opened last and has not closed yet. That this is the one which it
opened before a piece of code is a matter of that code: a piece of code that closes what it opens
(`Code`) leaves the shields of its thread as they were, however deep they are nested and whatever
others do meanwhile (`Code.shields_of_run`). So what is put back behind the code is what was found
before it. A request takes no part in this: shields leave it alone, and so does everything else
(`requested_of_run`).
-/

set_option autoImplicit false

namespace Rendezvous

namespace Cancellation

/-- Opens a shield of one kind or the other. -/
def cover (c : Cancellation) (deferredOnly : Bool) : Shield × Cancellation :=
  if deferredOnly then c.shieldDeferred else c.shield

variable {c d : Cancellation} {deferredOnly : Bool}

theorem takesEffect_cover : (c.cover deferredOnly).1.takesEffect = true ↔
    deferredOnly = false ∨ c.type = .deferred := by
  cases deferredOnly with
  | false => simp [cover, shield, Shield.takesEffect]
  | true => cases type : c.type <;> simp [cover, shieldDeferred, shield, Shield.takesEffect, type]

/-- Opening changes nothing but the state, and that only if it takes effect. -/
theorem cover_settings : (c.cover deferredOnly).2 =
    c.setState (if (c.cover deferredOnly).1.takesEffect then .disabled else c.state) := by
  cases deferredOnly with
  | false => rfl
  | true =>
    obtain ⟨type, state, requested⟩ := c
    cases type <;> rfl

/-- What is put back is what was found at the opening, if that took effect. -/
theorem unshield_cover : d.unshield (c.cover deferredOnly).1 =
    d.setState (if (c.cover deferredOnly).1.takesEffect then c.state else d.state) := by
  cases deferredOnly with
  | false => rfl
  | true =>
    obtain ⟨type, state, requested⟩ := c
    cases type <;> rfl

end Cancellation

namespace Shielding

/-! ## What threads do -/

/-- What a thread can do about its settings besides opening and closing shields. -/
inductive Act where
  | setType (type : CancelType)
  | setState (state : CancelState)
  | test
  deriving DecidableEq, Repr

inductive Deed where
  | act (a : Act)
  | enter (deferredOnly : Bool)
  /-- Closes the innermost shield. -/
  | exit
  deriving DecidableEq, Repr

/-- A thread's settings, and the shields that it is behind, the innermost first. -/
structure Bearer where
  settings : Cancellation
  shields : List Shield := []
  deriving DecidableEq, Repr

/-- What an act makes of the settings. -/
def Act.apply (c : Cancellation) : Act → Cancellation
  | setType type => c.setType type
  | setState state => c.setState state
  | test => c

/-- What a deed leaves; `none` if there is no shield to close. -/
def Bearer.after (b : Bearer) : Deed → Option Bearer
  | .act a => some { b with settings := a.apply b.settings }
  | .enter deferredOnly =>
      some ⟨(b.settings.cover deferredOnly).2, (b.settings.cover deferredOnly).1 :: b.shields⟩
  | .exit =>
      match b.shields with
      | [] => none
      | innermost :: rest => some ⟨b.settings.unshield innermost, rest⟩

inductive Move where
  | deed (thread : Nat) (d : Deed)
  /-- Somebody asks a thread to stop, the thread itself or another one. -/
  | request (thread : Nat)
  deriving DecidableEq, Repr

def step (s : Nat → Bearer) : Move → Option (Nat → Bearer)
  | .deed thread d => ((s thread).after d).map (Function.update s thread)
  | .request thread =>
      some (Function.update s thread { s thread with settings := (s thread).settings.request })

/-- No shield is open yet. -/
def start (settings : Nat → Cancellation) : Nat → Bearer := fun thread => ⟨settings thread, []⟩

/-- The deed, if the move is one of this thread's. -/
def Move.deed? (thread : Nat) : Move → Option Deed
  | .deed t d => if t = thread then some d else none
  | .request _ => none

/-- What a thread has done in these moves. -/
def deeds (thread : Nat) (moves : List Move) : List Deed := moves.filterMap (Move.deed? thread)

variable {s u v : Nat → Bearer} {m : Move} {moves late : List Move} {thread : Nat} {b b' : Bearer}
  {d : Deed} {ds ds' : List Deed}

theorem Move.eq_of_deed? (own : m.deed? thread = some d) : m = .deed thread d := by
  cases m with
  | request other => cases own
  | deed t e =>
    simp only [deed?] at own
    split at own
    · next here =>
      obtain rfl := Option.some.inj own
      rw [here]
    · cases own

/-! ## One move -/

/-- What a move does to one thread. -/
inductive Felt (thread : Nat) (b : Bearer) : Move → Bearer → Prop where
  | does {d : Deed} {b' : Bearer} : b.after d = some b' → Felt thread b (.deed thread d) b'
  | asked : Felt thread b (.request thread) { b with settings := b.settings.request }
  | spared {m : Move} : m.deed? thread = none → m ≠ .request thread → Felt thread b m b

theorem felt_of_step (move : step s m = some u) (thread : Nat) :
    Felt thread (s thread) m (u thread) := by
  cases m with
  | deed t d =>
    obtain ⟨b, moved, rfl⟩ := Option.map_eq_some_iff.mp move
    by_cases own : t = thread
    · subst own
      rw [Function.update_self]
      exact .does moved
    · rw [Function.update_of_ne (Ne.symm own)]
      exact .spared (if_neg own) nofun
  | request t =>
    obtain rfl := Option.some.inj move
    by_cases own : t = thread
    · subst own
      rw [Function.update_self]
      exact .asked
    · rw [Function.update_of_ne (Ne.symm own)]
      exact .spared rfl fun same => own (Move.request.inj same)

theorem Bearer.requested_after (moved : b.after d = some b') :
    b'.settings.requested = b.settings.requested := by
  cases d with
  | act a =>
    obtain rfl := Option.some.inj moved
    cases a <;> rfl
  | enter deferredOnly =>
    obtain rfl := Option.some.inj moved
    rw [Cancellation.cover_settings]
    rfl
  | exit =>
    simp only [Bearer.after] at moved
    split at moved
    · cases moved
    · obtain rfl := Option.some.inj moved
      exact Cancellation.requested_unshield ..

/-! ## Requests -/

/-- A thread has been asked to stop if it was asked before or by one of the moves. -/
theorem requested_of_run (run : Schedule.run step s moves = some u) (thread : Nat) :
    (u thread).settings.requested = true ↔
      (s thread).settings.requested = true ∨ .request thread ∈ moves := by
  refine Schedule.run_induction (P := fun moves u => (u thread).settings.requested = true ↔
    (s thread).settings.requested = true ∨ .request thread ∈ moves) (by simp) ?_ run
  intro moves m v u reach move ih
  rw [List.mem_append, List.mem_singleton, ← or_assoc, ← ih]
  have felt := felt_of_step move thread
  generalize u thread = b at felt ⊢
  cases felt with
  | does moved => simp [Bearer.requested_after moved]
  | asked => simp [Cancellation.request]
  | spared _ other => simp [Ne.symm other]

theorem test_of_run (run : Schedule.run step s moves = some u) (thread : Nat) (e : PrimitiveError) :
    (u thread).settings.test = .error e ↔ e = .canceled ∧ (u thread).settings.state = .enabled ∧
      ((s thread).settings.requested = true ∨ .request thread ∈ moves) := by
  rw [Cancellation.test_eq_error_iff, ← requested_of_run run, and_comm]
  simp [Cancellation.pending]

/-! ## Well-nested code -/

/-- Code of one thread in which every shield that is opened is closed again, and what is inside of it
before that. -/
inductive Code where
  | done
  | act (a : Act) (rest : Code)
  | shielded (deferredOnly : Bool) (body rest : Code)
  deriving Repr

/-- What a thread does that goes through the code. -/
def Code.course : Code → List Deed
  | done => []
  | act a rest => .act a :: rest.course
  | shielded deferredOnly body rest =>
      .enter deferredOnly :: (body.course ++ .exit :: rest.course)

/-- Others leave a thread's shields alone, and so does who asks it to stop. -/
theorem shields_of_idle (run : Schedule.run step s moves = some u)
    (idle : ∀ m ∈ moves, m.deed? thread = none) : (u thread).shields = (s thread).shields := by
  refine Schedule.run_induction (P := fun moves u => (∀ m ∈ moves, m.deed? thread = none) →
    (u thread).shields = (s thread).shields) (fun _ => rfl) ?_ run idle
  intro moves m v u reach move ih idle
  rw [← ih fun m hm => idle m (List.mem_append_left _ hm)]
  have own := idle m (List.mem_append_right _ List.mem_cons_self)
  have felt := felt_of_step move thread
  generalize u thread = b at felt ⊢
  cases felt with
  | does => simp [Move.deed?] at own
  | asked => rfl
  | spared => rfl

/-- Up to the first deed of a thread its shields stay as they are. -/
theorem split_deed (run : Schedule.run step s moves = some u)
    (own : deeds thread moves = d :: ds) :
    ∃ (p q : Nat → Bearer) (late : List Move), (p thread).shields = (s thread).shields ∧
      (p thread).after d = some (q thread) ∧ Schedule.run step q late = some u ∧
      deeds thread late = ds := by
  obtain ⟨early, m, late, rfl, idle, here, rest⟩ := List.filterMap_eq_cons_iff.mp own
  obtain rfl := Move.eq_of_deed? here
  rw [Schedule.run_append] at run
  obtain ⟨p, before, run⟩ := Option.bind_eq_some_iff.mp run
  obtain ⟨q, move, behind⟩ := Option.bind_eq_some_iff.mp run
  refine ⟨p, q, late, shields_of_idle before idle, ?_, behind, rest⟩
  obtain ⟨b, moved, rfl⟩ := Option.map_eq_some_iff.mp move
  rw [moved, Function.update_self]

theorem split_append (run : Schedule.run step s moves = some u)
    (own : deeds thread moves = ds ++ ds') :
    ∃ p early late, Schedule.run step s early = some p ∧ deeds thread early = ds ∧
      Schedule.run step p late = some u ∧ deeds thread late = ds' := by
  obtain ⟨early, late, rfl, first, second⟩ := List.filterMap_eq_append_iff.mp own
  rw [Schedule.run_append] at run
  obtain ⟨p, before, behind⟩ := Option.bind_eq_some_iff.mp run
  exact ⟨p, early, late, before, first, behind, second⟩

/-- Whatever others do meanwhile, a thread that has gone through such code is behind the shields that
it was behind before. -/
theorem Code.shields_of_run (code : Code) (run : Schedule.run step s moves = some u)
    (own : deeds thread moves = code.course) : (u thread).shields = (s thread).shields := by
  induction code generalizing s moves u with
  | done => exact shields_of_idle run (List.filterMap_eq_nil_iff.mp own)
  | act a rest ih =>
    obtain ⟨p, q, late, before, acted, run, own⟩ := split_deed run own
    have same : (q thread).shields = (p thread).shields := by
      rw [← Option.some.inj acted]
    rw [ih run own, same, before]
  | shielded deferredOnly body rest ihBody ihRest =>
    obtain ⟨p, q, late, before, entered, run, own⟩ := split_deed run own
    obtain ⟨x, inner, outer, inside, innerOwn, run, own⟩ := split_append run own
    obtain ⟨y, z, last, still, left, run, own⟩ := split_deed run own
    -- what is closed behind the body is what was opened before it
    have top : (y thread).shields =
        ((p thread).settings.cover deferredOnly).1 :: (p thread).shields := by
      rw [still, ihBody inside innerOwn, ← Option.some.inj entered]
    have closed : (z thread).shields = (p thread).shields := by
      simp only [Bearer.after, top, Option.some.injEq] at left
      rw [← left]
    rw [ihRest run own, closed, before]

/-- Behind such code a shield can be closed that was opened before it, and it is this one that is
closed. -/
theorem Code.closes (code : Code) {deferredOnly : Bool}
    (entered : step s (.deed thread (.enter deferredOnly)) = some u)
    (run : Schedule.run step u late = some v) (own : deeds thread late = code.course) :
    ∃ w, step v (.deed thread .exit) = some w ∧ w thread =
      ⟨(v thread).settings.unshield ((s thread).settings.cover deferredOnly).1,
        (s thread).shields⟩ := by
  have top : (v thread).shields =
      ((s thread).settings.cover deferredOnly).1 :: (s thread).shields := by
    rw [code.shields_of_run run own, ← Option.some.inj entered, Function.update_self]
  have left : (v thread).after .exit = some ⟨(v thread).settings.unshield
      ((s thread).settings.cover deferredOnly).1, (s thread).shields⟩ := by
    simp only [Bearer.after, top]
  exact ⟨_, congrArg (Option.map _) left, Function.update_self ..⟩

theorem deeds_alone (thread : Nat) (ds : List Deed) :
    deeds thread (ds.map (.deed thread)) = ds := by
  simp [deeds, List.filterMap_map, Function.comp_def, Move.deed?]

/-- Nothing keeps a thread from going through such code. -/
theorem Code.runs (code : Code) (s : Nat → Bearer) (thread : Nat) :
    ∃ u, Schedule.run step s (code.course.map (.deed thread)) = some u := by
  induction code generalizing s with
  | done => exact ⟨s, rfl⟩
  | act a rest ih => exact ih _
  | shielded deferredOnly body rest ihBody ihRest =>
    have entered : ∃ u, step s (.deed thread (.enter deferredOnly)) = some u := ⟨_, rfl⟩
    obtain ⟨u, entered⟩ := entered
    obtain ⟨v, inside⟩ := ihBody u
    obtain ⟨w, left, -⟩ := body.closes entered inside (deeds_alone thread body.course)
    obtain ⟨x, behind⟩ := ihRest w
    refine ⟨x, ?_⟩
    rw [course, List.map_cons, List.map_append]
    exact Schedule.run_cons entered (Schedule.run_trans inside (Schedule.run_cons left behind))

/-! ## All of it -/

/-- Shields can be nested in any way, and each puts back what it found. It carries the state with
it in which it was opened, and well-nested code closes its own shields before the one around it, so
the shield that is closed behind the code is the one that was opened before
(`Code.shields_of_run`). Requests are never lost behind a shield, because nothing takes a request
back. Any number of threads change their settings and ask each other to stop meanwhile, in any
order. -/
theorem shields_restore {settings : Nat → Cancellation}
    (run : Schedule.run step (start settings) moves = some s) (thread : Nat) :
    let asked := (settings thread).requested = true ∨ .request thread ∈ moves
    -- no request is ever taken back, and a test fails exactly if there is one and the thread minds it
    ((s thread).settings.requested = true ↔ asked) ∧
      (∀ e, (s thread).settings.test = .error e ↔
        e = .canceled ∧ (s thread).settings.state = .enabled ∧ asked) ∧
      -- every piece of well-nested code can be gone through
      (∀ code : Code, ∃ u, Schedule.run step s (code.course.map (.deed thread)) = some u) ∧
      -- a shield takes effect by its kind and by the type of the thread that opens it
      ∀ deferredOnly u, step s (.deed thread (.enter deferredOnly)) = some u →
        ∃ shield, (u thread).shields = shield :: (s thread).shields ∧
          (shield.takesEffect = true ↔
            deferredOnly = false ∨ (s thread).settings.type = .deferred) ∧
          (u thread).settings = (s thread).settings.setState
            (if shield.takesEffect then .disabled else (s thread).settings.state) ∧
          -- and it is closed behind any such code, where it puts back what it found if it took
          -- effect, and changes nothing if it did not
          ∀ (code : Code) late v, Schedule.run step u late = some v →
            deeds thread late = code.course →
              ∃ w, step v (.deed thread .exit) = some w ∧ (w thread).shields = (s thread).shields ∧
                (w thread).settings = (v thread).settings.setState
                  (if shield.takesEffect then (s thread).settings.state
                    else (v thread).settings.state) := by
  intro asked
  refine ⟨requested_of_run run thread, test_of_run run thread, fun code => code.runs s thread,
    fun deferredOnly u entered => ?_⟩
  have opened : u thread = ⟨((s thread).settings.cover deferredOnly).2,
      ((s thread).settings.cover deferredOnly).1 :: (s thread).shields⟩ := by
    rw [← Option.some.inj entered, Function.update_self]
  refine ⟨((s thread).settings.cover deferredOnly).1, congrArg Bearer.shields opened,
    Cancellation.takesEffect_cover,
    (congrArg Bearer.settings opened).trans Cancellation.cover_settings, ?_⟩
  intro code late v inside own
  obtain ⟨w, left, closed⟩ := code.closes entered inside own
  refine ⟨w, left, ?_, ?_⟩
  · rw [closed]
  · rw [closed, Cancellation.unshield_cover]

/-- Behind a shield for deferred threads a thread turns asynchronous and listens again. The next
shield of that kind takes no effect, so the state in which the thread leaves it stays, but not what
is done behind a third shield inside. Meanwhile somebody asks the thread to stop, and another thread
opens and closes a shield of its own. -/
def restless : Code :=
  .act (.setType .asynchronous) (.act (.setState .enabled) (.shielded true
    (.act (.setState .disabled) (.shielded false (.act (.setState .enabled) .done) .done))
    (.act .test .done)))

def disturbed : List Move :=
  [.deed 0 (.act (.setType .asynchronous)), .deed 1 (.enter false),
    .deed 0 (.act (.setState .enabled)), .deed 0 (.enter true), .request 0,
    .deed 0 (.act (.setState .disabled)), .deed 0 (.enter false), .deed 1 .exit,
    .deed 0 (.act (.setState .enabled)), .deed 0 .exit, .deed 0 .exit, .deed 0 (.act .test)]

def covered : Nat → Bearer := (step (start fun _ => {}) (.deed 0 (.enter true))).get rfl

def troubled : Nat → Bearer := (Schedule.run step covered disturbed).get (by decide)

theorem shields_restore_disturbed :
    Schedule.run step (start fun _ => {}) (.deed 0 (.enter true) :: disturbed) = some troubled ∧
      (troubled 0).settings = ⟨.asynchronous, .disabled, true⟩ ∧
      ∃ w, step troubled (.deed 0 .exit) = some w ∧
        (w 0).settings = ⟨.asynchronous, .enabled, true⟩ ∧
        (w 0).settings.test = .error .canceled := by
  have entered : step (start fun _ => {}) (.deed 0 (.enter true)) = some covered := rfl
  have inside : Schedule.run step covered disturbed = some troubled :=
    (Option.some_get (by decide)).symm
  have inner : (troubled 0).settings = ⟨.asynchronous, .disabled, true⟩ := by decide +kernel
  have nobody : Schedule.run step (start fun _ => {}) [] = some (start fun _ => {}) := rfl
  obtain ⟨-, -, -, opening⟩ := shields_restore nobody 0
  obtain ⟨shield, -, active, -, closing⟩ := opening true covered entered
  obtain ⟨w, left, -, settings⟩ := closing restless disturbed troubled inside (by decide)
  have restored : (w 0).settings = ⟨.asynchronous, .enabled, true⟩ := by
    rw [settings, active.mpr (.inr rfl), inner]
    rfl
  have whole : Schedule.run step (start fun _ => {}) (.deed 0 (.enter true) :: disturbed) =
      some troubled := Schedule.run_cons entered inside
  have after : Schedule.run step (start fun _ => {})
      (.deed 0 (.enter true) :: disturbed ++ [.deed 0 .exit]) = some w :=
    Schedule.run_trans whole (Schedule.run_cons left rfl)
  obtain ⟨-, test, -⟩ := shields_restore after 0
  refine ⟨whole, inner, w, left, restored, (test _).mpr ⟨rfl, ?_, .inr (by decide)⟩⟩
  rw [restored]

end Shielding

end Rendezvous
