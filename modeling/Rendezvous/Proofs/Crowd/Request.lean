import Rendezvous.Proofs.Crowd.Register

/-!
# Requests to stop

A thread is asked to stop from outside, at any time, and what it does about it depends on its own
settings. These do not change while it is inside, but a stage may put a shield over them: at the
gate one that hides requests from deferred threads, and one that hides them from everybody where a
unit is to be fetched. `Wait.Under` says of each stage what the thread's settings are there, and
`Wait.Heeds` adds that whoever has acted on a request is of the kind that may (`Wait.Heeds.step`).

Acting on a request at the gate does not decide how the wait ends. It is decided under the lock,
where the thread sees whether its generation is still open; if not, it is `late`, and has a unit to
fetch.

## Main statements

* `heeds_of_reaches`: every visit heeds requests, for all schedules in which nothing is made to
  fail.
* `ended_of_late`: whoever is late belongs to a generation that has ended.
-/

set_option autoImplicit false

namespace Rendezvous

namespace Cancellation

@[simp] theorem requested_shield (c : Cancellation) : c.shield.2.requested = c.requested := rfl

@[simp] theorem requested_shieldDeferred (c : Cancellation) :
    c.shieldDeferred.2.requested = c.requested := by
  unfold shieldDeferred
  split <;> rfl

@[simp] theorem requested_unshield (c : Cancellation) (shield : Shield) :
    (c.unshield shield).requested = c.requested := by
  unfold unshield
  split <;> rfl

theorem shield_request (c : Cancellation) :
    c.request.shield = (c.shield.1, c.shield.2.request) := rfl

theorem shieldDeferred_request (c : Cancellation) :
    c.request.shieldDeferred = (c.shieldDeferred.1, c.shieldDeferred.2.request) := by
  obtain ⟨type, state, requested⟩ := c
  cases type <;> rfl

/-- Behind a shield for deferred threads only asynchronous ones are told of requests. -/
theorem pending_shieldDeferred (c : Cancellation) :
    c.shieldDeferred.2.pending = true ↔ c = ⟨.asynchronous, .enabled, true⟩ := by
  obtain ⟨type, state, requested⟩ := c
  cases type <;> cases state <;> cases requested <;> decide

end Cancellation

theorem Semaphore.post_error {s : Semaphore} {count : UInt32} {e : PrimitiveError}
    (h : s.post count = .error e) : e ≠ .canceled := by
  unfold post at h
  split at h <;> cases h
  nofun

theorem Semaphore.Wait.requested_step {s t : Semaphore} {c d : Cancellation}
    {w w' : Semaphore.Wait} (h : w.step s c = some (t, d, w')) : d.requested = c.requested := by
  cases w with
  | test | muffle =>
    cases h
    rfl
  | take | parked | deafParked shield | taken =>
    simp only [step] at h
    split at h
    all_goals cases h <;> rfl
  | deafTake shield =>
    simp only [step] at h
    split at h <;> cases h
    · exact Cancellation.requested_unshield c shield
    · rfl
  | finished r => cases h

namespace Barrier

/-- The thread has acted on a request. -/
def Wait.heard : Wait → Bool
  | .blocked _ _ (.finished (.error _)) => true
  | .turnBack _ | .relock _ | .judge _ | .retracted _ => true
  | .overtaken _ | .claim _ | .claiming _ _ _ => true
  | .finished (.error (.primitive .canceled)) => true
  | _ => false

/-- The settings at a stage of a thread whose own type and state are these: the same, but behind a
shield at the gate. -/
def Wait.Under (type : CancelType) (state : CancelState) (c : Cancellation) : Wait → Prop
  | .blocked _ shield _ => (shield, c) = Cancellation.shieldDeferred ⟨type, state, c.requested⟩
  | .claiming _ shield _ => (shield, c) = Cancellation.shield ⟨type, state, c.requested⟩
  | .finished _ => True
  | _ => c = ⟨type, state, c.requested⟩

/-- A thread of this type and state acts on requests as it should. -/
structure Wait.Heeds (type : CancelType) (state : CancelState) (c : Cancellation) (w : Wait) :
    Prop where
  under : w.Under type state c
  heard : w.heard = true → type = .asynchronous ∧ state = .enabled ∧ c.requested = true

theorem Wait.heard_start {g : UInt64} {shield : Shield} {rule : CancelRule} :
    (Wait.blocked g shield (.start rule)).heard = false := by cases rule <;> rfl

section

variable {b : Barrier} {c : Cancellation} {type : CancelType} {state : CancelState} {a : Arrival}
  {turn : Wait.Turn}

theorem Wait.Heeds.of_unheard {w : Wait} (under : w.Under type state c)
    (unheard : w.heard = false) : w.Heeds type state c :=
  ⟨under, fun heard => by cases unheard.symm.trans heard⟩

/-- At the gate a request is acted on only behind a shield that took no effect. -/
theorem Wait.Heeds.step_blocked {g : UInt64} {shield : Shield} {w : Semaphore.Wait}
    (h : (Wait.blocked g shield w).Heeds type state c) (listens : w.Listens)
    (hturn : Wait.step b c none (.blocked g shield w) = some turn) :
    turn.stage.Heeds type state turn.cancel := by
  obtain ⟨under, heard⟩ := h
  have own : (shield, c) = Cancellation.shieldDeferred ⟨type, state, c.requested⟩ := under
  rcases AtGate.blocked.cases hturn with ⟨r, rfl⟩ | ⟨s, d, w', -, gate, rfl⟩
  · obtain rfl := Option.some.inj hturn
    rcases r with e | u
    · obtain rfl : e = .canceled := listens
      have restored := Cancellation.unshield_shieldDeferred ⟨type, state, c.requested⟩
      rw [← own] at restored
      refine ⟨?_, fun _ => ?_⟩
      · show c.unshield shield = ⟨type, state, (c.unshield shield).requested⟩
        rw [restored]
      · simpa using heard rfl
    · exact .of_unheard trivial rfl
  · obtain ⟨rfl, -, took⟩ := Semaphore.Wait.step_listens listens gate
    refine ⟨under, fun canceled => ?_⟩
    have pending : d.pending = true := by
      rcases took with ⟨-, -, asked⟩ | ⟨-, -, rfl⟩
      · cases w' with
        | finished r =>
          rcases r with e | u
          · exact asked e rfl
          · cases canceled
        | _ => cases canceled
      · cases canceled
    have shielded : d = (Cancellation.shieldDeferred ⟨type, state, d.requested⟩).2 :=
      congrArg Prod.snd own
    rw [shielded, Cancellation.pending_shieldDeferred] at pending
    simpa using pending

theorem Wait.Heeds.step {w : Wait} (h : w.Heeds type state c) (agrees : w.Agrees c a)
    (hturn : w.step b c none = some turn) : turn.stage.Heeds type state turn.cancel := by
  obtain ⟨under, heard⟩ := h
  cases w with
  | enter | trip g | counted g =>
    obtain rfl := Option.some.inj hturn
    exact .of_unheard under rfl
  | turnBack g | overtaken g =>
    obtain rfl := Option.some.inj hturn
    exact ⟨under, heard⟩
  | retracted g =>
    obtain rfl := Option.some.inj hturn
    exact ⟨trivial, heard⟩
  | lock =>
    simp only [Wait.step] at hturn
    split at hturn
    · cases hturn
    · obtain rfl := Option.some.inj hturn
      exact .of_unheard under rfl
  | relock g =>
    simp only [Wait.step] at hturn
    split at hturn
    · cases hturn
    · obtain rfl := Option.some.inj hturn
      exact ⟨under, heard⟩
  | arrive =>
    simp only [Wait.step] at hturn
    split at hturn <;> obtain rfl := Option.some.inj hturn <;> exact .of_unheard under rfl
  | judge g =>
    simp only [Wait.step] at hturn
    split at hturn <;> obtain rfl := Option.some.inj hturn <;> exact ⟨under, heard⟩
  | post g =>
    simp only [Wait.step] at hturn
    split at hturn <;> obtain rfl := Option.some.inj hturn
    · exact .of_unheard trivial rfl
    · next e refused =>
      refine ⟨trivial, fun canceled => ?_⟩
      cases e with
      | canceled => exact absurd rfl (Semaphore.post_error refused)
      | _ => cases canceled
  | pause g =>
    obtain rfl := Option.some.inj hturn
    have same : c = ⟨type, state, c.requested⟩ := under
    refine ⟨?_, fun canceled => ?_⟩
    · show c.shieldDeferred = _
      rw [Cancellation.requested_shieldDeferred, ← same]
    · rw [Wait.heard_start] at canceled
      cases canceled
  | blocked g shield w => exact step_blocked ⟨under, heard⟩ agrees.2 hturn
  | claim g =>
    obtain rfl := Option.some.inj hturn
    have same : c = ⟨type, state, c.requested⟩ := under
    refine ⟨?_, fun _ => heard rfl⟩
    show c.shield = _
    rw [Cancellation.requested_shield, ← same]
  | claiming g shield w =>
    rcases AtGate.claiming.cases hturn with ⟨r, rfl⟩ | ⟨s, d, w', -, gate, rfl⟩
    · obtain rfl := Option.some.inj hturn
      rcases r with e | u
      · exact absurd rfl (agrees.2.2.2 e)
      · exact .of_unheard trivial rfl
    · obtain ⟨rfl, -, -⟩ := Semaphore.Wait.step_listens agrees.2.1 gate
      exact ⟨under, heard⟩
  | finished r => cases hturn

/-- Somebody asks the thread to stop. -/
theorem Wait.Heeds.request {w : Wait} (h : w.Heeds type state c) :
    w.Heeds type state c.request := by
  obtain ⟨under, heard⟩ := h
  refine ⟨?_, fun canceled => ⟨(heard canceled).1, (heard canceled).2.1, rfl⟩⟩
  cases w with
  | blocked g shield w =>
    have own : (shield, c) = Cancellation.shieldDeferred ⟨type, state, c.requested⟩ := under
    show (shield, c.request) = (Cancellation.request ⟨type, state, c.requested⟩).shieldDeferred
    rw [Cancellation.shieldDeferred_request, ← own]
  | claiming g shield w =>
    have own : (shield, c) = Cancellation.shield ⟨type, state, c.requested⟩ := under
    show (shield, c.request) = (Cancellation.request ⟨type, state, c.requested⟩).shield
    rw [Cancellation.shield_request, ← own]
  | finished r => trivial
  | _ =>
    have same : c = ⟨type, state, c.requested⟩ := under
    show c.request = ⟨type, state, true⟩
    rw [same]
    rfl

/-- A wait that is over has nothing to do with its thread's settings any more. -/
theorem Wait.Heeds.of_isOver {d : Cancellation} {w : Wait} (h : w.Heeds type state c)
    (ended : w.isOver = true) (same : d.requested = c.requested) : w.Heeds type state d := by
  refine ⟨?_, fun canceled => same ▸ h.heard canceled⟩
  cases w with
  | finished r => trivial
  | _ => cases ended

/-- No stage of a wait raises or lowers the flag by which its thread is asked to stop. -/
theorem Wait.requested_step {fault : Option PrimitiveError} {w : Wait}
    (hturn : w.step b c fault = some turn) : turn.cancel.requested = c.requested := by
  cases w with
  | trip g | counted g | retracted g | overtaken g =>
    obtain rfl := Option.some.inj hturn
    rfl
  | enter | turnBack g =>
    cases fault <;> obtain rfl := Option.some.inj hturn <;> rfl
  | pause g | claim g =>
    cases fault <;> obtain rfl := Option.some.inj hturn <;> simp
  | lock | arrive | relock g | judge g =>
    simp only [Wait.step] at hturn
    split at hturn
    all_goals cases hturn <;> rfl
  | post g =>
    simp only [Wait.step] at hturn
    split at hturn
    · obtain rfl := Option.some.inj hturn
      rfl
    · split at hturn <;> obtain rfl := Option.some.inj hturn <;> rfl
  | blocked g shield w =>
    rcases AtGate.blocked.cases hturn with ⟨r, rfl⟩ | ⟨s, d, w', -, gate, rfl⟩
    · obtain rfl := Option.some.inj hturn
      simp
    · exact Semaphore.Wait.requested_step gate
  | claiming g shield w =>
    rcases AtGate.claiming.cases hturn with ⟨r, rfl⟩ | ⟨s, d, w', -, gate, rfl⟩
    · obtain rfl := Option.some.inj hturn
      simp
    · exact Semaphore.Wait.requested_step gate
  | finished r => cases hturn

end

/-! ## Those who come too late to turn back -/

/-- The generation ended before the thread could turn back, and it is to fetch its unit. -/
def Wait.late : Wait → Bool
  | .overtaken _ | .claim _ | .claiming _ _ _ => true
  | _ => false

theorem Wait.late_step {b : Barrier} {c : Cancellation} {fault : Option PrimitiveError} {w : Wait}
    {turn : Wait.Turn} (hturn : w.step b c fault = some turn) (late : turn.stage.late = true) :
    w.late = true ∨ ∃ g, w = .judge g ∧ b.generation ≠ g := by
  cases w with
  | overtaken g | claim g | claiming g shield w => exact .inl rfl
  | judge g =>
    simp only [Wait.step] at hturn
    split at hturn
    · obtain rfl := Option.some.inj hturn
      cases late
    · next other => exact .inr ⟨g, rfl, other⟩
  | trip g | counted g | retracted g =>
    obtain rfl := Option.some.inj hturn
    cases late
  | enter | turnBack g =>
    cases fault <;> obtain rfl := Option.some.inj hturn <;> cases late
  | lock | arrive | relock g =>
    simp only [Wait.step] at hturn
    split at hturn
    all_goals cases hturn <;> cases late
  | post g =>
    simp only [Wait.step] at hturn
    split at hturn
    · obtain rfl := Option.some.inj hturn
      cases late
    · split at hturn <;> obtain rfl := Option.some.inj hturn <;> cases late
  | pause g =>
    simp only [Wait.step] at hturn
    split at hturn <;> obtain rfl := Option.some.inj hturn
    · next e => cases e <;> cases late
    · cases late
  | blocked g shield w =>
    rcases AtGate.blocked.cases hturn with ⟨r, rfl⟩ | ⟨s, d, w', -, -, rfl⟩
    · obtain rfl := Option.some.inj hturn
      rcases r with (_ | _) | _ <;> cases late
    · cases late
  | finished r => cases hturn

end Barrier

open Barrier

namespace Crowd

variable {s t : Crowd} {m : Move}

/-- What a visit does about requests depends on what its thread was set to when it began. -/
theorem Register.heeds_step {rules : Rules} (r : Register s) (faultless : rules.Faultless)
    (move : s.step rules m = some t) {i : Nat} {v : Visit} (hv : s.visits[i]? = some v)
    {type : CancelType} {state : CancelState}
    (h : v.stage.Heeds type state (s.settings v.thread)) :
    ∃ w, t.visits[i]? = some w ∧ w.thread = v.thread ∧
      w.stage.Heeds type state (t.settings v.thread) := by
  have hi := (List.getElem?_eq_some_iff.mp hv).1
  cases m with
  | begin thread =>
    simp only [Crowd.step] at move
    split at move
    · obtain rfl := Option.some.inj move
      exact ⟨v, (List.getElem?_append_left hi).trans hv, rfl, h⟩
    · cases move
  | request thread =>
    obtain rfl := Option.some.inj move
    refine ⟨v, hv, rfl, ?_⟩
    show v.stage.Heeds type state (if v.thread = thread then _ else _)
    split
    · next same =>
      rw [← same]
      exact h.request
    · exact h
  | adjust thread type' state' =>
    simp only [Crowd.step] at move
    split at move
    · next outside =>
      obtain rfl := Option.some.inj move
      refine ⟨v, hv, rfl, ?_⟩
      show v.stage.Heeds type state (if v.thread = thread then _ else _)
      split
      · next same =>
        -- only who is outside adjusts its settings
        exact h.of_isOver (isOver_of_isOutside outside (List.mem_of_getElem? hv) same)
          (by rw [same])
      · exact h
    · cases move
  | go j fault =>
    obtain ⟨u, turn, hu, may, hturn, rfl⟩ := step_go move
    rw [faultless.no_fault may] at hturn
    have agrees := r.agrees u (List.mem_of_getElem? hu)
    by_cases same : j = i
    · subst same
      obtain rfl := Option.some.inj (hv.symm.trans hu)
      refine ⟨_, List.getElem?_set_self hi, rfl, ?_⟩
      show turn.stage.Heeds type state (if v.thread = v.thread then _ else _)
      rw [if_pos rfl]
      exact h.step agrees hturn
    · refine ⟨v, (List.getElem?_set_ne same).trans hv, rfl, ?_⟩
      show v.stage.Heeds type state (if v.thread = u.thread then _ else _)
      split
      · next thread =>
        -- nobody is inside twice, so this visit of the same thread is over
        have ended : v.stage.isOver = true := Decidable.byContradiction fun going =>
          same (r.alone hu hv thread.symm (inside_of_step hturn)
            (by simpa [Visit.inside] using going))
        exact h.of_isOver ended (by rw [Wait.requested_step hturn, thread])
      · exact h

/-- Whoever has acted on a request is of the kind that may, and was asked; and where no shield is
up, everybody inside has the settings it came with. -/
theorem heeds_of_reaches {rules : Rules} {parties : UInt32} {b : Barrier}
    {settings : Nat → Cancellation} (new : Pristine parties b) (faultless : rules.Faultless)
    (run : Schedule.Reaches (Crowd.step rules) (Crowd.around b settings) s) :
    ∀ v ∈ s.visits, ∃ type state, v.stage.Heeds type state (s.settings v.thread) := by
  induction run with
  | refl => exact fun v hv => (List.not_mem_nil hv).elim
  | @tail t u m run move ih =>
    have register := Register.of_reaches new run
    intro w hw
    obtain ⟨i, hi⟩ := List.mem_iff_getElem?.mp hw
    cases old : t.visits[i]? with
    | none =>
      rcases visit_cases move hi with ⟨hv, -⟩ | ⟨-, fresh⟩ | ⟨_, v, _, -, hv, -⟩
      · cases old.symm.trans hv
      · rw [fresh]
        exact ⟨_, _, .of_unheard rfl rfl⟩
      · cases old.symm.trans hv
    | some v =>
      obtain ⟨type, state, heeds⟩ := ih v (List.mem_of_getElem? old)
      obtain ⟨x, hx, same, heeds⟩ := register.heeds_step faultless move old heeds
      obtain rfl := Option.some.inj (hi.symm.trans hx)
      exact ⟨type, state, same ▸ heeds⟩

/-- An arrival was taken back by a call that has acted on a request. -/
theorem Register.heard_of_withdrawn (h : Register s) {v : Visit} (hv : v ∈ s.visits)
    (excused : Excused v) {n k : Nat} (withdrawn : v.arrival = .withdrawn n k) :
    v.stage.heard = true := by
  have agrees := h.agrees v hv
  rw [withdrawn] at agrees
  cases stage : v.stage with
  | retracted g => rfl
  | finished r =>
    rcases r with e | (_ | _)
    · rcases excused e stage with ⟨rfl, -⟩ | ⟨_, last⟩
      · rfl
      · cases withdrawn.symm.trans last
    · rw [stage] at agrees
      obtain ⟨_, other⟩ := agrees
      cases other
    · rw [stage] at agrees
      obtain ⟨_, other⟩ := agrees
      cases other
  | _ =>
    rw [stage] at agrees
    simp [Wait.Agrees] at agrees

/-- Whoever is to fetch its unit belongs to a generation that has ended. -/
theorem ended_of_late {rules : Rules} {parties : UInt32} {b : Barrier}
    {settings : Nat → Cancellation} (new : Pristine parties b)
    (run : Schedule.Reaches (Crowd.step rules) (Crowd.around b settings) s) :
    ∀ v ∈ s.visits, v.stage.late = true → ∃ n, v.arrival = .counted n ∧ n < s.trips := by
  induction run with
  | refl => exact fun v hv => (List.not_mem_nil hv).elim
  | @tail t u m run move ih =>
    have register := Register.of_reaches new run
    have le := register.trips_le move
    intro w hw late
    obtain ⟨i, hi⟩ := List.mem_iff_getElem?.mp hw
    rcases visit_cases move hi with ⟨hv, -⟩ | ⟨-, fresh⟩ | ⟨fault, v, turn, -, hv, hturn, rfl⟩
    · obtain ⟨n, counted, ended⟩ := ih w (List.mem_of_getElem? hv) late
      exact ⟨n, counted, Nat.lt_of_lt_of_le ended le⟩
    · rw [fresh] at late
      cases late
    · have kept : (v.enter t.trips turn.stage).arrival = v.arrival := by
        show v.arrival.entering t.trips turn.stage = v.arrival
        have late : turn.stage.late = true := late
        cases stage : turn.stage <;> simp [stage, Wait.late] at late <;> rfl
      rw [kept]
      rcases Wait.late_step hturn late with before | ⟨g, judges, other⟩
      · obtain ⟨n, counted, ended⟩ := ih v (List.mem_of_getElem? hv) before
        exact ⟨n, counted, Nat.lt_of_lt_of_le ended le⟩
      · have agrees := register.agrees v (List.mem_of_getElem? hv)
        have past := register.past v (List.mem_of_getElem? hv)
        rw [judges] at agrees
        obtain ⟨n, counted, rfl⟩ := agrees
        rw [counted] at past
        refine ⟨n, counted, Nat.lt_of_lt_of_le (Nat.lt_of_le_of_ne past ?_) le⟩
        rintro rfl
        exact other register.generation

end Crowd

end Rendezvous
