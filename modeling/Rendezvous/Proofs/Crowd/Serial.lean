import Rendezvous.Proofs.Crowd.Ledger
import Rendezvous.Proofs.Crowd.Tally

/-!
# The last one of each generation

Whatever goes wrong around a barrier, however many threads there are, whoever is asked to stop and
whichever calls fail, the barrier's counter tells how often the count has run out, and each time it
was the turn of one thread, which is the last one of the generation that ended. Nobody else gets the
outcome that is meant for it. It is not sure to get it, though: its post may be refused, and then it
returns the failure of the post. But no other thread can hold it up, and so the generations that
have ended are at every moment as many as the last ones that have got through, that were refused and
that are still on their way (`one_serial_per_generation`).

None of this needs the count to be right. It is enough that the count runs out in one turn only, and
that this turn belongs to a thread that has just arrived.
-/

set_option autoImplicit false

namespace Rendezvous

namespace Barrier

/-- Holding the lock, about to be counted in. -/
def Wait.arrives : Wait → Bool
  | .arrive => true
  | _ => false

def Visit.isLast (v : Visit) : Bool :=
  match v.arrival with
  | .last _ => true
  | _ => false

/-- The visit is over and has got the outcome that is meant for a last one. -/
def Visit.isSerial (v : Visit) : Bool :=
  match v.stage with
  | .finished (.ok .serial) => true
  | _ => false

/-- What the last one of a generation returns: the outcome that is meant for it if its post goes
through, and otherwise the failure of the post. -/
def postResult (b : Barrier) (g : UInt64) (fault : Option PrimitiveError) :
    Except BarrierError Outcome :=
  match fault with
  | some e => .error (.primitive e)
  | none =>
      match (b.gate (Side.ofGeneration g)).post (b.parties - 1) with
      | .ok _ => .ok .serial
      | .error e => .error (.primitive e)

theorem Visit.isLast_iff {v : Visit} : v.isLast = true ↔ ∃ g, v.arrival = .last g := by
  unfold isLast
  cases v.arrival <;> simp

/-- A generation ends in the turn in which the count runs out, and in no other. -/
theorem Wait.endsGeneration_step {b : Barrier} {c : Cancellation} {fault : Option PrimitiveError}
    {w : Wait} {turn : Wait.Turn} (h : w.step b c fault = some turn) :
    turn.stage.endsGeneration = (w.arrives && decide (b.countIn.missing = 0)) := by
  cases w with
  | arrive =>
    simp only [step] at h
    split at h
    · next complete =>
      obtain rfl := Option.some.inj h
      simp [complete, arrives, endsGeneration]
    · next incomplete =>
      obtain rfl := Option.some.inj h
      simp [incomplete, endsGeneration]
  | enter | turnBack g =>
    cases fault <;> obtain rfl := Option.some.inj h <;> rfl
  | trip g | counted g | retracted g | overtaken g =>
    obtain rfl := Option.some.inj h
    rfl
  | lock | relock g | judge g =>
    simp only [step] at h
    split at h
    all_goals cases h <;> rfl
  | post g =>
    simp only [step] at h
    split at h
    · obtain rfl := Option.some.inj h
      rfl
    · split at h <;> obtain rfl := Option.some.inj h <;> rfl
  | pause g =>
    simp only [step] at h
    split at h <;> obtain rfl := Option.some.inj h
    · next e => cases e <;> rfl
    · rfl
  | claim g =>
    simp only [step] at h
    split at h <;> obtain rfl := Option.some.inj h <;> rfl
  | blocked g shield w =>
    rcases AtGate.blocked.cases h with ⟨r, rfl⟩ | ⟨s, d, w', -, -, rfl⟩
    · obtain rfl := Option.some.inj h
      rcases r with (_ | _) | _ <;> rfl
    · rfl
  | claiming g shield w =>
    rcases AtGate.claiming.cases h with ⟨r, rfl⟩ | ⟨s, d, w', -, -, rfl⟩
    · obtain rfl := Option.some.inj h
      rcases r with _ | _ <;> rfl
    · rfl
  | finished r => cases h

/-- A last one gives the lock back, posts and returns, and does nothing else. -/
theorem Wait.Agrees.stage_of_last {c : Cancellation} {w : Wait} {n : Nat}
    (h : w.Agrees c (.last n)) :
    w = .trip (.ofNat n) ∨ w = .post (.ofNat n) ∨ w = .finished (.ok .serial) ∨
      ∃ e, w = .finished (.error e) := by
  cases w with
  | trip g =>
    obtain ⟨m, same, rfl⟩ := h
    cases same
    exact .inl rfl
  | post g =>
    obtain ⟨m, same, rfl⟩ := h
    cases same
    exact .inr (.inl rfl)
  | finished r =>
    rcases r with e | (_ | _)
    · exact .inr (.inr (.inr ⟨e, rfl⟩))
    · exact .inr (.inr (.inl rfl))
    · obtain ⟨_, other⟩ := h
      cases other
  | _ => simp [Agrees] at h

theorem Wait.step_post (b : Barrier) (c : Cancellation) (fault : Option PrimitiveError)
    (g : UInt64) :
    ∃ turn, step b c fault (.post g) = some turn ∧
      turn.stage = .finished (b.postResult g fault) := by
  cases fault with
  | some e => exact ⟨_, rfl, rfl⟩
  | none =>
    cases posted : (b.gate (Side.ofGeneration g)).post (b.parties - 1) <;>
      simp [step, postResult, posted]

end Barrier

open Barrier

namespace Crowd

variable {s t : Crowd} {m : Move}

/-! ## Each generation that has ended has one -/

/-- The last one of a generation is the only one of it. -/
theorem Register.one_last (h : Register s) {i : Nat} {v : Visit} {turn : Wait.Turn}
    (hv : s.visits[i]? = some v) (due : v.arrival = .due)
    (last : v.arrival.entering s.trips turn.stage = .last s.trips) :
    (s.after i v turn).visits.countP (fun w => w.arrival = .last s.trips) = 1 := by
  have before : s.visits.countP (fun w => w.arrival = .last s.trips) = 0 := by
    refine List.countP_eq_zero.mpr fun w hw hlast => ?_
    have past := h.past w hw
    rw [of_decide_eq_true hlast] at past
    exact absurd past (Nat.lt_irrefl _)
  have change := countP_after (fun w => w.arrival = .last s.trips) turn hv
  have one : decide ((v.enter s.trips turn.stage).arrival = .last s.trips) = true :=
    decide_eq_true last
  rw [before, one] at change
  simpa [due] using change

theorem Register.led_after (h : Register s) {i : Nat} {fault : Option PrimitiveError} {v : Visit}
    {turn : Wait.Turn} (hv : s.visits[i]? = some v)
    (hturn : v.stage.step s.barrier (s.settings v.thread) fault = some turn) {n : Nat}
    (led : n < s.trips → s.visits.countP (fun w => w.arrival = .last n) = 1)
    (ended : n < (s.after i v turn).trips) :
    (s.after i v turn).visits.countP (fun w => w.arrival = .last n) = 1 := by
  have same (unmoved : v.arrival.entering s.trips turn.stage = .last n ↔ v.arrival = .last n) :
      (s.after i v turn).visits.countP (fun w => w.arrival = .last n) =
        s.visits.countP (fun w => w.arrival = .last n) :=
    countP_after_eq hv (decide_eq_decide.mpr unmoved)
  rcases (h.deed hv hturn).arrival_cases with ⟨trips, kept⟩ | ⟨trips, due, new⟩ |
    ⟨trips, due, last, -⟩ | ⟨m, trips, counted, new, -⟩
  · rw [same (by rw [kept])]
    exact led (trips ▸ ended)
  · rw [same (by rw [new, due]; simp)]
    exact led (trips ▸ ended)
  · rcases Nat.lt_or_ge n s.trips with earlier | later
    · have other : s.trips ≠ n := Nat.ne_of_gt earlier
      rw [same (by rw [last, due]; simp [other])]
      exact led earlier
    · obtain rfl : n = s.trips := by omega
      exact h.one_last hv due last
  · rw [same (by rw [new, counted]; simp)]
    exact led (trips ▸ ended)

theorem trips_after (s : Crowd) (i : Nat) (v : Visit) (turn : Wait.Turn) :
    (s.after i v turn).trips = s.trips + turn.stage.endsGeneration.toNat := by
  show (if turn.stage.endsGeneration then s.trips + 1 else s.trips) = _
  cases turn.stage.endsGeneration <;> rfl

/-- The turn that ends a generation makes a last one of the visit, and no other turn does. -/
theorem Register.isLast_after (h : Register s) {i : Nat} {fault : Option PrimitiveError} {v : Visit}
    {turn : Wait.Turn} (hv : s.visits[i]? = some v)
    (hturn : v.stage.step s.barrier (s.settings v.thread) fault = some turn) :
    (v.enter s.trips turn.stage).isLast.toNat =
      v.isLast.toNat + turn.stage.endsGeneration.toNat := by
  have ends := trips_after s i v turn
  have now : (v.enter s.trips turn.stage).arrival = v.arrival.entering s.trips turn.stage := rfl
  unfold Visit.isLast
  rw [now]
  rcases (h.deed hv hturn).arrival_cases with ⟨trips, kept⟩ | ⟨trips, due, new⟩ |
    ⟨trips, due, last, -⟩ | ⟨n, trips, counted, new, -⟩
  · rw [kept]
    omega
  · rw [new, due]
    simp
    omega
  · rw [last, due]
    simp
    omega
  · rw [new, counted]
    simp
    omega

/-- Generations that have ended, and their last ones. -/
structure Led (s : Crowd) : Prop where
  all : s.visits.countP Visit.isLast = s.trips
  each : ∀ n, n < s.trips → s.visits.countP (fun v => v.arrival = .last n) = 1

theorem Led.step {rules : Rules} (h : Led s) (r : Register s) (move : s.step rules m = some t) :
    Led t := by
  rcases step_cases move with ⟨thread, -, -, rfl⟩ | ⟨thread, c, -, rfl⟩ |
    ⟨i, fault, v, turn, hv, -, hturn, rfl⟩
  · refine ⟨(countP_begin rfl).trans h.all, fun n ended => ?_⟩
    rw [countP_begin rfl]
    exact h.each n ended
  · exact ⟨h.all, h.each⟩
  · refine ⟨?_, fun n ended => r.led_after hv hturn (h.each n) ended⟩
    have change := countP_after Visit.isLast turn hv
    rw [r.isLast_after hv hturn, h.all] at change
    rw [trips_after]
    omega

theorem Led.of_reaches {rules : Rules} {parties : UInt32} {b : Barrier}
    {settings : Nat → Cancellation} (new : Pristine parties b)
    (run : Schedule.Reaches (Crowd.step rules) (Crowd.around b settings) s) : Led s := by
  induction run with
  | refl => exact ⟨rfl, nofun⟩
  | tail m run move ih => exact ih.step (Register.of_reaches new run) move

/-! ## How often the count runs out -/

/-- The move counts an arrival in, and nobody is missing any more. -/
def completes (s : Crowd) (m : Move) (_ : Crowd) : Bool :=
  match m with
  | .go i _ => s.visits[i]?.any fun v => v.stage.arrives && decide (s.barrier.countIn.missing = 0)
  | _ => false

theorem completes_go {i : Nat} {fault : Option PrimitiveError} {v : Visit} {turn : Wait.Turn}
    (hv : s.visits[i]? = some v)
    (hturn : v.stage.step s.barrier (s.settings v.thread) fault = some turn) :
    completes s (.go i fault) t = turn.stage.endsGeneration := by
  rw [Wait.endsGeneration_step hturn]
  simp [completes, hv]

theorem trips_step {rules : Rules} (move : s.step rules m = some t) :
    t.trips = s.trips + (completes s m t).toNat := by
  cases m with
  | begin thread | adjust thread type state =>
    simp only [Crowd.step] at move
    split at move
    · obtain rfl := Option.some.inj move
      rfl
    · cases move
  | go i fault =>
    obtain ⟨v, turn, hv, -, hturn, rfl⟩ := step_go move
    rw [completes_go hv hturn, trips_after]
  | request thread =>
    obtain rfl := Option.some.inj move
    rfl

theorem trips_eq_tally {rules : Rules} {b : Barrier} {settings : Nat → Cancellation}
    {moves : List Move} (run : Schedule.run (Crowd.step rules) (around b settings) moves = some s) :
    s.trips = Schedule.tally (Crowd.step rules) completes (around b settings) moves := by
  refine Schedule.run_induction (P := fun moves s => s.trips = Schedule.tally _ completes _ moves)
    rfl (fun reach move ih => ?_) run
  rw [Schedule.tally_concat reach move, ← ih, trips_step move]

theorem isLast_eq_tally {rules : Rules} {parties : UInt32} {b : Barrier}
    {settings : Nat → Cancellation} {moves : List Move} (new : Pristine parties b)
    (run : Schedule.run (Crowd.step rules) (around b settings) moves = some s) (i : Nat) :
    (s.visits[i]?.any Visit.isLast).toNat =
      Schedule.tally (Crowd.step rules) (ofVisit i completes) (around b settings) moves := by
  refine Schedule.run_induction (P := fun moves s => (s.visits[i]?.any Visit.isLast).toNat =
    Schedule.tally _ (ofVisit i completes) _ moves) rfl (fun reach move ih => ?_) run
  have register := Register.of_reaches new (Schedule.reaches_run reach)
  rw [Schedule.tally_concat reach move, ← ih]
  refine mark_step (fun _ => rfl) (fun fault v turn here hv hturn after => ?_) move
  rw [register.isLast_after hv hturn, here, completes_go hv hturn]

/-! ## What becomes of a last one -/

/-- A last one that is over has got through, or its post was refused. -/
theorem Register.toNat_over (h : Register s) {v : Visit} (hv : v ∈ s.visits) :
    (!v.inside && v.isLast).toNat = v.isSerial.toNat + v.refused.toNat := by
  have agrees := h.agrees v hv
  cases arrival : v.arrival with
  | last n =>
    rw [arrival] at agrees
    rcases agrees.stage_of_last with stage | stage | stage | ⟨e, stage⟩ <;>
      simp [Visit.isLast, Visit.isSerial, Visit.refused, Visit.inside, Wait.isOver, arrival, stage]
  | _ =>
    -- nobody else gets the outcome of a last one
    have other : v.isSerial = false := by
      unfold Visit.isSerial
      split
      · next stage =>
        rw [arrival, stage] at agrees
        obtain ⟨_, last⟩ := agrees
        cases last
      · rfl
    simp [Visit.isLast, Visit.refused, arrival, other]

theorem Register.isLast_of_serial (h : Register s) {v : Visit} (hv : v ∈ s.visits)
    (serial : v.isSerial = true) : v.isLast = true := by
  have ended := h.toNat_over hv
  cases last : v.isLast
  · simp only [last, serial, Bool.and_false, Bool.toNat_false, Bool.toNat_true] at ended
    omega
  · rfl

theorem Register.countP_isLast (h : Register s) :
    s.visits.countP Visit.isSerial + s.visits.countP Visit.refused +
      s.visits.countP (fun v => v.inside && v.isLast) = s.visits.countP Visit.isLast := by
  have ended : s.visits.countP (fun v => !v.inside && v.isLast) =
      s.visits.countP Visit.isSerial + s.visits.countP Visit.refused :=
    countP_add fun v hv => h.toNat_over hv
  have all : s.visits.countP Visit.isLast =
      s.visits.countP (fun v => !v.inside && v.isLast) +
        s.visits.countP (fun v => v.inside && v.isLast) :=
    countP_add fun v _ => by cases v.inside <;> cases v.isLast <;> rfl
  omega

/-- Nothing holds a last one up, and it returns what its post comes to. -/
theorem Register.step_of_last (h : Register s) (rules : Rules) {i g : Nat} {v : Visit}
    (hv : s.visits[i]? = some v) (last : v.arrival = .last g) :
    (v.inside = true → (s.step rules (.go i)).isSome = true) ∧
      ∀ fault t, s.step rules (.go i fault) = some t → ∃ w, t.visits[i]? = some w ∧
        (v.stage = .trip (.ofNat g) ∧ w.stage = .post (.ofNat g) ∨
          v.stage = .post (.ofNat g) ∧
            w.stage = .finished (s.barrier.postResult (.ofNat g) fault)) := by
  have agrees := h.agrees v (List.mem_of_getElem? hv)
  rw [last] at agrees
  have there := (List.getElem?_eq_some_iff.mp hv).1
  constructor
  · intro inside
    obtain ⟨turn, hturn⟩ :
        ∃ turn, v.stage.step s.barrier (s.settings v.thread) none = some turn := by
      rcases agrees.stage_of_last with stage | stage | stage | ⟨e, stage⟩
      · exact ⟨_, by rw [stage]; rfl⟩
      · obtain ⟨turn, hturn, -⟩ := Wait.step_post s.barrier (s.settings v.thread) none (.ofNat g)
        exact ⟨turn, by rw [stage]; exact hturn⟩
      · simp [Visit.inside, stage, Wait.isOver] at inside
      · simp [Visit.inside, stage, Wait.isOver] at inside
    simp [Crowd.step, hv, Rules.permits, hturn]
  · intro fault t move
    obtain ⟨u, turn, hu, -, hturn, rfl⟩ := step_go move
    obtain rfl := Option.some.inj (hv.symm.trans hu)
    refine ⟨_, List.getElem?_set_self there, ?_⟩
    rcases agrees.stage_of_last with stage | stage | stage | ⟨e, stage⟩ <;> rw [stage] at hturn
    · obtain rfl := Option.some.inj hturn
      exact .inl ⟨stage, rfl⟩
    · obtain ⟨turn', hturn', result⟩ :=
        Wait.step_post s.barrier (s.settings v.thread) fault (.ofNat g)
      obtain rfl := Option.some.inj (hturn.symm.trans hturn')
      exact .inr ⟨stage, result⟩
    · cases hturn
    · cases hturn

/-- A last one whose post is not refused gets the outcome that is meant for it, and until then
nothing can hold it up. -/
theorem Register.serial_of_last (h : Register s) (rules : Rules) {i n : Nat} {v : Visit}
    (hv : s.visits[i]? = some v) (last : v.arrival = .last n) (fit : v.refused = false) :
    v.stage = .finished (.ok .serial) ∨ v.inside = true ∧ v.stage.served = false ∧
      (s.step rules (.go i)).isSome = true := by
  have agrees := h.agrees v (List.mem_of_getElem? hv)
  have goes := (h.step_of_last rules hv last).1
  rw [last] at agrees
  rcases agrees.stage_of_last with stage | stage | stage | ⟨e, stage⟩
  · have inside : v.inside = true := by rw [Visit.inside, stage]; rfl
    exact .inr ⟨inside, by rw [stage]; rfl, goes inside⟩
  · have inside : v.inside = true := by rw [Visit.inside, stage]; rfl
    exact .inr ⟨inside, by rw [stage]; rfl, goes inside⟩
  · exact .inl stage
  · simp [Visit.refused, last, stage] at fit

/-- For any number of threads, all schedules, all requests and all failures: the counter shows how
often the count has run out. Each time it was one thread's turn, that thread is the last one of a
generation of its own, nothing holds it up, and it returns what its post comes to; nobody else gets
the outcome that is meant for it. So the last ones that have got through, that were refused and that
are on their way are together as many as the generations that have ended. -/
theorem one_serial_per_generation {supply : Supply} {parties : UInt32} {b : Barrier} {rules : Rules}
    {settings : Nat → Cancellation} {moves : List Move} {s : Crowd}
    (delivered : Delivered supply parties b) (listening : supply.rule = .whileBlocked)
    (run : Schedule.run (Crowd.step rules) (around b settings) moves = some s) :
    s.trips = Schedule.tally (Crowd.step rules) completes (around b settings) moves ∧
    s.barrier.generation = .ofNat s.trips ∧
    (∀ g, g < s.trips → s.visits.countP (fun v => v.arrival = .last g) = 1) ∧
    (∀ i v, s.visits[i]? = some v →
      Schedule.tally (Crowd.step rules) (ofVisit i completes) (around b settings) moves =
        v.isLast.toNat ∧
      (v.isSerial = true → v.isLast = true) ∧
      ∀ g, v.arrival = .last g → g < s.trips ∧
        (v.inside = true → (s.step rules (.go i)).isSome = true) ∧
        ∀ fault t, s.step rules (.go i fault) = some t → ∃ w, t.visits[i]? = some w ∧
          (v.stage = .trip (.ofNat g) ∧ w.stage = .post (.ofNat g) ∨
            v.stage = .post (.ofNat g) ∧
              w.stage = .finished (s.barrier.postResult (.ofNat g) fault))) ∧
    s.visits.countP Visit.isSerial + s.visits.countP Visit.refused +
      s.visits.countP (fun v => v.inside && v.isLast) = s.trips := by
  have new := delivered.pristine listening
  have reached := Schedule.reaches_run run
  have register := Register.of_reaches new reached
  have led := Led.of_reaches new reached
  refine ⟨trips_eq_tally run, register.generation, led.each, fun i v hv => ⟨?_, ?_, ?_⟩, ?_⟩
  · rw [← isLast_eq_tally new run, hv]
    rfl
  · exact register.isLast_of_serial (List.mem_of_getElem? hv)
  · intro g last
    have past := register.past v (List.mem_of_getElem? hv)
    rw [last] at past
    exact ⟨past, register.step_of_last rules hv last⟩
  · exact register.countP_isLast.trans led.all

/-- Every call may be made to fail, and as many threads as like to may come. -/
def Rules.lawless : Rules := { mayFail := fun _ => true }

/-- Five come to a barrier for two. The last one of the first generation has its post refused. In
the second somebody fails on the way to the gate without having been asked to stop, and takes its
arrival back; another comes in its place, and the last one gets through. The last one of the third
is about to give the lock back. -/
def misfortune : List Move :=
  [.begin 0] ++ Move.goes 0 4 ++ [.begin 1] ++ Move.goes 1 4 ++ [.go 1 (some (.system "post" 5))] ++
    [.begin 1] ++ Move.goes 2 4 ++ [.go 2 (some .canceled)] ++ Move.goes 2 4 ++
    [.begin 2] ++ Move.goes 3 4 ++ [.begin 3] ++ Move.goes 4 5 ++
    [.begin 4] ++ Move.goes 5 4 ++ [.begin 3] ++ Move.goes 6 3

theorem one_serial_per_generation_misfortune :
    ∃ s, Schedule.run (Crowd.step .lawless) pair misfortune = some s ∧
      s.barrier.generation = 3 ∧
      Schedule.tally (Crowd.step .lawless) completes pair misfortune = 3 ∧
      Schedule.tally (Crowd.step .lawless) (ofVisit 6 completes) pair misfortune = 1 ∧
      s.visits.countP Visit.isSerial = 1 ∧ s.visits.countP Visit.refused = 1 ∧
      s.visits.countP (fun v => v.inside && v.isLast) = 1 := by
  have run := (Option.some_get
    (show (Schedule.run (Crowd.step .lawless) pair misfortune).isSome by decide)).symm
  have new : Delivered {} 2 pair.barrier := delivered_fresh (by decide) (by decide) rfl
  obtain ⟨trips, generation, -, each, -⟩ := one_serial_per_generation new rfl run
  exact ⟨_, run, generation, trips.symm, (each 6 _ rfl).1, by decide, by decide, by decide⟩

end Crowd

end Rendezvous
