import Rendezvous.Proofs.Crowd.Request
import Rendezvous.Proofs.Crowd.Serial

/-!
# Taking an arrival back

Two things can be seen of a call from outside: that the count of the open generation goes up by it,
so that an arrival is undone (`takesBack`), and that a unit goes from a gate (`takesUnit`). How
often a call has done either can be read off its visit: once or never, by its arrival and by
whether it has got through (`deeds_eq_tally`). The ledger is needed for the first, because an
arrival that is undone when all are missing would not show.

So it remains to say what the arrival of a call can come to. It is taken back only by a thread that
has acted on a request (`Register.heard_of_withdrawn`), and a thread that keeps its settings while
it is inside acts on requests only as these allow. An arrival that is still counted when its
generation ends stays so (`counted_of_run`), and without failures nothing is left for it but a unit.

## Main statements

* `cancellation_exact`: for all schedules and all requests, what each call can come to.
-/

set_option autoImplicit false

namespace Rendezvous

namespace Barrier

/-! ## What a deed does to the count and to the gates -/

def Arrival.isWithdrawn : Arrival → Bool
  | .withdrawn _ _ => true
  | _ => false

/-- The arrival was counted and not taken back, and the thread has got a unit. -/
def Arrival.took (served : Bool) : Arrival → Bool
  | .counted _ => served
  | _ => false

/-- The count goes up while the generation stays. -/
def regains (b b' : Barrier) : Bool :=
  b.missing < b'.missing && b.generation = b'.generation

/-- A unit is gone from one of the gates. -/
def loses (b b' : Barrier) : Bool :=
  (b'.gate .even).value < (b.gate .even).value || (b'.gate .odd).value < (b.gate .odd).value

theorem loses_iff {b b' : Barrier} :
    b.loses b' = true ↔ ∃ side, (b'.gate side).value < (b.gate side).value := by
  unfold loses
  rw [Bool.or_eq_true, decide_eq_true_iff, decide_eq_true_iff]
  refine ⟨fun h => h.elim (⟨.even, ·⟩) (⟨.odd, ·⟩), fun ⟨side, h⟩ => ?_⟩
  cases side with
  | even => exact .inl h
  | odd => exact .inr h

theorem loses_eq_false {b b' : Barrier}
    (h : ∀ side, (b.gate side).value.toNat ≤ (b'.gate side).value.toNat) : b.loses b' = false := by
  refine Bool.eq_false_iff.mpr fun lost => ?_
  obtain ⟨side, less⟩ := loses_iff.mp lost
  exact Nat.not_lt.mpr (h side) (UInt32.lt_iff_toNat_lt.mp less)

section

variable {k k' : Nat} {b b' : Barrier} {w w' : Wait} {a a' : Arrival}

/-- The count goes up in a generation exactly with an arrival that is taken back. -/
theorem Deed.isWithdrawn_add (h : Deed k b w a k' b' w' a') (pos : 0 < b.missing.toNat)
    (room : ∀ n, a = .counted n → a' = .withdrawn n k → b.missing.toNat < b.parties.toNat) :
    a'.isWithdrawn.toNat = a.isWithdrawn.toNat + (b.regains b').toNat := by
  cases h with
  | passes => simp [regains]
  | locks => simp [regains, Barrier.lock]
  | unlocks => simp [regains, Barrier.unlock]
  | posts | takes => simp [regains]
  | arrives due =>
    have fewer := countIn_missing pos
    have less : ¬ b.missing < b.countIn.missing := by
      rw [UInt32.lt_iff_toNat_lt]
      omega
    simp [regains, due, less, Arrival.isWithdrawn]
  | trips due =>
    have other : b.generation ≠ b.countIn.trip.generation := by
      show b.generation ≠ b.generation + 1
      intro same
      have := congrArg UInt64.toNat same
      rw [UInt64.toNat_add, UInt64.toNat_one] at this
      omega
    simp [regains, due, other, Arrival.isWithdrawn]
  | retracts counted =>
    have more := countOut_missing (room _ counted rfl)
    have less : b.missing < b.countOut.missing := by
      rw [UInt32.lt_iff_toNat_lt]
      omega
    have same : b.generation = b.countOut.generation := rfl
    simp [regains, counted, less, ← same, Arrival.isWithdrawn]

/-- A unit is gone from a gate exactly when a thread has got one. -/
theorem Deed.took_add (h : Deed k b w a k' b' w' a') :
    (a'.took w'.served).toNat = (a.took w.served).toNat + (b.loses b').toNat := by
  have unchanged (same : ∀ side, b'.gate side = b.gate side) : b.loses b' = false :=
    loses_eq_false fun side => Nat.le_of_eq (by rw [same])
  cases h with
  | passes same => rw [same, loses_eq_false fun _ => Nat.le_refl _]; rfl
  | locks _ _ _ same => rw [same, unchanged (gate_lock b)]; rfl
  | unlocks _ _ same => rw [same, unchanged (gate_unlock b)]; rfl
  | arrives due _ _ _ unserved =>
    rw [due, unserved, unchanged (gate_countIn b)]
    rfl
  | trips due =>
    rw [due, unchanged fun side => (gate_trip _ side).trans (gate_countIn b side)]
    rfl
  | retracts counted _ _ unserved =>
    rw [counted, unserved, unchanged (gate_countOut b)]
    rfl
  | @posts _ n gate last _ _ _ _ posted =>
    have value := Semaphore.post_toNat posted
    have kept : b.loses (b.setGate (Side.ofNumber n) gate) = false := by
      refine loses_eq_false fun side => ?_
      rw [value_setGate]
      split
      · next here =>
        subst here
        omega
      · exact Nat.le_refl _
    rw [last, kept]
    rfl
  | @takes _ n counted _ _ unserved served unit =>
    have lost : b.loses (b.setGate (Side.ofNumber n) { b.gate (Side.ofNumber n) with
        value := (b.gate (Side.ofNumber n)).value - 1 }) = true := by
      refine loses_iff.mpr ⟨Side.ofNumber n, ?_⟩
      have positive : 0 < (b.gate (Side.ofNumber n)).value.toNat := UInt32.lt_iff_toNat_lt.mp unit
      rw [gate_setGate_self, UInt32.lt_iff_toNat_lt]
      exact (toNat_sub_one positive).symm ▸ Nat.sub_one_lt_of_lt positive
    rw [counted, unserved, served, lost]
    rfl

end

/-- A wait that reports a request has taken its arrival back, and this is its last turn. -/
theorem Wait.retracted_of_canceled {b : Barrier} {c : Cancellation} {w : Wait} {a : Arrival}
    {turn : Wait.Turn} (agrees : w.Agrees c a) (hturn : w.step b c none = some turn)
    (canceled : turn.stage = .finished (.error (.primitive .canceled))) :
    ∃ g, w = .retracted g := by
  rcases arrival_of_error agrees hturn canceled with ⟨-, n, k, rfl⟩ | ⟨n, rfl, rfl⟩
  · cases w with
    | retracted g => exact ⟨g, rfl⟩
    | finished r => cases hturn
    | _ => simp [Agrees] at agrees
  · simp only [Wait.step] at hturn
    split at hturn <;> obtain rfl := Option.some.inj hturn
    · cases canceled
    · next e refused =>
      cases canceled
      exact absurd rfl (Semaphore.post_error refused)

end Barrier

open Barrier

namespace Crowd

variable {s t u : Crowd} {m : Move}

/-! ## What a visit has done to the count and to the gates -/

/-- The move gives the count of the open generation an arrival back. -/
def takesBack (s : Crowd) (_ : Move) (t : Crowd) : Bool := s.barrier.regains t.barrier

/-- The move takes a unit from a gate. -/
def takesUnit (s : Crowd) (_ : Move) (t : Crowd) : Bool := s.barrier.loses t.barrier

/-- A visit has taken back an arrival, or a unit, exactly as often as it looks like it. -/
theorem deeds_eq_tally {rules : Rules} {parties : UInt32} {b : Barrier}
    {settings : Nat → Cancellation} {moves : List Move} (new : Pristine parties b)
    (before : Schedule.Reaches (Crowd.step rules) (around b settings) u)
    (run : Schedule.run (Crowd.step rules) u moves = some s) (few : s.trips < UInt64.size)
    (i : Nat) :
    (s.visits[i]?.any fun v => v.arrival.isWithdrawn).toNat =
        (u.visits[i]?.any fun v => v.arrival.isWithdrawn).toNat +
          Schedule.tally (Crowd.step rules) (ofVisit i takesBack) u moves ∧
      (s.visits[i]?.any fun v => v.arrival.took v.stage.served).toNat =
        (u.visits[i]?.any fun v => v.arrival.took v.stage.served).toNat +
          Schedule.tally (Crowd.step rules) (ofVisit i takesUnit) u moves := by
  revert few
  refine Schedule.run_induction (P := fun moves s => s.trips < UInt64.size →
    (s.visits[i]?.any _).toNat = _ + Schedule.tally _ (ofVisit i takesBack) _ moves ∧
      (s.visits[i]?.any _).toNat = _ + Schedule.tally _ (ofVisit i takesUnit) _ moves)
    (fun _ => ⟨rfl, rfl⟩) (fun {moves m t t'} reach move ih few' => ?_) run
  have reached := before.trans (Schedule.reaches_run reach)
  have register := Register.of_reaches new reached
  have few : t.trips < UInt64.size := Nat.lt_of_le_of_lt (register.trips_le move) few'
  have ledger := Ledger.of_reaches new reached (register.punctual few)
  have punctual := (register.step move).punctual few'
  obtain ⟨back, unit⟩ := ih few
  constructor
  · rw [Schedule.tally_concat reach move, ← Nat.add_assoc, ← back]
    refine mark_step (fun _ => rfl) (fun fault v turn here hv hturn after => ?_) move
    subst after
    exact (register.deed hv hturn).isWithdrawn_add ledger.missing_pos
      fun n counted withdrawn => (ledger.room hv punctual n counted withdrawn).2
  · rw [Schedule.tally_concat reach move, ← Nat.add_assoc, ← unit]
    refine mark_step (fun _ => rfl) (fun fault v turn here hv hturn after => ?_) move
    subst after
    exact (register.deed hv hturn).took_add

/-! ## What becomes of a call -/

/-- Whoever was counted in a generation that has ended is never taken back. -/
theorem Register.stays_counted {rules : Rules} (h : Register s) (few : s.trips < UInt64.size)
    (move : s.step rules m = some t) {i n : Nat} {v : Visit} (hv : s.visits[i]? = some v)
    (counted : v.arrival = .counted n) (ended : n < s.trips) :
    ∃ w, t.visits[i]? = some w ∧ w.arrival = .counted n := by
  obtain ⟨w, hw, next⟩ := visit_next move hv
  refine ⟨w, hw, ?_⟩
  rcases next with rfl | ⟨fault, turn, hturn, rfl, rfl⟩
  · exact counted
  · show v.arrival.entering s.trips turn.stage = _
    rcases (h.deed hv hturn).arrival_cases with ⟨-, same⟩ | ⟨-, due, -⟩ | ⟨-, due, -⟩ |
      ⟨k, -, counted', -, now⟩
    · exact same.trans counted
    · cases counted.symm.trans due
    · cases counted.symm.trans due
    · -- the counter has not started over, so it tells this generation from the open one
      obtain rfl : n = k := by cases counted.symm.trans counted'; rfl
      have same := congrArg UInt64.toNat (h.generation.symm.trans now)
      rw [UInt64.toNat_ofNat_of_lt' few, UInt64.toNat_ofNat_of_lt' (Nat.lt_trans ended few)] at same
      omega

theorem counted_of_run {rules : Rules} {parties : UInt32} {b : Barrier}
    {settings : Nat → Cancellation} {moves : List Move} (new : Pristine parties b)
    (before : Schedule.Reaches (Crowd.step rules) (around b settings) u)
    (run : Schedule.run (Crowd.step rules) u moves = some s) (few : s.trips < UInt64.size)
    {i n : Nat} {v : Visit} (hv : u.visits[i]? = some v) (counted : v.arrival = .counted n)
    (ended : n < u.trips) :
    ∃ w, s.visits[i]? = some w ∧ w.arrival = .counted n := by
  have kept : n < s.trips ∧ ∃ w, s.visits[i]? = some w ∧ w.arrival = .counted n := by
    revert few
    refine Schedule.run_induction (P := fun _ s => s.trips < UInt64.size → n < s.trips ∧
      ∃ w, s.visits[i]? = some w ∧ w.arrival = .counted n)
      (fun _ => ⟨ended, v, hv, counted⟩) (fun {moves m t t'} reach move ih few' => ?_) run
    have register := Register.of_reaches new (before.trans (Schedule.reaches_run reach))
    have le := register.trips_le move
    have few : t.trips < UInt64.size := Nat.lt_of_le_of_lt le few'
    obtain ⟨ended, w, hw, counted⟩ := ih few
    exact ⟨Nat.lt_of_lt_of_le ended le, register.stays_counted few move hw counted ended⟩
  exact kept.2

/-- A call that began with these settings, whenever one looks at it. -/
theorem heeds_of_run {rules : Rules} {parties : UInt32} {b : Barrier}
    {settings : Nat → Cancellation} {moves : List Move} (new : Pristine parties b)
    (faultless : rules.Faultless)
    (before : Schedule.Reaches (Crowd.step rules) (around b settings) u) {thread : Nat}
    (begins : u.step rules (.begin thread) = some t)
    (run : Schedule.run (Crowd.step rules) t moves = some s) :
    ∃ v, s.visits[u.visits.length]? = some v ∧ v.thread = thread ∧
      v.stage.Heeds (u.settings thread).type (u.settings thread).state (s.settings thread) := by
  refine Schedule.run_induction (P := fun _ s => ∃ v, s.visits[u.visits.length]? = some v ∧
    v.thread = thread ∧
      v.stage.Heeds (u.settings thread).type (u.settings thread).state (s.settings thread)) ?_
    (fun {moves m t' t''} reach move ih => ?_) run
  · simp only [Crowd.step] at begins
    split at begins
    · obtain rfl := Option.some.inj begins
      exact ⟨{ thread := thread }, by simp, rfl, .of_unheard rfl rfl⟩
    · cases begins
  · have register := Register.of_reaches new
      ((before.tail _ begins).trans (Schedule.reaches_run reach))
    obtain ⟨v, hv, rfl, heeds⟩ := ih
    exact register.heeds_step faultless move hv heeds

/-- A call that reports a request has taken its arrival back, in its own generation. -/
theorem Register.withdrawn_of_canceled (h : Register s) (few : s.trips < UInt64.size) {v : Visit}
    (hv : v ∈ s.visits) (excused : Excused v) (fit : v.refused = false)
    (canceled : v.stage = .finished (.error (.primitive .canceled))) :
    ∃ g, v.arrival = .withdrawn g g := by
  rcases excused _ canceled with ⟨-, n, during, withdrawn⟩ | ⟨n, last⟩
  · exact ⟨n, by rw [withdrawn, h.punctual few v hv n during withdrawn]⟩
  · simp [Visit.refused, last, canceled] at fit

/-- At the moment at which a call reports a request, its thread is ready for requests and asked. -/
theorem Register.asked_of_canceling (h : Register s) {rules : Rules} {type : CancelType}
    {state : CancelState} {i : Nat} {v w : Visit} (hv : s.visits[i]? = some v)
    (heeds : v.stage.Heeds type state (s.settings v.thread))
    (move : s.step rules (.go i) = some t) (hw : t.visits[i]? = some w)
    (canceled : w.stage = .finished (.error (.primitive .canceled))) :
    s.settings v.thread = ⟨.asynchronous, .enabled, true⟩ := by
  obtain ⟨v', turn, hv', -, hturn, rfl⟩ := step_go move
  obtain rfl := Option.some.inj (hv.symm.trans hv')
  have after : (s.after i v turn).visits[i]? = some (v.enter s.trips turn.stage) :=
    List.getElem?_set_self (List.getElem?_eq_some_iff.mp hv).1
  obtain rfl := Option.some.inj (hw.symm.trans after)
  -- the last turn does nothing but give the lock back, so the settings are the thread's own
  obtain ⟨g, stage⟩ :=
    Wait.retracted_of_canceled (h.agrees v (List.mem_of_getElem? hv)) hturn canceled
  obtain ⟨under, asked⟩ := heeds
  rw [stage] at under asked
  obtain ⟨rfl, rfl, requested⟩ := asked rfl
  have own : s.settings v.thread = ⟨_, _, _⟩ := under
  rw [own, requested]

/-- How often a visit gives the count of the open generation an arrival back on a run on which
nothing is made to fail. -/
def undoings (i : Nat) (s : Crowd) (moves : List Move) : Nat :=
  Schedule.tally (Crowd.step {}) (ofVisit i takesBack) s moves

/-- How many units a visit takes from the gates on such a run. -/
def unitsTaken (i : Nat) (s : Crowd) (moves : List Move) : Nat :=
  Schedule.tally (Crowd.step {}) (ofVisit i takesUnit) s moves

/-- What becomes of a call under requests to stop, from the moment it begins as visit `i`. It
reports a request only if its thread listens and was asked, and then it has undone its arrival,
once and in the generation in which it arrived; a thread that came too late for this is released
like everybody else. The reason is that a thread keeps its settings while it waits and looks at the
generation under the lock before it takes anything back. The schedule and the requests are
arbitrary; nothing is made to fail, and no post is refused. -/
theorem cancellation_exact {supply : Supply} {parties : UInt32} {b : Barrier}
    {settings : Nat → Cancellation} {thread i : Nat} {moves : List Move} {s t u : Crowd}
    (delivered : Delivered supply parties b) (listening : supply.rule = .whileBlocked)
    (before : Schedule.Reaches (Crowd.step {}) (around b settings) u)
    (begins : u.step {} (.begin thread) = some t) (next : i = u.visits.length)
    (run : Schedule.run (Crowd.step {}) t moves = some s)
    (fit : s.PostsFit) (few : s.trips < UInt64.size) :
    ∃ v, s.visits[i]? = some v ∧ v.thread = thread ∧
      -- whoever reports a request was ready for it and was asked, and has undone its arrival once,
      -- in its own generation
      (v.stage = .finished (.error (.primitive .canceled)) →
        (u.settings thread).type = .asynchronous ∧ (u.settings thread).state = .enabled ∧
          (s.settings thread).requested = true ∧ (∃ g, v.arrival = .withdrawn g g) ∧
          undoings i t moves = 1 ∧ unitsTaken i t moves = 0) ∧
      -- this is so at the moment at which it reports it
      (∀ x w, s.step {} (.go i) = some x → x.visits[i]? = some w →
        w.stage = .finished (.error (.primitive .canceled)) →
        s.settings thread = ⟨.asynchronous, .enabled, true⟩) ∧
      -- whoever is not ready for requests reports none and undoes nothing
      ((u.settings thread).type = .deferred ∨ (u.settings thread).state = .disabled →
        v.stage ≠ .finished (.error (.primitive .canceled)) ∧ undoings i t moves = 0 ∧
          ∀ g k, v.arrival ≠ .withdrawn g k) ∧
      -- nothing keeps a last one from the outcome that is meant for it
      (∀ g, v.arrival = .last g → v.stage = .finished (.ok .serial) ∨
        v.inside = true ∧ (s.step {} (.go i)).isSome = true) ∧
      -- whoever was still counted when its generation ended can only be released, with one unit
      (∀ early late x w g, moves = early ++ late → Schedule.run (Crowd.step {}) t early = some x →
        x.visits[i]? = some w → w.arrival = .counted g → g < x.trips →
        undoings i t moves = 0 ∧ (v.inside = true ∨
          v.stage = .finished (.ok .released) ∧ unitsTaken i t moves = 1)) := by
  have new := delivered.pristine listening
  have faultless : ({} : Rules).Faultless := fun _ => rfl
  have begun := before.tail _ begins
  have reached := begun.trans (Schedule.reaches_run run)
  have register := Register.of_reaches new reached
  obtain ⟨v, hv, rfl, heeds⟩ := heeds_of_run new faultless before begins run
  rw [← next] at hv
  have member := List.mem_of_getElem? hv
  have excused := excused_of_reaches new faultless reached v member
  have heard : (∃ n k, v.arrival = .withdrawn n k) →
      (u.settings v.thread).type = .asynchronous ∧ (u.settings v.thread).state = .enabled ∧
        (s.settings v.thread).requested = true := by
    rintro ⟨n, k, withdrawn⟩
    exact heeds.heard (register.heard_of_withdrawn member excused withdrawn)
  -- what the visit has done can be read off it
  obtain ⟨undone, taken⟩ := deeds_eq_tally new begun run few i
  have fresh : t.visits[i]? = some { thread := v.thread } := by
    simp only [Crowd.step] at begins
    split at begins
    · obtain rfl := Option.some.inj begins
      simp [next]
    · cases begins
  simp only [hv, fresh, Option.any_some, Arrival.isWithdrawn, Arrival.took, Bool.toNat_false,
    Nat.zero_add] at undone taken
  have withdrawn_of := register.withdrawn_of_canceled few member excused (fit v member)
  refine ⟨v, hv, rfl, fun canceled => ?_, fun _ _ move hw canceled =>
    register.asked_of_canceling hv heeds move hw canceled, fun deaf => ?_,
    fun g last => ?_, fun early late x w g split early_run hw counted ended => ?_⟩
  · obtain ⟨g, withdrawn⟩ := withdrawn_of canceled
    obtain ⟨type, state, requested⟩ := heard ⟨g, g, withdrawn⟩
    rw [withdrawn] at undone taken
    exact ⟨type, state, requested, ⟨g, withdrawn⟩, undone.symm, taken.symm⟩
  · have kept : ∀ g k, v.arrival ≠ .withdrawn g k := by
      intro g k withdrawn
      obtain ⟨type, state, -⟩ := heard ⟨g, k, withdrawn⟩
      rcases deaf with deferred | disabled
      · cases type.symm.trans deferred
      · cases state.symm.trans disabled
    refine ⟨fun canceled => ?_, ?_, kept⟩
    · obtain ⟨g, withdrawn⟩ := withdrawn_of canceled
      exact kept g g withdrawn
    · cases arrival : v.arrival with
      | withdrawn g k => exact absurd arrival (kept g k)
      | _ => rw [arrival] at undone; exact undone.symm
  · rcases register.serial_of_last {} hv last (fit v member) with serial | ⟨inside, -, goes⟩
    · exact .inl serial
    · exact .inr ⟨inside, goes⟩
  · subst split
    rw [Schedule.run_append, early_run] at run
    obtain ⟨v', hv', stays⟩ :=
      counted_of_run new (begun.trans (Schedule.reaches_run early_run)) run few hw counted ended
    obtain rfl := Option.some.inj (hv.symm.trans hv')
    rw [stays] at undone taken
    refine ⟨undone.symm, ?_⟩
    rcases register.released_of_counted member excused stays with released | inside
    · refine .inr ⟨released, ?_⟩
      rw [released] at taken
      exact taken.symm
    · exact .inl inside

/-- The first of two comes to rest at the gate, is asked to stop, and leaves. -/
def turningBack : List Move := Move.goes 0 7 ++ [.request 0] ++ Move.goes 0 7

theorem cancellation_exact_turningBack :
    ∃ t s, pair.step {} (.begin 0) = some t ∧
      Schedule.run (Crowd.step {}) t turningBack = some s ∧
      ∃ v, s.visits[0]? = some v ∧
        v.stage = .finished (.error (.primitive .canceled)) ∧
        (s.settings 0).requested = true ∧ (∃ g, v.arrival = .withdrawn g g) ∧
        undoings 0 t turningBack = 1 ∧ unitsTaken 0 t turningBack = 0 := by
  have run := (Option.some_get
    (show (Schedule.run (Crowd.step {}) ((pair.step {} (.begin 0)).get (by decide))
      turningBack).isSome by decide)).symm
  have new : Delivered {} 2 pair.barrier := delivered_fresh (by decide) (by decide) rfl
  obtain ⟨v, hv, -, reported, -⟩ :=
    cancellation_exact new rfl (.refl pair) rfl rfl run (by decide) (by decide)
  obtain rfl := Option.some.inj (hv.symm.trans rfl)
  obtain ⟨-, -, requested, withdrawn, undone, taken⟩ := reported rfl
  exact ⟨_, _, rfl, run, _, hv, rfl, requested, withdrawn, undone, taken⟩

end Crowd

end Rendezvous
