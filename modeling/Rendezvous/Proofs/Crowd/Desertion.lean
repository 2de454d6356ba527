import Rendezvous.Proofs.Crowd.Ledger

/-!
# Waits that fail

A thread that is asked to stop takes its arrival back, or fetches its unit if it is too late for
that. A thread that is refused by a primitive does neither. If that happens after it was counted in,
at the gate or on the way back from it, it leaves an arrival behind, or a unit: it deserts.

A barrier with nothing left behind is `Clean`. `clean_iff` says when it is, for any number of
threads and whatever fails but the post: exactly if nobody who was counted in the open generation
has deserted, or got through before its end, and if nobody at all has deserted by the time everybody
has left. It also says which failures make a deserter (`Wait.strandedBy`): none that strike before
the arrival is counted, and all that strike later, but for a request at the gate.

With nobody inside the lock is free, which needs an invariant of its own (`Guarded`).
-/

set_option autoImplicit false

namespace Rendezvous

namespace Barrier

/-- Failed after it was counted, and has neither taken its arrival back nor got a unit. -/
def Visit.deserted (v : Visit) : Bool :=
  match v.arrival, v.stage with
  | .counted _, .finished (.error _) => true
  | _, _ => false

theorem Visit.deserted_iff {v : Visit} :
    v.deserted = true ↔ ∃ g e, v.arrival = .counted g ∧ v.stage = .finished (.error e) := by
  unfold deserted
  split
  · next g e counted failed => simp [counted, failed]
  · next h =>
    simp only [Bool.false_eq_true, false_iff, not_exists, not_and]
    exact fun g e counted failed => h g e counted failed

/-- Being refused like this makes a deserter: at the gate for another reason than a request, at the
lock on the way back, at the gate when fetching the unit that is owed. -/
def Wait.strandedBy (e : PrimitiveError) : Wait → Bool
  | .pause _ => e ≠ .canceled
  | .turnBack _ | .claim _ => true
  | _ => false

theorem Wait.fails_iff {b : Barrier} {c : Cancellation} {fault : Option PrimitiveError} {w : Wait}
    {n : Nat} {turn : Wait.Turn} (agrees : w.Agrees c (.counted n))
    (h : w.step b c fault = some turn) :
    (∃ e, turn.stage = .finished (.error e)) ↔ ∃ e, fault = some e ∧ w.strandedBy e = true := by
  have unaided : w.step b c none = some turn → ∀ e, turn.stage ≠ .finished (.error e) := by
    intro h e failed
    rcases arrival_of_error agrees h failed with ⟨-, _, _, other⟩ | ⟨_, other, -⟩ <;> cases other
  cases fault with
  | none =>
    constructor
    · rintro ⟨e, failed⟩
      exact absurd failed (unaided h e)
    · rintro ⟨e, impossible, -⟩
      cases impossible
  | some e =>
    cases w with
    | pause g =>
      obtain rfl := Option.some.inj h
      cases e <;> simp [afterGate, strandedBy]
    | turnBack g | claim g =>
      obtain rfl := Option.some.inj h
      simp [afterClaim, strandedBy]
    | enter => cases agrees
    | post g =>
      obtain ⟨_, other, -⟩ := agrees
      cases other
    | _ =>
      -- the others make no call that could fail
      rw [step_of_asks_eq_none rfl] at h
      constructor
      · rintro ⟨e, failed⟩
        exact absurd failed (unaided h e)
      · rintro ⟨_, -, stranded⟩
        cases stranded

/-! ## The lock -/

def Visit.holdsLock (v : Visit) : Bool := v.stage.holdsLock

theorem Visit.inside_of_holdsLock {v : Visit} (h : v.holdsLock = true) : v.inside = true := by
  unfold holdsLock at h
  unfold inside
  cases stage : v.stage with
  | finished r => simp [stage, Wait.holdsLock] at h
  | _ => rfl

/-- The lock changes hands with the visit that takes it or gives it back. -/
theorem Deed.locked {k k' : Nat} {b b' : Barrier} {w w' : Wait} {a a' : Arrival}
    (h : Deed k b w a k' b' w' a') (held : w.holdsLock = true → b.locked = true) :
    b'.locked.toNat + w.holdsLock.toNat = b.locked.toNat + w'.holdsLock.toNat := by
  cases h with
  | passes _ same => rw [same]
  | locks free before after =>
    rw [free, before, after]
    rfl
  | unlocks before after =>
    rw [held before, before, after]
    rfl
  | posts _ before after | takes _ before after => rw [before, after, locked_setGate]
  | arrives _ before after | trips _ before after | retracts _ before after =>
    rw [before, after]
    rfl

end Barrier

open Barrier

namespace Crowd

/-- At most one thread holds the lock, and it does so exactly if the lock is taken. -/
def Guarded (s : Crowd) : Prop := s.visits.countP Visit.holdsLock = s.barrier.locked.toNat

theorem Guarded.step {rules : Rules} {s t : Crowd} {m : Move} (h : Guarded s) (r : Register s)
    (move : s.step rules m = some t) : Guarded t := by
  rcases step_cases move with ⟨thread, -, -, rfl⟩ | ⟨thread, c, -, rfl⟩ |
    ⟨i, fault, v, turn, hv, -, hturn, rfl⟩
  · exact (countP_begin rfl).trans h
  · exact h
  · have held : v.stage.holdsLock = true → s.barrier.locked = true := by
      intro holds
      have positive : 0 < s.visits.countP Visit.holdsLock :=
        List.countP_pos_iff.mpr ⟨v, List.mem_of_getElem? hv, holds⟩
      rw [h] at positive
      cases locked : s.barrier.locked
      · simp [locked] at positive
      · rfl
    have change := countP_after Visit.holdsLock turn hv
    have deed := (r.deed hv hturn).locked held
    unfold Guarded at h ⊢
    rw [h] at change
    simp only [Visit.holdsLock, Visit.enter] at change
    omega

theorem Guarded.of_reaches {rules : Rules} {parties : UInt32} {b : Barrier}
    {settings : Nat → Cancellation} {s : Crowd} (new : Pristine parties b)
    (run : Schedule.Reaches (Crowd.step rules) (Crowd.around b settings) s) : Guarded s := by
  induction run with
  | refl =>
    show 0 = b.locked.toNat
    rw [new.free]
    rfl
  | tail m run move ih => exact ih.step (Register.of_reaches new run) move

theorem Guarded.free {s : Crowd} (h : Guarded s) (nobody : s.inside = 0) :
    s.barrier.locked = false := by
  have unheld : s.visits.countP Visit.holdsLock = 0 :=
    Nat.le_zero.mp (nobody ▸ List.countP_mono_left fun _ _ => Visit.inside_of_holdsLock)
  cases locked : s.barrier.locked
  · rfl
  · rw [h, locked] at unheld
    cases unheld

/-! ## What is left behind -/

/-- The barrier counts whoever is inside and nobody else, and keeps units for nobody. -/
structure Clean (s : Crowd) : Prop where
  /-- When the lock is free, the arrivals are those of threads inside. -/
  arrivals : s.barrier.locked = false →
    s.barrier.waiting.toNat = s.visits.countP fun v => v.inside && v.countedIn s.trips
  /-- With nobody inside the gates are empty. -/
  units : s.inside = 0 → s.barrier.units = [0, 0]

theorem Ledger.waiting {s : Crowd} (h : Ledger s) :
    s.barrier.waiting.toNat = s.visits.countP (Visit.countedIn s.trips) := by
  have le := h.missing_le
  have arrived := h.arrived
  unfold Barrier.waiting
  rw [UInt32.toNat_sub_of_le _ _ (UInt32.le_iff_toNat_le.mpr le)]
  omega

/-- The arrivals are those of threads inside exactly if nobody who was counted has left. -/
theorem Ledger.arrivals_iff {s : Crowd} (h : Ledger s) :
    s.barrier.waiting.toNat = s.visits.countP (fun v => v.inside && v.countedIn s.trips) ↔
      ∀ v ∈ s.visits, v.arrival = .counted s.trips → v.inside = true := by
  rw [h.waiting]
  refine ⟨fun same v hv counted => ?_, fun stay => ?_⟩
  · -- whoever has left would be counted and not inside
    refine Decidable.byContradiction fun left => ?_
    have more : s.visits.countP (fun v => v.inside && v.countedIn s.trips) +
        s.visits.countP (fun v => !v.inside && v.countedIn s.trips) ≤
          s.visits.countP (Visit.countedIn s.trips) :=
      countP_add_le (fun w _ hw => (Bool.and_eq_true _ _ ▸ hw).2) (fun w _ hw => by simp_all)
    have one : 0 < s.visits.countP fun v => !v.inside && v.countedIn s.trips :=
      List.countP_pos_iff.mpr ⟨v, hv, by simp [left, Visit.countedIn_iff.mpr counted]⟩
    omega
  · exact (countP_inside_and fun v hv counted => stay v hv (Visit.countedIn_iff.mp counted)).symm

/-- Whoever was counted is inside unless it deserted or got through. -/
theorem Register.inside_iff_of_counted {s : Crowd} (h : Register s) {v : Visit} (hv : v ∈ s.visits)
    {n : Nat} (counted : v.arrival = .counted n) :
    v.inside = true ↔ v.deserted = false ∧ v.stage ≠ .finished (.ok .released) := by
  have agrees := h.agrees v hv
  unfold Visit.inside Visit.deserted
  cases stage : v.stage with
  | finished r =>
    rcases r with e | (_ | _)
    · simp [Wait.isOver, counted]
    · rw [stage, counted] at agrees
      obtain ⟨_, other⟩ := agrees
      cases other
    · simp [Wait.isOver]
  | _ => simp [Wait.isOver]

/-- With nobody inside, those who are owed a unit are the deserters. -/
theorem Register.awaits_iff_deserted {s : Crowd} (h : Register s) {v : Visit} (hv : v ∈ s.visits)
    (left : v.inside = false) : (∃ side, v.awaits side = true) ↔ v.deserted = true := by
  have agrees := h.agrees v hv
  rw [Visit.deserted_iff]
  constructor
  · rintro ⟨side, awaits⟩
    obtain ⟨g, counted, -, unserved⟩ := Visit.awaits_iff.mp awaits
    unfold Visit.inside at left
    cases stage : v.stage with
    | finished r =>
      rcases r with e | outcome
      · exact ⟨g, e, counted, rfl⟩
      · rw [stage] at unserved
        cases unserved
    | _ =>
      rw [stage] at left
      cases left
  · rintro ⟨g, e, counted, failed⟩
    exact ⟨_, Visit.awaits_iff.mpr ⟨g, counted, rfl, by rw [failed]; rfl⟩⟩

/-! ## Who deserts -/

theorem Register.deserts_iff {s : Crowd} (h : Register s) {i : Nat} {fault : Option PrimitiveError}
    {v : Visit} {turn : Wait.Turn} (hv : s.visits[i]? = some v)
    (hturn : v.stage.step s.barrier (s.settings v.thread) fault = some turn) :
    (v.enter s.trips turn.stage).deserted = true ↔
      ∃ e, fault = some e ∧ v.stage.strandedBy e = true := by
  have agrees := h.agrees v (List.mem_of_getElem? hv)
  rw [Visit.deserted_iff]
  constructor
  · rintro ⟨n, e, counted, failed⟩
    have failed : turn.stage = .finished (.error e) := failed
    have counted : v.arrival.entering s.trips turn.stage = .counted n := counted
    rw [failed] at counted
    have counted : v.arrival = .counted n := counted
    exact (Wait.fails_iff (counted ▸ agrees) hturn).mp ⟨e, failed⟩
  · rintro ⟨e, rfl, stranded⟩
    obtain ⟨n, counted⟩ : ∃ n, v.arrival = .counted n := by
      cases stage : v.stage with
      | pause g | turnBack g | claim g =>
        rw [stage] at agrees
        exact ⟨agrees.choose, agrees.choose_spec.1⟩
      | _ =>
        rw [stage] at stranded
        cases stranded
    obtain ⟨r, failed⟩ := (Wait.fails_iff (counted ▸ agrees) hturn).mpr ⟨e, rfl, stranded⟩
    refine ⟨n, r, ?_, failed⟩
    show v.arrival.entering s.trips turn.stage = .counted n
    rw [failed]
    exact counted

/-- A deserter stays one, and only a call that strands it makes one of a visit. -/
theorem Register.deserted_step {rules : Rules} {s t : Crowd} {m : Move} (h : Register s)
    (move : s.step rules m = some t) {j : Nat} {w : Visit} (hw : t.visits[j]? = some w) :
    w.deserted = true ↔
      ∃ v, s.visits[j]? = some v ∧
        (v.deserted = true ∨ ∃ e, m = .go j (some e) ∧ v.stage.strandedBy e = true) := by
  rcases visit_cases move hw with ⟨hv, idle⟩ | ⟨new, fresh⟩ | ⟨fault, v, turn, rfl, hv, hturn, rfl⟩
  · constructor
    · exact fun deserted => ⟨w, hv, .inl deserted⟩
    · rintro ⟨v, hv', deserted | ⟨e, same, -⟩⟩
      · obtain rfl := Option.some.inj (hv.symm.trans hv')
        exact deserted
      · exact absurd same (idle _)
  · rw [fresh, new]
    constructor
    · intro deserted
      cases deserted
    · rintro ⟨v, member, -⟩
      cases member
  · rw [h.deserts_iff hv hturn]
    constructor
    · rintro ⟨e, rfl, stranded⟩
      exact ⟨v, hv, .inr ⟨e, rfl, stranded⟩⟩
    · rintro ⟨u, hu, made⟩
      obtain rfl := Option.some.inj (hv.symm.trans hu)
      rcases made with deserted | ⟨e, same, stranded⟩
      · -- who has left takes no turns
        obtain ⟨_, _, -, failed⟩ := Visit.deserted_iff.mp deserted
        rw [failed] at hturn
        cases hturn
      · cases same
        exact ⟨e, rfl, stranded⟩

/-! ## When nothing is left behind -/

/-- The units are gone exactly if nobody has deserted. -/
theorem Ledger.units_iff {s : Crowd} (h : Ledger s) (r : Register s) (fit : s.PostsFit)
    (nobody : s.inside = 0)
    (stay : ∀ v ∈ s.visits, v.arrival = .counted s.trips → v.inside = true) :
    s.barrier.units = [0, 0] ↔ ∀ v ∈ s.visits, v.deserted = false := by
  have left : ∀ v ∈ s.visits, v.inside = false := fun v hv =>
    Bool.eq_false_iff.mpr (List.countP_eq_zero.mp nobody v hv)
  have begun : ∀ side, s.barrier.begun side = 0 := by
    intro side
    have uncounted : s.visits.countP (Visit.countedIn s.trips) = 0 :=
      List.countP_eq_zero.mpr fun v hv counted =>
        Bool.false_ne_true ((left v hv).symm.trans (stay v hv (Visit.countedIn_iff.mp counted)))
    have arrived := h.arrived
    unfold Barrier.begun
    split <;> omega
  -- with no arrival and no debt, the units are those of the deserters
  have owes : ∀ side, s.visits.countP (Visit.owes side) = 0 := fun side =>
    List.countP_eq_zero.mpr fun v hv owing =>
      Bool.false_ne_true ((left v hv).symm.trans (inside_of_owes hv fit owing))
  have value : ∀ side, (s.barrier.gate side).value.toNat = s.visits.countP (Visit.awaits side) := by
    intro side
    have balance := h.balance side
    rw [begun, owes] at balance
    omega
  have gone : ∀ side, (s.barrier.gate side).value = 0 ↔
      ∀ v ∈ s.visits, ¬ v.awaits side = true := by
    intro side
    rw [← UInt32.toNat_inj, value, UInt32.toNat_zero, List.countP_eq_zero]
  have loyal : (∀ v ∈ s.visits, v.deserted = false) ↔
      ∀ side, ∀ v ∈ s.visits, ¬ v.awaits side = true := by
    refine ⟨fun h side v hv awaits => ?_, fun h v hv => Bool.eq_false_iff.mpr fun deserted => ?_⟩
    · have := (r.awaits_iff_deserted hv (left v hv)).mp ⟨side, awaits⟩
      exact Bool.false_ne_true ((h v hv).symm.trans this)
    · obtain ⟨side, awaits⟩ := (r.awaits_iff_deserted hv (left v hv)).mpr deserted
      exact h side v hv awaits
  rw [loyal]
  show [(s.barrier.gate .even).value, (s.barrier.gate .odd).value] = [0, 0] ↔ _
  simp only [List.cons.injEq, and_true, gone]
  refine ⟨fun h side => ?_, fun h => ⟨h .even, h .odd⟩⟩
  cases side with
  | even => exact h.1
  | odd => exact h.2

/-- When a barrier is clean, and what makes a deserter, for any number of threads, all schedules and
all failures but that of a post. Whoever turned back has to have turned back in its own generation,
which is certain unless the counter starts over (`Register.punctual`). -/
theorem clean_iff {supply : Supply} {parties : UInt32} {b : Barrier} {rules : Rules}
    {settings : Nat → Cancellation} {s : Crowd} (delivered : Delivered supply parties b)
    (listening : supply.rule = .whileBlocked)
    (run : Schedule.Reaches (Crowd.step rules) (Crowd.around b settings) s)
    (fit : s.PostsFit) (punctual : s.Punctual) :
    (s.Clean ↔
      (s.barrier.locked = false → ∀ v ∈ s.visits, v.arrival = .counted s.trips →
        v.deserted = false ∧ v.stage ≠ .finished (.ok .released)) ∧
      (s.inside = 0 → ∀ v ∈ s.visits, v.deserted = false)) ∧
    ∀ m t, s.step rules m = some t → ∀ j w, t.visits[j]? = some w →
      (w.deserted = true ↔
        ∃ v, s.visits[j]? = some v ∧
          (v.deserted = true ∨ ∃ e, m = .go j (some e) ∧ v.stage.strandedBy e = true)) := by
  have new := delivered.pristine listening
  have register := Register.of_reaches new run
  have ledger := Ledger.of_reaches new run punctual
  have guarded := Guarded.of_reaches new run
  have counted_iff : (∀ v ∈ s.visits, v.arrival = .counted s.trips → v.inside = true) ↔
      ∀ v ∈ s.visits, v.arrival = .counted s.trips →
        v.deserted = false ∧ v.stage ≠ .finished (.ok .released) :=
    forall₃_congr fun v hv counted => register.inside_iff_of_counted hv counted
  rw [← counted_iff]
  refine ⟨⟨?_, ?_⟩, fun m t move j w hw => register.deserted_step move hw⟩
  · rintro ⟨arrivals, units⟩
    have stay := fun free => ledger.arrivals_iff.mp (arrivals free)
    exact ⟨stay, fun nobody =>
      (ledger.units_iff register fit nobody (stay (guarded.free nobody))).mp (units nobody)⟩
  · rintro ⟨stay, loyal⟩
    exact ⟨fun free => ledger.arrivals_iff.mpr (stay free), fun nobody =>
      (ledger.units_iff register fit nobody (stay (guarded.free nobody))).mpr (loyal nobody)⟩

/-- Asking for the lock may fail, and waiting at a gate. -/
def Rules.wayward : Rules := { mayFail := fun ask => ask = .lock || ask = .semWait }

/-- The first is refused the lock. The second is counted in and refused at the gate. The third
completes the generation, which was to be one of two. -/
def desertion : List Move :=
  [.begin 0, .go 0 (some (.system "lock" 5))] ++
    [.begin 1] ++ Move.goes 1 4 ++ [.go 1 (some (.system "sem_wait" 5))] ++
    [.begin 2] ++ Move.goes 2 5

theorem clean_iff_desertion :
    ∃ s, Schedule.Reaches (Crowd.step .wayward) pair s ∧ s.PostsFit ∧ s.Punctual ∧
      s.trips = 1 ∧ s.inside = 0 ∧ ¬ s.Clean := by
  have run := Schedule.reaches_get
    (show (Schedule.run (Crowd.step .wayward) pair desertion).isSome by decide)
  have new : Delivered {} 2 pair.barrier := delivered_fresh (by decide) (by decide) rfl
  have punctual := (Register.of_reaches (new.pristine rfl) run).punctual (by decide)
  refine ⟨_, run, by decide, punctual, by decide, by decide, fun clean => ?_⟩
  have loyal := ((clean_iff new rfl run (by decide) punctual).1.mp clean).2 (by decide)
  exact absurd loyal (by decide)

/-- One of two is counted in and refused at the gate. -/
def refusal : List Move :=
  [.begin 0] ++ Move.goes 0 4 ++ [.go 0 (some (.system "sem_wait" 5))]

/-- Then nobody is inside, and one is still counted. -/
theorem not_clean_refusal :
    ∃ s, Schedule.Reaches (Crowd.step .wayward) pair s ∧ s.PostsFit ∧ s.inside = 0 ∧
      s.barrier.locked = false ∧ s.barrier.waiting = 1 ∧ ¬ s.Clean := by
  have run := Schedule.reaches_get
    (show (Schedule.run (Crowd.step .wayward) pair refusal).isSome by decide)
  refine ⟨_, run, by decide, by decide, by decide, by decide, fun clean => ?_⟩
  exact absurd (clean.arrivals (by decide)) (by decide)

end Crowd

end Rendezvous
