import Rendezvous.Proofs.Counting
import Rendezvous.Proofs.Crowd.Register

/-!
# Arrivals and units balance

A thread that is counted in is owed one unit at the gate of its generation. As long as the
generation is open, the debt is an arrival on the barrier's count. When the last one trips the
barrier, the count starts over and the debt of all the others is now that thread's, until it posts;
from then on the debt is a unit at the gate, and taking it settles the debt. A thread that turns
back in time takes its arrival from the count, and is owed nothing any more. So on each side there
are always as many threads that are owed a unit as there are units, units to be posted, and arrivals
of the open generation, whoever holds the lock. That is the `Ledger`, and it balances deed by deed
(`Deed.balance`).

One entry could spoil it. A thread that turns back compares the barrier's counter with the one it
saw, and the counter starts over: were it to sleep through all of its numbers, it would take back an
arrival of a generation that is not its own. A crowd is `Punctual` if that has not happened, and
that is certain as long as the counter has not started over (`Register.punctual`). No other rule is
needed: the ledger balances however many threads there are and whatever fails.

## Main statements

* `Ledger.step`: every move of a punctual crowd keeps the ledger.
* `units_conserved`: what the ledger says of runs in which nothing fails. With nobody inside, no
  arrival and no unit is left.
-/

set_option autoImplicit false

namespace Rendezvous

namespace Barrier

/-! ## What the ledger counts -/

/-- The thread is owed a unit of this side: it was counted in, and has not got what it waits for. -/
def Arrival.awaits (side : Side) (served : Bool) : Arrival → Bool
  | .counted g => Side.ofNumber g = side && !served
  | _ => false

/-- The thread owes units of this side: it was the last one, and has not posted. -/
def Arrival.owes (side : Side) (served : Bool) : Arrival → Bool
  | .last g => Side.ofNumber g = side && !served
  | _ => false

/-- Counted in generation `n`, before the last one of it. -/
def Arrival.countedIn (n : Nat) : Arrival → Bool
  | .counted g => g = n
  | _ => false

def Visit.awaits (side : Side) (v : Visit) : Bool := v.arrival.awaits side v.stage.served

def Visit.owes (side : Side) (v : Visit) : Bool := v.arrival.owes side v.stage.served

def Visit.countedIn (n : Nat) (v : Visit) : Bool := v.arrival.countedIn n

/-- The last one of a generation failed, because its post was refused. -/
def Visit.refused (v : Visit) : Bool :=
  match v.arrival, v.stage with
  | .last _, .finished (.error _) => true
  | _, _ => false

theorem Visit.countedIn_iff {v : Visit} {g : Nat} :
    v.countedIn g = true ↔ v.arrival = .counted g := by
  unfold countedIn Arrival.countedIn
  cases v.arrival <;> simp

theorem Visit.awaits_iff {v : Visit} {side : Side} :
    v.awaits side = true ↔
      ∃ g, v.arrival = .counted g ∧ Side.ofNumber g = side ∧ v.stage.served = false := by
  unfold awaits Arrival.awaits
  cases v.arrival <;> simp

theorem Visit.owes_iff {v : Visit} {side : Side} :
    v.owes side = true ↔
      ∃ g, v.arrival = .last g ∧ Side.ofNumber g = side ∧ v.stage.served = false := by
  unfold owes Arrival.owes
  cases v.arrival <;> simp

/-- The arrivals of the open generation, if it is one of this side. -/
def begun (b : Barrier) (side : Side) : Nat :=
  if Side.ofGeneration b.generation = side then b.parties.toNat - b.missing.toNat else 0

theorem toNat_sub_one {n : UInt32} (pos : 0 < n.toNat) : (n - 1).toNat = n.toNat - 1 := by
  have one : (1 : UInt32) ≤ n := UInt32.le_iff_toNat_le.mpr pos
  rw [UInt32.toNat_sub_of_le _ _ one]
  rfl

theorem countIn_missing {b : Barrier} (pos : 0 < b.missing.toNat) :
    b.countIn.missing.toNat = b.missing.toNat - 1 := toNat_sub_one pos

theorem countOut_missing {b : Barrier} (room : b.missing.toNat < b.parties.toNat) :
    b.countOut.missing.toNat = b.missing.toNat + 1 := by
  show (b.missing + 1).toNat = _
  have := b.parties.toNat_lt
  rw [UInt32.toNat_add, UInt32.toNat_one]
  omega

theorem missing_of_countIn_eq_zero {b : Barrier} (pos : 0 < b.missing.toNat)
    (complete : b.countIn.missing = 0) : b.missing.toNat = 1 := by
  have := countIn_missing pos
  rw [complete, UInt32.toNat_zero] at this
  omega

theorem Side.other_ne (side : Side) : side.other ≠ side := by cases side <;> nofun

theorem value_setGate (b : Barrier) (side side' : Side) (s : Semaphore) :
    ((b.setGate side s).gate side').value =
      if side = side' then s.value else (b.gate side').value := by
  by_cases same : side = side'
  · rw [if_pos same, same, gate_setGate_self]
  · rw [if_neg same, gate_setGate_of_ne _ _ (Ne.symm same)]

theorem begun_of_number {b : Barrier} {n : Nat} (hk : b.generation = .ofNat n) (side : Side) :
    b.begun side =
      if Side.ofNumber n = side then b.parties.toNat - b.missing.toNat else 0 := by
  unfold begun
  rw [hk]
  rfl

theorem begun_setGate (b : Barrier) (side side' : Side) (s : Semaphore) :
    (b.setGate side s).begun side' = b.begun side' := by
  unfold begun
  rw [generation_setGate, parties_setGate, missing_setGate]

theorem begun_countIn {b : Barrier} {n : Nat} (hk : b.generation = .ofNat n)
    (pos : 0 < b.missing.toNat) (le : b.missing.toNat ≤ b.parties.toNat) (side : Side) :
    b.countIn.begun side = b.begun side + if Side.ofNumber n = side then 1 else 0 := by
  rw [begun_of_number hk, begun_of_number (b := b.countIn) hk, countIn_missing pos]
  show (if Side.ofNumber n = side then b.parties.toNat - _ else 0) = _
  split <;> omega

theorem begun_countOut {b : Barrier} {n : Nat} (hk : b.generation = .ofNat n)
    (room : b.missing.toNat < b.parties.toNat) (side : Side) :
    b.begun side = b.countOut.begun side + if Side.ofNumber n = side then 1 else 0 := by
  rw [begun_of_number hk, begun_of_number (b := b.countOut) hk, countOut_missing room]
  show _ = (if Side.ofNumber n = side then b.parties.toNat - _ else 0) + _
  split <;> omega

theorem begun_trip (b : Barrier) (side : Side) : b.trip.begun side = 0 := by
  show (if _ then b.parties.toNat - b.parties.toNat else 0) = 0
  rw [Nat.sub_self, ite_self]

/-! ## Every deed balances -/

variable {k k' : Nat} {b b' : Barrier} {w w' : Wait} {a a' : Arrival}

/-- A thread that is no longer where it was neither owes nor is owed anything new, unless its deed
moves a unit or an arrival; then the two sides of the ledger move together. -/
theorem Deed.balance (h : Deed k b w a k' b' w' a') (hk : b.generation = .ofNat k)
    (pos : 0 < b.missing.toNat) (le : b.missing.toNat ≤ b.parties.toNat)
    (room : ∀ n, a = .counted n → a' = .withdrawn n k → b.missing.toNat < b.parties.toNat)
    (side : Side) :
    (b'.gate side).value.toNat + (b.parties.toNat - 1) * (a'.owes side w'.served).toNat +
        b'.begun side + (a.awaits side w.served).toNat =
      (b.gate side).value.toNat + (b.parties.toNat - 1) * (a.owes side w.served).toNat +
        b.begun side + (a'.awaits side w'.served).toNat := by
  cases h with
  | passes same => rw [same]
  | locks _ _ _ same =>
    rw [same, gate_lock]
    rfl
  | unlocks _ _ same =>
    rw [same, gate_unlock]
    rfl
  | arrives due _ _ _ unserved _ =>
    subst due
    rw [gate_countIn, begun_countIn hk pos le, unserved]
    by_cases here : Side.ofNumber k = side <;>
      simp [Arrival.owes, Arrival.awaits, here, Nat.add_assoc]
  | trips due _ _ _ unserved complete =>
    -- the arrivals of the generation become a debt of its last one
    subst due
    have one := missing_of_countIn_eq_zero pos complete
    rw [gate_trip, gate_countIn, begun_trip, begun_of_number hk, one, unserved]
    by_cases here : Side.ofNumber k = side <;> simp [Arrival.owes, Arrival.awaits, here]
  | @posts _ n s last _ _ unserved served posted =>
    subst last
    have others : (b.parties - 1).toNat = b.parties.toNat - 1 :=
      toNat_sub_one (Nat.le_trans pos le)
    have value := Semaphore.post_toNat posted
    rw [value_setGate, begun_setGate, unserved, served]
    by_cases here : Side.ofNumber n = side
    · subst here
      simp only [Arrival.owes, Arrival.awaits, if_true, decide_true, Bool.not_true, Bool.not_false,
        Bool.and_false, Bool.and_true, Bool.toNat_false, Bool.toNat_true, value, others]
      omega
    · simp [Arrival.owes, Arrival.awaits, here]
  | @takes _ n counted _ _ unserved served unit =>
    subst counted
    have positive : 0 < (b.gate (Side.ofNumber n)).value.toNat := UInt32.lt_iff_toNat_lt.mp unit
    have value := toNat_sub_one positive
    rw [value_setGate, begun_setGate, unserved, served]
    by_cases here : Side.ofNumber n = side
    · subst here
      simp only [Arrival.owes, Arrival.awaits, if_true, decide_true, Bool.not_true, Bool.not_false,
        Bool.and_false, Bool.and_true, Bool.toNat_false, Bool.toNat_true, value]
      omega
    · simp [Arrival.owes, Arrival.awaits, here]
  | @retracts _ n counted _ _ unserved _ same =>
    subst counted
    rw [gate_countOut, begun_countOut same (room n rfl rfl), unserved]
    by_cases here : Side.ofNumber n = side <;> simp [Arrival.owes, Arrival.awaits, here]
    omega

/-- What a deed does to the count: the missing and those counted are as many as before, unless it
was the last arrival; then all are missing again. -/
theorem Deed.missing (h : Deed k b w a k' b' w' a') (pos : 0 < b.missing.toNat)
    (room : ∀ n, a = .counted n → a' = .withdrawn n k →
      n = k ∧ b.missing.toNat < b.parties.toNat) :
    0 < b'.missing.toNat ∧
      (k' = k ∧ b'.missing.toNat + (a'.countedIn k).toNat =
        b.missing.toNat + (a.countedIn k).toNat) ∨
    (k' = k + 1 ∧ b'.missing = b.parties ∧ a' = .last k) := by
  cases h with
  | arrives due _ _ _ _ incomplete =>
    subst due
    have fewer := countIn_missing pos
    have still : b.countIn.missing.toNat ≠ 0 := fun zero => incomplete (UInt32.toNat_inj.mp zero)
    refine .inl ⟨by omega, rfl, ?_⟩
    simp [Arrival.countedIn]
    omega
  | trips => exact .inr ⟨rfl, rfl, rfl⟩
  | @retracts _ n counted _ _ _ _ _ =>
    subst counted
    obtain ⟨rfl, fewer⟩ := room n rfl rfl
    have more := countOut_missing fewer
    refine .inl ⟨by omega, rfl, ?_⟩
    simp [Arrival.countedIn]
    omega
  | posts | takes => exact .inl ⟨by rwa [missing_setGate], rfl, by rw [missing_setGate]⟩
  | _ => exact .inl ⟨pos, rfl, rfl⟩

theorem Deed.withdrawn_eq {n during : Nat} (h : Deed k b w (.withdrawn n during) k' b' w' a') :
    a' = .withdrawn n during := by
  rcases h.arrival_cases with ⟨-, same⟩ | ⟨-, due, -⟩ | ⟨-, due, -⟩ | ⟨_, -, counted, -⟩
  · exact same
  · cases due
  · cases due
  · cases counted

end Barrier

open Barrier

namespace Crowd

/-! ## Counting visits -/

theorem countP_after {s : Crowd} {i : Nat} {v : Visit} (p : Visit → Bool) (turn : Wait.Turn)
    (hv : s.visits[i]? = some v) :
    (s.after i v turn).visits.countP p + (p v).toNat =
      s.visits.countP p + (p (v.enter s.trips turn.stage)).toNat :=
  countP_set_add p _ hv

theorem countP_after_eq {s : Crowd} {i : Nat} {v : Visit} {p : Visit → Bool} {turn : Wait.Turn}
    (hv : s.visits[i]? = some v) (same : p (v.enter s.trips turn.stage) = p v) :
    (s.after i v turn).visits.countP p = s.visits.countP p := by
  have change := countP_after p turn hv
  rw [same] at change
  exact Nat.add_right_cancel change

theorem countP_begin {visits : List Visit} {thread : Nat} {p : Visit → Bool}
    (due : p { thread := thread } = false) :
    (visits ++ [({ thread := thread } : Visit)]).countP p = visits.countP p := by
  simp [List.countP_append, due]

/-! ## Punctual crowds -/

/-- Whoever took an arrival back did so while the generation it was counted in was open. -/
def Punctual (s : Crowd) : Prop :=
  ∀ v ∈ s.visits, ∀ n during, v.arrival = .withdrawn n during → n = during

/-- Nobody is late before the barrier's counter has started over. -/
theorem Register.punctual {s : Crowd} (h : Register s) (few : s.trips < UInt64.size) :
    s.Punctual := by
  intro v hv n during withdrawn
  have past := h.past v hv
  rw [withdrawn] at past
  obtain ⟨le, le', same⟩ := past
  -- neither number has been passed by the counter, so they are told apart by it
  have := congrArg UInt64.toNat same
  rwa [UInt64.toNat_ofNat_of_lt' (Nat.lt_of_le_of_lt (Nat.le_trans le le') few),
    UInt64.toNat_ofNat_of_lt' (Nat.lt_of_le_of_lt le' few)] at this

/-- A crowd that is punctual now always was. -/
theorem Register.punctual_of_step {rules : Rules} {s t : Crowd} {m : Move} (h : Register s)
    (move : s.step rules m = some t) (later : t.Punctual) : s.Punctual := by
  intro v hv n during withdrawn
  obtain ⟨i, hi⟩ := List.mem_iff_getElem?.mp hv
  obtain ⟨w, hw, next⟩ := visit_next move hi
  refine later w (List.mem_of_getElem? hw) n during ?_
  rcases next with rfl | ⟨fault, turn, hturn, rfl, rfl⟩
  · exact withdrawn
  · have deed := h.deed hi hturn
    rw [withdrawn] at deed
    show v.arrival.entering s.trips turn.stage = _
    rw [withdrawn]
    exact deed.withdrawn_eq

/-! ## The ledger -/

structure Ledger (s : Crowd) : Prop where
  /-- The last one is always missing. -/
  missing_pos : 0 < s.barrier.missing.toNat
  /-- Whoever is not missing has been counted in. -/
  arrived : s.barrier.parties.toNat =
    s.barrier.missing.toNat + s.visits.countP (Visit.countedIn s.trips)
  /-- Units, units to be posted, and arrivals of the open generation are what is owed. -/
  balance : ∀ side, (s.barrier.gate side).value.toNat +
      (s.barrier.parties.toNat - 1) * s.visits.countP (Visit.owes side) + s.barrier.begun side =
    s.visits.countP (Visit.awaits side)

theorem Ledger.around {parties : UInt32} {b : Barrier} (new : Pristine parties b)
    (settings : Nat → Cancellation) : Ledger (around b settings) where
  missing_pos := by
    show 0 < b.missing.toNat
    rw [new.missing]
    exact new.parties_pos
  arrived := by
    show b.parties.toNat = b.missing.toNat
    rw [new.missing, new.parties_eq]
  balance side := by
    show (b.gate side).value.toNat + (b.parties.toNat - 1) * 0 + b.begun side = 0
    unfold Barrier.begun
    simp [new.empty, new.missing, new.parties_eq]

theorem Ledger.begin {s : Crowd} (h : Ledger s) (thread : Nat) :
    Ledger { s with visits := s.visits ++ [{ thread := thread }] } where
  missing_pos := h.missing_pos
  arrived := by rw [countP_begin rfl]; exact h.arrived
  balance side := by rw [countP_begin rfl, countP_begin rfl]; exact h.balance side

/-- Whoever turns back in time takes back an arrival that the count has. -/
theorem Ledger.room {s : Crowd} (h : Ledger s) {i : Nat} {v : Visit} {turn : Wait.Turn}
    (hv : s.visits[i]? = some v) (punctual : (s.after i v turn).Punctual) :
    ∀ n, v.arrival = .counted n → v.arrival.entering s.trips turn.stage = .withdrawn n s.trips →
      n = s.trips ∧ s.barrier.missing.toNat < s.barrier.parties.toNat := by
  intro n counted withdrawn
  have there : v.enter s.trips turn.stage ∈ (s.after i v turn).visits :=
    List.mem_set (List.getElem?_eq_some_iff.mp hv).1 _
  have same : n = s.trips := punctual _ there n s.trips withdrawn
  have present : 0 < s.visits.countP (Visit.countedIn s.trips) :=
    List.countP_pos_iff.mpr ⟨v, List.mem_of_getElem? hv, Visit.countedIn_iff.mpr (same ▸ counted)⟩
  have := h.arrived
  exact ⟨same, by omega⟩

theorem Ledger.after {s : Crowd} (h : Ledger s) (r : Register s) {i : Nat}
    {fault : Option PrimitiveError} {v : Visit} {turn : Wait.Turn} (hv : s.visits[i]? = some v)
    (hturn : v.stage.step s.barrier (s.settings v.thread) fault = some turn)
    (punctual : (s.after i v turn).Punctual) : Ledger (s.after i v turn) := by
  have deed := r.deed hv hturn
  have room := h.room hv punctual
  have parties : (s.after i v turn).barrier.parties = s.barrier.parties := deed.parties_eq
  have count := countP_after (Visit.countedIn s.trips) turn hv
  have arrived := h.arrived
  have pos := h.missing_pos
  refine ⟨?_, ?_, fun side => ?_⟩
  · rcases deed.missing pos room with ⟨pos', -⟩ | ⟨-, all, -⟩
    · exact pos'
    · rw [all]
      omega
  · rw [parties]
    rcases deed.missing pos room with ⟨-, trips, change⟩ | ⟨trips, all, last⟩
    · rw [trips]
      unfold Visit.countedIn at count arrived ⊢
      simp only [Visit.enter] at count
      omega
    · -- the new generation has no arrival yet
      have before : s.visits.countP (Visit.countedIn (s.trips + 1)) = 0 := by
        refine List.countP_eq_zero.mpr fun w hw counted => ?_
        have past := r.past w hw
        unfold Visit.countedIn Arrival.countedIn at counted
        split at counted
        · next arrival =>
          rw [arrival, of_decide_eq_true counted] at past
          exact absurd past (Nat.not_succ_le_self _)
        · cases counted
      have fresh : Visit.countedIn (s.trips + 1) (v.enter s.trips turn.stage) = false := by
        simp [Visit.countedIn, Visit.enter, last, Arrival.countedIn]
      have count := countP_after (Visit.countedIn (s.trips + 1)) turn hv
      rw [before, fresh, Bool.toNat_false] at count
      rw [trips, all]
      omega
  · have balance := h.balance side
    have change := deed.balance r.generation pos (by omega) (fun n c w => (room n c w).2) side
    -- each count changes by what the one visit changes, which is what the deed balances
    have awaits := countP_after (Visit.awaits side) turn hv
    have owes := congrArg ((s.barrier.parties.toNat - 1) * ·)
      (countP_after (Visit.owes side) turn hv)
    simp only [Nat.mul_add] at owes
    rw [parties]
    unfold Visit.awaits at awaits balance ⊢
    unfold Visit.owes at owes balance ⊢
    simp only [Visit.enter] at awaits owes
    omega

theorem Ledger.step {rules : Rules} {s t : Crowd} {m : Move} (h : Ledger s) (r : Register s)
    (move : s.step rules m = some t) (punctual : t.Punctual) : Ledger t := by
  rcases step_cases move with ⟨thread, -, -, rfl⟩ | ⟨thread, c, -, rfl⟩ |
    ⟨i, fault, v, turn, hv, -, hturn, rfl⟩
  · exact h.begin thread
  · exact ⟨h.missing_pos, h.arrived, h.balance⟩
  · exact h.after r hv hturn punctual

theorem Ledger.of_reaches {rules : Rules} {parties : UInt32} {b : Barrier}
    {settings : Nat → Cancellation} {s : Crowd} (new : Pristine parties b)
    (run : Schedule.Reaches (Crowd.step rules) (Crowd.around b settings) s)
    (punctual : s.Punctual) : Ledger s := by
  induction run with
  | refl => exact .around new settings
  | tail m run move ih =>
    -- being punctual is asked of the last state only, so it has to be carried back
    have r := Register.of_reaches new run
    exact (ih (r.punctual_of_step move punctual)).step r move punctual

theorem Ledger.missing_le {s : Crowd} (h : Ledger s) :
    s.barrier.missing.toNat ≤ s.barrier.parties.toNat := by
  have := h.arrived
  omega

/-- Where somebody still owes units, all the others of a generation are owed theirs. -/
theorem Ledger.others_le_awaits {s : Crowd} (h : Ledger s) {v : Visit} (hv : v ∈ s.visits)
    {side : Side} (owes : v.owes side = true) :
    (s.barrier.gate side).value.toNat + (s.barrier.parties.toNat - 1) ≤
      s.visits.countP (Visit.awaits side) := by
  have balance := h.balance side
  have owed : 0 < s.visits.countP (Visit.owes side) := List.countP_pos_iff.mpr ⟨v, hv, owes⟩
  have enough : s.barrier.parties.toNat - 1 ≤
      (s.barrier.parties.toNat - 1) * s.visits.countP (Visit.owes side) :=
    Nat.le_mul_of_pos_right _ owed
  omega

/-- Where nobody is owed anything, nothing is left. -/
theorem Ledger.settled {s : Crowd} (h : Ledger s)
    (nobody : ∀ side, s.visits.countP (Visit.awaits side) = 0) :
    s.barrier.waiting = 0 ∧ s.barrier.units = [0, 0] := by
  have empty : ∀ side, (s.barrier.gate side).value = 0 ∧ s.barrier.begun side = 0 := by
    intro side
    have balance := h.balance side
    rw [nobody] at balance
    exact ⟨UInt32.toNat_inj.mp (by rw [UInt32.toNat_zero]; omega), by omega⟩
  constructor
  · have zero : s.barrier.parties.toNat - s.barrier.missing.toNat = 0 := by
      have := (empty (Side.ofGeneration s.barrier.generation)).2
      unfold Barrier.begun at this
      rwa [if_pos rfl] at this
    have all : s.barrier.missing = s.barrier.parties :=
      UInt32.toNat_inj.mp (by have := h.missing_le; omega)
    unfold Barrier.waiting
    rw [all, UInt32.sub_self]
  · show [(s.barrier.gate .even).value, (s.barrier.gate .odd).value] = [0, 0]
    rw [(empty .even).1, (empty .odd).1]

/-! ## When nothing fails -/

/-- No post was refused. -/
def PostsFit (s : Crowd) : Prop := ∀ v ∈ s.visits, v.refused = false

instance (s : Crowd) : Decidable s.PostsFit :=
  inferInstanceAs (Decidable (∀ v ∈ s.visits, v.refused = false))

/-- A turn in which nothing is made to fail is refused only if it is a post that does not fit. -/
theorem Register.not_refused {s : Crowd} (h : Register s) {v : Visit} {turn : Wait.Turn}
    (hv : v ∈ s.visits) (hturn : v.stage.step s.barrier (s.settings v.thread) none = some turn)
    (fits : ∀ n, v.arrival = .last n → v.stage.served = false →
      ∃ t, (s.barrier.gate (Side.ofNumber n)).post (s.barrier.parties - 1) = .ok t) :
    (v.enter s.trips turn.stage).refused = false := by
  unfold Visit.refused
  split
  · next n e last failed =>
    have failed : turn.stage = .finished (.error e) := failed
    have same : v.arrival = .last n := by
      change v.arrival.entering s.trips turn.stage = .last n at last
      rwa [failed] at last
    rcases Wait.arrival_of_error (h.agrees v hv) hturn failed with
      ⟨-, m, during, withdrawn⟩ | ⟨m, last, post⟩
    · cases same.symm.trans withdrawn
    · obtain ⟨t, posted⟩ := fits m last (by rw [post]; rfl)
      rw [post] at hturn
      simp only [Wait.step, show Side.ofGeneration (.ofNat m) = Side.ofNumber m from rfl,
        posted] at hturn
      obtain rfl := Option.some.inj hturn
      cases failed
  · rfl

theorem PostsFit.after {s : Crowd} (h : s.PostsFit) {i : Nat} {v : Visit} {turn : Wait.Turn}
    (fits : (v.enter s.trips turn.stage).refused = false) : (s.after i v turn).PostsFit := by
  intro w hw
  rcases List.mem_or_eq_of_mem_set hw with old | rfl
  · exact h w old
  · exact fits

theorem PostsFit.begin {s : Crowd} (h : s.PostsFit) (thread : Nat) :
    PostsFit { s with visits := s.visits ++ [{ thread := thread }] } := by
  intro v hv
  rcases List.mem_append.mp hv with old | new
  · exact h v old
  · rw [List.mem_singleton.mp new]
    rfl

/-- Whoever is owed a unit and has not failed is still inside. -/
theorem inside_of_awaits {v : Visit} {side : Side} (excused : Excused v)
    (h : v.awaits side = true) : v.inside = true := by
  unfold Visit.inside
  cases stage : v.stage with
  | finished r =>
    unfold Visit.awaits Arrival.awaits at h
    split at h
    · next counted =>
      rcases r with e | outcome
      · rcases excused e stage with ⟨-, n, during, other⟩ | ⟨n, other⟩ <;>
          cases counted.symm.trans other
      · rw [stage] at h
        simp [Wait.served] at h
    · cases h
  | _ => rfl

/-- So is whoever owes units, unless its post was refused. -/
theorem inside_of_owes {s : Crowd} {v : Visit} {side : Side} (hv : v ∈ s.visits)
    (fit : s.PostsFit) (h : v.owes side = true) : v.inside = true := by
  unfold Visit.inside
  cases stage : v.stage with
  | finished r =>
    unfold Visit.owes Arrival.owes at h
    split at h
    · next last =>
      rcases r with e | outcome
      · have := fit v hv
        simp [Visit.refused, last, stage] at this
      · rw [stage] at h
        simp [Wait.served] at h
    · cases h
  | _ => rfl

theorem countP_inside_and {visits : List Visit} {p : Visit → Bool}
    (h : ∀ v ∈ visits, p v = true → v.inside = true) :
    visits.countP (fun v => v.inside && p v) = visits.countP p :=
  List.countP_congr fun v hv => by
    rw [Bool.and_eq_true]
    exact ⟨And.right, fun hp => ⟨h v hv hp, hp⟩⟩

/-- Without failures the ledger is a matter of those inside alone. On each side the units at the
gate, those that a last one is still to post, and the arrivals of the open generation are as many
as the threads inside that are owed one. So nothing is left when everybody has left. -/
theorem units_conserved {supply : Supply} {parties : UInt32} {b : Barrier}
    {settings : Nat → Cancellation} {s : Crowd} (delivered : Delivered supply parties b)
    (listening : supply.rule = .whileBlocked)
    (run : Schedule.Reaches (Crowd.step {}) (Crowd.around b settings) s)
    (fit : s.PostsFit) (few : s.trips < UInt64.size) :
    s.barrier.missing.toNat ≤ parties.toNat ∧
      (∀ side, (s.barrier.gate side).value.toNat +
          (parties.toNat - 1) * s.visits.countP (fun v => v.inside && v.owes side) +
          (if Side.ofGeneration s.barrier.generation = side then
            parties.toNat - s.barrier.missing.toNat else 0) =
        s.visits.countP (fun v => v.inside && v.awaits side)) ∧
      (s.inside = 0 → s.barrier.waiting = 0 ∧ s.barrier.units = [0, 0]) := by
  have new := delivered.pristine listening
  have r := Register.of_reaches new run
  have ledger := Ledger.of_reaches new run (r.punctual few)
  have excused := excused_of_reaches new (fun _ => rfl) run
  have parties_eq := parties_of_reaches new run
  have awaits : ∀ side, s.visits.countP (fun v => v.inside && v.awaits side) =
      s.visits.countP (Visit.awaits side) := fun side =>
    countP_inside_and fun v hv => inside_of_awaits (excused v hv)
  have owes : ∀ side, s.visits.countP (fun v => v.inside && v.owes side) =
      s.visits.countP (Visit.owes side) := fun side =>
    countP_inside_and fun v hv => inside_of_owes hv fit
  refine ⟨parties_eq ▸ ledger.missing_le, fun side => ?_, fun nobody => ?_⟩
  · rw [awaits, owes, ← parties_eq]
    exact ledger.balance side
  · refine ledger.settled fun side => ?_
    rw [← awaits, ← Nat.le_zero, ← nobody]
    exact List.countP_mono_left fun v _ h => (Bool.and_eq_true _ _ ▸ h).1

/-- Nobody has come yet to a barrier for two, and everybody may be stopped while asleep. -/
def pair : Crowd :=
  around (fresh 2 false ({} : Supply).gate ({} : Supply).gate) fun _ => { type := .asynchronous }

/-- The first of two is asked to stop while it sleeps. When it gets the lock to take its arrival
back, the second has tripped the barrier, and has not posted yet. -/
def overtaking : List Move :=
  [.begin 0] ++ Move.goes 0 7 ++ [.request 0] ++ Move.goes 0 3 ++
    [.begin 1] ++ Move.goes 1 4 ++ Move.goes 0 3

theorem units_conserved_overtaking :
    ∃ s, Schedule.Reaches (Crowd.step {}) pair s ∧ s.PostsFit ∧ s.trips < UInt64.size ∧
      s.inside = 2 ∧ s.barrier.missing.toNat ≤ 2 ∧
      (∀ side, (s.barrier.gate side).value.toNat +
          (2 - 1) * s.visits.countP (fun v => v.inside && v.owes side) +
          (if Side.ofGeneration s.barrier.generation = side then
            2 - s.barrier.missing.toNat else 0) =
        s.visits.countP (fun v => v.inside && v.awaits side)) := by
  have run := Schedule.reaches_get
    (show (Schedule.run (Crowd.step {}) pair overtaking).isSome by decide)
  have new : Delivered {} 2 pair.barrier := delivered_fresh (by decide) (by decide) rfl
  have kept := units_conserved new rfl run (by decide) (by decide)
  exact ⟨_, run, by decide, by decide, by decide, kept.1, kept.2.1⟩

end Crowd

end Rendezvous
