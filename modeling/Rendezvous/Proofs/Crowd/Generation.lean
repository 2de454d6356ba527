import Rendezvous.Proofs.Crowd.Serial

/-!
# One generation at a time

Suppose that never more threads are inside than make up a generation. The last one of a generation
then finds all the others of it inside, since nobody of them could leave without a unit, and nobody
else, since there is no room. This is the whole argument: at the moment a generation ends, those
inside are exactly those that were counted in it (`Convoy.all_stand`). Whoever was still asleep in
an older generation would take up room, so nobody is.

What follows is what one expects of a barrier. Everybody inside stands in the open generation or in
the one before (`Convoy.near`), and these use different gates; so a gate's units are never mixed,
the gate of the open generation is empty (`Convoy.open_gate_empty`), and so is that of the one
before until its last one posts (`Convoy.gate_empty_of_owes`), so that its post fits.

The counter may start over without harm: a thread that turns back compares two numbers that lie
next to each other or are the same.

## Main statements

* `Convoy.of_reaches`: the invariant, for all schedules in which nothing is made to fail.
* `released_after_trip`: nobody gets through before its generation has ended, and when it ends all
  of it are inside, and each gets the outcome that is meant for it.
-/

set_option autoImplicit false

namespace Rendezvous

theorem Semaphore.post_of_empty {s : Semaphore} {count : UInt32} (empty : s.value = 0)
    (le : count.toNat ≤ maxValue.toNat) : ∃ t, s.post count = .ok t := by
  refine ⟨_, if_pos (.inl ?_)⟩
  rw [empty, UInt32.toNat_zero, Nat.zero_add]
  exact le

namespace Barrier

theorem Visit.standsIn_iff {v : Visit} {g : Nat} :
    v.standsIn g = true ↔ v.arrival = .counted g ∨ v.arrival = .last g := by
  simp [standsIn]

theorem Visit.number_unique {v : Visit} {g k : Nat} (hg : v.standsIn g = true)
    (hk : v.standsIn k = true) : g = k := by
  rcases standsIn_iff.mp hg with hg | hg <;> rcases standsIn_iff.mp hk with hk | hk <;>
    cases hg.symm.trans hk <;> rfl

/-- Nobody of the open generation gets a unit as long as its gate is empty. -/
theorem Deed.pending {k k' : Nat} {b b' : Barrier} {w w' : Wait} {a a' : Arrival}
    (h : Deed k b w a k' b' w' a') (empty : (b.gate (Side.ofNumber k)).value = 0)
    (before : a = .counted k → w.served = false) (after : a' = .counted k') :
    w'.served = false := by
  cases h with
  | passes same => exact same.trans (before after)
  | locks _ _ _ same | unlocks _ _ same => exact same.trans (before after)
  | arrives _ _ _ _ unserved => exact unserved
  | trips => cases after
  | posts last => cases last.symm.trans after
  | @takes _ n counted _ _ _ _ unit =>
    obtain rfl : n = k := by cases counted.symm.trans after; rfl
    rw [empty] at unit
    exact absurd unit (by decide)
  | retracts => cases after

end Barrier

open Barrier

namespace Crowd

/-- No more threads are admitted than make up a generation. -/
def Rules.Confines (rules : Rules) (parties : UInt32) : Prop :=
  ∀ n, rules.admits n = true → n < parties.toNat

theorem Rules.confines_upTo {parties : UInt32} {room : Nat} (le : room ≤ parties.toNat) :
    (Rules.upTo room).Confines parties :=
  fun _ admits => Nat.lt_of_lt_of_le (of_decide_eq_true admits) le

/-- What holds as long as no more threads are inside than make up a generation, and nothing is made
to fail. -/
structure Convoy (s : Crowd) : Prop where
  register : Register s
  ledger : Ledger s
  punctual : s.Punctual
  excused : ∀ v ∈ s.visits, Excused v
  fit : s.PostsFit
  parties_le : s.barrier.parties.toNat ≤ Semaphore.maxValue.toNat
  room : s.inside ≤ s.barrier.parties.toNat
  /-- Whoever is inside stands in the open generation, in the one before, or in none yet. -/
  near : ∀ v ∈ s.visits, v.inside = true → ∀ g, v.standsIn g = true → s.trips ≤ g + 1
  /-- Nobody of the open generation has got a unit. -/
  pending : ∀ v ∈ s.visits, v.arrival = .counted s.trips → v.stage.served = false

namespace Convoy

variable {s : Crowd}

/-! ## What the ledger says of a convoy -/

/-- The threads that are owed a unit of one side stand in one generation, the open one or the one
before. -/
theorem arrival_of_awaits (h : Convoy s) {v : Visit} (hv : v ∈ s.visits) {side : Side}
    (awaits : v.awaits side = true) :
    v.arrival = .counted (if Side.ofNumber s.trips = side then s.trips else s.trips - 1) := by
  obtain ⟨g, counted, here, -⟩ := Visit.awaits_iff.mp awaits
  have le : s.trips ≤ g + 1 := h.near v hv (inside_of_awaits (h.excused v hv) awaits) g
    (Visit.standsIn_iff.mpr (.inl counted))
  have le' : g ≤ s.trips := by simpa [counted, Arrival.Past] using h.register.past v hv
  rcases Nat.lt_or_ge g s.trips with earlier | later
  · have next : s.trips = g + 1 := by omega
    have other : Side.ofNumber s.trips ≠ side := by
      rw [next, Side.ofNumber_add_one, ← here]
      exact Side.other_ne _
    rw [if_neg other, counted, next, Nat.add_sub_cancel]
  · have same : g = s.trips := Nat.le_antisymm le' later
    rw [if_pos (same ▸ here), counted, same]

theorem open_gate_empty (h : Convoy s) :
    (s.barrier.gate (Side.ofNumber s.trips)).value = 0 := by
  have balance := h.ledger.balance (Side.ofNumber s.trips)
  have arrived := h.ledger.arrived
  have begun : s.barrier.begun (Side.ofNumber s.trips) =
      s.barrier.parties.toNat - s.barrier.missing.toNat :=
    (begun_of_number h.register.generation _).trans (if_pos rfl)
  -- on this side the arrivals are all that is owed
  have few : s.visits.countP (Visit.awaits (Side.ofNumber s.trips)) ≤
      s.visits.countP (Visit.countedIn s.trips) :=
    List.countP_mono_left fun v hv awaits => by
      rw [Visit.countedIn_iff, h.arrival_of_awaits hv awaits, if_pos rfl]
  exact UInt32.toNat_inj.mp (by rw [UInt32.toNat_zero]; omega)

/-- As long as somebody has not posted, there is no unit at its gate. -/
theorem gate_empty_of_owes (h : Convoy s) {v : Visit} (hv : v ∈ s.visits) {side : Side}
    (owes : v.owes side = true) : (s.barrier.gate side).value = 0 := by
  have room : s.visits.countP (Visit.awaits side) + s.visits.countP (Visit.owes side) ≤
      s.barrier.parties.toNat := by
    refine Nat.le_trans (countP_add_le (fun w hw => inside_of_awaits (h.excused w hw)) ?_) h.room
    intro w hw owing
    obtain ⟨g, last, -⟩ := Visit.owes_iff.mp owing
    exact ⟨inside_of_owes hw h.fit owing, by simp [Visit.awaits, Arrival.awaits, last]⟩
  -- the debt of `v` alone is owed to all the others there is room for
  have owed : 0 < s.visits.countP (Visit.owes side) := List.countP_pos_iff.mpr ⟨v, hv, owes⟩
  have enough := h.ledger.others_le_awaits hv owes
  exact UInt32.toNat_inj.mp (by rw [UInt32.toNat_zero]; omega)

theorem post_ok (h : Convoy s) {v : Visit} (hv : v ∈ s.visits) {n : Nat}
    (last : v.arrival = .last n)
    (unserved : v.stage.served = false) :
    ∃ t, (s.barrier.gate (Side.ofNumber n)).post (s.barrier.parties - 1) = .ok t := by
  have empty := h.gate_empty_of_owes hv (Visit.owes_iff.mpr ⟨n, last, rfl, unserved⟩)
  refine Semaphore.post_of_empty empty ?_
  rw [toNat_sub_one (Nat.le_trans h.ledger.missing_pos h.ledger.missing_le)]
  exact Nat.le_trans (Nat.sub_le _ _) h.parties_le

/-- The counter tells the open generation from the one before, also where it starts over. -/
theorem number_of_generation (h : Convoy s) {v : Visit} (hv : v ∈ s.visits)
    (inside : v.inside = true) {n : Nat} (counted : v.arrival = .counted n)
    (same : s.barrier.generation = .ofNat n) : n = s.trips := by
  have le := h.near v hv inside n (Visit.standsIn_iff.mpr (.inl counted))
  have le' : n ≤ s.trips := by simpa [counted, Arrival.Past] using h.register.past v hv
  have same : UInt64.ofNat s.trips = .ofNat n := h.register.generation.symm.trans same
  rcases Nat.lt_or_ge n s.trips with earlier | later
  · -- two neighbours never show as the same number
    have next : s.trips = n + 1 := by omega
    have := congrArg UInt64.toNat same
    rw [next, UInt64.toNat_ofNat', UInt64.toNat_ofNat'] at this
    omega
  · exact Nat.le_antisymm le' later

/-! ## Every turn keeps a convoy -/

/-- The turn that ends a generation does not end the visit. -/
theorem stays_of_ends {i : Nat} {v : Visit} {turn : Wait.Turn}
    (ends : (s.after i v turn).trips = s.trips + 1) :
    turn.stage.isOver = false ∧ turn.stage.served = false := by
  change (if turn.stage.endsGeneration then s.trips + 1 else s.trips) = s.trips + 1 at ends
  cases stage : turn.stage with
  | trip g => exact ⟨rfl, rfl⟩
  | _ => simp [stage, Wait.endsGeneration] at ends

theorem room_after (h : Convoy s) {i : Nat} {v : Visit} {turn : Wait.Turn}
    (hv : s.visits[i]? = some v) (inside : v.inside = true) :
    (s.after i v turn).inside ≤ s.barrier.parties.toNat := by
  have change := countP_after Visit.inside turn hv
  rw [inside, Bool.toNat_true] at change
  have := Bool.toNat_le (v.enter s.trips turn.stage).inside
  have := h.room
  unfold Crowd.inside at this ⊢
  omega

/-- The open generation has no last one yet. -/
theorem stands_open (h : Convoy s) {w : Visit} (hw : w ∈ s.visits) :
    w.standsIn s.trips = true ↔ w.arrival = .counted s.trips := by
  rw [Visit.standsIn_iff]
  refine ⟨fun stands => stands.resolve_right fun last => ?_, .inl⟩
  have past := h.register.past w hw
  rw [last] at past
  exact absurd past (Nat.lt_irrefl _)

/-- When a generation ends, all of it are inside and nobody else is. -/
theorem all_stand (h : Convoy s) {i : Nat} {v : Visit} {turn : Wait.Turn}
    (hv : s.visits[i]? = some v) (inside : v.inside = true)
    (ends : (s.after i v turn).trips = s.trips + 1) (complete : s.barrier.countIn.missing = 0)
    (due : v.arrival = .due) (last : v.arrival.entering s.trips turn.stage = .last s.trips) :
    (s.after i v turn).visits.countP (Visit.standsIn s.trips) = s.barrier.parties.toNat ∧
      ∀ w ∈ (s.after i v turn).visits, w.inside = w.standsIn s.trips := by
  have there : turn.stage.isOver = false := (stays_of_ends ends).1
  have complete := missing_of_countIn_eq_zero h.ledger.missing_pos complete
  have before : s.visits.countP (Visit.standsIn s.trips) =
      s.visits.countP (Visit.countedIn s.trips) :=
    List.countP_congr fun w hw => (h.stands_open hw).trans Visit.countedIn_iff.symm
  have all : (s.after i v turn).visits.countP (Visit.standsIn s.trips) =
      s.barrier.parties.toNat := by
    have change := countP_after (Visit.standsIn s.trips) turn hv
    have arrived := h.ledger.arrived
    have one : (v.enter s.trips turn.stage).standsIn s.trips = true :=
      Visit.standsIn_iff.mpr (.inr last)
    have apart : v.standsIn s.trips = false := by simp [Visit.standsIn, due]
    rw [one, apart, Bool.toNat_true, Bool.toNat_false] at change
    omega
  have stay : ∀ w ∈ (s.after i v turn).visits, w.standsIn s.trips = true → w.inside = true := by
    intro w hw stands
    rcases List.mem_or_eq_of_mem_set hw with old | rfl
    · -- nobody gets through before the generation has ended
      have counted := (h.stands_open old).mp stands
      exact inside_of_awaits (h.excused w old)
        (Visit.awaits_iff.mpr ⟨s.trips, counted, rfl, h.pending w old counted⟩)
    · simp [Visit.inside, Visit.enter, there]
  have room : (s.after i v turn).visits.countP Visit.inside ≤ s.barrier.parties.toNat :=
    h.room_after hv inside
  refine ⟨all, fun w hw => Bool.eq_iff_iff.mpr ⟨fun inside => ?_, stay w hw⟩⟩
  -- one more inside would be one too many
  refine Decidable.byContradiction fun other => ?_
  have more := countP_add_le (q := fun v => v.inside && !v.standsIn s.trips) stay
    (fun x _ hx => by simpa using hx)
  have one : 0 < (s.after i v turn).visits.countP fun v => v.inside && !v.standsIn s.trips :=
    List.countP_pos_iff.mpr ⟨w, hw, by simp [inside, other]⟩
  omega

section

variable {i : Nat} {v : Visit} {turn : Wait.Turn}

/-- Whoever turns back does so in its own generation. -/
theorem punctual_after (h : Convoy s) (hv : s.visits[i]? = some v)
    (hturn : v.stage.step s.barrier (s.settings v.thread) none = some turn) :
    (s.after i v turn).Punctual := by
  intro w hw n during withdrawn
  have member := List.mem_of_getElem? hv
  rcases List.mem_or_eq_of_mem_set hw with old | rfl
  · exact h.punctual w old n during withdrawn
  · have deed := h.register.deed hv hturn
    have withdrawn : v.arrival.entering s.trips turn.stage = .withdrawn n during := withdrawn
    rw [withdrawn] at deed
    rcases deed.arrival_cases with ⟨-, same⟩ | ⟨-, -, other⟩ | ⟨-, -, other, -⟩ |
      ⟨m, -, counted, same, now⟩
    · exact h.punctual v member n during same.symm
    · cases other
    · cases other
    · cases same
      exact h.number_of_generation member (inside_of_step hturn) counted now

theorem fit_after (h : Convoy s) (hv : s.visits[i]? = some v)
    (hturn : v.stage.step s.barrier (s.settings v.thread) none = some turn) :
    (s.after i v turn).PostsFit :=
  h.fit.after (h.register.not_refused (List.mem_of_getElem? hv) hturn fun _ last unserved =>
    h.post_ok (List.mem_of_getElem? hv) last unserved)

theorem near_after (h : Convoy s) (hv : s.visits[i]? = some v)
    (hturn : v.stage.step s.barrier (s.settings v.thread) none = some turn) :
    ∀ w ∈ (s.after i v turn).visits, w.inside = true → ∀ g, w.standsIn g = true →
      (s.after i v turn).trips ≤ g + 1 := by
  intro w hw insidew g stands
  have inside : v.inside = true := inside_of_step hturn
  have old : ∀ w ∈ s.visits, w.inside = true → w.standsIn g = true →
      (s.after i v turn).trips = s.trips → (s.after i v turn).trips ≤ g + 1 :=
    fun w hw inside stands trips => trips ▸ h.near w hw inside g stands
  rcases (h.register.deed hv hturn).arrival_cases with ⟨trips, same⟩ | ⟨trips, -, new⟩ |
    ⟨trips, due, last, complete⟩ | ⟨_, trips, -, new, -⟩
  · rcases List.mem_or_eq_of_mem_set hw with hw | rfl
    · exact old w hw insidew stands trips
    · refine old v (List.mem_of_getElem? hv) inside ?_ trips
      simpa [Visit.standsIn, Visit.enter, same] using stands
  · rcases List.mem_or_eq_of_mem_set hw with hw | rfl
    · exact old w hw insidew stands trips
    · obtain rfl : s.trips = g := by simpa [Visit.standsIn, Visit.enter, new] using stands
      exact trips ▸ Nat.le_succ _
  · -- all that are inside stand in the generation that has just ended
    have here := (h.all_stand hv inside trips complete due last).2 w hw
    rw [insidew] at here
    exact Nat.le_of_eq (trips.trans (by rw [Visit.number_unique here.symm stands]))
  · rcases List.mem_or_eq_of_mem_set hw with hw | rfl
    · exact old w hw insidew stands trips
    · simp [Visit.standsIn, Visit.enter, new] at stands

theorem pending_after (h : Convoy s) (hv : s.visits[i]? = some v)
    (hturn : v.stage.step s.barrier (s.settings v.thread) none = some turn) :
    ∀ w ∈ (s.after i v turn).visits, w.arrival = .counted (s.after i v turn).trips →
      w.stage.served = false := by
  intro w hw counted
  have deed := h.register.deed hv hturn
  rcases List.mem_or_eq_of_mem_set hw with old | rfl
  · have past := h.register.past w old
    rw [counted] at past
    have le : (s.after i v turn).trips ≤ s.trips := past
    exact h.pending w old (counted.trans (by rw [Nat.le_antisymm le deed.le]))
  · exact deed.pending h.open_gate_empty (h.pending v (List.mem_of_getElem? hv)) counted

theorem after (h : Convoy s) (hv : s.visits[i]? = some v)
    (hturn : v.stage.step s.barrier (s.settings v.thread) none = some turn) :
    Convoy (s.after i v turn) := by
  have parties : (s.after i v turn).barrier.parties = s.barrier.parties :=
    (h.register.deed hv hturn).parties_eq
  have punctual := h.punctual_after hv hturn
  exact {
    register := h.register.after hv hturn
    ledger := h.ledger.after h.register hv hturn punctual
    punctual
    excused := h.register.excused_after hv hturn h.excused
    fit := h.fit_after hv hturn
    parties_le := by rw [parties]; exact h.parties_le
    room := by rw [parties]; exact h.room_after hv (inside_of_step hturn)
    near := h.near_after hv hturn
    pending := h.pending_after hv hturn }

end

theorem around {parties : UInt32} {b : Barrier} (new : Pristine parties b)
    (settings : Nat → Cancellation) : Convoy (around b settings) where
  register := .around new settings
  ledger := .around new settings
  punctual _ hv := (List.not_mem_nil hv).elim
  excused _ hv := (List.not_mem_nil hv).elim
  fit _ hv := (List.not_mem_nil hv).elim
  parties_le := new.parties_eq ▸ new.parties_le
  room := Nat.zero_le _
  near _ hv := (List.not_mem_nil hv).elim
  pending _ hv := (List.not_mem_nil hv).elim

theorem begin (h : Convoy s) {thread : Nat} (outside : s.isOutside thread = true)
    (room : s.inside < s.barrier.parties.toNat) :
    Convoy { s with visits := s.visits ++ [{ thread := thread }] } where
  register := h.register.begin outside
  ledger := h.ledger.begin thread
  punctual := by
    intro v hv n during withdrawn
    rcases List.mem_append.mp hv with old | new
    · exact h.punctual v old n during withdrawn
    · rw [List.mem_singleton.mp new] at withdrawn
      cases withdrawn
  excused := excused_begin thread h.excused
  fit := h.fit.begin thread
  parties_le := h.parties_le
  room := by
    show (s.visits ++ [({ thread := thread } : Visit)]).countP Visit.inside ≤
      s.barrier.parties.toNat
    rw [List.countP_append]
    exact room
  near := by
    intro v hv inside g stands
    rcases List.mem_append.mp hv with old | new
    · exact h.near v old inside g stands
    · rw [List.mem_singleton.mp new] at stands
      cases stands
  pending := by
    intro v hv counted
    rcases List.mem_append.mp hv with old | new
    · exact h.pending v old counted
    · rw [List.mem_singleton.mp new]
      rfl

theorem step {rules : Rules} {t : Crowd} {m : Move} (h : Convoy s) (faultless : rules.Faultless)
    (room : rules.Confines s.barrier.parties) (move : s.step rules m = some t) : Convoy t := by
  rcases step_cases move with ⟨thread, outside, admits, rfl⟩ | ⟨thread, c, may, rfl⟩ |
    ⟨i, fault, v, turn, hv, may, hturn, rfl⟩
  · exact h.begin outside (room _ admits)
  · exact { h with
      register := h.register.setSettings may
      ledger := ⟨h.ledger.missing_pos, h.ledger.arrived, h.ledger.balance⟩ }
  · rw [faultless.no_fault may] at hturn
    exact h.after hv hturn

theorem of_reaches {rules : Rules} {parties : UInt32} {b : Barrier}
    {settings : Nat → Cancellation} (new : Pristine parties b) (faultless : rules.Faultless)
    (room : rules.Confines parties)
    (run : Schedule.Reaches (Crowd.step rules) (Crowd.around b settings) s) : Convoy s := by
  induction run with
  | refl => exact .around new settings
  | tail m run move ih => exact ih.step faultless (parties_of_reaches new run ▸ room) move

/-! ## What becomes of a generation that has ended -/

/-- Nobody who stands in a generation that has ended is counted anew, or taken back. -/
theorem stands_step (h : Convoy s) {rules : Rules} {t : Crowd} {m : Move}
    (move : s.step rules m = some t) {i g : Nat} {v : Visit} (hv : s.visits[i]? = some v)
    (stands : v.standsIn g = true) (ended : g < s.trips) :
    g < t.trips ∧ ∃ w, t.visits[i]? = some w ∧ w.arrival = v.arrival := by
  obtain ⟨w, hw, next⟩ := visit_next move hv
  refine ⟨Nat.lt_of_lt_of_le ended (h.register.trips_le move), w, hw, ?_⟩
  rcases next with rfl | ⟨fault, turn, hturn, rfl, rfl⟩
  · rfl
  · rcases (h.register.deed hv hturn).arrival_cases with ⟨-, same⟩ | ⟨-, due, -⟩ | ⟨-, due, -⟩ |
      ⟨n, -, counted, -, now⟩
    · exact same
    · simp [Visit.standsIn, due] at stands
    · simp [Visit.standsIn, due] at stands
    · -- a thread turns back in the open generation only
      have inside := inside_of_step hturn
      have here := h.number_of_generation (List.mem_of_getElem? hv) inside counted now
      have := Visit.number_unique stands (Visit.standsIn_iff.mpr (.inl counted))
      omega

theorem stands_of_reaches {rules : Rules} {parties : UInt32} {u : Crowd} (h : Convoy s)
    (faultless : rules.Faultless) (room : rules.Confines parties)
    (parties_eq : s.barrier.parties = parties)
    (run : Schedule.Reaches (Crowd.step rules) s u) {i g : Nat} {v : Visit}
    (hv : s.visits[i]? = some v) (stands : v.standsIn g = true) (ended : g < s.trips) :
    Convoy u ∧ u.barrier.parties = parties ∧ g < u.trips ∧
      ∃ w, u.visits[i]? = some w ∧ w.arrival = v.arrival := by
  induction run with
  | refl => exact ⟨h, parties_eq, ended, v, hv, rfl⟩
  | tail m run move ih =>
    obtain ⟨convoy, parties_eq, ended, w, hw, same⟩ := ih
    have stands : w.standsIn g = true := by
      unfold Visit.standsIn at stands ⊢
      rwa [same]
    obtain ⟨ended, x, hx, same'⟩ := convoy.stands_step move hw stands ended
    exact ⟨convoy.step faultless (parties_eq ▸ room) move,
      (convoy.register.parties_step move).trans parties_eq, ended, x, hx, same'.trans same⟩

/-- The last one gets the outcome that is meant for it, and until then nothing can hold it up. -/
theorem serial_of_last (h : Convoy s) (rules : Rules) {i n : Nat} {v : Visit}
    (hv : s.visits[i]? = some v) (last : v.arrival = .last n) :
    v.stage = .finished (.ok .serial) ∨ v.inside = true ∧ v.stage.served = false ∧
      (s.step rules (.go i)).isSome = true :=
  h.register.serial_of_last rules hv last (h.fit v (List.mem_of_getElem? hv))

/-- Each of the others gets the outcome that is meant for it, if any. -/
theorem released_of_counted (h : Convoy s) {n : Nat} {v : Visit} (hv : v ∈ s.visits)
    (counted : v.arrival = .counted n) :
    v.stage = .finished (.ok .released) ∨ v.inside = true :=
  h.register.released_of_counted hv (h.excused v hv) counted

/-- Whoever got through belongs to a generation that has ended. -/
theorem ended_of_ok (h : Convoy s) {v : Visit} (hv : v ∈ s.visits) {outcome : Outcome}
    (ok : v.stage = .finished (.ok outcome)) : ∃ g, v.standsIn g = true ∧ g < s.trips := by
  have agrees := h.register.agrees v hv
  have past := h.register.past v hv
  rw [ok] at agrees
  cases outcome with
  | serial =>
    obtain ⟨n, last⟩ := agrees
    rw [last] at past
    exact ⟨n, Visit.standsIn_iff.mpr (.inr last), past⟩
  | released =>
    obtain ⟨n, counted⟩ := agrees
    rw [counted] at past
    refine ⟨n, Visit.standsIn_iff.mpr (.inl counted), Nat.lt_of_le_of_ne past fun current => ?_⟩
    have := h.pending v hv (current ▸ counted)
    rw [ok] at this
    cases this

theorem one_last (h : Convoy s) {i : Nat} {v : Visit} {turn : Wait.Turn}
    (hv : s.visits[i]? = some v) (due : v.arrival = .due)
    (last : v.arrival.entering s.trips turn.stage = .last s.trips) :
    (s.after i v turn).visits.countP (fun w => w.arrival = .last s.trips) = 1 :=
  h.register.one_last hv due last

end Convoy

/-- Nobody gets through before its generation has ended. When a generation ends, as many threads
as make it up were counted in it and not taken back. All of them are still inside, exactly one is
the last one, and its gate is empty. Whatever happens then, the last one gets the one outcome, the
others can get only the other, and until the last one is through its post fits and nothing can hold
it up. -/
theorem released_after_trip {supply : Supply} {parties : UInt32} {b : Barrier}
    {settings : Nat → Cancellation} {s : Crowd} (delivered : Delivered supply parties b)
    (listening : supply.rule = .whileBlocked)
    (run : Schedule.Reaches (Crowd.step (.upTo parties.toNat)) (Crowd.around b settings) s) :
    (∀ v ∈ s.visits, ∀ outcome, v.stage = .finished (.ok outcome) →
      ∃ g, v.standsIn g = true ∧ g < s.trips) ∧
    ∀ m t, s.step (.upTo parties.toNat) m = some t → t.trips ≠ s.trips →
      t.trips = s.trips + 1 ∧
      t.visits.countP (Visit.standsIn s.trips) = parties.toNat ∧
      (∀ v ∈ t.visits, v.standsIn s.trips = true → v.inside = true) ∧
      t.visits.countP (fun v => v.arrival = .last s.trips) = 1 ∧
      (t.barrier.gate (Side.ofNumber s.trips)).value = 0 ∧
      ∀ u, Schedule.Reaches (Crowd.step (.upTo parties.toNat)) t u →
        ∀ i v, t.visits[i]? = some v →
          (v.arrival = .last s.trips → ∃ w, u.visits[i]? = some w ∧
            (w.stage = .finished (.ok .serial) ∨
              w.inside = true ∧ (u.step (.upTo parties.toNat) (.go i)).isSome = true ∧
                ∃ gate,
                  (u.barrier.gate (Side.ofNumber s.trips)).post (parties - 1) = .ok gate)) ∧
          (v.arrival = .counted s.trips → ∃ w, u.visits[i]? = some w ∧
            (w.stage = .finished (.ok .released) ∨ w.inside = true)) := by
  have new := delivered.pristine listening
  have faultless : (Rules.upTo parties.toNat).Faultless := fun _ => rfl
  have room := Rules.confines_upTo (Nat.le_refl parties.toNat)
  have convoy := Convoy.of_reaches new faultless room run
  have parties_eq := parties_of_reaches new run
  refine ⟨fun v hv outcome ok => convoy.ended_of_ok hv ok, fun m t move ended => ?_⟩
  have convoy' := convoy.step faultless (parties_eq ▸ room) move
  have parties_eq' := (convoy.register.parties_step move).trans parties_eq
  have stays {u : Crowd} (run : Schedule.Reaches (Crowd.step (.upTo parties.toNat)) t u) {i g : Nat}
      {v : Visit} (hv : t.visits[i]? = some v) (stands : v.standsIn g = true)
      (ended : g < t.trips) :=
    convoy'.stands_of_reaches faultless room parties_eq' run hv stands ended
  rcases step_cases move with ⟨thread, -, -, rfl⟩ | ⟨thread, c, -, rfl⟩ |
    ⟨i, fault, v, turn, hv, -, hturn, rfl⟩
  · exact absurd rfl ended
  · exact absurd rfl ended
  have deed := convoy.register.deed hv hturn
  rcases deed.arrival_cases with ⟨same, -⟩ | ⟨same, -⟩ | ⟨next, due, last, complete⟩ | ⟨_, same, -⟩
  · exact absurd same ended
  · exact absurd same ended
  · obtain ⟨all, stand⟩ := convoy.all_stand hv (inside_of_step hturn) next complete due last
    have before : s.trips < (s.after i v turn).trips := next ▸ Nat.lt_succ_self _
    refine ⟨next, parties_eq ▸ all, fun w hw stands => (stand w hw).trans stands,
      convoy.one_last hv due last, ?_, fun u run j w hw => ⟨fun hlast => ?_, fun counted => ?_⟩⟩
    · have there : v.enter s.trips turn.stage ∈ (s.after i v turn).visits :=
        List.mem_set (List.getElem?_eq_some_iff.mp hv).1 _
      exact convoy'.gate_empty_of_owes there
        (Visit.owes_iff.mpr ⟨s.trips, last, rfl, (Convoy.stays_of_ends next).2⟩)
    · obtain ⟨convoy'', parties_eq'', -, x, hx, same⟩ :=
        stays run hw (Visit.standsIn_iff.mpr (.inr hlast)) before
      have last' := same.trans hlast
      refine ⟨x, hx, (convoy''.serial_of_last (.upTo parties.toNat) hx last').imp_right ?_⟩
      rintro ⟨inside, unserved, goes⟩
      refine ⟨inside, goes, ?_⟩
      rw [← parties_eq'']
      exact convoy''.post_ok (List.mem_of_getElem? hx) last' unserved
    · obtain ⟨convoy'', -, -, x, hx, same⟩ :=
        stays run hw (Visit.standsIn_iff.mpr (.inl counted)) before
      exact ⟨x, hx, convoy''.released_of_counted (List.mem_of_getElem? hx) (same.trans counted)⟩
  · exact absurd same ended

/-- The first of three is asked to stop while it sleeps, and leaves. Then two others come, and the
second of them is about to be counted. -/
def retreat : List Move :=
  [.begin 0] ++ Move.goes 0 7 ++ [.request 0] ++ Move.goes 0 7 ++
    [.begin 1] ++ Move.goes 1 7 ++ [.begin 2] ++ Move.goes 2 2

theorem released_after_trip_retreat :
    ∃ s t, Schedule.Reaches (Crowd.step (.upTo 2)) pair s ∧
      s.step (.upTo 2) (.go 2) = some t ∧ s.trips = 0 ∧ t.trips = 1 ∧
      t.visits.countP (Visit.standsIn 0) = 2 ∧
      (t.barrier.gate .even).value = 0 ∧
      ∀ u, Schedule.Reaches (Crowd.step (.upTo 2)) t u →
        (∃ w, u.visits[1]? = some w ∧
          (w.stage = .finished (.ok .released) ∨ w.inside = true)) := by
  have run := Schedule.reaches_get
    (show (Schedule.run (Crowd.step (.upTo 2)) pair retreat).isSome by decide)
  have new : Delivered {} 2 pair.barrier := delivered_fresh (by decide) (by decide) rfl
  have after := (released_after_trip new rfl run).2 (.go 2) _ rfl (by decide)
  exact ⟨_, _, run, rfl, by decide, by decide, after.2.1, after.2.2.2.2.1,
    fun u later => (after.2.2.2.2.2 u later 1 _ rfl).2 (by decide)⟩

end Crowd

end Rendezvous
