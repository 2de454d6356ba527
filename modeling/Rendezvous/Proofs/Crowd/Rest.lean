import Rendezvous.Proofs.Crowd.Desertion
import Rendezvous.Proofs.Crowd.Generation
import Rendezvous.Proofs.Crowd.Request

/-!
# Crowds at rest

A crowd is `Still` when none of its visits can go on by itself. What such a crowd looks like is
found from the holder of the lock: it could go on, so nobody holds it, so nobody waits for it, and
whoever is inside is asleep at a gate that has no unit for it (`Visit.asleep_of_step_eq_none`).
Then the ledger says the rest. No unit is left at a gate, since somebody would be owed it and would
be asleep there; nobody has units to post; so those inside are as many as the arrivals of the open
generation (`Still.rest`).

This needs no limit on the number of threads. But which of the threads are asleep can be told only
if there is one, for a thread of an older generation may have lost its unit to somebody else. Where
no more threads are inside than make up a generation, all that are asleep belong to the open one.

## Main statements

* `Still.rest`: a crowd that cannot go on has left nothing undone, however many threads there are.
* `none_left_behind`: within the limit, those inside are the arrivals of the open generation.
-/

set_option autoImplicit false

namespace Rendezvous

theorem Semaphore.Wait.parked_of_step_eq_none {s : Semaphore} {c : Cancellation}
    {w : Semaphore.Wait} (listens : w.Listens) (going : ∀ r, w ≠ .finished r)
    (h : w.step s c = none) : w = .parked ∧ s.value = 0 ∧ c.pending = false := by
  cases w with
  | test => cases h
  | take =>
    simp only [step] at h
    split at h <;> cases h
  | parked =>
    simp only [step] at h
    split at h
    · cases h
    · next stays =>
      rw [not_or] at stays
      exact ⟨rfl, UInt32.le_zero_iff.mp (UInt32.not_lt.mp stays.1), Bool.eq_false_iff.mpr stays.2⟩
  | finished r => exact absurd rfl (going r)
  | muffle | deafTake _ | deafParked _ | taken => exact absurd listens (by simp [Listens])

namespace Barrier

/-- The thread was counted in generation `n` and sleeps at its gate, which is empty, and has no
request that it may act on. -/
structure Visit.Asleep (b : Barrier) (c : Cancellation) (n : Nat) (v : Visit) : Prop where
  counted : v.arrival = .counted n
  parked : ∃ shield, v.stage = .blocked (.ofNat n) shield .parked ∨
    v.stage = .claiming (.ofNat n) shield .parked
  empty : (b.gate (Side.ofNumber n)).value = 0
  unasked : c.pending = false

/-- A visit that cannot go on is over, or waits for the lock, or is asleep. -/
theorem Visit.asleep_of_step_eq_none {b : Barrier} {c : Cancellation} {v : Visit}
    (agrees : v.stage.Agrees c v.arrival) (h : v.stage.step b c none = none) :
    v.inside = false ∨ (b.locked = true ∧ v.stage.holdsLock = false) ∨ ∃ n, v.Asleep b c n := by
  unfold Visit.inside
  cases stage : v.stage with
  | finished r => exact .inl rfl
  | lock | relock g =>
    rw [stage] at h
    simp only [Wait.step] at h
    split at h
    · next locked => exact .inr (.inl ⟨locked, rfl⟩)
    · cases h
  | enter | trip g | counted g | pause g | turnBack g | retracted g | overtaken g | claim g =>
    rw [stage] at h
    cases h
  | arrive | judge g | post g =>
    rw [stage] at h
    simp only [Wait.step] at h
    split at h <;> cases h
  | blocked g shield w =>
    rw [stage] at h agrees
    obtain ⟨⟨n, counted, rfl⟩, listens⟩ := agrees
    have going : ∀ r, w ≠ .finished r := by
      rintro r rfl
      cases h
    rw [Wait.AtGate.blocked.step going, Option.map_eq_none_iff] at h
    obtain ⟨rfl, empty, unasked⟩ := Semaphore.Wait.parked_of_step_eq_none listens going h
    exact .inr (.inr ⟨n, counted, ⟨shield, .inl stage⟩, empty, unasked⟩)
  | claiming g shield w =>
    rw [stage] at h agrees
    obtain ⟨⟨n, counted, rfl⟩, listens, -⟩ := agrees
    have going : ∀ r, w ≠ .finished r := by
      rintro r rfl
      cases h
    rw [Wait.AtGate.claiming.step going, Option.map_eq_none_iff] at h
    obtain ⟨rfl, empty, unasked⟩ := Semaphore.Wait.parked_of_step_eq_none listens going h
    exact .inr (.inr ⟨n, counted, ⟨shield, .inr stage⟩, empty, unasked⟩)

theorem Visit.Asleep.unserved {b : Barrier} {c : Cancellation} {n : Nat} {v : Visit}
    (h : v.Asleep b c n) : v.stage.served = false := by
  obtain ⟨shield, stage | stage⟩ := h.parked <;> rw [stage] <;> rfl

/-- It is owed a unit on the side of its generation. -/
theorem Visit.Asleep.awaits_eq {b : Barrier} {c : Cancellation} {n : Nat} {v : Visit}
    (h : v.Asleep b c n) (side : Side) : v.awaits side = decide (Side.ofNumber n = side) := by
  unfold Visit.awaits Arrival.awaits
  rw [h.counted, h.unserved]
  exact Bool.and_true _

theorem begun_add_begun (b : Barrier) :
    b.begun .even + b.begun .odd = b.parties.toNat - b.missing.toNat := by
  unfold begun
  cases Side.ofGeneration b.generation <;> simp

end Barrier

open Barrier

namespace Crowd

variable {s : Crowd}

/-- Nobody can go on by itself. -/
def Still (s : Crowd) : Prop :=
  ∀ v ∈ s.visits, (v.stage.step s.barrier (s.settings v.thread) none).isNone = true

instance (s : Crowd) : Decidable s.Still :=
  inferInstanceAs (Decidable (∀ v ∈ s.visits, _))

theorem still_iff (rules : Rules) : s.Still ↔ ∀ i, s.step rules (.go i) = none := by
  have here {i : Nat} {v : Visit} (hv : s.visits[i]? = some v) :
      s.step rules (.go i) = none ↔
        (v.stage.step s.barrier (s.settings v.thread) none).isNone = true := by
    simp [Crowd.step, hv, Rules.permits]
  constructor
  · intro still i
    cases hv : s.visits[i]? with
    | none => simp [Crowd.step, hv]
    | some v => exact (here hv).mpr (still v (List.mem_of_getElem? hv))
  · intro rest v hv
    obtain ⟨i, hi⟩ := List.mem_iff_getElem?.mp hv
    exact (here hi).mp (rest i)

/-- What is left when nobody can go on. -/
structure Rest (s : Crowd) : Prop where
  free : s.barrier.locked = false
  asleep : ∀ v ∈ s.visits, v.inside = true → ∃ n, v.Asleep s.barrier (s.settings v.thread) n
  empty : ∀ side, (s.barrier.gate side).value = 0
  posted : ∀ side, s.visits.countP (Visit.owes side) = 0
  begun : ∀ side, s.visits.countP (Visit.awaits side) = s.barrier.begun side

/-- Whoever holds the lock could go on. -/
theorem Still.free (h : s.Still) (register : Register s) (guarded : Guarded s) :
    s.barrier.locked = false := by
  refine Bool.eq_false_iff.mpr fun locked => ?_
  obtain ⟨_, v, there, holds⟩ := exists_of_countP guarded locked
  have hv := List.mem_of_getElem? there
  rcases Visit.asleep_of_step_eq_none (register.agrees v hv) (Option.isNone_iff_eq_none.mp (h v hv))
    with left | ⟨-, waits⟩ | ⟨n, asleep⟩
  · cases left.symm.trans (Visit.inside_of_holdsLock holds)
  · cases waits.symm.trans holds
  · obtain ⟨shield, stage | stage⟩ := asleep.parked <;>
      simp [Visit.holdsLock, stage, Wait.holdsLock] at holds

theorem Still.rest (h : s.Still) (register : Register s) (guarded : Guarded s) (ledger : Ledger s)
    (excused : ∀ v ∈ s.visits, Excused v) (fit : s.PostsFit) : Rest s := by
  have free := h.free register guarded
  have asleep : ∀ v ∈ s.visits, v.inside = true →
      ∃ n, v.Asleep s.barrier (s.settings v.thread) n := by
    intro v hv inside
    rcases Visit.asleep_of_step_eq_none (register.agrees v hv)
      (Option.isNone_iff_eq_none.mp (h v hv)) with left | ⟨locked, -⟩ | asleep
    · cases inside.symm.trans left
    · cases free.symm.trans locked
    · exact asleep
  have posted : ∀ side, s.visits.countP (Visit.owes side) = 0 := by
    refine fun side => List.countP_eq_zero.mpr fun v hv owes => ?_
    obtain ⟨n, asleep⟩ := asleep v hv (inside_of_owes hv fit owes)
    obtain ⟨g, last, -⟩ := Visit.owes_iff.mp owes
    cases asleep.counted.symm.trans last
  have empty : ∀ side, (s.barrier.gate side).value = 0 := by
    refine fun side => Decidable.byContradiction fun unit => ?_
    -- somebody is owed the unit, and would not be asleep
    have awaited : 0 < s.visits.countP (Visit.awaits side) := by
      have balance := ledger.balance side
      have : (s.barrier.gate side).value.toNat ≠ 0 := fun zero => unit (UInt32.toNat_inj.mp zero)
      omega
    obtain ⟨v, hv, awaits⟩ := List.countP_pos_iff.mp awaited
    obtain ⟨n, asleep⟩ := asleep v hv (inside_of_awaits (excused v hv) awaits)
    obtain ⟨g, counted, rfl, -⟩ := Visit.awaits_iff.mp awaits
    obtain rfl : g = n := by cases counted.symm.trans asleep.counted; rfl
    exact unit asleep.empty
  refine ⟨free, asleep, empty, posted, fun side => ?_⟩
  have balance := ledger.balance side
  rw [empty, posted, Nat.mul_zero] at balance
  simpa using balance.symm

/-- At rest those inside are the arrivals of the open generation, as far as the count goes. -/
theorem Rest.inside_eq (h : Rest s) (excused : ∀ v ∈ s.visits, Excused v) :
    s.inside = s.barrier.parties.toNat - s.barrier.missing.toNat := by
  have sides : s.inside =
      s.visits.countP (Visit.awaits .even) + s.visits.countP (Visit.awaits .odd) := by
    refine countP_add fun v hv => ?_
    cases inside : v.inside with
    | true =>
      obtain ⟨n, asleep⟩ := h.asleep v hv inside
      rw [asleep.awaits_eq, asleep.awaits_eq]
      cases Side.ofNumber n <;> rfl
    | false =>
      have settled (side : Side) : v.awaits side = false := Bool.eq_false_iff.mpr fun awaits => by
        cases inside.symm.trans (inside_of_awaits (excused v hv) awaits)
      rw [settled, settled]
      rfl
  rw [sides, h.begun, h.begun, begun_add_begun]

/-- A last one that is not inside has got through. -/
theorem Rest.serial_of_last (h : Rest s) (register : Register s) (fit : s.PostsFit) {v : Visit}
    (hv : v ∈ s.visits) {g : Nat} (last : v.arrival = .last g) :
    v.stage = .finished (.ok .serial) := by
  obtain ⟨i, hi⟩ := List.mem_iff_getElem?.mp hv
  rcases register.serial_of_last {} hi last (fit v hv) with serial | ⟨inside, -⟩
  · exact serial
  · obtain ⟨n, asleep⟩ := h.asleep v hv inside
    cases asleep.counted.symm.trans last

/-- At rest each generation that has ended has got its one outcome. -/
theorem Rest.countP_isSerial (h : Rest s) (register : Register s) (led : Led s) (fit : s.PostsFit) :
    s.visits.countP Visit.isSerial = s.trips := by
  have lasts := register.countP_isLast
  have refused : s.visits.countP Visit.refused = 0 :=
    List.countP_eq_zero.mpr fun v hv refused => by cases (fit v hv).symm.trans refused
  have going : s.visits.countP (fun v => v.inside && v.isLast) = 0 := by
    refine List.countP_eq_zero.mpr fun v hv going => ?_
    obtain ⟨inside, last⟩ := Bool.and_eq_true_iff.mp going
    obtain ⟨n, asleep⟩ := h.asleep v hv inside
    obtain ⟨g, last⟩ := Visit.isLast_iff.mp last
    cases asleep.counted.symm.trans last
  rw [led.all] at lasts
  omega

/-- In a convoy at rest, everybody inside was counted in the open generation. -/
theorem Rest.counted_open (h : Rest s) (convoy : Convoy s) {v : Visit} (hv : v ∈ s.visits)
    (inside : v.inside = true) : v.arrival = .counted s.trips := by
  obtain ⟨n, asleep⟩ := h.asleep v hv inside
  have awaits : v.awaits (Side.ofNumber n) = true :=
    (asleep.awaits_eq _).trans (decide_eq_true rfl)
  by_cases here : Side.ofNumber s.trips = Side.ofNumber n
  · exact (convoy.arrival_of_awaits hv awaits).trans (by rw [if_pos here])
  · -- nobody is owed a unit at the other gate
    have unawaited : s.visits.countP (Visit.awaits (Side.ofNumber n)) = 0 := by
      rw [h.begun, begun_of_number convoy.register.generation, if_neg here]
    exact absurd awaits (List.countP_eq_zero.mp unawaited v hv)

/-- Suppose that never more threads are inside than make up a generation, and that nothing is made
to fail. Where none of those inside can go on, the lock is free, the gates are empty, and all last
ones have posted. Everybody inside is asleep at the gate of the open generation and is one of its
arrivals, at least one of which is missing; nobody of an older generation is left, and nobody sleeps
who was asked to stop and would listen. -/
theorem none_left_behind {supply : Supply} {parties : UInt32} {b : Barrier}
    {settings : Nat → Cancellation} {s : Crowd} (delivered : Delivered supply parties b)
    (listening : supply.rule = .whileBlocked)
    (run : Schedule.Reaches (Crowd.step (.upTo parties.toNat)) (Crowd.around b settings) s)
    (still : ∀ i, s.step (.upTo parties.toNat) (.go i) = none) :
    s.barrier.locked = false ∧ s.barrier.units = [0, 0] ∧
      s.inside = parties.toNat - s.barrier.missing.toNat ∧ s.inside ≤ parties.toNat - 1 ∧
      (∀ v ∈ s.visits, v.inside = true → v.arrival = .counted s.trips ∧
        (∃ shield, v.stage = .blocked (.ofNat s.trips) shield .parked) ∧
        s.settings v.thread ≠ ⟨.asynchronous, .enabled, true⟩) ∧
      ∀ v ∈ s.visits, ∀ g, (v.arrival = .last g → v.stage = .finished (.ok .serial)) ∧
        (v.arrival = .counted g → g < s.trips → v.stage = .finished (.ok .released)) := by
  have new := delivered.pristine listening
  have convoy := Convoy.of_reaches new (fun _ => rfl)
    (Rules.confines_upTo (Nat.le_refl parties.toNat)) run
  have rest := ((still_iff _).mpr still).rest convoy.register (Guarded.of_reaches new run)
    convoy.ledger convoy.excused convoy.fit
  have parties_eq := parties_of_reaches new run
  have inside_eq := rest.inside_eq convoy.excused
  have missing_pos := convoy.ledger.missing_pos
  rw [parties_eq] at inside_eq
  refine ⟨rest.free, ?_, inside_eq, by omega, fun v hv inside => ?_, fun v hv g =>
    ⟨rest.serial_of_last convoy.register convoy.fit hv, fun counted ended => ?_⟩⟩
  · show [(s.barrier.gate .even).value, (s.barrier.gate .odd).value] = [0, 0]
    rw [rest.empty, rest.empty]
  · have counted := rest.counted_open convoy hv inside
    obtain ⟨n, asleep⟩ := rest.asleep v hv inside
    obtain rfl : n = s.trips := by cases asleep.counted.symm.trans counted; rfl
    refine ⟨counted, ?_, fun asked => ?_⟩
    · obtain ⟨shield, stage | stage⟩ := asleep.parked
      · exact ⟨shield, stage⟩
      · -- only whoever came too late to turn back sleeps for its unit like this
        obtain ⟨n, counted', ended⟩ := ended_of_late new run v hv (by rw [stage]; rfl)
        cases counted.symm.trans counted'
        exact absurd ended (Nat.lt_irrefl _)
    · have unasked := asleep.unasked
      rw [asked] at unasked
      cases unasked
  · refine (convoy.released_of_counted hv counted).resolve_right fun inside => ?_
    have current := rest.counted_open convoy hv inside
    cases counted.symm.trans current
    exact absurd ended (Nat.lt_irrefl _)

/-- The first of two is asked to stop while it sleeps, and leaves. Then two others meet, and one of
them comes again and sleeps. -/
def oneAsleep : List Move :=
  [.begin 0] ++ Move.goes 0 7 ++ [.request 0] ++ Move.goes 0 7 ++
    [.begin 1] ++ Move.goes 1 7 ++ [.begin 2] ++ Move.goes 2 5 ++ Move.goes 1 4 ++
    [.begin 2] ++ Move.goes 3 7

theorem none_left_behind_oneAsleep :
    ∃ s, Schedule.Reaches (Crowd.step (.upTo 2)) pair s ∧
      (∀ i, s.step (.upTo 2) (.go i) = none) ∧ s.trips = 1 ∧ s.barrier.units = [0, 0] ∧
      s.inside = 2 - s.barrier.missing.toNat ∧ s.inside = 1 ∧
      ∀ v ∈ s.visits, v.inside = true → v.arrival = .counted 1 := by
  have run := Schedule.reaches_get
    (show (Schedule.run (Crowd.step (.upTo 2)) pair oneAsleep).isSome by decide)
  have new : Delivered {} 2 pair.barrier := delivered_fresh (by decide) (by decide) rfl
  have still := (still_iff (.upTo 2)).mp
    (show ((Schedule.run (Crowd.step (.upTo 2)) pair oneAsleep).get (by decide)).Still by decide)
  obtain ⟨-, units, inside, -, asleep, -⟩ := none_left_behind new rfl run still
  exact ⟨_, run, still, by decide, units, inside, by decide, fun v hv there =>
    (asleep v hv there).1⟩

end Crowd

end Rendezvous
