import Rendezvous.Barrier.Probe
import Rendezvous.Proofs.Crowd.Rest

/-!
# Everybody comes once

If each of `k` threads waits once and nobody is asked to stop, then it can be said in advance how
the calls end, though not which of them ends how. Since no arrival is taken back, the arrivals fill
one generation after the other (`stands_of_reaches`), and a crowd at rest has all `k` of them; so
`k` is divided by the number of parties, with those inside as the remainder. This is counted over
all generations at once. With more threads than parties nothing could be said generation by
generation, because a thread may take a unit that was meant for another one.

## Main statements

* `turnout_of_atRest`: how many calls have which outcome, and what the barrier shows, for all
  schedules.
-/

set_option autoImplicit false

namespace Rendezvous

namespace Barrier

/-! ## Arrivals that stand -/

/-- Counted, and not taken back. -/
def Arrival.stands : Arrival → Bool
  | .counted _ | .last _ => true
  | _ => false

def Visit.stands (v : Visit) : Bool := v.arrival.stands

def Visit.isReleased (v : Visit) : Bool :=
  match v.stage with
  | .finished (.ok .released) => true
  | _ => false

/-- Whoever is inside has got neither outcome. -/
theorem Visit.no_outcome_of_inside {v : Visit} (inside : v.inside = true) :
    v.isSerial = false ∧ v.isReleased = false := by
  unfold Visit.inside at inside
  unfold Visit.isSerial Visit.isReleased
  cases stage : v.stage with
  | finished r => simp [stage, Wait.isOver] at inside
  | _ => exact ⟨rfl, rfl⟩

/-- An arrival makes one less missing, and as many as make up a generation when one has ended. -/
theorem Deed.stands {k k' : Nat} {b b' : Barrier} {w w' : Wait} {a a' : Arrival}
    (h : Deed k b w a k' b' w' a') (pos : 0 < b.missing.toNat)
    (room : ∀ n, a = .counted n → a' = .withdrawn n k → b.missing.toNat < b.parties.toNat) :
    a'.stands.toNat + b'.missing.toNat + b.parties.toNat * (k + 1) =
      a.stands.toNat + b.missing.toNat + b.parties.toNat * (k' + 1) := by
  cases h with
  | arrives due =>
    rw [due, countIn_missing pos]
    simp only [Arrival.stands, Bool.toNat_true, Bool.toNat_false]
    omega
  | trips due _ _ _ _ complete =>
    have one := missing_of_countIn_eq_zero pos complete
    have all : b.countIn.trip.missing = b.parties := rfl
    rw [due, one, all, Nat.mul_succ _ (k + 1)]
    simp only [Arrival.stands, Bool.toNat_true, Bool.toNat_false]
    omega
  | @retracts _ n counted =>
    rw [counted, countOut_missing (room n counted rfl)]
    simp only [Arrival.stands, Bool.toNat_true, Bool.toNat_false]
    omega
  | posts | takes => rw [missing_setGate]
  | _ => rfl

end Barrier

open Barrier

namespace Crowd

variable {s t : Crowd} {m : Move}

/-- The arrivals that stand fill the generations that have ended, and the open one but for those
missing. -/
theorem stands_of_reaches {rules : Rules} {parties : UInt32} {b : Barrier}
    {settings : Nat → Cancellation} (new : Pristine parties b)
    (run : Schedule.Reaches (Crowd.step rules) (Crowd.around b settings) s)
    (punctual : s.Punctual) :
    s.visits.countP Visit.stands + s.barrier.missing.toNat = parties.toNat * (s.trips + 1) := by
  induction run with
  | refl =>
    show 0 + b.missing.toNat = parties.toNat * (0 + 1)
    rw [new.missing, Nat.zero_add, Nat.zero_add, Nat.mul_one]
  | @tail t u m run move ih =>
    have register := Register.of_reaches new run
    have before := register.punctual_of_step move punctual
    have ledger := Ledger.of_reaches new run before
    have ih := ih before
    rcases step_cases move with ⟨thread, -, -, rfl⟩ | ⟨thread, c, -, rfl⟩ |
      ⟨i, fault, v, turn, hv, -, hturn, rfl⟩
    · rw [countP_begin rfl]
      exact ih
    · exact ih
    · have deed := (register.deed hv hturn).stands ledger.missing_pos
        fun n counted withdrawn => (ledger.room hv punctual n counted withdrawn).2
      have change := countP_after Visit.stands turn hv
      rw [parties_of_reaches new run] at deed
      simp only [Visit.stands, Visit.enter] at change ih ⊢
      omega

/-! ## Runs in which everybody comes once -/

/-- A thread below `k` begins to wait for the first time, or a visit goes on. -/
def Move.comesOnce (k : Nat) (s : Crowd) : Move → Bool
  | .begin thread => thread < k && s.visits.all fun v => v.thread != thread
  | .go _ fault => fault.isNone
  | .request _ | .adjust _ _ _ => false

/-- Each of the threads below `k` waits once, and nothing else happens. -/
def once (k : Nat) (s : Crowd) (m : Move) : Option Crowd :=
  if m.comesOnce k s then s.step {} m else none

variable {k : Nat}

theorem once_step (h : s.once k m = some t) : m.comesOnce k s = true ∧ s.step {} m = some t := by
  unfold once at h
  split at h
  · next comes => exact ⟨comes, h⟩
  · cases h

/-- What such a move does: somebody comes for the first time, or a visit takes a turn. -/
theorem once_cases (h : s.once k m = some t) :
    (∃ thread, thread < k ∧ (∀ v ∈ s.visits, v.thread ≠ thread) ∧
      t = { s with visits := s.visits ++ [{ thread := thread }] }) ∨
    ∃ i v turn, s.visits[i]? = some v ∧
      v.stage.step s.barrier (s.settings v.thread) none = some turn ∧ t = s.after i v turn := by
  obtain ⟨comes, move⟩ := once_step h
  cases m with
  | begin thread =>
    obtain ⟨low, fresh⟩ := Bool.and_eq_true_iff.mp comes
    simp only [Crowd.step] at move
    split at move
    · obtain rfl := Option.some.inj move
      refine .inl ⟨thread, of_decide_eq_true low, fun v hv => ?_, rfl⟩
      simpa using List.all_eq_true.mp fresh v hv
    · cases move
  | go i fault =>
    obtain rfl := Option.isNone_iff_eq_none.mp comes
    obtain ⟨v, turn, hv, -, hturn, rfl⟩ := step_go move
    exact .inr ⟨i, v, turn, hv, hturn, rfl⟩
  | request thread => cases comes
  | adjust thread type state => cases comes

theorem reaches_of_once (run : Schedule.Reaches (once k) s t) :
    Schedule.Reaches (Crowd.step {}) s t := by
  induction run with
  | refl => exact .refl _
  | tail m _ move ih => exact ih.tail m (once_step move).2

theorem atRest_once_iff : Schedule.AtRest (once k) s ↔
    (∀ thread, thread < k → ∃ v ∈ s.visits, v.thread = thread) ∧ s.Still := by
  rw [still_iff {}]
  constructor
  · refine fun rest => ⟨fun thread low => ?_, fun i => rest (.go i)⟩
    -- whoever has not come yet could begin
    refine Decidable.byContradiction fun missing => ?_
    have fresh : ∀ v ∈ s.visits, v.thread ≠ thread := fun v hv same => missing ⟨v, hv, same⟩
    have begins := rest (.begin thread)
    have outside : s.isOutside thread = true :=
      List.all_eq_true.mpr fun v hv => by simp [fresh v hv]
    have comes : (Move.begin thread).comesOnce k s = true := by
      simpa [Move.comesOnce, low] using fresh
    simp [once, comes, Crowd.step, outside, Rules.admits] at begins
  · rintro ⟨come, still⟩ (thread | ⟨i, fault⟩ | thread | ⟨thread, type, state⟩)
    · refine if_neg fun may => ?_
      obtain ⟨low, fresh⟩ := Bool.and_eq_true_iff.mp may
      obtain ⟨v, hv, same⟩ := come thread (of_decide_eq_true low)
      simpa [same] using List.all_eq_true.mp fresh v hv
    · cases fault with
      | none => exact (if_pos rfl).trans (still i)
      | some e => rfl
    · rfl
    · rfl

/-- Every thread has come at most once, and nobody was asked to stop. -/
structure Single (k : Nat) (s : Crowd) : Prop where
  apart : (s.visits.map Visit.thread).Nodup
  below : ∀ v ∈ s.visits, v.thread < k
  calm : ∀ thread, (s.settings thread).requested = false

theorem Single.begin (h : Single k s) {thread : Nat} (low : thread < k)
    (fresh : ∀ v ∈ s.visits, v.thread ≠ thread) :
    Single k { s with visits := s.visits ++ [{ thread := thread }] } where
  apart := by
    rw [List.map_append]
    refine List.nodup_append.mpr ⟨h.apart, List.pairwise_singleton _ _, fun x hx y hy => ?_⟩
    obtain ⟨v, hv, rfl⟩ := List.mem_map.mp hx
    rw [List.mem_singleton.mp hy]
    exact fresh v hv
  below := by
    intro v hv
    rcases List.mem_append.mp hv with old | new
    · exact h.below v old
    · rw [List.mem_singleton.mp new]
      exact low
  calm := h.calm

theorem Single.after (h : Single k s) {i : Nat} {fault : Option PrimitiveError} {v : Visit}
    {turn : Wait.Turn} (hv : s.visits[i]? = some v)
    (hturn : v.stage.step s.barrier (s.settings v.thread) fault = some turn) :
    Single k (s.after i v turn) where
  apart := by
    obtain ⟨hi, rfl⟩ := List.getElem?_eq_some_iff.mp hv
    have same : (s.after i s.visits[i] turn).visits.map Visit.thread =
        s.visits.map Visit.thread := by
      show (s.visits.set i _).map Visit.thread = _
      rw [List.map_set]
      show (s.visits.map Visit.thread).set i s.visits[i].thread = _
      rw [← List.getElem_map Visit.thread (h := by simpa using hi), List.set_getElem_self]
    rw [same]
    exact h.apart
  below := by
    intro w hw
    rcases List.mem_or_eq_of_mem_set hw with old | rfl
    · exact h.below w old
    · exact h.below v (List.mem_of_getElem? hv)
  calm thread := by
    show (if thread = v.thread then turn.cancel else s.settings thread).requested = false
    split
    · exact (Wait.requested_step hturn).trans (h.calm _)
    · exact h.calm thread

theorem Single.of_reaches {b : Barrier} {settings : Nat → Cancellation}
    (calm : ∀ thread, (settings thread).requested = false)
    (run : Schedule.Reaches (once k) (Crowd.around b settings) s) : Single k s := by
  induction run with
  | refl => exact ⟨List.nodup_nil, fun _ hv => (List.not_mem_nil hv).elim, calm⟩
  | tail m run move ih =>
    rcases once_cases move with ⟨thread, low, fresh, rfl⟩ | ⟨i, v, turn, hv, hturn, rfl⟩
    · exact ih.begin low fresh
    · exact ih.after hv hturn

theorem Single.length_le (h : Single k s) : s.visits.length ≤ k := by
  have all : s.visits.map Visit.thread ⊆ List.range k := fun thread member => by
    obtain ⟨v, hv, rfl⟩ := List.mem_map.mp member
    exact List.mem_range.mpr (h.below v hv)
  have le := h.apart.length_le_of_subset all
  rwa [List.length_map, List.length_range] at le

theorem Single.length_eq (h : Single k s)
    (come : ∀ thread, thread < k → ∃ v ∈ s.visits, v.thread = thread) : s.visits.length = k := by
  have all : List.range k ⊆ s.visits.map Visit.thread := fun thread member =>
    List.mem_map.mpr (come thread (List.mem_range.mp member))
  have ge := List.nodup_range.length_le_of_subset all
  rw [List.length_map, List.length_range] at ge
  exact Nat.le_antisymm h.length_le ge

/-! ## Nobody turns back, and every post fits -/

/-- What holds when everybody comes once and nobody is asked to stop, as long as there are not more
threads than there may be units. -/
structure Procession (k : Nat) (s : Crowd) : Prop where
  register : Register s
  ledger : Ledger s
  excused : ∀ v ∈ s.visits, Excused v
  single : Single k s
  unheard : ∀ v ∈ s.visits, v.stage.heard = false
  kept : ∀ v ∈ s.visits, ∀ n during, v.arrival ≠ .withdrawn n during
  fit : s.PostsFit

/-- Nobody acts on a request where there is none. -/
theorem Single.unheard {parties : UInt32} {b : Barrier} {settings : Nat → Cancellation}
    (h : Single k s) (new : Pristine parties b)
    (reached : Schedule.Reaches (Crowd.step {}) (Crowd.around b settings) s) :
    ∀ v ∈ s.visits, v.stage.heard = false := by
  intro v hv
  obtain ⟨type, state, heeds⟩ := heeds_of_reaches new (fun _ => rfl) reached v hv
  refine Bool.eq_false_iff.mpr fun heard => ?_
  obtain ⟨-, -, requested⟩ := heeds.heard heard
  cases (h.calm v.thread).symm.trans requested

/-- A post fits where there are no more calls than there may be units. -/
theorem Ledger.post_ok (h : Ledger s) (few : s.visits.length ≤ Semaphore.maxValue.toNat) {v : Visit}
    (hv : v ∈ s.visits) {n : Nat} (last : v.arrival = .last n) (unserved : v.stage.served = false) :
    ∃ t, (s.barrier.gate (Side.ofNumber n)).post (s.barrier.parties - 1) = .ok t := by
  have enough := h.others_le_awaits hv (Visit.owes_iff.mpr ⟨n, last, rfl, unserved⟩)
  have le : s.visits.countP (Visit.awaits (Side.ofNumber n)) ≤ s.visits.length :=
    List.countP_le_length
  refine ⟨_, if_pos (.inl ?_)⟩
  rw [toNat_sub_one (Nat.le_trans h.missing_pos h.missing_le)]
  omega

namespace Procession

theorem fit_step (h : Procession k s) (few : k ≤ Semaphore.maxValue.toNat)
    (move : s.once k m = some t) : t.PostsFit := by
  rcases once_cases move with ⟨thread, -, -, rfl⟩ | ⟨i, v, turn, hv, hturn, rfl⟩
  · exact h.fit.begin thread
  · have member := List.mem_of_getElem? hv
    exact h.fit.after (h.register.not_refused member hturn fun n last unserved =>
      h.ledger.post_ok (Nat.le_trans h.single.length_le few) member last unserved)

theorem punctual (h : Procession k s) : s.Punctual :=
  fun v hv n during withdrawn => absurd withdrawn (h.kept v hv n during)

/-- That every post has fitted is all that depends on the number of threads. -/
theorem of_fit {parties : UInt32} {b : Barrier} {settings : Nat → Cancellation}
    (new : Pristine parties b) (calm : ∀ thread, (settings thread).requested = false)
    (run : Schedule.Reaches (once k) (Crowd.around b settings) s) (fit : s.PostsFit) :
    Procession k s := by
  have reached := reaches_of_once run
  have register := Register.of_reaches new reached
  have excused := excused_of_reaches new (fun _ => rfl) reached
  have single := Single.of_reaches calm run
  have unheard := single.unheard new reached
  have kept : ∀ v ∈ s.visits, ∀ n during, v.arrival ≠ .withdrawn n during :=
    fun v hv n during withdrawn => by
      cases (unheard v hv).symm.trans (register.heard_of_withdrawn hv (excused v hv) withdrawn)
  have ledger := Ledger.of_reaches new reached fun v hv n during withdrawn =>
    absurd withdrawn (kept v hv n during)
  exact ⟨register, ledger, excused, single, unheard, kept, fit⟩

theorem of_reaches {parties : UInt32} {b : Barrier} {settings : Nat → Cancellation}
    (new : Pristine parties b) (calm : ∀ thread, (settings thread).requested = false)
    (few : k ≤ Semaphore.maxValue.toNat)
    (run : Schedule.Reaches (once k) (Crowd.around b settings) s) : Procession k s := by
  induction run with
  | refl => exact of_fit new calm (.refl _) fun _ hv => (List.not_mem_nil hv).elim
  | tail m run move ih => exact of_fit new calm (run.tail m move) (ih.fit_step few move)

/-! ## The outcomes -/

/-- Whoever is not inside any more has got one of the two outcomes. -/
theorem outcome_of_over (h : Procession k s) {v : Visit} (hv : v ∈ s.visits)
    (left : v.inside = false) :
    v.stands = true ∧ v.isSerial.toNat + v.isReleased.toNat = 1 := by
  have agrees := h.register.agrees v hv
  unfold Visit.inside at left
  cases stage : v.stage with
  | finished r =>
    rcases r with e | (_ | _)
    · rcases h.excused v hv e stage with ⟨-, n, during, withdrawn⟩ | ⟨n, last⟩
      · exact absurd withdrawn (h.kept v hv n during)
      · have fitting := h.fit v hv
        simp [Visit.refused, last, stage] at fitting
    · rw [stage] at agrees
      obtain ⟨n, last⟩ := agrees
      simp [Visit.stands, Arrival.stands, last, Visit.isSerial, Visit.isReleased, stage]
    · rw [stage] at agrees
      obtain ⟨n, counted⟩ := agrees
      simp [Visit.stands, Arrival.stands, counted, Visit.isSerial, Visit.isReleased, stage]
  | _ => simp [stage, Wait.isOver] at left

/-- At rest everybody has arrived, and all arrivals stand. -/
theorem countP_stands (h : Procession k s) (rest : Rest s)
    (come : ∀ thread, thread < k → ∃ v ∈ s.visits, v.thread = thread) :
    s.visits.countP Visit.stands = k := by
  rw [← h.single.length_eq come]
  refine List.countP_eq_length.mpr fun v hv => ?_
  cases inside : v.inside with
  | true =>
    obtain ⟨n, asleep⟩ := rest.asleep v hv inside
    rw [Visit.stands, asleep.counted]
    rfl
  | false => exact (h.outcome_of_over hv inside).1

/-- Every call is inside or has got one of the two outcomes. -/
theorem length_eq (h : Procession k s) :
    s.visits.length =
      s.inside + (s.visits.countP Visit.isSerial + s.visits.countP Visit.isReleased) := by
  have ended : s.visits.countP (fun v => !v.inside) =
      s.visits.countP Visit.isSerial + s.visits.countP Visit.isReleased := by
    refine countP_add fun v hv => ?_
    cases inside : v.inside with
    | true =>
      obtain ⟨serial, released⟩ := Visit.no_outcome_of_inside inside
      rw [serial, released]
      rfl
    | false => exact (h.outcome_of_over hv inside).2.symm
  rw [← ended, List.length_eq_countP_add_countP Visit.inside]
  simp [Crowd.inside]

/-- Nobody sleeps for a unit that it came too late to do without. -/
theorem blocked_of_asleep (h : Procession k s) {v : Visit} (hv : v ∈ s.visits) {n : Nat}
    (asleep : v.Asleep s.barrier (s.settings v.thread) n) :
    ∃ shield, v.stage = .blocked (.ofNat n) shield .parked := by
  obtain ⟨shield, stage | stage⟩ := asleep.parked
  · exact ⟨shield, stage⟩
  · have unheard := h.unheard v hv
    rw [stage] at unheard
    cases unheard

end Procession

/-- If each of `k` threads waits once, nobody is asked to stop and nothing is made to fail, then at
rest the number of threads and the number of parties say how many calls have which outcome, how many
still sleep, and what the barrier shows, whatever the schedule was. -/
theorem turnout_of_atRest {supply : Supply} {parties : UInt32} {b : Barrier}
    {settings : Nat → Cancellation} {k : Nat} {s : Crowd} (delivered : Delivered supply parties b)
    (listening : supply.rule = .whileBlocked) (few : k ≤ Semaphore.maxValue.toNat)
    (calm : ∀ thread, (settings thread).requested = false)
    (run : Schedule.Reaches (once k) (Crowd.around b settings) s)
    (atRest : Schedule.AtRest (once k) s) :
    s.visits.countP Visit.isSerial = k / parties.toNat ∧
      s.visits.countP Visit.isReleased = k - k / parties.toNat - k % parties.toNat ∧
      s.inside = k % parties.toNat ∧
      (∀ v ∈ s.visits, v.inside = true → ∃ g shield, v.stage = .blocked g shield .parked) ∧
      s.barrier.locked = false ∧ s.barrier.read .generation = k / parties.toNat ∧
      s.barrier.read .waiting = k % parties.toNat := by
  have new := delivered.pristine listening
  have reached := reaches_of_once run
  have procession := Procession.of_reaches new calm few run
  have ledger := procession.ledger
  obtain ⟨come, still⟩ := atRest_once_iff.mp atRest
  have rest := still.rest procession.register (Guarded.of_reaches new reached) ledger
    procession.excused procession.fit
  -- the arrivals are divided into generations, with those inside as the remainder
  have all := procession.countP_stands rest come
  have stands := stands_of_reaches new reached procession.punctual
  have inside := rest.inside_eq procession.excused
  have arrived := ledger.arrived
  have pos := ledger.missing_pos
  rw [parties_of_reaches new reached] at inside arrived
  rw [all, Nat.mul_succ] at stands
  obtain ⟨quotient, remainder⟩ := (Nat.div_mod_unique (a := k) (d := s.trips) (c := s.inside)
    (show 0 < parties.toNat by omega)).mpr (by omega)
  rw [quotient, remainder]
  have serial := rest.countP_isSerial procession.register (Led.of_reaches new reached)
    procession.fit
  refine ⟨serial, ?_, rfl, fun v hv there => ?_, rest.free, ?_, ?_⟩
  · have length := procession.length_eq
    rw [procession.single.length_eq come] at length
    omega
  · obtain ⟨n, asleep⟩ := rest.asleep v hv there
    exact ⟨_, procession.blocked_of_asleep hv asleep⟩
  · show s.barrier.generation.toNat = s.trips
    have small : k < UInt64.size := Nat.lt_of_le_of_lt few (by decide)
    have le := Nat.div_le_self k parties.toNat
    rw [procession.register.generation, UInt64.toNat_ofNat_of_lt' (by omega)]
  · show s.barrier.waiting.toNat = s.inside
    rw [ledger.waiting]
    omega

/-- Five come to a barrier for two. The first is counted and does not go to the gate yet; the second
trips the barrier and posts. The next two make up another generation. The fifth finds the unit of
the first and takes it, and the first goes to sleep. -/
def latecomer : List Move :=
  [.begin 0] ++ Move.goes 0 4 ++ [.begin 1] ++ Move.goes 1 5 ++ [.begin 2] ++ Move.goes 2 7 ++
    [.begin 3] ++ Move.goes 3 5 ++ Move.goes 2 4 ++ [.begin 4] ++ Move.goes 4 8 ++ Move.goes 0 3

theorem turnout_of_atRest_latecomer :
    ∃ s, Schedule.Reaches (once 5) pair s ∧ Schedule.AtRest (once 5) s ∧
      s.visits.countP Visit.isSerial = 2 ∧ s.visits.countP Visit.isReleased = 2 ∧
      s.inside = 1 ∧ s.barrier.read .generation = 2 ∧ s.barrier.read .waiting = 1 := by
  have run := Schedule.reaches_get
    (show (Schedule.run (once 5) pair latecomer).isSome by decide)
  have new : Delivered {} 2 pair.barrier := delivered_fresh (by decide) (by decide) rfl
  have rest : Schedule.AtRest (once 5)
      ((Schedule.run (once 5) pair latecomer).get (by decide)) :=
    atRest_once_iff.mpr (by decide)
  obtain ⟨serial, released, inside, -, -, generation, waiting⟩ :=
    turnout_of_atRest new rfl (by decide) (fun _ => rfl) run rest
  exact ⟨_, run, rest, serial, released, inside, generation, waiting⟩

end Crowd

end Rendezvous
