import Rendezvous.Proofs.Crowd.Generation
import Rendezvous.Proofs.Crowd.Overrun

/-!
# To each generation its own units

A unit does not know the generation it was posted for, and two generations on end share a gate with
all that follow them at a distance of two. Whether the generations are kept apart all the same can
be seen from the units that were posted for each and those it has taken (`Isolated`): where somebody
waits, the units at the gate are what is left of its own generation's post. So no generation takes
more than was posted for it, nobody waits at a gate together with a thread of another generation,
and nobody gets through while its generation is open.

With no more threads inside than make up a generation this holds (`Convoy`). The one thing to add
is the account of a generation that has ended (`Shares`): as many as were counted in it, less the
last one, share the units of its post, so there is always one for whoever still waits. A barrier for
one needs no account, since nobody ever waits there (`Solitary`). In all other cases a generation
can be robbed, as `exists_overrun` shows; so `isolated_iff` is exact.
-/

set_option autoImplicit false

namespace Rendezvous

/-- A thread is served with its post, or with a unit that lies at its gate, and by nothing else. -/
theorem Barrier.Deed.served_cases {k k' : Nat} {b b' : Barrier} {w w' : Wait} {a a' : Arrival}
    (h : Deed k b w a k' b' w' a') :
    w'.served = w.served ∧ (a' = a ∨ w.served = false) ∨
      (∃ n, a = .last n ∧ a' = a ∧ w.served = false ∧ w'.served = true) ∨
      ∃ n, a = .counted n ∧ a' = a ∧ w.served = false ∧ w'.served = true ∧
        0 < (b.gate (Side.ofNumber n)).value := by
  cases h with
  | passes same => exact .inl ⟨same, .inl rfl⟩
  | locks _ _ _ same | unlocks _ _ same => exact .inl ⟨same, .inl rfl⟩
  | arrives _ _ _ before after | trips _ _ _ before after | retracts _ _ _ before after =>
    exact .inl ⟨after.trans before.symm, .inr before⟩
  | posts last _ _ before after => exact .inr (.inl ⟨_, last, rfl, before, after⟩)
  | takes counted _ _ before after unit =>
    exact .inr (.inr ⟨_, counted, rfl, before, after, unit⟩)

open Barrier

namespace Crowd

/-! ## What is posted and taken -/

/-- The visit was counted in generation `n` and has got a unit. -/
def tookIn (n : Nat) (v : Visit) : Bool := v.countedIn n && v.stage.served

/-- The visit was the last one of generation `n` and has posted. -/
def postedFor (n : Nat) (v : Visit) : Bool := v.arrival = .last n && v.stage.served

def taken (s : Crowd) (n : Nat) : Nat := s.visits.countP (tookIn n)

def posted (s : Crowd) (n : Nat) : Nat :=
  (s.barrier.parties.toNat - 1) * s.visits.countP (postedFor n)

structure Isolated (s : Crowd) : Prop where
  /-- Where somebody waits, the units at the gate are what is left of its generation's post. -/
  own : ∀ v ∈ s.visits, ∀ n, v.arrival = .counted n → v.stage.served = false →
    (s.barrier.gate (Side.ofNumber n)).value.toNat + s.taken n = s.posted n
  /-- Nobody takes a unit that was not posted for its generation. -/
  fair : ∀ n, s.taken n ≤ s.posted n
  /-- Threads that wait at one gate are of one generation. -/
  apart : ∀ v ∈ s.visits, ∀ w ∈ s.visits, ∀ side, v.awaits side = true → w.awaits side = true →
    v.arrival = w.arrival
  /-- Nobody gets through while its generation is open. -/
  pending : ∀ v ∈ s.visits, v.arrival = .counted s.trips → v.stage.served = false

/-! ## No more than make up a generation -/

/-- What is known of generations that have ended. -/
structure Shares (s : Crowd) : Prop where
  /-- Of the one that ended last, all have been counted. -/
  full : ∀ n, n + 1 = s.trips →
    s.visits.countP (Visit.countedIn n) + 1 = s.barrier.parties.toNat
  /-- Every one has one last one. -/
  led : ∀ n, n < s.trips → s.visits.countP (fun v => v.arrival = .last n) = 1
  fair : ∀ n, s.taken n ≤ s.posted n

variable {s : Crowd}

theorem Convoy.taken_open (c : Convoy s) : s.taken s.trips = 0 := by
  refine List.countP_eq_zero.mpr fun v hv took => ?_
  unfold tookIn at took
  rw [Bool.and_eq_true] at took
  have := c.pending v hv (Visit.countedIn_iff.mp took.1)
  exact Bool.false_ne_true (this.symm.trans took.2)

theorem Convoy.posted_open (c : Convoy s) : s.posted s.trips = 0 := by
  have unposted : s.visits.countP (postedFor s.trips) = 0 := by
    refine List.countP_eq_zero.mpr fun v hv post => ?_
    unfold postedFor at post
    rw [Bool.and_eq_true, decide_eq_true_iff] at post
    have past := c.register.past v hv
    rw [post.1] at past
    exact absurd past (Nat.lt_irrefl _)
  unfold posted
  rw [unposted, Nat.mul_zero]

/-- Of a generation that has ended, whoever has not taken a unit is still owed one, and nobody else
is owed one at its gate. -/
theorem Convoy.taken_add_awaits (c : Convoy s) {n : Nat} (ended : n + 1 = s.trips) :
    s.taken n + s.visits.countP (Visit.awaits (Side.ofNumber n)) =
      s.visits.countP (Visit.countedIn n) := by
  have awaits : ∀ v ∈ s.visits, v.awaits (Side.ofNumber n) = true ↔
      (v.countedIn n && !v.stage.served) = true := by
    intro v hv
    rw [Bool.and_eq_true, Visit.countedIn_iff, Bool.not_eq_true', Visit.awaits_iff]
    refine ⟨fun awaits => ?_, fun ⟨counted, unserved⟩ => ⟨n, counted, rfl, unserved⟩⟩
    -- the open generation uses the other gate
    have other : Side.ofNumber s.trips ≠ Side.ofNumber n := by
      rw [← ended, Side.ofNumber_add_one]
      exact Side.other_ne _
    have counted := c.arrival_of_awaits hv (Visit.awaits_iff.mpr awaits)
    rw [if_neg other, ← ended, Nat.add_sub_cancel] at counted
    obtain ⟨_, -, -, unserved⟩ := awaits
    exact ⟨counted, unserved⟩
  rw [List.countP_congr awaits, List.countP_eq_countP_filter_add s.visits (Visit.countedIn n)
    fun v => v.stage.served, List.countP_filter, List.countP_filter]
  rfl

/-- Its last one has posted or still owes the units, and nobody else owes any at its gate. -/
theorem Convoy.posted_add_owes (c : Convoy s) {n : Nat} (ended : n + 1 = s.trips) :
    s.visits.countP (postedFor n) + s.visits.countP (Visit.owes (Side.ofNumber n)) =
      s.visits.countP (fun v => v.arrival = .last n) := by
  have owes : ∀ v ∈ s.visits, v.owes (Side.ofNumber n) = true ↔
      (decide (v.arrival = .last n) && !v.stage.served) = true := by
    intro v hv
    rw [Bool.and_eq_true, decide_eq_true_iff, Bool.not_eq_true', Visit.owes_iff]
    refine ⟨fun ⟨g, last, here, unserved⟩ => ?_, fun ⟨last, unserved⟩ => ⟨n, last, rfl, unserved⟩⟩
    have inside := inside_of_owes hv c.fit (Visit.owes_iff.mpr ⟨g, last, here, unserved⟩)
    have le := c.near v hv inside g (Visit.standsIn_iff.mpr (.inr last))
    have past := c.register.past v hv
    rw [last] at past
    have lt : g < s.trips := past
    obtain rfl : g = n := by omega
    exact ⟨last, unserved⟩
  rw [List.countP_congr owes, List.countP_eq_countP_filter_add s.visits
    (fun v => v.arrival = .last n) fun v => v.stage.served, List.countP_filter, List.countP_filter]
  rfl

/-- The units at the gate of a generation that has just ended are its own. -/
theorem Shares.own_of_ended (h : Shares s) (c : Convoy s) {n : Nat} (ended : n + 1 = s.trips) :
    (s.barrier.gate (Side.ofNumber n)).value.toNat + s.taken n = s.posted n := by
  have balance := c.ledger.balance (Side.ofNumber n)
  have unbegun : s.barrier.begun (Side.ofNumber n) = 0 := by
    rw [begun_of_number c.register.generation, ← ended, Side.ofNumber_add_one,
      if_neg (Side.other_ne _)]
  have full := h.full n ended
  have awaits := c.taken_add_awaits ended
  have owes := c.posted_add_owes ended
  rw [h.led n (ended ▸ Nat.lt_succ_self n)] at owes
  -- what the generation is worth is posted or still owed
  have shared := congrArg ((s.barrier.parties.toNat - 1) * ·) owes
  simp only [Nat.mul_add, Nat.mul_one] at shared
  unfold posted
  omega

theorem Shares.own (h : Shares s) (c : Convoy s) {v : Visit} (hv : v ∈ s.visits) {n : Nat}
    (counted : v.arrival = .counted n) (unserved : v.stage.served = false) :
    (s.barrier.gate (Side.ofNumber n)).value.toNat + s.taken n = s.posted n := by
  have inside : v.inside = true :=
    inside_of_awaits (c.excused v hv) (Visit.awaits_iff.mpr ⟨n, counted, rfl, unserved⟩)
  have le := c.near v hv inside n (Visit.standsIn_iff.mpr (.inl counted))
  have le' : n ≤ s.trips := by simpa [counted, Arrival.Past] using c.register.past v hv
  rcases Nat.lt_or_ge n s.trips with earlier | later
  · exact h.own_of_ended c (by omega)
  · obtain rfl : n = s.trips := Nat.le_antisymm le' later
    rw [c.open_gate_empty, c.taken_open, c.posted_open, UInt32.toNat_zero]

theorem Shares.fair_after (h : Shares s) (c : Convoy s) {i : Nat} {v : Visit} {turn : Wait.Turn}
    (hv : s.visits[i]? = some v)
    (hturn : v.stage.step s.barrier (s.settings v.thread) none = some turn) (n : Nat) :
    (s.after i v turn).taken n ≤ (s.after i v turn).posted n := by
  have deed := c.register.deed hv hturn
  have fair := h.fair n
  unfold Crowd.taken Crowd.posted at fair ⊢
  rw [show (s.after i v turn).barrier.parties = s.barrier.parties from deed.parties_eq]
  rcases deed.served_cases with ⟨same, kept⟩ | ⟨m, last, kept, before, after⟩ |
    ⟨m, counted, kept, before, after, unit⟩
  · have took : tookIn n (v.enter s.trips turn.stage) = tookIn n v := by
      rcases kept with kept | unserved
      · simp [tookIn, Visit.countedIn, Visit.enter, same, kept]
      · simp [tookIn, Visit.enter, same, unserved]
    have post : postedFor n (v.enter s.trips turn.stage) = postedFor n v := by
      rcases kept with kept | unserved
      · simp [postedFor, Visit.enter, same, kept]
      · simp [postedFor, Visit.enter, same, unserved]
    rw [countP_after_eq hv took, countP_after_eq hv post]
    exact fair
  · have last := kept.trans last
    have took : tookIn n (v.enter s.trips turn.stage) = false := by
      simp [tookIn, Visit.countedIn, Arrival.countedIn, Visit.enter, last]
    have post : postedFor n v = false := by simp [postedFor, before]
    have taken := countP_after (tookIn n) turn hv
    have posted := countP_after (postedFor n) turn hv
    rw [took, Bool.toNat_false] at taken
    rw [post, Bool.toNat_false] at posted
    have more : s.visits.countP (postedFor n) ≤ (s.after i v turn).visits.countP (postedFor n) := by
      omega
    have := Nat.mul_le_mul_left (s.barrier.parties.toNat - 1) more
    omega
  · have counted' := kept.trans counted
    have post : postedFor n (v.enter s.trips turn.stage) = postedFor n v := by
      simp [postedFor, Visit.enter, counted', before]
    have untaken : tookIn n v = false := by simp [tookIn, before]
    have one : tookIn n (v.enter s.trips turn.stage) = decide (m = n) := by
      simp [tookIn, Visit.countedIn, Arrival.countedIn, Visit.enter, counted', after]
    have taken := countP_after (tookIn n) turn hv
    rw [untaken, one] at taken
    rw [countP_after_eq hv post]
    by_cases same : m = n
    · subst same
      -- the unit that is taken lies at the gate, so it is part of what is left
      have own := h.own c (List.mem_of_getElem? hv) counted before
      have positive := UInt32.lt_iff_toNat_lt.mp unit
      rw [UInt32.toNat_zero] at positive
      unfold Crowd.taken Crowd.posted at own
      simp at taken
      omega
    · simp [same] at taken
      omega

/-- The account of the generation that ended last is settled: nobody is counted in it any more, and
nobody can turn back. -/
theorem Shares.full_after (h : Shares s) (c : Convoy s) {i : Nat} {v : Visit} {turn : Wait.Turn}
    (hv : s.visits[i]? = some v)
    (hturn : v.stage.step s.barrier (s.settings v.thread) none = some turn) {n : Nat}
    (ended : n + 1 = (s.after i v turn).trips) :
    (s.after i v turn).visits.countP (Visit.countedIn n) + 1 = s.barrier.parties.toNat := by
  have deed := c.register.deed hv hturn
  have same : (v.arrival.entering s.trips turn.stage).countedIn n = v.arrival.countedIn n →
      (s.after i v turn).visits.countP (Visit.countedIn n) =
        s.visits.countP (Visit.countedIn n) := fun same => countP_after_eq hv same
  rcases deed.arrival_cases with ⟨trips, kept⟩ | ⟨trips, due, new⟩ | ⟨trips, due, last, complete⟩ |
    ⟨m, trips, counted, new, now⟩
  · rw [same (by rw [kept])]
    exact h.full n (ended.trans trips)
  · have other : s.trips ≠ n := by omega
    rw [same (by rw [new, due]; simp [Arrival.countedIn, other])]
    exact h.full n (ended.trans trips)
  · obtain rfl : n = s.trips := by omega
    rw [same (by rw [last, due]; rfl)]
    have one := missing_of_countIn_eq_zero c.ledger.missing_pos complete
    have arrived := c.ledger.arrived
    omega
  · obtain rfl :=
        c.number_of_generation (List.mem_of_getElem? hv) (inside_of_step hturn) counted now
    have other : s.trips ≠ n := by omega
    rw [same (by rw [new, counted]; simp [Arrival.countedIn, other])]
    exact h.full n (ended.trans trips)

theorem Shares.led_after (h : Shares s) (c : Convoy s) {i : Nat} {v : Visit} {turn : Wait.Turn}
    (hv : s.visits[i]? = some v)
    (hturn : v.stage.step s.barrier (s.settings v.thread) none = some turn) {n : Nat}
    (ended : n < (s.after i v turn).trips) :
    (s.after i v turn).visits.countP (fun w => w.arrival = .last n) = 1 :=
  c.register.led_after hv hturn (h.led n) ended

theorem Shares.step (h : Shares s) (c : Convoy s) {rules : Rules} {t : Crowd} {m : Move}
    (faultless : rules.Faultless) (move : s.step rules m = some t) : Shares t := by
  rcases step_cases move with ⟨thread, -, -, rfl⟩ | ⟨thread, settings, -, rfl⟩ |
    ⟨i, fault, v, turn, hv, may, hturn, rfl⟩
  · refine ⟨fun n ended => ?_, fun n ended => ?_, fun n => ?_⟩
    · rw [countP_begin rfl]
      exact h.full n ended
    · rw [countP_begin rfl]
      exact h.led n ended
    · unfold taken posted
      rw [countP_begin rfl, countP_begin rfl]
      exact h.fair n
  · exact ⟨h.full, h.led, h.fair⟩
  · rw [faultless.no_fault may] at hturn
    have deed := c.register.deed hv hturn
    refine ⟨fun n ended => ?_, fun n ended => h.led_after c hv hturn ended, h.fair_after c hv hturn⟩
    exact (h.full_after c hv hturn ended).trans (congrArg UInt32.toNat deed.parties_eq.symm)

theorem Shares.of_reaches {rules : Rules} {parties : UInt32} {b : Barrier}
    {settings : Nat → Cancellation} (new : Pristine parties b) (faultless : rules.Faultless)
    (room : rules.Confines parties)
    (run : Schedule.Reaches (Crowd.step rules) (Crowd.around b settings) s) : Shares s := by
  induction run with
  | refl => exact ⟨nofun, nofun, fun _ => Nat.zero_le _⟩
  | tail m run move ih => exact ih.step (Convoy.of_reaches new faultless room run) faultless move

theorem Convoy.isolated (c : Convoy s) (h : Shares s) : Isolated s where
  own := fun _ hv _ counted unserved => h.own c hv counted unserved
  fair := h.fair
  apart := by
    intro v hv w hw side awaits awaits'
    rw [c.arrival_of_awaits hv awaits, c.arrival_of_awaits hw awaits']
  pending := c.pending

/-! ## A barrier for one -/

/-- Whoever comes is the last one. -/
structure Solitary (s : Crowd) : Prop where
  register : Register s
  parties_eq : s.barrier.parties = 1
  missing : s.barrier.missing = 1
  nobody : ∀ v ∈ s.visits, v.arrival = .due ∨ ∃ n, v.arrival = .last n

theorem Solitary.not_counted (h : Solitary s) {v : Visit} (hv : v ∈ s.visits) (n : Nat) :
    v.arrival ≠ .counted n := by
  intro counted
  rcases h.nobody v hv with due | ⟨_, last⟩
  · cases counted.symm.trans due
  · cases counted.symm.trans last

/-- The count goes down to nothing and at once begins anew. -/
theorem Solitary.alone_after (h : Solitary s) {i : Nat} {fault : Option PrimitiveError} {v : Visit}
    {turn : Wait.Turn} (hv : s.visits[i]? = some v)
    (hturn : v.stage.step s.barrier (s.settings v.thread) fault = some turn) :
    (s.after i v turn).barrier.missing = 1 ∧
      (v.arrival.entering s.trips turn.stage = .due ∨
        ∃ n, v.arrival.entering s.trips turn.stage = .last n) := by
  have deed := h.register.deed hv hturn
  have uncounted := h.not_counted (List.mem_of_getElem? hv)
  have one : s.barrier.missing.toNat = 1 := congrArg UInt32.toNat h.missing
  have elsewhere : v.arrival.countedIn s.trips = false :=
    Bool.eq_false_iff.mpr fun counted =>
      uncounted s.trips (Visit.countedIn_iff.mp (show v.countedIn s.trips = true from counted))
  have change := deed.missing (by omega) fun n counted _ => absurd counted (uncounted n)
  rw [elsewhere, one] at change
  rcases change with ⟨more, trips, change⟩ | ⟨-, all, last⟩
  · have still : (s.after i v turn).barrier.missing.toNat = 1 := by
      simp only [Bool.toNat_false] at change
      omega
    refine ⟨UInt32.toNat_inj.mp still, ?_⟩
    rcases deed.arrival_cases with ⟨-, same⟩ | ⟨-, -, counted⟩ | ⟨-, -, last, -⟩ |
      ⟨n, -, counted, -⟩
    · rw [same]
      exact h.nobody v (List.mem_of_getElem? hv)
    · rw [counted, still] at change
      simp [Arrival.countedIn] at change
    · exact .inr ⟨_, last⟩
    · exact absurd counted (uncounted n)
  · exact ⟨all.trans h.parties_eq, .inr ⟨_, last⟩⟩

theorem Solitary.step {rules : Rules} {t : Crowd} {m : Move} (h : Solitary s)
    (move : s.step rules m = some t) : Solitary t := by
  have register := h.register.step move
  have parties_eq := (h.register.parties_step move).trans h.parties_eq
  rcases step_cases move with ⟨thread, -, -, rfl⟩ | ⟨thread, settings, -, rfl⟩ |
    ⟨i, fault, v, turn, hv, -, hturn, rfl⟩
  · refine ⟨register, parties_eq, h.missing, fun v hv => ?_⟩
    rcases List.mem_append.mp hv with old | new
    · exact h.nobody v old
    · rw [List.mem_singleton.mp new]
      exact .inl rfl
  · exact ⟨register, parties_eq, h.missing, h.nobody⟩
  · obtain ⟨missing, arrival⟩ := h.alone_after hv hturn
    refine ⟨register, parties_eq, missing, fun w hw => ?_⟩
    rcases List.mem_or_eq_of_mem_set hw with old | rfl
    · exact h.nobody w old
    · exact arrival

theorem Solitary.of_reaches {rules : Rules} {b : Barrier} {settings : Nat → Cancellation}
    (new : Pristine 1 b) (run : Schedule.Reaches (Crowd.step rules) (Crowd.around b settings) s) :
    Solitary s :=
  run.keeps (fun h move => h.step move)
    ⟨.around new settings, new.parties_eq, new.missing, fun _ hv => (List.not_mem_nil hv).elim⟩

theorem Solitary.isolated (h : Solitary s) : Isolated s := by
  refine ⟨fun v hv n counted => ?_, fun n => ?_, fun v hv w hw side awaits => ?_,
    fun v hv counted => ?_⟩
  · exact absurd counted (h.not_counted hv n)
  · have untaken : s.taken n = 0 := List.countP_eq_zero.mpr fun v hv took =>
      h.not_counted hv n (Visit.countedIn_iff.mp (Bool.and_eq_true _ _ ▸ took).1)
    rw [untaken]
    exact Nat.zero_le _
  · obtain ⟨n, counted, -⟩ := Visit.awaits_iff.mp awaits
    exact absurd counted (h.not_counted hv n)
  · exact absurd counted (h.not_counted hv _)

/-! ## How many may be inside -/

/-- Generations are kept apart exactly if no more threads may be inside than make up a generation,
or if one thread makes up a generation. This is so whoever is asked to stop; otherwise somebody can
get through too early with nobody asked to. -/
theorem isolated_iff {supply : Supply} {parties : UInt32} {b : Barrier}
    (delivered : Delivered supply parties b) (listening : supply.rule = .whileBlocked)
    (room : Nat) :
    ((∀ settings s, Schedule.Reaches (Crowd.step (.upTo room)) (Crowd.around b settings) s →
        s.Isolated) ↔ room ≤ parties.toNat ∨ parties = 1) ∧
      (¬ (room ≤ parties.toNat ∨ parties = 1) →
        ∃ s, Schedule.Reaches (Crowd.step (.upTo room)) (Crowd.around b fun _ => {}) s ∧
          (∀ thread, (s.settings thread).requested = false) ∧
          ∃ v ∈ s.visits, v.arrival = .counted s.trips ∧ v.stage = .finished (.ok .released)) := by
  have new := delivered.pristine listening
  have robbed : ¬ (room ≤ parties.toNat ∨ parties = 1) →
      ∃ s, Schedule.Reaches (Crowd.step (.upTo room)) (Crowd.around b fun _ => {}) s ∧
        (∀ thread, (s.settings thread).requested = false) ∧
        ∃ v ∈ s.visits, v.arrival = .counted s.trips ∧ v.stage = .finished (.ok .released) := by
    intro h
    obtain ⟨more, several⟩ := not_or.mp h
    have two : parties.toNat ≠ 1 := fun one => several (UInt32.toNat_inj.mp one)
    have pos := new.parties_pos
    exact exists_overrun new (by omega) (Nat.lt_of_not_le more)
  refine ⟨⟨fun isolated => ?_, fun bound settings s run => ?_⟩, robbed⟩
  · refine Decidable.byContradiction fun h => ?_
    obtain ⟨s, run, -, v, hv, counted, released⟩ := robbed h
    have unserved := (isolated _ s run).pending v hv counted
    rw [released] at unserved
    cases unserved
  · rcases bound with le | rfl
    · have faultless : (Rules.upTo room).Faultless := fun _ => rfl
      have confines := Rules.confines_upTo le
      exact (Convoy.of_reaches new faultless confines run).isolated
        (Shares.of_reaches new faultless confines run)
    · exact (Solitary.of_reaches new run).isolated

theorem isolated_iff_pair :
    (∀ settings s, Schedule.Reaches (Crowd.step (.upTo 2)) (Crowd.around pair.barrier settings) s →
        s.Isolated) ∧
      ∃ s, Schedule.Reaches (Crowd.step (.upTo 3)) (Crowd.around pair.barrier fun _ => {}) s ∧
        (∀ thread, (s.settings thread).requested = false) ∧
        ∃ v ∈ s.visits, v.arrival = .counted s.trips ∧ v.stage = .finished (.ok .released) := by
  have new : Delivered {} 2 pair.barrier := delivered_fresh (by decide) (by decide) rfl
  exact ⟨(isolated_iff new rfl 2).1.mpr (.inl (by decide)),
    (isolated_iff new rfl 3).2 (by decide)⟩

/-- Three threads share a barrier for two. One stops on its way to the gate while the others pass
two generations. Then one of them comes once more, alone. -/
def robbery : List Move :=
  [.begin 0] ++ Move.goes 0 4 ++ [.begin 1] ++ Move.goes 1 5 ++
    [.begin 1] ++ Move.goes 2 7 ++ [.begin 2] ++ Move.goes 3 5 ++ Move.goes 2 4 ++
    [.begin 1] ++ Move.goes 4 8

/-- It is released in a generation of which it is the only thread. -/
theorem not_isolated_robbery :
    ∃ s, Schedule.Reaches (Crowd.step (.upTo 3)) (Crowd.around pair.barrier fun _ => {}) s ∧
      s.trips = 2 ∧ s.barrier.waiting = 1 ∧
      s.visits[4]? = some ⟨1, .finished (.ok .released), .counted 2⟩ ∧ ¬ s.Isolated := by
  have run := Schedule.reaches_get (show (Schedule.run (Crowd.step (.upTo 3))
    (Crowd.around pair.barrier fun _ => {}) robbery).isSome by decide)
  refine ⟨_, run, by decide, by decide, rfl, fun isolated => ?_⟩
  exact absurd (isolated.fair 2) (by decide)

end Crowd

end Rendezvous
