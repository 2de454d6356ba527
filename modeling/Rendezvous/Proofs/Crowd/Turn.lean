import Rendezvous.Proofs.Crowd.Basic

/-!
# What a turn does

A visit's turn is one of some thirty, but to what all threads share it does one of eight things: it
takes the lock or gives it back, counts an arrival in or takes it back, ends a generation, posts
units or takes one, or leaves everything alone. `Deed` lists them, together with what they need and
with what becomes of the arrival, and `step_deed` says that there are no others. All that is proved
about crowds is proved by cases on a `Deed`.

Which deed a stage does depends on what its thread has done before: only the last one of a
generation posts, only a thread that was counted takes a unit. `Wait.Agrees` states this, stage by
stage, and `agrees_step` that every turn keeps it. It holds for gates whose waits listen while they
are blocked, which is the rule of the library's own semaphores.
-/

set_option autoImplicit false

namespace Rendezvous

/-- The side of a generation that is numbered without end. -/
def Barrier.Side.ofNumber (n : Nat) : Side := .ofGeneration (.ofNat n)

theorem Barrier.Side.ofNumber_add_one (n : Nat) :
    Side.ofNumber (n + 1) = (Side.ofNumber n).other := by
  unfold Side.ofNumber
  rw [UInt64.ofNat_add]
  exact Side.ofGeneration_add_one _

/-! ## Gates that listen -/

/-- The wait is under the rule that looks for requests while it blocks, and has failed for no other
reason than a request. -/
def Semaphore.Wait.Listens : Semaphore.Wait → Prop
  | .test | .take | .parked | .finished (.ok _) => True
  | .finished (.error e) => e = .canceled
  | .muffle | .deafTake _ | .deafParked _ | .taken => False

theorem Semaphore.Wait.start_ne_finished {rule : CancelRule} {r : Except PrimitiveError Unit} :
    Semaphore.Wait.start rule ≠ .finished r := by
  cases rule <;> nofun

/-- A stage at a gate either leaves it alone or takes a unit, and fails for a request only. -/
theorem Semaphore.Wait.step_listens {s t : Semaphore} {c d : Cancellation} {w w' : Semaphore.Wait}
    (hw : w.Listens) (h : w.step s c = some (t, d, w')) :
    d = c ∧ w'.Listens ∧
      ((t = s ∧ (∀ u, w' ≠ .finished (.ok u)) ∧ ∀ e, w' = .finished (.error e) → c.pending = true) ∨
        (0 < s.value ∧ t = { s with value := s.value - 1 } ∧ w' = .finished (.ok ()))) := by
  cases w with
  | test =>
    simp only [step, Option.some.injEq, Prod.mk.injEq] at h
    obtain ⟨rfl, rfl, rfl⟩ := h
    by_cases hp : c.pending = true <;> simp [hp, Listens]
  | take =>
    simp only [step] at h
    split at h
    · next unit =>
      obtain ⟨rfl, rfl, rfl⟩ := h
      exact ⟨rfl, trivial, .inr ⟨unit, rfl, rfl⟩⟩
    · obtain ⟨rfl, rfl, rfl⟩ := h
      exact ⟨rfl, trivial, .inl ⟨rfl, nofun, nofun⟩⟩
  | parked =>
    simp only [step] at h
    split at h
    · obtain ⟨rfl, rfl, rfl⟩ := h
      exact ⟨rfl, trivial, .inl ⟨rfl, nofun, nofun⟩⟩
    · cases h
  | finished r => cases h
  | muffle | deafTake _ | deafParked _ | taken => exact absurd hw (by simp [Listens])

namespace Barrier

/-! ## Stages and arrivals -/

/-- What the stage of a visit says about its arrival, for a thread with settings `c`. A thread that
fetches the unit it is owed is deaf, so that it cannot fail at the gate. -/
def Wait.Agrees (c : Cancellation) (w : Wait) (a : Arrival) : Prop :=
  match w with
  | .enter | .lock | .arrive => a = .due
  | .trip g | .post g => ∃ n, a = .last n ∧ g = .ofNat n
  | .counted g | .pause g | .turnBack g | .relock g | .judge g | .overtaken g | .claim g =>
      ∃ n, a = .counted n ∧ g = .ofNat n
  | .blocked g _ w => (∃ n, a = .counted n ∧ g = .ofNat n) ∧ w.Listens
  | .claiming g _ w =>
      (∃ n, a = .counted n ∧ g = .ofNat n) ∧ w.Listens ∧ c.state = .disabled ∧
        ∀ e, w ≠ .finished (.error e)
  | .retracted _ => ∃ n k, a = .withdrawn n k
  | .finished (.ok .serial) => ∃ n, a = .last n
  | .finished (.ok .released) => ∃ n, a = .counted n
  | .finished (.error _) => True

/-- What one turn of a visit does to what all share. The visit stands at `w`, its arrival is `a`,
generation `k` is open, and the barrier is `b`; then follow the open generation, the barrier, the
stage and the arrival after the turn. -/
inductive Deed (k : Nat) (b : Barrier) (w : Wait) (a : Arrival) :
    Nat → Barrier → Wait → Arrival → Prop where
  /-- Leaves everything alone. -/
  | passes {w' : Wait} : w'.served = w.served → w'.holdsLock = w.holdsLock → Deed k b w a k b w' a
  | locks {w' : Wait} : b.locked = false → w.holdsLock = false → w'.holdsLock = true →
      w'.served = w.served → Deed k b w a k b.lock w' a
  | unlocks {w' : Wait} : w.holdsLock = true → w'.holdsLock = false → w'.served = w.served →
      Deed k b w a k b.unlock w' a
  | arrives {w' : Wait} : a = .due → w.holdsLock = true → w'.holdsLock = true →
      w.served = false → w'.served = false → b.countIn.missing ≠ 0 →
      Deed k b w a k b.countIn w' (.counted k)
  | trips {w' : Wait} : a = .due → w.holdsLock = true → w'.holdsLock = true →
      w.served = false → w'.served = false → b.countIn.missing = 0 →
      Deed k b w a (k + 1) b.countIn.trip w' (.last k)
  | posts {w' : Wait} {n : Nat} {s : Semaphore} : a = .last n → w.holdsLock = false →
      w'.holdsLock = false → w.served = false → w'.served = true →
      (b.gate (Side.ofNumber n)).post (b.parties - 1) = .ok s →
      Deed k b w a k (b.setGate (Side.ofNumber n) s) w' a
  | takes {w' : Wait} {n : Nat} : a = .counted n → w.holdsLock = false → w'.holdsLock = false →
      w.served = false → w'.served = true → 0 < (b.gate (Side.ofNumber n)).value →
      Deed k b w a k
        (b.setGate (Side.ofNumber n)
          { b.gate (Side.ofNumber n) with value := (b.gate (Side.ofNumber n)).value - 1 }) w' a
  | retracts {w' : Wait} {n : Nat} : a = .counted n → w.holdsLock = true → w'.holdsLock = true →
      w.served = false → w'.served = false → b.generation = .ofNat n →
      Deed k b w a k b.countOut w' (.withdrawn n k)

/-! ## At the gate -/

/-- The two stages in which a thread is at the gate of a generation: it waits there, or it fetches the
unit that it is owed. They differ in what an answer means, and in nothing before that. -/
inductive Wait.AtGate (g : UInt64) (shield : Shield) : (Semaphore.Wait → Wait) → Prop where
  | blocked : AtGate g shield (blocked g shield)
  | claiming : AtGate g shield (claiming g shield)

namespace Wait.AtGate

variable {b : Barrier} {c : Cancellation} {fault : Option PrimitiveError} {g : UInt64}
  {shield : Shield} {x : Semaphore.Wait → Wait} {w : Semaphore.Wait}

theorem served (here : AtGate g shield x) : (x w).served = true ↔ ∃ u, w = .finished (.ok u) := by
  cases here <;> rcases w with _ | _ | _ | _ | _ | _ | _ | (_ | _) <;> simp [Wait.served]

/-- As long as the gate has not answered, a turn is a stage of the wait at the gate. -/
theorem step (here : AtGate g shield x) (going : ∀ r, w ≠ .finished r) :
    Wait.step b c fault (x w) =
      (w.step (b.gate (Side.ofGeneration g)) c).map fun (s, c', w') =>
        ⟨b.setGate (Side.ofGeneration g) s, c', x w', [], []⟩ := by
  cases here <;> cases w with
  | finished r => exact absurd rfl (going r)
  | _ => rfl

/-- A turn at the gate either answers a wait that is over or is a stage of one that is not. -/
theorem cases (here : AtGate g shield x) {turn : Wait.Turn}
    (h : Wait.step b c fault (x w) = some turn) :
    (∃ r, w = .finished r) ∨
      ∃ s d w', (∀ r, w ≠ .finished r) ∧
        w.step (b.gate (Side.ofGeneration g)) c = some (s, d, w') ∧
        turn = ⟨b.setGate (Side.ofGeneration g) s, d, x w', [], []⟩ := by
  by_cases ended : ∃ r, w = .finished r
  · exact .inl ended
  · have going : ∀ r, w ≠ .finished r := fun r hr => ended ⟨r, hr⟩
    rw [here.step going] at h
    obtain ⟨⟨s, d, w'⟩, gate, rfl⟩ := Option.map_eq_some_iff.mp h
    exact .inr ⟨s, d, w', going, gate, rfl⟩

end Wait.AtGate

/-- Which way a thread goes from the gate is no deed of its own. -/
theorem Deed.of_answer {k n : Nat} {b : Barrier} {r : Except PrimitiveError Unit} {x y : Wait}
    (hx : x.holdsLock = false) (before : x.served = true ↔ ∃ u, r = .ok u)
    (hy : y = .afterGate (.ofNat n) r ∨ y = .afterClaim r) :
    Deed k b x (.counted n) (if y.endsGeneration then k + 1 else k) b y
      ((Arrival.counted n).entering k y) := by
  have same : y.served = x.served := by
    refine Bool.eq_iff_iff.mpr (Iff.trans ?_ before.symm)
    rcases hy with rfl | rfl <;> rcases r with (_ | _) | _ <;>
      simp [Wait.afterGate, Wait.afterClaim, Wait.served]
  have unlocked : y.holdsLock = false := by
    rcases hy with rfl | rfl <;> rcases r with (_ | _) | _ <;> rfl
  have stays : y.endsGeneration = false ∧ (Arrival.counted n).entering k y = .counted n := by
    rcases hy with rfl | rfl <;> rcases r with (_ | _) | _ <;> exact ⟨rfl, rfl⟩
  rw [stays.1, stays.2]
  exact .passes same (unlocked.trans hx.symm)

/-- At the gate a thread that waits either leaves everything alone or takes a unit. -/
theorem Deed.of_gate {k n : Nat} {b : Barrier} {c d : Cancellation} {w w' : Semaphore.Wait}
    {s : Semaphore} {x y : Wait} (hw : w.Listens)
    (h : w.step (b.gate (Side.ofNumber n)) c = some (s, d, w')) (hx : x.holdsLock = false)
    (hy : y.holdsLock = false) (before : x.served = false)
    (after : y.served = true ↔ ∃ u, w' = .finished (.ok u)) :
    Deed k b x (.counted n) k (b.setGate (Side.ofNumber n) s) y (.counted n) := by
  obtain ⟨-, -, ⟨rfl, going, -⟩ | ⟨unit, rfl, rfl⟩⟩ := Semaphore.Wait.step_listens hw h
  · have unserved : y.served = false := by
      refine Bool.eq_false_iff.mpr fun hs => ?_
      obtain ⟨u, hu⟩ := after.mp hs
      exact going u hu
    rw [Barrier.setGate_gate]
    exact .passes (unserved.trans before.symm) (hy.trans hx.symm)
  · exact .takes rfl hx hy before (after.mpr ⟨_, rfl⟩) unit

/-- Every turn does one of the eight deeds. -/
theorem Wait.step_deed {k : Nat} {b : Barrier} {c : Cancellation} {fault : Option PrimitiveError}
    {w : Wait} {a : Arrival} {turn : Wait.Turn} (agrees : w.Agrees c a)
    (h : w.step b c fault = some turn) :
    Deed k b w a (if turn.stage.endsGeneration then k + 1 else k) turn.barrier turn.stage
      (a.entering k turn.stage) := by
  cases w with
  | enter =>
    cases fault <;> obtain rfl := Option.some.inj h <;> exact .passes rfl rfl
  | lock =>
    simp only [step] at h
    split at h
    · cases h
    · next free =>
      obtain rfl := Option.some.inj h
      exact .locks (Bool.eq_false_iff.mpr free) rfl rfl rfl
  | arrive =>
    simp only [step] at h
    split at h
    · next complete =>
      obtain rfl := Option.some.inj h
      exact .trips agrees rfl rfl rfl rfl complete
    · next incomplete =>
      obtain rfl := Option.some.inj h
      exact .arrives agrees rfl rfl rfl rfl incomplete
  | trip g | counted g | overtaken g =>
    obtain rfl := Option.some.inj h
    exact .unlocks rfl rfl rfl
  | retracted g =>
    obtain rfl := Option.some.inj h
    exact .unlocks rfl rfl rfl
  | post g =>
    obtain ⟨n, rfl, rfl⟩ := agrees
    cases fault with
    | some e =>
      obtain rfl := Option.some.inj h
      exact .passes rfl rfl
    | none =>
      simp only [step] at h
      split at h
      · next s posted =>
        obtain rfl := Option.some.inj h
        exact .posts rfl rfl rfl rfl rfl posted
      · obtain rfl := Option.some.inj h
        exact .passes rfl rfl
  | pause g =>
    obtain ⟨n, rfl, rfl⟩ := agrees
    cases fault with
    | some e =>
      obtain rfl := Option.some.inj h
      exact .of_answer (r := .error e) rfl ⟨nofun, nofun⟩ (.inl rfl)
    | none =>
      obtain rfl := Option.some.inj h
      refine .passes (Bool.eq_false_iff.mpr fun hs => ?_) rfl
      obtain ⟨u, hu⟩ := AtGate.blocked.served.mp hs
      exact Semaphore.Wait.start_ne_finished hu
  | blocked g shield w =>
    obtain ⟨⟨n, rfl, rfl⟩, listens⟩ := agrees
    rcases AtGate.blocked.cases h with ⟨r, rfl⟩ | ⟨s, d, w', going, gate, rfl⟩
    · obtain rfl := Option.some.inj h
      exact .of_answer rfl (AtGate.blocked.served.trans (by simp)) (.inl rfl)
    · refine .of_gate listens gate rfl rfl (Bool.eq_false_iff.mpr fun hs => ?_) AtGate.blocked.served
      obtain ⟨u, hu⟩ := AtGate.blocked.served.mp hs
      exact going _ hu
  | turnBack g =>
    cases fault <;> obtain rfl := Option.some.inj h <;> exact .passes rfl rfl
  | relock g =>
    simp only [step] at h
    split at h
    · cases h
    · next free =>
      obtain rfl := Option.some.inj h
      exact .locks (Bool.eq_false_iff.mpr free) rfl rfl rfl
  | judge g =>
    obtain ⟨n, rfl, rfl⟩ := agrees
    simp only [step] at h
    split at h
    · next same =>
      obtain rfl := Option.some.inj h
      exact .retracts rfl rfl rfl rfl rfl same
    · obtain rfl := Option.some.inj h
      exact .passes rfl rfl
  | claim g =>
    obtain ⟨n, rfl, rfl⟩ := agrees
    cases fault with
    | some e =>
      obtain rfl := Option.some.inj h
      exact .of_answer (r := .error e) rfl ⟨nofun, nofun⟩ (.inr rfl)
    | none =>
      obtain rfl := Option.some.inj h
      refine .passes (Bool.eq_false_iff.mpr fun hs => ?_) rfl
      obtain ⟨u, hu⟩ := AtGate.claiming.served.mp hs
      exact Semaphore.Wait.start_ne_finished hu
  | claiming g shield w =>
    obtain ⟨⟨n, rfl, rfl⟩, listens, -⟩ := agrees
    rcases AtGate.claiming.cases h with ⟨r, rfl⟩ | ⟨s, d, w', going, gate, rfl⟩
    · obtain rfl := Option.some.inj h
      exact .of_answer rfl (AtGate.claiming.served.trans (by simp)) (.inr rfl)
    · refine .of_gate listens gate rfl rfl (Bool.eq_false_iff.mpr fun hs => ?_) AtGate.claiming.served
      obtain ⟨u, hu⟩ := AtGate.claiming.served.mp hs
      exact going _ hu
  | finished r => cases h

theorem Wait.agrees_afterGate {c : Cancellation} {k n : Nat} (r : Except PrimitiveError Unit) :
    (afterGate (.ofNat n) r).Agrees c
      ((Arrival.counted n).entering k (afterGate (.ofNat n) r)) := by
  rcases r with (_ | _) | _ <;> simp [afterGate, Agrees, Arrival.entering]

/-- Every turn keeps stage and arrival in agreement. -/
theorem Wait.agrees_step {k : Nat} {b : Barrier} {c : Cancellation} {fault : Option PrimitiveError}
    {w : Wait} {a : Arrival} {turn : Wait.Turn} (agrees : w.Agrees c a)
    (current : b.generation = .ofNat k) (rule : ∀ side, (b.gate side).rule = .whileBlocked)
    (h : w.step b c fault = some turn) :
    turn.stage.Agrees turn.cancel (a.entering k turn.stage) := by
  cases w with
  | enter =>
    cases fault <;> obtain rfl := Option.some.inj h
    · exact agrees
    · trivial
  | lock =>
    simp only [step] at h
    split at h
    · cases h
    · obtain rfl := Option.some.inj h
      exact agrees
  | arrive =>
    simp only [step] at h
    split at h <;> obtain rfl := Option.some.inj h <;> exact ⟨k, rfl, current⟩
  | trip g | counted g | overtaken g =>
    obtain rfl := Option.some.inj h
    exact agrees
  | retracted g =>
    obtain rfl := Option.some.inj h
    trivial
  | post g =>
    obtain ⟨n, rfl, rfl⟩ := agrees
    cases fault with
    | some e =>
      obtain rfl := Option.some.inj h
      trivial
    | none =>
      simp only [step] at h
      split at h <;> obtain rfl := Option.some.inj h
      · exact ⟨n, rfl⟩
      · trivial
  | pause g =>
    obtain ⟨n, rfl, rfl⟩ := agrees
    cases fault with
    | some e =>
      obtain rfl := Option.some.inj h
      exact agrees_afterGate (.error e)
    | none =>
      obtain rfl := Option.some.inj h
      refine ⟨⟨n, rfl, rfl⟩, ?_⟩
      rw [rule]
      trivial
  | blocked g shield w =>
    obtain ⟨⟨n, rfl, rfl⟩, listens⟩ := agrees
    rcases AtGate.blocked.cases h with ⟨r, rfl⟩ | ⟨s, d, w', -, gate, rfl⟩
    · obtain rfl := Option.some.inj h
      exact agrees_afterGate r
    · exact ⟨⟨n, rfl, rfl⟩, (Semaphore.Wait.step_listens listens gate).2.1⟩
  | turnBack g =>
    cases fault <;> obtain rfl := Option.some.inj h
    · exact agrees
    · trivial
  | relock g =>
    simp only [step] at h
    split at h
    · cases h
    · obtain rfl := Option.some.inj h
      exact agrees
  | judge g =>
    obtain ⟨n, rfl, rfl⟩ := agrees
    simp only [step] at h
    split at h <;> obtain rfl := Option.some.inj h
    · exact ⟨n, k, rfl⟩
    · exact ⟨n, rfl, rfl⟩
  | claim g =>
    obtain ⟨n, rfl, rfl⟩ := agrees
    cases fault with
    | some e =>
      obtain rfl := Option.some.inj h
      trivial
    | none =>
      obtain rfl := Option.some.inj h
      refine ⟨⟨n, rfl, rfl⟩, ?_⟩
      rw [rule]
      exact ⟨trivial, rfl, nofun⟩
  | claiming g shield w =>
    obtain ⟨⟨n, rfl, rfl⟩, listens, deaf, going⟩ := agrees
    rcases AtGate.claiming.cases h with ⟨r, rfl⟩ | ⟨s, d, w', -, gate, rfl⟩
    · obtain rfl := Option.some.inj h
      rcases r with e | u
      · exact absurd rfl (going e)
      · exact ⟨n, rfl⟩
    · obtain ⟨rfl, listens', took⟩ := Semaphore.Wait.step_listens listens gate
      refine ⟨⟨n, rfl, rfl⟩, listens', deaf, fun e failed => ?_⟩
      rcases took with ⟨-, -, asked⟩ | ⟨-, -, rfl⟩
      · -- a deaf thread hears of no request
        have := asked e failed
        simp [Cancellation.pending, deaf] at this
      · cases failed
  | finished r => cases h

/-- A failure replaces a call, so it does nothing to a stage that makes none. -/
theorem Wait.step_of_asks_eq_none {b : Barrier} {c : Cancellation} {fault : Option PrimitiveError}
    {w : Wait} (h : w.asks = none) : w.step b c fault = w.step b c none := by
  cases w with
  | enter | post g | pause g | turnBack g | claim g => cases h
  | blocked g shield w => cases w <;> rfl
  | claiming g shield w => cases w <;> rfl
  | _ => rfl

/-- Left to itself, a wait fails only if it has taken its arrival back, or cannot post. -/
theorem Wait.arrival_of_error {b : Barrier} {c : Cancellation} {w : Wait} {a : Arrival}
    {turn : Wait.Turn} {e : BarrierError} (agrees : w.Agrees c a)
    (h : w.step b c none = some turn) (failed : turn.stage = .finished (.error e)) :
    (e = .primitive .canceled ∧ ∃ n during, a = .withdrawn n during) ∨
      ∃ n, a = .last n ∧ w = .post (.ofNat n) := by
  cases w with
  | enter | trip g | counted g | turnBack g | overtaken g | pause g | claim g =>
    obtain rfl := Option.some.inj h
    cases failed
  | lock | relock g =>
    simp only [step] at h
    split at h
    · cases h
    · obtain rfl := Option.some.inj h
      cases failed
  | arrive | judge g =>
    simp only [step] at h
    split at h
    all_goals
      obtain rfl := Option.some.inj h
      cases failed
  | retracted g =>
    obtain rfl := Option.some.inj h
    cases failed
    exact .inl ⟨rfl, agrees⟩
  | post g =>
    obtain ⟨n, rfl, rfl⟩ := agrees
    exact .inr ⟨n, rfl, rfl⟩
  | blocked g shield w =>
    rcases AtGate.blocked.cases h with ⟨r, rfl⟩ | ⟨_, _, _, -, -, rfl⟩
    · obtain rfl := Option.some.inj h
      rcases r with e | u
      · -- the gate listens, so the thread turns back
        obtain rfl : e = .canceled := agrees.2
        cases failed
      · cases failed
    · cases failed
  | claiming g shield w =>
    rcases AtGate.claiming.cases h with ⟨r, rfl⟩ | ⟨_, _, _, -, -, rfl⟩
    · obtain rfl := Option.some.inj h
      rcases r with e | u
      · exact absurd rfl (agrees.2.2.2 e)
      · cases failed
    · cases failed
  | finished r => cases h

end Barrier

end Rendezvous
