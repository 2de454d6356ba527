import Rendezvous.Proofs.Counting
import Rendezvous.Proofs.Crowd.Turn
import Rendezvous.Proofs.Delivery

/-!
# What every crowd keeps

Whatever the rules, and whatever fails, some things hold of every state that a crowd around a new
barrier reaches. The barrier's counter shows the open generation; the gates listen; every visit's
stage agrees with its arrival; nobody was counted in a generation that is still to come; and no
thread is inside twice. These are the facts of a `Register`, and every move keeps them
(`Register.step`). They need no counting, and everything that does count builds on them.
-/

set_option autoImplicit false

namespace Rendezvous

namespace Barrier

/-! ## What a deed leaves alone -/

namespace Deed

variable {k k' : Nat} {b b' : Barrier} {w w' : Wait} {a a' : Arrival}

theorem parties_eq (h : Deed k b w a k' b' w' a') : b'.parties = b.parties := by
  cases h with
  | posts | takes => exact parties_setGate _ _ _
  | _ => rfl

theorem generation_eq (h : Deed k b w a k' b' w' a') (hk : b.generation = .ofNat k) :
    b'.generation = .ofNat k' := by
  cases h with
  | trips =>
    show b.generation + 1 = .ofNat (k + 1)
    rw [hk, UInt64.ofNat_add]
    rfl
  | posts | takes => exact (generation_setGate _ _ _).trans hk
  | _ => exact hk

theorem rule_eq (h : Deed k b w a k' b' w' a') (side : Side) :
    (b'.gate side).rule = (b.gate side).rule := by
  cases h with
  | @posts _ n s _ _ _ _ _ posted =>
    by_cases hs : side = Side.ofNumber n
    · rw [hs, gate_setGate_self]
      exact Semaphore.post_rule posted
    · rw [gate_setGate_of_ne _ _ hs]
  | @takes _ n =>
    by_cases hs : side = Side.ofNumber n
    · rw [hs, gate_setGate_self]
    · rw [gate_setGate_of_ne _ _ hs]
  | _ => simp

/-- What becomes of the arrival: it is counted in, or taken back, or stays what it was. -/
theorem arrival_cases (h : Deed k b w a k' b' w' a') :
    k' = k ∧ a' = a ∨ k' = k ∧ a = .due ∧ a' = .counted k ∨
      (k' = k + 1 ∧ a = .due ∧ a' = .last k ∧ b.countIn.missing = 0) ∨
      ∃ n, k' = k ∧ a = .counted n ∧ a' = .withdrawn n k ∧ b.generation = .ofNat n := by
  cases h with
  | arrives due => exact .inr (.inl ⟨rfl, due, rfl⟩)
  | trips due _ _ _ _ complete => exact .inr (.inr (.inl ⟨rfl, due, rfl, complete⟩))
  | retracts counted _ _ _ _ same => exact .inr (.inr (.inr ⟨_, rfl, counted, rfl, same⟩))
  | _ => exact .inl ⟨rfl, rfl⟩

theorem le (h : Deed k b w a k' b' w' a') : k ≤ k' := by
  rcases h.arrival_cases with ⟨rfl, -⟩ | ⟨rfl, -⟩ | ⟨rfl, -⟩ | ⟨n, rfl, -⟩
  · exact Nat.le_refl k'
  · exact Nat.le_refl k'
  · exact Nat.le_succ k
  · exact Nat.le_refl k'

end Deed

/-- The arrival does not lie in the future, and if it was taken back, then while the barrier's
counter showed its generation. -/
def Arrival.Past (k : Nat) : Arrival → Prop
  | .due => True
  | .counted g => g ≤ k
  | .last g => g < k
  | .withdrawn g during => g ≤ during ∧ during ≤ k ∧ UInt64.ofNat g = .ofNat during

theorem Arrival.Past.mono {k k' : Nat} {a : Arrival} (h : a.Past k) (le : k ≤ k') : a.Past k' := by
  cases a with
  | due => trivial
  | counted g => exact Nat.le_trans h le
  | last g => exact Nat.lt_of_lt_of_le h le
  | withdrawn g during => exact ⟨h.1, Nat.le_trans h.2.1 le, h.2.2⟩

theorem Deed.past {k k' : Nat} {b b' : Barrier} {w w' : Wait} {a a' : Arrival}
    (h : Deed k b w a k' b' w' a') (hk : b.generation = .ofNat k) (ha : a.Past k) : a'.Past k' := by
  rcases h.arrival_cases with ⟨rfl, rfl⟩ | ⟨rfl, -, rfl⟩ | ⟨rfl, -, rfl, -⟩ |
    ⟨n, rfl, rfl, rfl, same⟩
  · exact ha
  · exact Nat.le_refl k'
  · exact Nat.lt_succ_self k
  · exact ⟨ha, Nat.le_refl k', same.symm.trans hk⟩

/-- Only a thread that fetches the unit it is owed depends on its settings. -/
theorem Wait.Agrees.congr {c d : Cancellation} {w : Wait} {a : Arrival} (h : w.Agrees c a)
    (hd : w.isOver = true ∨ d.state = c.state) : w.Agrees d a := by
  cases w with
  | claiming g shield w =>
    obtain ⟨counted, listens, deaf, going⟩ := h
    rcases hd with ended | same
    · cases ended
    · exact ⟨counted, listens, same.trans deaf, going⟩
  | finished r => rcases r with _ | (_ | _) <;> exact h
  | _ => exact h

end Barrier

open Barrier

namespace Crowd

/-! ## Moves -/

theorem step_go {rules : Rules} {s t : Crowd} {i : Nat} {fault : Option PrimitiveError}
    (h : s.step rules (.go i fault) = some t) :
    ∃ v turn, s.visits[i]? = some v ∧ rules.permits v.stage fault = true ∧
      v.stage.step s.barrier (s.settings v.thread) fault = some turn ∧ t = s.after i v turn := by
  obtain ⟨v, hv, h⟩ := Option.bind_eq_some_iff.mp h
  split at h
  · next may =>
    obtain ⟨turn, hturn, rfl⟩ := Option.map_eq_some_iff.mp h
    exact ⟨v, turn, hv, may, hturn, rfl⟩
  · cases h

/-- What a move does: somebody enters, somebody's settings change, or a visit takes a turn. -/
theorem step_cases {rules : Rules} {s t : Crowd} {m : Move} (h : s.step rules m = some t) :
    (∃ thread, s.isOutside thread = true ∧ rules.admits s.inside = true ∧
      t = { s with visits := s.visits ++ [{ thread := thread }] }) ∨
    (∃ thread c, (s.isOutside thread = true ∨ c.state = (s.settings thread).state) ∧
      t = s.setSettings thread c) ∨
    (∃ i fault v turn, s.visits[i]? = some v ∧ rules.permits v.stage fault = true ∧
      v.stage.step s.barrier (s.settings v.thread) fault = some turn ∧ t = s.after i v turn) := by
  cases m with
  | begin thread =>
    simp only [step, Bool.and_eq_true] at h
    split at h
    · next may => exact .inl ⟨thread, may.1, may.2, (Option.some.inj h).symm⟩
    · cases h
  | go i fault => exact .inr (.inr ⟨i, fault, step_go h⟩)
  | request thread =>
    exact .inr (.inl ⟨thread, (s.settings thread).request, .inr rfl, (Option.some.inj h).symm⟩)
  | adjust thread type state =>
    simp only [step] at h
    split at h
    · next may => exact .inr (.inl ⟨thread, _, .inl may, (Option.some.inj h).symm⟩)
    · cases h

theorem inside_of_step {b : Barrier} {c : Cancellation} {fault : Option PrimitiveError} {v : Visit}
    {turn : Wait.Turn} (h : v.stage.step b c fault = some turn) : v.inside = true := by
  unfold Visit.inside
  cases hv : v.stage with
  | finished r => rw [hv] at h; cases h
  | _ => rfl

theorem isOver_of_isOutside {s : Crowd} {thread : Nat} (h : s.isOutside thread = true) {v : Visit}
    (hv : v ∈ s.visits) (same : v.thread = thread) : v.stage.isOver = true := by
  have := List.all_eq_true.mp h v hv
  simpa [same] using this

/-- After a turn one visit has moved on and the others are as they were. -/
theorem visit_after {s : Crowd} {i j : Nat} {v w : Visit} {turn : Wait.Turn}
    (h : (s.after i v turn).visits[j]? = some w) :
    (j = i ∧ w = v.enter s.trips turn.stage) ∨ (j ≠ i ∧ s.visits[j]? = some w) :=
  getElem?_set_cases h

/-- Where a visit comes from: it was there already and has not moved, or it has just begun, or it
has taken the turn. -/
theorem visit_cases {rules : Rules} {s t : Crowd} {m : Move} (h : s.step rules m = some t) {j : Nat}
    {w : Visit} (hw : t.visits[j]? = some w) :
    (s.visits[j]? = some w ∧ ∀ fault, m ≠ .go j fault) ∨
    (s.visits[j]? = none ∧ w = { thread := w.thread }) ∨
    ∃ fault v turn, m = .go j fault ∧ s.visits[j]? = some v ∧
      v.stage.step s.barrier (s.settings v.thread) fault = some turn ∧
      w = v.enter s.trips turn.stage := by
  cases m with
  | begin thread =>
    simp only [Crowd.step] at h
    split at h
    · obtain rfl := Option.some.inj h
      rcases getElem?_concat_cases hw with old | ⟨rfl, rfl⟩
      · exact .inl ⟨old, fun _ same => by cases same⟩
      · exact .inr (.inl ⟨List.getElem?_eq_none (Nat.le_refl _), rfl⟩)
    · cases h
  | go i fault =>
    obtain ⟨v, turn, hv, -, hturn, rfl⟩ := step_go h
    rcases visit_after hw with ⟨rfl, rfl⟩ | ⟨other, hw⟩
    · exact .inr (.inr ⟨fault, v, turn, rfl, hv, hturn, rfl⟩)
    · refine .inl ⟨hw, fun _ same => other ?_⟩
      cases same
      rfl
  | request thread =>
    obtain rfl := Option.some.inj h
    exact .inl ⟨hw, fun _ same => by cases same⟩
  | adjust thread type state =>
    simp only [Crowd.step] at h
    split at h
    · obtain rfl := Option.some.inj h
      exact .inl ⟨hw, fun _ same => by cases same⟩
    · cases h

/-- What becomes of a visit: it stays as it is, or takes the turn. -/
theorem visit_next {rules : Rules} {s t : Crowd} {m : Move} (h : s.step rules m = some t) {i : Nat}
    {v : Visit} (hv : s.visits[i]? = some v) :
    ∃ w, t.visits[i]? = some w ∧ (w = v ∨ ∃ fault turn,
      v.stage.step s.barrier (s.settings v.thread) fault = some turn ∧ t = s.after i v turn ∧
        w = v.enter s.trips turn.stage) := by
  have hi := (List.getElem?_eq_some_iff.mp hv).1
  rcases step_cases h with ⟨thread, -, -, rfl⟩ | ⟨thread, c, -, rfl⟩ |
    ⟨j, fault, x, turn, hx, -, hturn, rfl⟩
  · exact ⟨v, (List.getElem?_append_left hi).trans hv, .inl rfl⟩
  · exact ⟨v, hv, .inl rfl⟩
  · by_cases same : j = i
    · subst same
      obtain rfl := Option.some.inj (hx.symm.trans hv)
      exact ⟨_, List.getElem?_set_self hi, .inr ⟨fault, turn, hturn, rfl, rfl⟩⟩
    · exact ⟨v, (List.getElem?_set_ne same).trans hv, .inl rfl⟩

/-! ## The register -/

structure Register (s : Crowd) : Prop where
  generation : s.barrier.generation = .ofNat s.trips
  listens : ∀ side, (s.barrier.gate side).rule = .whileBlocked
  agrees : ∀ v ∈ s.visits, v.stage.Agrees (s.settings v.thread) v.arrival
  past : ∀ v ∈ s.visits, v.arrival.Past s.trips
  alone : ∀ {i j : Nat} {v w : Visit}, s.visits[i]? = some v → s.visits[j]? = some w →
    v.thread = w.thread → v.inside = true → w.inside = true → i = j

theorem Register.around {parties : UInt32} {b : Barrier} (h : Pristine parties b)
    (settings : Nat → Cancellation) : Register (around b settings) where
  generation := h.generation
  listens := h.listens
  agrees _ hv := (List.not_mem_nil hv).elim
  past _ hv := (List.not_mem_nil hv).elim
  alone hv := (List.not_mem_nil (List.mem_of_getElem? hv)).elim

theorem Register.begin {s : Crowd} (h : Register s) {thread : Nat}
    (outside : s.isOutside thread = true) :
    Register { s with visits := s.visits ++ [{ thread := thread }] } where
  generation := h.generation
  listens := h.listens
  agrees := by
    intro v hv
    rcases List.mem_append.mp hv with old | new
    · exact h.agrees v old
    · rw [List.mem_singleton.mp new]
      rfl
  past := by
    intro v hv
    rcases List.mem_append.mp hv with old | new
    · exact h.past v old
    · rw [List.mem_singleton.mp new]
      trivial
  alone := by
    -- the newcomer's thread has no other visit that is not over
    have newcomer : ∀ {i : Nat} {v : Visit}, s.visits[i]? = some v → v.thread = thread →
        v.inside ≠ true := by
      intro i v hv same inside
      have ended := isOver_of_isOutside outside (List.mem_of_getElem? hv) same
      simp [Visit.inside, ended] at inside
    intro i j v w hv hw same inv inw
    rcases getElem?_concat_cases hv with hv | ⟨hi, rfl⟩ <;>
      rcases getElem?_concat_cases hw with hw | ⟨hj, rfl⟩
    · exact h.alone hv hw same inv inw
    · exact absurd inv (newcomer hv same)
    · exact absurd inw (newcomer hw same.symm)
    · rw [hi, hj]

theorem Register.setSettings {s : Crowd} (h : Register s) {thread : Nat} {c : Cancellation}
    (may : s.isOutside thread = true ∨ c.state = (s.settings thread).state) :
    Register (s.setSettings thread c) where
  generation := h.generation
  listens := h.listens
  agrees := by
    intro v hv
    show v.stage.Agrees (if v.thread = thread then c else s.settings v.thread) v.arrival
    by_cases same : v.thread = thread
    · rw [if_pos same]
      refine (h.agrees v hv).congr ?_
      rw [same]
      exact may.imp (isOver_of_isOutside · hv same) id
    · rw [if_neg same]
      exact h.agrees v hv
  past := h.past
  alone := h.alone

theorem Register.deed {s : Crowd} (h : Register s) {i : Nat} {fault : Option PrimitiveError}
    {v : Visit} {turn : Wait.Turn} (hv : s.visits[i]? = some v)
    (hturn : v.stage.step s.barrier (s.settings v.thread) fault = some turn) :
    Deed s.trips s.barrier v.stage v.arrival (s.after i v turn).trips (s.after i v turn).barrier
      turn.stage (v.arrival.entering s.trips turn.stage) :=
  Wait.step_deed (h.agrees v (List.mem_of_getElem? hv)) hturn

theorem Register.after {s : Crowd} (h : Register s) {i : Nat} {fault : Option PrimitiveError}
    {v : Visit} {turn : Wait.Turn} (hv : s.visits[i]? = some v)
    (hturn : v.stage.step s.barrier (s.settings v.thread) fault = some turn) :
    Register (s.after i v turn) where
  generation := (h.deed hv hturn).generation_eq h.generation
  listens side := ((h.deed hv hturn).rule_eq side).trans (h.listens side)
  agrees := by
    intro w hw
    obtain ⟨j, hj⟩ := List.mem_iff_getElem?.mp hw
    show w.stage.Agrees (if w.thread = v.thread then turn.cancel else s.settings w.thread) w.arrival
    rcases visit_after hj with ⟨-, rfl⟩ | ⟨other, hj⟩
    · rw [if_pos (show (v.enter s.trips turn.stage).thread = v.thread from rfl)]
      exact Wait.agrees_step (h.agrees v (List.mem_of_getElem? hv)) h.generation h.listens hturn
    · refine (h.agrees w (List.mem_of_getElem? hj)).congr ?_
      by_cases same : w.thread = v.thread
      · -- nobody is inside twice, so this visit of the same thread is over
        refine .inl (Decidable.byContradiction fun going => other ?_)
        exact h.alone hj hv same (by simpa [Visit.inside] using going) (inside_of_step hturn)
      · rw [if_neg same]
        exact .inr rfl
  past := by
    intro w hw
    rcases List.mem_or_eq_of_mem_set hw with old | rfl
    · exact (h.past w old).mono (h.deed hv hturn).le
    · exact (h.deed hv hturn).past h.generation (h.past v (List.mem_of_getElem? hv))
  alone := by
    intro j k w x hw hx same inw inx
    rcases visit_after hw with ⟨hj, rfl⟩ | ⟨-, hw⟩ <;>
      rcases visit_after hx with ⟨hk, rfl⟩ | ⟨-, hx⟩
    · exact hj.trans hk.symm
    · exact hj.trans (h.alone hv hx same (inside_of_step hturn) inx)
    · exact (h.alone hw hv same inw (inside_of_step hturn)).trans hk.symm
    · exact h.alone hw hx same inw inx

theorem Register.step {rules : Rules} {s t : Crowd} {m : Move} (h : Register s)
    (move : s.step rules m = some t) : Register t := by
  rcases step_cases move with ⟨thread, outside, -, rfl⟩ | ⟨thread, c, may, rfl⟩ |
    ⟨i, fault, v, turn, hv, -, hturn, rfl⟩
  · exact h.begin outside
  · exact h.setSettings may
  · exact h.after hv hturn

theorem Register.keeps {rules : Rules} {s t : Crowd} (h : Register s)
    (run : Schedule.Reaches (Crowd.step rules) s t) : Register t :=
  run.keeps (fun h move => h.step move) h

theorem Register.of_reaches {rules : Rules} {parties : UInt32} {b : Barrier}
    {settings : Nat → Cancellation} {s : Crowd} (new : Pristine parties b)
    (run : Schedule.Reaches (Crowd.step rules) (Crowd.around b settings) s) : Register s :=
  (Register.around new settings).keeps run

theorem Register.trips_le {rules : Rules} {s t : Crowd} {m : Move} (h : Register s)
    (move : s.step rules m = some t) : s.trips ≤ t.trips := by
  rcases step_cases move with ⟨_, -, -, rfl⟩ | ⟨_, _, -, rfl⟩ |
    ⟨i, fault, v, turn, hv, -, hturn, rfl⟩
  · exact Nat.le_refl _
  · exact Nat.le_refl _
  · exact (h.deed hv hturn).le

theorem Register.parties_step {rules : Rules} {s t : Crowd} {m : Move} (h : Register s)
    (move : s.step rules m = some t) : t.barrier.parties = s.barrier.parties := by
  rcases step_cases move with ⟨_, -, -, rfl⟩ | ⟨_, _, -, rfl⟩ |
    ⟨i, fault, v, turn, hv, -, hturn, rfl⟩
  · rfl
  · rfl
  · exact (h.deed hv hturn).parties_eq

theorem parties_of_reaches {rules : Rules} {parties : UInt32} {b : Barrier}
    {settings : Nat → Cancellation} {s : Crowd} (new : Pristine parties b)
    (run : Schedule.Reaches (Crowd.step rules) (Crowd.around b settings) s) :
    s.barrier.parties = parties := by
  induction run with
  | refl => exact new.parties_eq
  | tail m run move ih => exact ((Register.of_reaches new run).parties_step move).trans ih

/-! ## Runs in which nothing is made to fail -/

def Rules.Faultless (rules : Rules) : Prop := ∀ ask, rules.mayFail ask = false

theorem Rules.Faultless.no_fault {rules : Rules} (h : rules.Faultless) {stage : Wait}
    {fault : Option PrimitiveError} (may : rules.permits stage fault = true) : fault = none := by
  cases fault with
  | none => rfl
  | some e =>
    unfold permits at may
    cases hs : stage.asks <;> simp [hs, h _] at may

/-- If the wait failed, it has taken its arrival back, or it is that of a last one. -/
def Excused (v : Visit) : Prop :=
  ∀ e, v.stage = .finished (.error e) →
    (e = .primitive .canceled ∧ ∃ n during, v.arrival = .withdrawn n during) ∨
      ∃ n, v.arrival = .last n

theorem Register.excused_after {s : Crowd} (h : Register s) {i : Nat} {v : Visit}
    {turn : Wait.Turn} (hv : s.visits[i]? = some v)
    (hturn : v.stage.step s.barrier (s.settings v.thread) none = some turn)
    (before : ∀ w ∈ s.visits, Excused w) : ∀ w ∈ (s.after i v turn).visits, Excused w := by
  intro w hw
  rcases List.mem_or_eq_of_mem_set hw with old | rfl
  · exact before w old
  · intro e failed
    have failed : turn.stage = .finished (.error e) := failed
    have same : (v.enter s.trips turn.stage).arrival = v.arrival := by
      show v.arrival.entering s.trips turn.stage = v.arrival
      rw [failed]
      rfl
    rw [same]
    exact (Wait.arrival_of_error (h.agrees v (List.mem_of_getElem? hv)) hturn failed).imp_right
      fun ⟨n, last, _⟩ => ⟨n, last⟩

theorem excused_begin {s : Crowd} (thread : Nat) (before : ∀ v ∈ s.visits, Excused v) :
    ∀ v ∈ s.visits ++ [{ thread := thread }], Excused v := by
  intro v hv
  rcases List.mem_append.mp hv with old | new
  · exact before v old
  · rw [List.mem_singleton.mp new]
    nofun

theorem excused_of_reaches {rules : Rules} {parties : UInt32} {b : Barrier}
    {settings : Nat → Cancellation} {s : Crowd} (new : Pristine parties b)
    (faultless : rules.Faultless)
    (run : Schedule.Reaches (Crowd.step rules) (Crowd.around b settings) s) :
    ∀ v ∈ s.visits, Excused v := by
  -- not by `keeps`: the turn needs the register of the state before it
  induction run with
  | refl => exact fun _ hv => (List.not_mem_nil hv).elim
  | tail m run move ih =>
    rcases step_cases move with ⟨thread, -, -, rfl⟩ | ⟨thread, c, -, rfl⟩ |
      ⟨i, fault, v, turn, hv, may, hturn, rfl⟩
    · exact excused_begin thread ih
    · exact ih
    · rw [faultless.no_fault may] at hturn
      exact (Register.of_reaches new run).excused_after hv hturn ih

/-- Whoever was counted and kept its arrival can get only the outcome that is meant for it. -/
theorem Register.released_of_counted {s : Crowd} (h : Register s) {n : Nat} {v : Visit}
    (hv : v ∈ s.visits) (excused : Excused v) (counted : v.arrival = .counted n) :
    v.stage = .finished (.ok .released) ∨ v.inside = true := by
  have agrees := h.agrees v hv
  unfold Visit.inside
  cases stage : v.stage with
  | finished r =>
    rcases r with e | (_ | _)
    · rcases excused e stage with ⟨-, _, _, other⟩ | ⟨_, other⟩ <;> cases counted.symm.trans other
    · rw [stage] at agrees
      obtain ⟨_, other⟩ := agrees
      cases counted.symm.trans other
    · exact .inl rfl
  | _ => exact .inr rfl

end Crowd

end Rendezvous
