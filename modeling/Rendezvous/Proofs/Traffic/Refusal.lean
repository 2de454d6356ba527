import Rendezvous.Proofs.Runs
import Rendezvous.Proofs.Traffic.Facade

/-!
# A handle whose barrier cannot be built

If constructions for so many parties come to a failure, a handle that was made for as many stays as
it was. Each wait tries to build its barrier once, is refused with that failure and undoes what it
did on the way (`Operation.Denied`). It waits for nobody for good, and every turn of its own brings
it nearer to its end (`Operation.left`), so that no wait stays.
-/

set_option autoImplicit false

namespace Rendezvous

open Barrier Handle

namespace Barrier

/-- How many more stages a construction can have. -/
def Construction.left : Construction → Nat
  | check .. => 6
  | makeLock .. => 5
  | makeEven .. => 4
  | makeOdd .. => 3
  | undoEven .. => 2
  | undoLock .. => 1
  | finished _ => 0

theorem Construction.left_step {supply : Supply} {c : Construction} {fault : Option PrimitiveError}
    {turn : Construction.Turn} (move : c.step supply fault = some turn) :
    turn.stage.left < c.left := by
  cases c with
  | check =>
    simp only [step] at move
    split at move
    · cases move
      exact Nat.zero_lt_succ _
    · split at move
      · cases move
        exact Nat.zero_lt_succ _
      · split at move <;> cases move <;> simp [left]
  | makeLock => cases fault <;> cases move <;> simp [left]
  | makeEven | makeOdd =>
    simp only [step] at move
    split at move <;> cases move <;> simp [left]
  | undoEven | undoLock =>
    cases move
    simp [left]
  | finished => cases move

end Barrier

namespace Handle

variable {supply : Supply} {n : UInt32} {q : Inquiry} {err : BarrierError} {a : Arena}
  {d : Cancellation} {op : Operation} {turn : Operation.Turn}

/-! ## One turn -/

def Next.Denied (q : Inquiry) (err : BarrierError) : Next → Prop
  | answer r => q = .wait → r = .error err
  | resolve => True
  | again | discard | claim => False

/-- Where a call stands on a handle whose barrier cannot be built because of this failure. -/
def Operation.Denied (supply : Supply) (q : Inquiry) (err : BarrierError) : Operation → Prop
  | knock _ | look _ | guard _ | reserve _ | inspect _ => True
  | build _ c => c.Yields supply (.error err)
  | leave m | giveUp _ m | unguard m => m.Denied q err
  | finished r => q = .wait → r = .error err
  | _ => False

/-- How many more stages there can be. -/
def Next.left : Next → Nat
  | answer _ => 0
  | _ => 12

/-- How many more stages such a call can have. -/
def Operation.left : Operation → Nat
  | knock _ => 15
  | look _ => 14
  | guard _ => 12
  | reserve _ => 11
  | inspect _ => 10
  | build _ c => c.left + 3
  | giveUp _ m => m.left + 2
  | leave m | unguard m => m.left + 1
  | _ => 0

theorem Next.Denied.stage {m : Next} (denied : m.Denied q err) :
    m.stage.Denied supply q err ∧ m.stage.left = m.left := by
  cases m with
  | answer => exact ⟨denied, rfl⟩
  | resolve => exact ⟨trivial, rfl⟩
  | _ => exact denied.elim

theorem Operation.Denied.step (denied : op.Denied supply q err) (use : q.isUse = true)
    (serves : op.Serves (.inquire q))
    (yields : (Construction.check n false).Yields supply (.error err)) (slot : a.slot 0 = .unbuilt n)
    (move : op.step a 0 d supply none = some turn) :
    turn.stage.Denied supply q err ∧ turn.stage.left < op.left := by
  cases stride_of_step move with
  | knock | guard | reserve => exact ⟨trivial, Nat.lt_succ_self _⟩
  | look =>
    cases serves
    rw [slot]
    cases q with
    | wait => exact ⟨trivial, Nat.lt_succ_self _⟩
    | parties | gauge => exact ⟨by rintro ⟨⟩, by simp [Inquiry.look, left, Next.left]⟩
    | destroy | status => cases use
  | @leave m | @unguard m =>
    obtain ⟨denied, same⟩ : m.stage.Denied supply q err ∧ m.stage.left = m.left := denied.stage
    exact ⟨denied, same ▸ Nat.lt_succ_self _⟩
  | @inspect e =>
    obtain rfl := Errand.eq_resolve use serves
    rw [slot]
    exact ⟨yields, Nat.lt_succ_self _⟩
  | build stepped =>
    exact ⟨Construction.Yields.step denied stepped,
      Nat.add_lt_add_right (Construction.left_step stepped) 3⟩
  | built => cases Construction.Yields.of_finished denied
  | failed =>
    obtain ⟨⟩ := Construction.Yields.of_finished denied
    exact ⟨fun _ => rfl, Nat.lt_succ_self _⟩
  | @giveUp e m =>
    obtain rfl := Errand.eq_resolve use serves.1
    exact ⟨denied, Nat.lt_succ_self _⟩
  | _ => exact denied.elim

end Handle

namespace Traffic

variable {supply : Supply} {n : UInt32} {err : BarrierError} {s t : Traffic} {x : Act} {i : Nat}
  {v : Job} {settings : Nat → Cancellation}

/-! ## All calls -/

/-- Whoever is on the list after something was done was there before, as it is or before its turn, or
has just begun. -/
theorem job_of_act {w : Job} (h : s.act supply x = some t) (hw : t.jobs[i]? = some w) :
    (∃ v, s.jobs[i]? = some v ∧ w.purpose = v.purpose ∧
      (w = v ∧ (x.move supply).job? ≠ some i ∨
        x = .go i ∧ ∃ turn, w.stage = turn.stage ∧
          v.stage.step s.arena v.handle (s.settings v.thread) supply none = some turn)) ∨
      i = s.jobs.length ∧ (x.move supply).job? = none ∧ w.stage = w.purpose.first := by
  rcases job_of_step (step_of_act h) hw with ⟨v, hv, -, purpose, same | turned⟩ | ⟨place, begins, stage⟩
  · exact .inl ⟨v, hv, purpose, .inl same⟩
  · refine .inl ⟨v, hv, purpose, .inr ?_⟩
    generalize move : x.move supply = m at turned
    cases turned with
    | took moved =>
      cases x <;> cases move
      exact ⟨rfl, _, rfl, moved⟩
  · exact .inr ⟨place, by rw [begins]; rfl, stage⟩

structure Refused (supply : Supply) (n : UInt32) (err : BarrierError) (s : Traffic) : Prop where
  use : InUse supply n (.error err) s
  denied : ∀ v ∈ s.jobs, ∀ q, v.purpose = .inquire q → v.stage.Denied supply q err

namespace Refused

theorem slot (r : Refused supply n err s) : s.arena.slot 0 = .unbuilt n := by
  cases r.use.place with
  | unbuilt slot | built slot => exact slot
  | live _ _ isOk => cases isOk

/-- What a turn of a call makes of it. -/
theorem turn (r : Refused supply n err s) (hv : v ∈ s.jobs) {turn : Operation.Turn}
    (moved : v.stage.step s.arena v.handle (s.settings v.thread) supply none = some turn) :
    (∀ q, v.purpose = .inquire q → turn.stage.Denied supply q err) ∧
      turn.stage.left < v.stage.left := by
  obtain ⟨q, use, aim⟩ := r.use.uses v hv
  have serves := aim ▸ r.use.custody.serves v hv
  rw [r.use.handle hv] at moved
  obtain ⟨denied, less⟩ := (r.denied v hv q aim).step use serves r.use.yields r.slot moved
  refine ⟨fun q' aim' => ?_, less⟩
  obtain rfl := Purpose.inquire.inj (aim.symm.trans aim')
  exact denied

theorem step (r : Refused supply n err s) (h : s.act supply x = some t) : Refused supply n err t := by
  refine ⟨r.use.step h, fun w hw q aim => ?_⟩
  obtain ⟨i, hi⟩ := List.mem_iff_getElem?.mp hw
  rcases job_of_act h hi with ⟨v, hv, purpose, ⟨rfl, -⟩ | ⟨-, turn, stage, moved⟩⟩ | ⟨-, -, stage⟩
  · exact r.denied w (List.mem_of_getElem? hv) q aim
  · rw [stage]
    exact (r.turn (List.mem_of_getElem? hv) moved).1 q (purpose.symm.trans aim)
  · rw [stage, aim]
    trivial

/-- Before anybody has called. -/
theorem start (refused : Construction.verdict supply n = .error err) :
    Refused supply n err (Traffic.start [some n] settings) :=
  ⟨refused ▸ InUse.start supply n settings, fun _ hv => absurd hv List.not_mem_nil⟩

/-- Where nobody can go on, all calls have returned. -/
theorem over_of_still (r : Refused supply n err s) (still : Still supply s) (hv : v ∈ s.jobs) :
    v.stage.isOver = true := by
  obtain ⟨i, hi⟩ := List.mem_iff_getElem?.mp hv
  cases going : v.stage.isOver with
  | true => rfl
  | false =>
    have live := (r.use.inside_of_still still hi going).1
    cases r.slot.symm.trans live

/-- So many turns a call has had, and so many it can have. -/
structure Spent (supply : Supply) (n : UInt32) (err : BarrierError) (acts : List Act) (s : Traffic) :
    Prop where
  refused : Refused supply n err s
  bound : ∀ i v, s.jobs[i]? = some v →
    Move.turnsOf i (acts.map (Act.move supply)) + v.stage.left ≤ 15
  absent : ∀ i, s.jobs.length ≤ i → Move.turnsOf i (acts.map (Act.move supply)) = 0

theorem Spent.step {acts : List Act} (c : Spent supply n err acts s) (h : s.act supply x = some t) :
    Spent supply n err (acts ++ [x]) t := by
  have turns (i : Nat) : Move.turnsOf i ((acts ++ [x]).map (Act.move supply)) =
      Move.turnsOf i (acts.map (Act.move supply)) +
        if (x.move supply).job? = some i then 1 else 0 := by
    simp [Move.turnsOf, List.countP_append, List.countP_singleton]
  refine ⟨c.refused.step h, fun i w hw => ?_, fun i beyond => ?_⟩
  · rw [turns]
    rcases job_of_act h hw with
      ⟨v, hv, -, ⟨rfl, other⟩ | ⟨rfl, turn, stage, moved⟩⟩ | ⟨place, quiet, stage⟩
    · rw [if_neg other]
      exact c.bound i w hv
    · have bound := c.bound i v hv
      have less := (c.refused.turn (List.mem_of_getElem? hv) moved).2
      rw [if_pos (show (Act.move supply (.go i)).job? = some i from rfl), stage]
      omega
    · rw [c.absent i (Nat.le_of_eq place.symm), if_neg (by rw [quiet]; nofun), stage]
      obtain ⟨q, -, aim⟩ := (c.refused.step h).use.uses w (List.mem_of_getElem? hw)
      rw [aim]
      exact Nat.le_refl 15
  · rw [turns]
    have before : s.jobs.length ≤ i := by
      by_contra there
      obtain ⟨w, hw, -⟩ := job_step (step_of_act h)
        (List.getElem?_eq_getElem (Nat.lt_of_not_le there))
      exact absurd (List.getElem?_eq_some_iff.mp hw).1 (Nat.not_lt_of_le beyond)
    rw [c.absent i before, Nat.zero_add, if_neg]
    intro own
    cases x with
    | go j =>
      cases own
      obtain ⟨v, hv, -⟩ := Option.bind_eq_some_iff.mp (step_of_act h)
      exact absurd (List.getElem?_eq_some_iff.mp hv).1 (Nat.not_lt_of_le before)
    | _ => cases own

theorem Spent.of_run {acts : List Act} (refused : Construction.verdict supply n = .error err)
    (run : Schedule.run (act supply) (Traffic.start [some n] settings) acts = some s) :
    Spent supply n err acts s :=
  Schedule.run_induction (P := Spent supply n err)
    ⟨.start refused, fun _ _ hv => absurd (List.mem_of_getElem? hv) List.not_mem_nil,
      fun _ _ => rfl⟩
    (fun _ move before => before.step move) run

end Refused

end Traffic

end Rendezvous
