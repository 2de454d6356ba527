import Rendezvous.Handle.Operation
import Rendezvous.Proofs.Crowd.Turn
import Rendezvous.Proofs.Make

/-!
# The mark that a barrier bears

A barrier is built for one process or for several, and both its gates with it. It bears this mark
(`Barrier.Marked`) from the first stage of its construction, which was told, and no stage of any
call takes it off.

A gate that is to be shared can be refused. What one stage of a construction does is listed in
`Construction.Stride`, with what it takes for a gate to fail.
-/

set_option autoImplicit false

namespace Rendezvous.Barrier

variable {b : Barrier} {shared : Bool} {c : Cancellation} {fault : Option PrimitiveError}

/-- The barrier and both its gates were made for several processes, or for one. -/
structure Marked (b : Barrier) (shared : Bool) : Prop where
  barrier : b.shared = shared
  even : b.evenGate.shared = shared
  odd : b.oddGate.shared = shared

namespace Marked

theorem setGate {side : Side} {s : Semaphore} (m : b.Marked shared) (alike : (b.gate side).Alike s) :
    (b.setGate side s).Marked shared := by
  cases side with
  | even => exact ⟨m.barrier, alike.shared.trans m.even, m.odd⟩
  | odd => exact ⟨m.barrier, m.even, alike.shared.trans m.odd⟩

/-- The lock and the count say nothing of the mark. -/
theorem count (m : b.Marked shared) (locked : Bool) (missing : UInt32) (generation : UInt64) :
    { b with locked, missing, generation }.Marked shared := ⟨m.barrier, m.even, m.odd⟩

/-! ## Stages of calls on the barrier -/

theorem wait_step {w : Wait} {turn : Wait.Turn} (m : b.Marked shared)
    (move : w.step b c fault = some turn) : turn.barrier.Marked shared := by
  cases w with
  | enter | pause g | turnBack g | claim g =>
    cases fault <;> obtain rfl := Option.some.inj move <;> exact m
  | lock | relock g =>
    simp only [Wait.step] at move
    split at move
    · cases move
    · obtain rfl := Option.some.inj move
      exact m.count ..
  | arrive | judge g =>
    simp only [Wait.step] at move
    split at move <;> obtain rfl := Option.some.inj move <;> exact m.count ..
  | trip g | counted g | retracted g | overtaken g =>
    obtain rfl := Option.some.inj move
    exact m.count ..
  | post g =>
    cases fault with
    | some e =>
      obtain rfl := Option.some.inj move
      exact m
    | none =>
      simp only [Wait.step] at move
      split at move <;> obtain rfl := Option.some.inj move
      · next posted => exact m.setGate (Semaphore.alike_post posted)
      · exact m
  | blocked g shield w =>
    rcases Wait.AtGate.blocked.cases move with ⟨r, rfl⟩ | ⟨_, _, _, -, stepped, rfl⟩
    · obtain rfl := Option.some.inj move
      exact m
    · exact m.setGate (Semaphore.Wait.alike_step stepped)
  | claiming g shield w =>
    rcases Wait.AtGate.claiming.cases move with ⟨r, rfl⟩ | ⟨_, _, _, -, stepped, rfl⟩
    · obtain rfl := Option.some.inj move
      exact m
    · exact m.setGate (Semaphore.Wait.alike_step stepped)
  | finished r => cases move

theorem probe_step {gauge : Gauge} {p : Probe} {turn : Probe.Turn} (m : b.Marked shared)
    (move : p.step b gauge fault = some turn) : turn.barrier.Marked shared := by
  cases p with
  | enter => cases fault <;> obtain rfl := Option.some.inj move <;> exact m
  | lock =>
    simp only [Probe.step] at move
    split at move
    · cases move
    · obtain rfl := Option.some.inj move
      exact m.count ..
  | read | leave value =>
    obtain rfl := Option.some.inj move
    exact m.count ..
  | finished r => cases move

theorem teardown_step {t : Teardown} {turn : Teardown.Turn} (m : b.Marked shared)
    (move : t.step b fault = some turn) : turn.barrier.Marked shared := by
  cases t with
  | finished => cases move
  | _ =>
    obtain rfl := Option.some.inj move
    exact m.count ..

end Marked

/-! ## Stages of a construction -/

namespace Construction

variable {s t : Construction} {supply : Supply} {turn : Turn}

/-- What one stage of a construction does, told whether the barrier is to be shared. -/
inductive Stride (supply : Supply) (fault : Option PrimitiveError) :
    Construction → Construction → Prop where
  | refuses {n : UInt32} {told : Bool} {e : BarrierError} : (∀ p, e ≠ .primitive p) →
      Stride supply fault (check n told) (finished (.error e))
  | sets {n : UInt32} {told : Bool} : Stride supply fault (check n told) (makeLock n told)
  | locks {n : UInt32} {told : Bool} : Stride supply fault (makeLock n told) (makeEven n told)
  | even {n : UInt32} {told : Bool} {gate : Semaphore} : gate.shared = told →
      Stride supply fault (makeEven n told) (makeOdd n told gate)
  | odd {n : UInt32} {told : Bool} {gate gate' : Semaphore} : gate'.shared = told →
      Stride supply fault (makeOdd n told gate)
        (finished (.ok (Barrier.fresh n told gate gate')))
  | failsLock {n : UInt32} {told : Bool} {e : PrimitiveError} : fault = some e →
      Stride supply fault (makeLock n told) (finished (.error (.primitive e)))
  /-- A gate fails from outside, or because it was to be shared and cannot be. -/
  | failsEven {n : UInt32} {told : Bool} {e : PrimitiveError} :
      (fault = none → told = true ∧ supply.sharing = false) →
      Stride supply fault (makeEven n told) (undoLock e)
  | failsOdd {n : UInt32} {told : Bool} {gate : Semaphore} {e : PrimitiveError} :
      (fault = none → told = true ∧ supply.sharing = false) →
      Stride supply fault (makeOdd n told gate) (undoEven gate e)
  | undoesEven {gate : Semaphore} {e : PrimitiveError} :
      Stride supply fault (undoEven gate e) (undoLock e)
  | undoesLock {e : PrimitiveError} :
      Stride supply fault (undoLock e) (finished (.error (.primitive e)))

theorem shared_of_makeGate {index : Nat} {told : Bool} {gate : Semaphore} {event : Event}
    (made : makeGate supply index told fault = (.ok gate, event)) : gate.shared = told := by
  unfold makeGate at made
  split at made
  · cases made
  · split at made
    · next created =>
      cases made
      rw [(Pool.eq_of_create created).1]
    · cases made

/-- An empty gate is refused only if it is to be shared and cannot be. -/
theorem refused_of_makeGate {index : Nat} {told : Bool} {e : PrimitiveError} {event : Event}
    (failed : makeGate supply index told none = (.error e, event)) :
    told = true ∧ supply.sharing = false := by
  by_cases refused : (told && !supply.sharing) = true
  · simpa using refused
  · rw [makeGate, Semaphore.create, if_neg refused, if_neg (by decide)] at failed
    cases failed

theorem stride_of_step (move : s.step supply fault = some turn) :
    Stride supply fault s turn.stage := by
  cases s with
  | check n told =>
    simp only [step] at move
    split at move
    · obtain rfl := Option.some.inj move
      exact .refuses (by simp)
    · split at move
      · obtain rfl := Option.some.inj move
        exact .refuses (by simp)
      · split at move <;> obtain rfl := Option.some.inj move
        · exact .sets
        · exact .refuses (by simp)
  | makeLock n told =>
    cases fault <;> obtain rfl := Option.some.inj move
    · exact .locks
    · exact .failsLock rfl
  | makeEven n told =>
    simp only [step] at move
    split at move <;> obtain rfl := Option.some.inj move
    · next made => exact .even (shared_of_makeGate made)
    · next made => exact .failsEven fun lucky => refused_of_makeGate (lucky ▸ made)
  | makeOdd n told gate =>
    simp only [step] at move
    split at move <;> obtain rfl := Option.some.inj move
    · next made => exact .odd (shared_of_makeGate made)
    · next made => exact .failsOdd fun lucky => refused_of_makeGate (lucky ▸ made)
  | undoEven gate e =>
    obtain rfl := Option.some.inj move
    exact .undoesEven
  | undoLock e =>
    obtain rfl := Option.some.inj move
    exact .undoesLock
  | finished r => cases move

/-- The construction is of a barrier that is to bear this mark, and the gates it has made do. -/
def Marked (shared : Bool) : Construction → Prop
  | check _ told | makeLock _ told | makeEven _ told => told = shared
  | makeOdd _ told gate => told = shared ∧ gate.shared = shared
  | undoEven gate _ => gate.shared = shared
  | finished (.ok b) => b.Marked shared
  | undoLock _ | finished (.error _) => True

theorem Stride.marked (stride : Stride supply fault s t) (m : s.Marked shared) :
    t.Marked shared := by
  cases stride with
  | sets | locks => exact m
  | even same => exact ⟨m, same.trans m⟩
  | odd same => exact ⟨m.1, m.2, same.trans m.1⟩
  | failsOdd => exact m.2
  | refuses | failsLock | failsEven | undoesEven | undoesLock => trivial

/-- No primitive has failed the construction. -/
def Untroubled : Construction → Prop
  | undoEven .. | undoLock _ | finished (.error (.primitive _)) => False
  | _ => True

/-- Where nothing fails from outside and a mark that is told is supported, no primitive fails. -/
theorem Stride.untroubled (stride : Stride supply none s t) (m : s.Marked shared)
    (able : shared = true → supply.sharing = true) (u : s.Untroubled) : t.Untroubled := by
  have accepted {told : Bool} (same : told = shared)
      (refused : told = true ∧ supply.sharing = false) : False := by
    cases refused.2.symm.trans (able (same ▸ refused.1))
  cases stride with
  | @refuses _ _ e own =>
    cases e with
    | primitive p => exact (own p rfl).elim
    | _ => trivial
  | failsLock struck => cases struck
  | failsEven why => exact accepted m (why rfl)
  | failsOdd why => exact accepted m.1 (why rfl)
  | undoesEven | undoesLock => exact u.elim
  | _ => trivial

end Construction

end Rendezvous.Barrier
