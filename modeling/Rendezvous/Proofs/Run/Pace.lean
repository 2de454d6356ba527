import Rendezvous.Proofs.Crowd.Turn

/-!
# The pace of a wait

How far a wait has come is told by its stage, except where its thread has been woken at a gate: then
it looks for a unit once more, at stages that it has been through before. These count as later ones
if there is a unit. So the number rises with every step of a thread that nobody asks to stop
(`Wait.pace_step`), and it depends on the gates only at stages at which the thread is not held up
(`Wait.pace_of_stuck`).
-/

set_option autoImplicit false

namespace Rendezvous

namespace Semaphore.Wait

variable {s s' : Semaphore} {c c' : Cancellation} {w w' : Wait}

/-- How far a wait at a semaphore has come. -/
def pace (s : Semaphore) : Wait → Nat
  | test | muffle => if 0 < s.value then 3 else 0
  | take | deafTake _ => if 0 < s.value then 4 else 1
  | parked | deafParked _ => 2
  | taken => 5
  | finished _ => 6

theorem pace_le (s : Semaphore) (w : Wait) : w.pace s ≤ 6 := by
  cases w with
  | test | muffle | take | deafTake shield =>
    simp only [pace]
    split <;> omega
  | parked | deafParked shield | taken | finished r => simp only [pace]; omega

theorem pace_step (unasked : c.pending = false) (h : w.step s c = some (s', c', w')) :
    w.pace s < w'.pace s' := by
  cases w with
  | test =>
    simp only [step, unasked] at h
    cases h
    simp only [pace, Bool.false_eq_true, reduceIte]
    split <;> omega
  | muffle =>
    cases h
    simp only [pace]
    split <;> omega
  | take | deafTake shield =>
    simp only [step] at h
    split at h
    · next unit =>
      cases h
      simp [pace, unit]
    · next empty =>
      cases h
      simp [pace, empty]
  | parked =>
    simp only [step, unasked] at h
    split at h
    · next woken =>
      have unit : 0 < s.value := by simpa using woken
      cases h
      simp [pace, unit]
    · cases h
  | deafParked shield =>
    simp only [step] at h
    split at h
    · next unit =>
      cases h
      simp [pace, unit]
    · cases h
  | taken =>
    simp only [step] at h
    split at h <;> cases h <;> simp only [pace] <;> omega
  | finished r => cases h

theorem pace_of_stuck (s' : Semaphore) (h : w.step s c = none) : w.pace s' = w.pace s := by
  cases w with
  | parked | deafParked shield | finished r => rfl
  | test | muffle => cases h
  | take | deafTake shield | taken =>
    simp only [step] at h
    split at h <;> cases h

end Semaphore.Wait

namespace Barrier.Wait

variable {b : Barrier} {c : Cancellation} {w : Wait} {turn : Wait.Turn}

/-- How far a wait at a barrier has come. -/
def pace (b : Barrier) : Wait → Nat
  | enter => 0
  | lock => 1
  | arrive => 2
  | trip _ | counted _ => 3
  | post _ | pause _ => 4
  | blocked g _ w => 5 + w.pace (b.gate (Side.ofGeneration g))
  | turnBack _ => 12
  | relock _ => 13
  | judge _ => 14
  | retracted _ | overtaken _ => 15
  | claim _ => 16
  | claiming g _ w => 17 + w.pace (b.gate (Side.ofGeneration g))
  | finished _ => 24

theorem pace_le (b : Barrier) (w : Wait) : w.pace b ≤ 24 := by
  cases w with
  | blocked g shield w =>
    have le := w.pace_le (b.gate (Side.ofGeneration g))
    simp only [pace]
    omega
  | claiming g shield w =>
    have le := w.pace_le (b.gate (Side.ofGeneration g))
    simp only [pace]
    omega
  | _ => simp only [pace]; omega

theorem pace_step (unasked : c.pending = false) (h : w.step b c none = some turn) :
    w.pace b < turn.stage.pace turn.barrier := by
  cases w with
  | enter | trip g | counted g | pause g | turnBack g | retracted g | overtaken g | claim g =>
    cases h
    simp only [pace]
    omega
  | lock | relock g =>
    simp only [step] at h
    split at h
    · cases h
    · cases h
      simp only [pace]
      omega
  | arrive | judge g =>
    simp only [step] at h
    split at h <;> cases h <;> simp only [pace] <;> omega
  | post g =>
    simp only [step] at h
    split at h <;> cases h <;> simp only [pace] <;> omega
  | blocked g shield w =>
    have le := w.pace_le (b.gate (Side.ofGeneration g))
    rcases AtGate.blocked.cases h with ⟨r, rfl⟩ | ⟨s, d, w', -, gate, rfl⟩
    · cases h
      rcases r with e | u
      · cases e <;> simp only [afterGate, pace] at le ⊢ <;> omega
      · simp only [afterGate, pace] at le ⊢
        omega
    · have rises := Semaphore.Wait.pace_step unasked gate
      simp only [pace, gate_setGate_self]
      omega
  | claiming g shield w =>
    have le := w.pace_le (b.gate (Side.ofGeneration g))
    rcases AtGate.claiming.cases h with ⟨r, rfl⟩ | ⟨s, d, w', -, gate, rfl⟩
    · cases h
      cases r <;> simp only [afterClaim, pace] at le ⊢ <;> omega
    · have rises := Semaphore.Wait.pace_step unasked gate
      simp only [pace, gate_setGate_self]
      omega
  | finished r => cases h

theorem pace_of_stuck (b' : Barrier) (h : w.step b c none = none) : w.pace b' = w.pace b := by
  cases w with
  | lock | relock g | finished r => rfl
  | enter | trip g | counted g | pause g | turnBack g | retracted g | overtaken g | claim g =>
    cases h
  | arrive | judge g | post g =>
    simp only [step] at h
    split at h <;> cases h
  | blocked g shield w =>
    have going : ∀ r, w ≠ .finished r := by
      rintro r rfl
      cases h
    rw [AtGate.blocked.step going, Option.map_eq_none_iff] at h
    simp only [pace, Semaphore.Wait.pace_of_stuck _ h]
  | claiming g shield w =>
    have going : ∀ r, w ≠ .finished r := by
      rintro r rfl
      cases h
    rw [AtGate.claiming.step going, Option.map_eq_none_iff] at h
    simp only [pace, Semaphore.Wait.pace_of_stuck _ h]

end Barrier.Wait

end Rendezvous
