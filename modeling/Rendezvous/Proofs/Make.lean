import Rendezvous.Proofs.Pool

/-!
# What is settled when a semaphore is made

A semaphore is made for one process or for several, with a poll interval and a rule. Whoever uses it
afterwards changes its units and nothing of this: two states of one semaphore are `Alike`. That
every stage of every call keeps them so is said here once.
-/

set_option autoImplicit false

namespace Rendezvous

namespace Semaphore

/-- They differ in their units at most. -/
def Alike (s t : Semaphore) : Prop := t = { s with value := t.value }

variable {s t : Semaphore} {c d : Cancellation}

theorem Alike.poll (h : s.Alike t) : t.poll = s.poll := by rw [h]

theorem Alike.shared (h : s.Alike t) : t.shared = s.shared := by rw [h]

theorem alike_post {count : UInt32} (h : s.post count = .ok t) : s.Alike t := by
  rw [Pool.post_eq_ok h]
  rfl

theorem Wait.alike_step {w w' : Wait} (h : w.step s c = some (t, d, w')) : s.Alike t := by
  cases w with
  | test | muffle =>
    cases h
    rfl
  | take | deafTake shield | taken =>
    simp only [step] at h
    split at h <;> cases h <;> rfl
  | parked | deafParked shield =>
    simp only [step] at h
    split at h <;> cases h
    rfl
  | finished r => cases h

end Semaphore

theorem Pool.Stage.alike_step {s t : Semaphore} {c d : Cancellation} {x y : Stage}
    (h : x.step s c = some (t, d, y)) : s.Alike t := by
  cases x with
  | waiting w =>
    obtain ⟨⟨t', d', w'⟩, moved, same⟩ := Option.map_eq_some_iff.mp h
    cases same
    exact Semaphore.Wait.alike_step moved
  | posting count =>
    simp only [step] at h
    split at h
    · next fits =>
      cases h
      exact Semaphore.alike_post fits
    · cases h
      rfl
  | posted => cases h

end Rendezvous
