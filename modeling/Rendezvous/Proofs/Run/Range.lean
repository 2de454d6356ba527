import Rendezvous.Proofs.RootCause
import Rendezvous.Run.Race

/-!
# Sizes out of range

A run finds fault with its sizes before anything else, or not at all. Afterwards its workers end
with what the barrier tells them, or are lost, and no judgment about what they did is one about the
sizes. That holds in whatever order they are scheduled (`Stress.blamesNoSize_conclude`,
`Race.blamesNoSize_conclude`), and so a run is refused for its sizes just if they are out of range.
-/

set_option autoImplicit false

namespace Rendezvous

/-- This is no complaint about sizes. -/
def BlamesNoSize {α : Type} (r : Except RunError α) : Prop :=
  ∀ fault, r ≠ .error (.outOfRange fault)

/-- There is nobody to wait, or no generation, or more of them than a run can count. -/
def StressSizes.OutOfRange (sizes : StressSizes) : Prop :=
  sizes.parties = 0 ∨ ¬ (1 ≤ sizes.generations.toNat ∧ sizes.generations.toNat ≤ 16777216)

/-- There is nobody to race, or no round. -/
def RaceSizes.OutOfRange (sizes : RaceSizes) : Prop := sizes.threads = 0 ∨ sizes.rounds = 0

variable {α β : Type}

theorem blamesNoSize_ok (a : α) : BlamesNoSize (.ok a : Except RunError α) := fun _ => nofun

theorem BlamesNoSize.bind {x : Except RunError α} {f : α → Except RunError β}
    (first : BlamesNoSize x) (next : ∀ a, BlamesNoSize (f a)) : BlamesNoSize (x >>= f) := by
  cases x with
  | error e => exact fun fault same => first fault (congrArg _ (Except.error.inj same))
  | ok a => exact next a

theorem blamesNoSize_rootCause {results : List (Except RunError Unit)}
    (all : ∀ r ∈ results, BlamesNoSize r) : BlamesNoSize (rootCause results) := by
  intro fault same
  obtain ⟨e, -, found, bad⟩ | ⟨-, -, bad⟩ | ⟨-, well⟩ := rootCause_cases results
  · obtain rfl := Except.error.inj (bad.symm.trans same)
    exact all _ (List.mem_of_find?_eq_some found) fault rfl
  · exact absurd (bad.symm.trans same) nofun
  · exact absurd (well.symm.trans same) nofun

namespace Run

open Barrier Handle

theorem Crew.blamesNoSize_alone (c : Crew) (op : Operation) : BlamesNoSize (c.alone op).2 := by
  intro fault
  unfold alone
  split
  · next r _ => cases r <;> exact nofun
  · exact nofun

/-! ## Workers

Stress runs and races have workers of different kinds. Of a kind of workers it matters here only
what verdict one of them has come to, or is about to (`verdict?`).
-/

section Workers

variable {W : Type} {verdict? : W → Option (Except RunError Unit)} {workers : Array W} {w v : W}

/-- None of the workers has come to a verdict about sizes, or is about to. -/
def Blameless (verdict? : W → Option (Except RunError Unit)) (workers : Array W) : Prop :=
  ∀ w ∈ workers, ∀ r ∈ verdict? w, BlamesNoSize r

theorem blameless_replicate (undecided : verdict? w = none) (n : Nat) :
    Blameless verdict? (Array.replicate n w) := by
  intro x hx r hr
  rw [(Array.mem_replicate.mp hx).2, undecided] at hr
  cases hr

/-- A worker may go on to a verdict that is not about sizes, or keep the one it has. -/
theorem Blameless.set (all : Blameless verdict? workers) {i : Nat} (there : workers[i]? = some w)
    (next : ∀ r ∈ verdict? v, r ∈ verdict? w ∨ BlamesNoSize r) :
    Blameless verdict? (workers.setIfInBounds i v) := by
  intro x hx r hr
  obtain old | rfl := Array.mem_or_eq_of_mem_setIfInBounds hx
  · exact all x old r hr
  · exact (next r hr).elim (all w (Array.mem_of_getElem? there) r) id

theorem Blameless.rootCause (all : Blameless verdict? workers) {result : W → Except RunError Unit}
    (results : ∀ w, result w ∈ verdict? w ∨ BlamesNoSize (result w)) :
    BlamesNoSize (rootCause (workers.toList.map result)) := by
  apply blamesNoSize_rootCause
  intro r hr
  obtain ⟨w, hw, rfl⟩ := List.mem_map.mp hr
  exact (results w).elim (all w (Array.mem_toList_iff.mp hw) _) id

end Workers

namespace Stress

def Worker.verdict? : Worker → Option (Except RunError Unit)
  | .abort e _ => some (.error e)
  | .finished r => some r
  | _ => none

variable {s t : Stress} {i : Nat} {w v : Worker}

/-- A worker takes its error from the barrier, and hands it on. -/
theorem stepWorker_verdict (move : s.stepWorker i w = some (t, v)) :
    t.workers = s.workers ∧ ∀ r ∈ v.verdict?, r ∈ w.verdict? ∨ BlamesNoSize r := by
  unfold stepWorker at move
  split at move <;> grind [Worker.verdict?, BlamesNoSize, Option.map_eq_some_iff]

theorem blameless_step (all : Blameless Worker.verdict? s.workers) (move : step s i = some t) :
    Blameless Worker.verdict? t.workers := by
  obtain ⟨w, there, moved⟩ := Option.bind_eq_some_iff.mp move
  obtain ⟨⟨u, v⟩, worked, rfl⟩ := Option.map_eq_some_iff.mp moved
  obtain ⟨same, next⟩ := stepWorker_verdict worked
  show Blameless Worker.verdict? (u.workers.setIfInBounds i v)
  rw [same]
  exact all.set there next

theorem Worker.result_verdict (w : Worker) : w.result ∈ w.verdict? ∨ BlamesNoSize w.result := by
  cases w with
  | finished r => exact .inl rfl
  | _ => exact .inr fun _ => nofun

theorem blamesNoSize_verify (s : Stress) : BlamesNoSize s.verify := by
  intro fault
  unfold verify
  dsimp only
  split
  · exact nofun
  · split <;> exact nofun

/-- Wherever the workers have come to, the judgment is not about the sizes. -/
theorem blamesNoSize_conclude {sizes : StressSizes} {crew : Crew}
    (h : Schedule.Reaches step (start sizes crew) s) : BlamesNoSize s.conclude := by
  have all : Blameless Worker.verdict? s.workers :=
    h.keeps (P := fun s => Blameless Worker.verdict? s.workers) blameless_step
      (blameless_replicate rfl _)
  exact .bind (all.rootCause Worker.result_verdict) fun _ =>
    .bind (s.crew.blamesNoSize_alone .destroy) fun _ => blamesNoSize_verify s

/-- The sizes are refused just if they are out of range. -/
theorem validate_cases (sizes : StressSizes) :
    (¬ sizes.OutOfRange ∧ validate sizes = .ok ()) ∨
      (sizes.OutOfRange ∧ ∃ fault, validate sizes = .error (.outOfRange fault)) := by
  have zero : sizes.generations = 0 ↔ sizes.generations.toNat = 0 := by
    rw [← UInt64.toNat_inj]
    rfl
  have limit : generationLimit = 16777216 := rfl
  unfold validate StressSizes.OutOfRange
  split
  · next nobody => exact .inr ⟨.inl nobody, _, rfl⟩
  · next somebody =>
    split
    · next outside =>
      rw [zero, limit] at outside
      exact .inr ⟨.inr (by omega), _, rfl⟩
    · next inside =>
      rw [zero, limit] at inside
      exact .inl ⟨not_or.mpr ⟨somebody, by omega⟩, rfl⟩

end Stress

namespace Race

def Worker.verdict? : Worker → Option (Except RunError Unit)
  | .abort e _ => some (.error e)
  | .finished r => some r
  | _ => none

variable {r t : Race} {i : Nat} {w v : Worker} {supply : Barrier.Supply} {threads : UInt32}

/-- A worker takes its error from the barrier, and hands it on. -/
theorem stepWorker_verdict (move : r.stepWorker i w = some (t, v)) :
    t.workers = r.workers ∧ ∀ x ∈ v.verdict?, x ∈ w.verdict? ∨ BlamesNoSize x := by
  unfold stepWorker at move
  split at move <;> grind [Worker.verdict?, BlamesNoSize, Option.map_eq_some_iff]

/-- The thread that gives the sign is no worker. -/
theorem blameless_step (all : Blameless Worker.verdict? r.workers) (move : step r i = some t) :
    Blameless Worker.verdict? t.workers := by
  unfold Race.step at move
  split at move
  · split at move
    · cases move
      exact all
    · cases move
  · obtain ⟨w, there, moved⟩ := Option.bind_eq_some_iff.mp move
    obtain ⟨⟨u, v⟩, worked, rfl⟩ := Option.map_eq_some_iff.mp moved
    obtain ⟨same, next⟩ := stepWorker_verdict worked
    show Blameless Worker.verdict? (u.workers.setIfInBounds i v)
    rw [same]
    exact all.set there next

theorem Worker.result_verdict (w : Worker) : w.result ∈ w.verdict? ∨ BlamesNoSize w.result := by
  cases w with
  | finished r => exact .inl rfl
  | _ => exact .inr fun _ => nofun

theorem blamesNoSize_refused (r : Race) (round : Nat) {answer : Except RunError Answer}
    (blameless : BlamesNoSize answer) : BlamesNoSize (r.refused round answer) := by
  intro fault
  unfold refused
  split
  · split <;> exact nofun
  · exact nofun
  · exact fun same => blameless fault (congrArg _ (Except.error.inj same))
  · exact nofun

theorem blamesNoSize_verify (r : Race) (round : Nat) : BlamesNoSize (r.verify round) := by
  intro fault
  unfold verify
  split
  · exact nofun
  · split
    · split
      · next failed =>
        have := r.crew.blamesNoSize_alone (.ask (.gauge .generation))
        rw [failed] at this
        exact fun same => this fault (congrArg _ (Except.error.inj same))
      · split
        · exact nofun
        · split
          · next failed =>
            have := r.crew.blamesNoSize_alone .destroy
            rw [failed] at this
            exact fun same => this fault (congrArg _ (Except.error.inj same))
          · exact blamesNoSize_refused _ _ (Crew.blamesNoSize_alone _ _) fault
    · exact nofun

/-- Wherever the workers have come to, the judgment is not about the sizes. -/
theorem blamesNoSize_conclude (h : Schedule.Reaches step (start supply threads) r) (round : Nat) :
    BlamesNoSize (r.conclude round) := by
  have all : Blameless Worker.verdict? r.workers :=
    h.keeps (P := fun r => Blameless Worker.verdict? r.workers) blameless_step
      (blameless_replicate rfl _)
  exact .bind (all.rootCause Worker.result_verdict) fun _ => blamesNoSize_verify r round

/-- The sizes are refused just if they are out of range. -/
theorem validate_cases (sizes : RaceSizes) :
    (¬ sizes.OutOfRange ∧ validate sizes = .ok ()) ∨
      (sizes.OutOfRange ∧ ∃ fault, validate sizes = .error (.outOfRange fault)) := by
  unfold validate RaceSizes.OutOfRange
  split
  · next nobody => exact .inr ⟨.inl nobody, _, rfl⟩
  · next somebody =>
    split
    · next never => exact .inr ⟨.inr never, _, rfl⟩
    · next often => exact .inl ⟨not_or.mpr ⟨somebody, often⟩, rfl⟩

end Race

/-- A barrier for more parties than a semaphore can count is not built. -/
theorem Crew.alone_init_of_tooMany (supply : Barrier.Supply) {parties : UInt32}
    (many : Semaphore.maxValue < parties) :
    ((around supply {}).alone (.init parties false)).2 =
      .error (.barrier (.invalidArgument (.tooManyParties parties Semaphore.maxValue))) := by
  have nonzero : parties ≠ 0 := by
    rintro rfl
    exact absurd many (by decide)
  simp [alone, patience, finish, around, theHandle,
    Operation.init, Operation.step, Errand.inspect, Errand.afterSlot, Errand.guarded, Next.stage,
    Construction.step, Arena.holds, Arena.handle, Arena.slot, Arena.setHolds, Arena.setHandle,
    Holds.mayReserve, Holds.reserve, nonzero, many]
  rfl

end Run

end Rendezvous
