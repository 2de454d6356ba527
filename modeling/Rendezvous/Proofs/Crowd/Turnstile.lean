import Rendezvous.Proofs.Crowd.Turn

/-!
# Any semaphore for a gate

A barrier needs little of its gates. Units are posted to them, and a thread waits at them in stages
of the gate's own, in which the gate may do with the thread's settings what it likes. A `Turnstile` is
anything of this kind. What it answers may depend on things that no barrier knows, time or the
platform, and it may fail whenever it wants to.

`Passage.step` is the wait at a barrier with such gates. Away from the gates it is `Wait.step`; at the
gates the shields are opened and closed as there, with the turnstile's wait in between. The library's
semaphores are a turnstile (`library`), and with them a passage is the wait that runs
(`Passage.step_of`).

What is asked of a turnstile is that its own wait leaves the thread's settings as it found them
(`Turnstile.Restores`). Requests may come at any moment of the wait, and stay. The library's semaphores
do this under both rules, also under the one that puts up a shield of its own (`library_restores`).
-/

set_option autoImplicit false

namespace Rendezvous

open Barrier

/-! ## Requests that have come meanwhile -/

namespace Cancellation

/-- The settings of a thread that has been asked to stop meanwhile, or has not. -/
def told (c : Cancellation) (asked : Bool) : Cancellation :=
  { c with requested := c.requested || asked }

@[simp] theorem told_false (c : Cancellation) : c.told false = c := by simp [told]

@[simp] theorem told_told (c : Cancellation) (a b : Bool) : (c.told a).told b = c.told (a || b) := by
  simp [told, Bool.or_assoc]

@[simp] theorem request_told (c : Cancellation) (a : Bool) : (c.told a).request = c.told true := by
  simp [told, request]

/-- A shield that was opened before the request came gives back what was there, with the request. -/
@[simp] theorem unshield_shield_told (c : Cancellation) (a : Bool) :
    (c.shield.2.told a).unshield c.shield.1 = c.told a := rfl

@[simp] theorem unshield_shieldDeferred_told (c : Cancellation) (a : Bool) :
    (c.shieldDeferred.2.told a).unshield c.shieldDeferred.1 = c.told a := by
  obtain ⟨type, state, requested⟩ := c
  cases type <;> rfl

end Cancellation

/-! ## Turnstiles -/

structure Turnstile where
  State : Type
  /-- Where a wait stands. -/
  Stage : Type
  /-- What else decides how a call goes. -/
  Chance : Type
  start : State → Stage
  /-- One stage of a wait by a thread with these settings; `none` if the thread is blocked. -/
  step : Chance → State → Cancellation → Stage → Option (State × Cancellation × Stage)
  /-- What a wait that is over answers. -/
  answer? : Stage → Option (Except PrimitiveError Unit)
  post : Chance → State → UInt32 → Except PrimitiveError State

namespace Turnstile

/-- A wait at the turnstile, by a thread with settings `found` as it began, may have got so far that
the thread's settings are `c` and the wait stands at this stage; the flag says whether somebody has
asked the thread to stop meanwhile. What others do to the turnstile in between is anything. -/
inductive Course (K : Turnstile) (found : Cancellation) : Bool → Cancellation → K.Stage → Prop where
  | starts (s : K.State) : Course K found false found (K.start s)
  | goes {asked : Bool} {c c' : Cancellation} {x : K.Chance} {s s' : K.State} {w w' : K.Stage} :
      Course K found asked c w → K.step x s c w = some (s', c', w') → Course K found asked c' w'
  | asked {asked : Bool} {c : Cancellation} {w : K.Stage} :
      Course K found asked c w → Course K found true c.request w

/-- When a wait is over, the thread's settings are the ones it found, but for requests that have come
meanwhile. -/
def Restores (K : Turnstile) : Prop :=
  ∀ {found c : Cancellation} {asked : Bool} {w : K.Stage} {r : Except PrimitiveError Unit},
    K.Course found asked c w → K.answer? w = some r → c = found.told asked

/-- The library's semaphores. -/
def library : Turnstile where
  State := Semaphore
  Stage := Semaphore.Wait
  Chance := Unit
  start s := .start s.rule
  step _ s c w := w.step s c
  answer?
    | .finished r => some r
    | _ => none
  post _ s count := s.post count

end Turnstile

/-! ### The library's semaphores restore what they find -/

/-- What a thread's settings are at a stage of a wait that found it with the settings `found`. -/
def Semaphore.Wait.Under (found : Cancellation) (asked : Bool) (c : Cancellation) :
    Semaphore.Wait → Prop
  | .deafTake shield | .deafParked shield => shield = found.shield.1 ∧ c = found.shield.2.told asked
  | .test | .take | .parked | .taken | .finished _ => c = found.told asked
  | .muffle => c = found.told asked

theorem Semaphore.Wait.Under.step {found c c' : Cancellation} {asked : Bool} {s s' : Semaphore}
    {w w' : Semaphore.Wait} (h : w.Under found asked c) (move : w.step s c = some (s', c', w')) :
    w'.Under found asked c' := by
  cases w with
  | test =>
    simp only [Semaphore.Wait.step, Option.some.injEq, Prod.mk.injEq] at move
    obtain ⟨-, rfl, rfl⟩ := move
    split <;> exact h
  | take =>
    simp only [Semaphore.Wait.step] at move
    split at move <;> (obtain ⟨-, rfl, rfl⟩ := move; exact h)
  | parked =>
    simp only [Semaphore.Wait.step] at move
    split at move
    · obtain ⟨-, rfl, rfl⟩ := move
      exact h
    · cases move
  | muffle =>
    cases move
    obtain rfl := h
    exact ⟨rfl, rfl⟩
  | deafTake shield =>
    obtain ⟨rfl, rfl⟩ := h
    simp only [Semaphore.Wait.step] at move
    split at move
    · obtain ⟨-, rfl, rfl⟩ := move
      exact Cancellation.unshield_shield_told found asked
    · obtain ⟨-, rfl, rfl⟩ := move
      exact ⟨rfl, rfl⟩
  | deafParked shield =>
    simp only [Semaphore.Wait.step] at move
    split at move
    · obtain ⟨-, rfl, rfl⟩ := move
      exact h
    · cases move
  | taken =>
    simp only [Semaphore.Wait.step] at move
    split at move <;> (obtain ⟨-, rfl, rfl⟩ := move; exact h)
  | finished r => cases move

theorem Semaphore.Wait.Under.request {found c : Cancellation} {asked : Bool} {w : Semaphore.Wait}
    (h : w.Under found asked c) : w.Under found true c.request := by
  cases w with
  | deafTake | deafParked =>
    obtain ⟨rfl, rfl⟩ := h
    exact ⟨rfl, Cancellation.request_told _ _⟩
  | _ =>
    obtain rfl := h
    exact Cancellation.request_told found asked

namespace Turnstile

theorem library_restores : library.Restores := by
  intro found c asked w r course ended
  have under : Semaphore.Wait.Under found asked c w := by
    clear ended
    induction course with
    | starts s =>
      show Semaphore.Wait.Under found false found (.start s.rule)
      cases s.rule <;> exact (Cancellation.told_false found).symm
    | goes _ move ih => exact ih.step move
    | asked _ ih => exact ih.request
  cases w with
  | finished => exact under
  | _ => cases ended

/-! ## Waiting at a barrier with such gates -/

/-- Where a call of wait stands. -/
inductive Passage (K : Turnstile) where
  /-- Away from the gates. -/
  | away (w : Wait)
  /-- At the gate of generation `g`. -/
  | blocked (g : UInt64) (shield : Shield) (w : K.Stage)
  /-- At the gate of generation `g`, for the unit that is owed. -/
  | claiming (g : UInt64) (shield : Shield) (w : K.Stage)

/-- What one stage leaves behind. The gates that the barrier itself has play no part. -/
structure Turn (K : Turnstile) where
  barrier : Barrier
  gates : Side → K.State
  cancel : Cancellation
  stage : K.Passage

/-- The gates when one of them has become another. -/
def put {α : Type} (gates : Side → α) (side : Side) (s : α) : Side → α :=
  fun side' => if side' = side then s else gates side'

variable {K : Turnstile}

def Passage.isOver : K.Passage → Bool
  | away w => w.isOver
  | _ => false

/-- One stage of a wait by a thread with settings `c`; `none` if the thread is blocked or done. -/
def Passage.step (b : Barrier) (gates : Side → K.State) (c : Cancellation)
    (fault : Option PrimitiveError) (x : K.Chance) : K.Passage → Option K.Turn
  | away (.pause g) =>
      match fault with
      | some e => some ⟨b, gates, c, away (Wait.afterGate g (.error e))⟩
      | none =>
          some ⟨b, gates, c.shieldDeferred.2,
            blocked g c.shieldDeferred.1 (K.start (gates (.ofGeneration g)))⟩
  | away (.claim g) =>
      match fault with
      | some e => some ⟨b, gates, c, away (Wait.afterClaim (.error e))⟩
      | none =>
          some ⟨b, gates, c.shield.2, claiming g c.shield.1 (K.start (gates (.ofGeneration g)))⟩
  | away (.post g) =>
      match fault with
      | some e => some ⟨b, gates, c, away (.finished (.error (.primitive e)))⟩
      | none =>
          match K.post x (gates (.ofGeneration g)) (b.parties - 1) with
          | .ok s => some ⟨b, put gates (.ofGeneration g) s, c, away (.finished (.ok .serial))⟩
          | .error e => some ⟨b, gates, c, away (.finished (.error (.primitive e)))⟩
  | away (.blocked ..) | away (.claiming ..) => none
  | away w => (w.step b c fault).map fun t => ⟨t.barrier, gates, t.cancel, away t.stage⟩
  | blocked g shield w =>
      match K.answer? w with
      | some r => some ⟨b, gates, c.unshield shield, away (Wait.afterGate g r)⟩
      | none =>
          (K.step x (gates (.ofGeneration g)) c w).map fun (s, c', w') =>
            ⟨b, put gates (.ofGeneration g) s, c', blocked g shield w'⟩
  | claiming g shield w =>
      match K.answer? w with
      | some r => some ⟨b, gates, c.unshield shield, away (Wait.afterClaim r)⟩
      | none =>
          (K.step x (gates (.ofGeneration g)) c w).map fun (s, c', w') =>
            ⟨b, put gates (.ofGeneration g) s, c', claiming g shield w'⟩

/-! ### The wait that runs -/

/-- The stage of a wait that runs, as one at the library's semaphores. -/
def Passage.of : Wait → library.Passage
  | .blocked g shield w => blocked g shield w
  | .claiming g shield w => claiming g shield w
  | w => away w

end Turnstile

/-- The barrier with nothing at its gates. -/
def Barrier.bare (b : Barrier) : Barrier := { b with evenGate := default, oddGate := default }

@[simp] theorem Barrier.bare_setGate (b : Barrier) (side : Side) (s : Semaphore) :
    (b.setGate side s).bare = b.bare := by cases side <;> rfl

theorem Barrier.gate_setGate (b : Barrier) (side : Side) (s : Semaphore) :
    (b.setGate side s).gate = Turnstile.put b.gate side s := by
  funext side'
  unfold Turnstile.put
  split
  · next same => rw [same, gate_setGate_self]
  · next other => exact gate_setGate_of_ne b s other

namespace Turnstile

theorem answer?_of_going {w : Semaphore.Wait} (going : ∀ r, w ≠ .finished r) :
    library.answer? w = none := by
  cases w with
  | finished r => exact absurd rfl (going r)
  | _ => rfl

/-- Writing a gate of the barrier is writing it beside the bare barrier. -/
theorem turn_put (b : Barrier) (side : Side) (s : Semaphore) {c : Cancellation}
    {p : library.Passage} :
    (⟨b.bare, put b.gate side s, c, p⟩ : library.Turn) =
      ⟨(b.setGate side s).bare, (b.setGate side s).gate, c, p⟩ := by
  rw [bare_setGate, gate_setGate]
  rfl

/-- With the library's semaphores for gates, the wait is the one that runs. -/
theorem Passage.step_of (b : Barrier) (c : Cancellation) (fault : Option PrimitiveError) (w : Wait) :
    (of w).step b.bare b.gate c fault () =
      (w.step b c fault).map fun t => ⟨t.barrier.bare, t.barrier.gate, t.cancel, of t.stage⟩ := by
  cases w with
  | enter | turnBack g => cases fault <;> rfl
  | trip | counted | retracted | overtaken | finished => rfl
  | lock | relock g =>
    simp only [of, step, Wait.step, show b.bare.locked = b.locked from rfl]
    split <;> rfl
  | arrive =>
    simp only [of, step, Wait.step, show b.bare.countIn.missing = b.countIn.missing from rfl]
    split <;> rfl
  | judge g =>
    simp only [of, step, Wait.step, show b.bare.generation = b.generation from rfl]
    split <;> rfl
  | pause g =>
    cases fault with
    | none => rfl
    | some e => cases e <;> rfl
  | claim g => cases fault <;> rfl
  | post g =>
    cases fault with
    | some e => rfl
    | none =>
      simp only [of, step, Wait.step, library, show b.bare.parties = b.parties from rfl]
      cases (b.gate (.ofGeneration g)).post (b.parties - 1) with
      | error e => rfl
      | ok s => exact congrArg some (turn_put b _ s)
  | blocked g shield w =>
    by_cases ended : ∃ r, w = .finished r
    · obtain ⟨r, rfl⟩ := ended
      rcases r with (_ | _) | _ <;> rfl
    · have going : ∀ r, w ≠ .finished r := fun r hr => ended ⟨r, hr⟩
      rw [Wait.AtGate.blocked.step going]
      simp only [of, step, answer?_of_going going, Option.map_map]
      refine Option.map_congr ?_
      rintro ⟨s, c', w'⟩ -
      exact turn_put b _ s
  | claiming g shield w =>
    by_cases ended : ∃ r, w = .finished r
    · obtain ⟨r, rfl⟩ := ended
      rcases r with (_ | _) | _ <;> rfl
    · have going : ∀ r, w ≠ .finished r := fun r hr => ended ⟨r, hr⟩
      rw [Wait.AtGate.claiming.step going]
      simp only [of, step, answer?_of_going going, Option.map_map]
      refine Option.map_congr ?_
      rintro ⟨s, c', w'⟩ -
      exact turn_put b _ s

end Turnstile

end Rendezvous
