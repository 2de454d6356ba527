import Rendezvous.CancelGroup
import Rendezvous.Proofs.Counting

/-!
# Calls on a group

`CancelGroup.step` says what one thread does in one stage of a call. An `Assembly` is a group with
any number of calls on it, each of which goes on when the schedule says so; calls that are over stay
on the list.

What a call has come to is written in the group and in what the members have been asked
(`Summons.Agrees`): an enlisting thread that has signed is a member, and an aborting one has raised
the flag and has asked everybody but those it still has before it. The second is what matters, and
it could fail in one way only, by a thread that signs after the list was read. But a thread that
signs under the flag is asked as it signs (`Change.told`). So nobody is missed, whatever the
schedule.

## Main statements

* `Orderly.step`: every stage of every call keeps this.
* `Orderly.finished`: where no call can go on all are over.
-/

set_option autoImplicit false

namespace Rendezvous

namespace CancelGroup

/-- What a call is for. -/
inductive Aim where
  | enlist
  | abort
  deriving DecidableEq, Repr

def Aim.start : Aim → Stage
  | enlist => CancelGroup.enlist
  | abort => CancelGroup.abort

/-- One call on a group. -/
structure Summons where
  thread : Nat
  aim : Aim
  stage : Stage
  deriving DecidableEq, Repr

/-! ## What a stage does -/

/-- The stages inside a critical section. -/
def Stage.holdsLock : Stage → Bool
  | sign | raise | sweep _ | leave => true
  | _ => false

section

variable {g g' : CancelGroup} {self : Nat} {stage stage' : Stage} {effects : List Effect}

/-- The lock changes hands with the call that takes it or gives it back. -/
theorem step_locked (h : g.step self stage = some (g', effects, stage'))
    (held : stage.holdsLock = true → g.locked = true) :
    g'.locked.toNat + stage.holdsLock.toNat = g.locked.toNat + stage'.holdsLock.toNat := by
  cases stage with
  | retype | sign | raise =>
    cases h
    rfl
  | knock | alarm =>
    simp only [step] at h
    split at h
    · cases h
    · next free =>
      cases h
      rw [Bool.eq_false_iff.mpr free]
      rfl
  | sweep left => cases left <;> cases h <;> rfl
  | leave =>
    cases h
    rw [held rfl]
    rfl
  | finished => cases h

/-- Only the lock holds a call up. -/
theorem step_eq_none (h : g.step self stage = none) :
    stage = .finished ∨ g.locked = true ∧ stage.holdsLock = false := by
  cases stage with
  | knock | alarm =>
    simp only [step] at h
    split at h
    · next locked => exact .inr ⟨locked, rfl⟩
    · cases h
  | sweep left => cases left <;> cases h
  | finished => exact .inl rfl
  | retype | sign | raise | leave => cases h

theorem ne_finished_of_step (h : g.step self stage = some (g', effects, stage')) :
    stage ≠ .finished := by
  rintro rfl
  cases h

/-- A thread is made asynchronous by the first stage of its own enlisting, and by nothing else. -/
theorem step_retypes (h : g.step self stage = some (g', effects, stage')) {thread : Nat} :
    .becomeAsynchronous thread ∈ effects ↔ stage = .retype ∧ thread = self := by
  cases stage with
  | retype =>
    cases h
    simp
  | knock | alarm =>
    simp only [step] at h
    split at h
    · cases h
    · cases h
      simp
  | sign =>
    cases h
    cases g.aborted <;> simp
  | sweep left => cases left <;> cases h <;> simp
  | raise | leave =>
    cases h
    simp
  | finished => cases h

/-- How a stage changes the group, where `asked` are the threads that were asked to stop before it,
and `asked'` those after it. -/
structure Change (g : CancelGroup) (asked : Nat → Prop) (g' : CancelGroup) (asked' : Nat → Prop) :
    Prop where
  stay : ∀ thread ∈ g.members, thread ∈ g'.members
  aborted : g.aborted = true → g'.aborted = true
  asked : ∀ thread, asked thread → asked' thread
  /-- Whoever joins under the flag is asked. -/
  told : g.aborted = true → ∀ thread ∈ g'.members, thread ∈ g.members ∨ asked' thread

theorem Change.of_members {asked asked' : Nat → Prop} (same : g'.members = g.members)
    (aborted : g.aborted = true → g'.aborted = true)
    (asks : ∀ thread, asked thread → asked' thread) : Change g asked g' asked' where
  stay _ member := same ▸ member
  aborted := aborted
  asked := asks
  told _ _ member := .inl (same ▸ member)

theorem step_change (h : g.step self stage = some (g', effects, stage')) (asked : Nat → Prop) :
    Change g asked g' fun thread => asked thread ∨ .request thread ∈ effects := by
  have asks : ∀ thread, asked thread → asked thread ∨ Effect.request thread ∈ effects :=
    fun _ => .inl
  cases stage with
  | retype | leave =>
    cases h
    exact .of_members rfl id asks
  | raise =>
    cases h
    exact .of_members rfl (fun _ => rfl) asks
  | knock | alarm =>
    simp only [step] at h
    split at h
    · cases h
    · cases h
      exact .of_members rfl id asks
  | sign =>
    cases h
    refine ⟨fun _ => List.mem_append_left _, id, asks, fun aborted thread member => ?_⟩
    rcases List.mem_append.mp member with old | new
    · exact .inl old
    · obtain rfl := List.mem_singleton.mp new
      simp [aborted]
  | sweep left =>
    cases left <;> cases h <;> exact .of_members rfl id asks
  | finished => cases h

end

/-! ## What a call has come to -/

/-- A call has done what its stage says, where `asked` are the threads that have been asked to
stop. -/
def Summons.Agrees (g : CancelGroup) (asked : Nat → Prop) (c : Summons) : Prop :=
  match c.aim, c.stage with
  | .enlist, .retype | .enlist, .knock | .enlist, .sign | .abort, .alarm | .abort, .raise => True
  | .enlist, .leave | .enlist, .finished => c.thread ∈ g.members
  | .abort, .sweep left =>
      g.aborted = true ∧ ∀ thread ∈ g.members, asked thread ∨ thread ∈ left
  | .abort, .leave | .abort, .finished => g.aborted = true ∧ ∀ thread ∈ g.members, asked thread
  | _, _ => False

/-- What other calls do does not undo it. -/
theorem Summons.Agrees.mono {g g' : CancelGroup} {asked asked' : Nat → Prop} {c : Summons}
    (h : c.Agrees g asked) (change : Change g asked g' asked') : c.Agrees g' asked' := by
  obtain ⟨thread, aim, stage⟩ := c
  cases aim with
  | enlist =>
    cases stage with
    | leave | finished => exact change.stay thread h
    | _ => exact h
  | abort =>
    cases stage with
    | sweep left =>
      obtain ⟨aborted, all⟩ := h
      refine ⟨change.aborted aborted, fun member there => ?_⟩
      rcases change.told aborted member there with old | told
      · exact (all member old).imp_left (change.asked member)
      · exact .inl told
    | leave | finished =>
      obtain ⟨aborted, all⟩ := h
      refine ⟨change.aborted aborted, fun member there => ?_⟩
      rcases change.told aborted member there with old | told
      · exact change.asked member (all member old)
      · exact told
    | _ => exact h

theorem Summons.agrees_step {g g' : CancelGroup} {asked : Nat → Prop} {c : Summons}
    {stage' : Stage} {effects : List Effect} (h : c.Agrees g asked)
    (move : g.step c.thread c.stage = some (g', effects, stage')) :
    { c with stage := stage' }.Agrees g' fun thread =>
      asked thread ∨ Effect.request thread ∈ effects := by
  obtain ⟨thread, aim, stage⟩ := c
  cases stage with
  | retype =>
    cases move
    cases aim <;> exact h
  | knock | alarm =>
    simp only [step] at move
    split at move
    · cases move
    · cases move
      cases aim <;> exact h
  | sign =>
    cases move
    cases aim with
    | enlist => exact List.mem_append_right _ (List.mem_singleton.mpr rfl)
    | abort => exact h.elim
  | raise =>
    cases move
    cases aim with
    | enlist => exact h.elim
    | abort => exact ⟨rfl, fun member there => .inr there⟩
  | sweep left =>
    cases aim with
    | enlist => exact (h : False).elim
    | abort =>
      obtain ⟨aborted, all⟩ := h
      cases left with
      | nil =>
        cases move
        exact ⟨aborted, fun member there =>
          .inl ((all member there).resolve_right List.not_mem_nil)⟩
      | cons next left =>
        cases move
        refine ⟨aborted, fun member there => ?_⟩
        rcases all member there with asked | before
        · exact .inl (.inl asked)
        · rcases List.mem_cons.mp before with rfl | later
          · exact .inl (.inr List.mem_cons_self)
          · exact .inr later
  | leave =>
    cases move
    cases aim with
    | enlist => exact h
    | abort => exact ⟨h.1, fun member there => .inl (h.2 member there)⟩
  | finished => cases move

end CancelGroup

/-! ## Many calls -/

open CancelGroup

/-- A group and all calls on it so far. -/
structure Assembly where
  group : CancelGroup := {}
  calls : List Summons := []

namespace Assembly

/-- A thread begins a call. -/
def summon (a : Assembly) (thread : Nat) (aim : Aim) : Assembly :=
  { a with calls := a.calls ++ [⟨thread, aim, aim.start⟩] }

/-- A call, named by its place on the list, goes on by one stage. -/
def step (a : Assembly) (i : Nat) : Option (Assembly × List Effect) :=
  (a.calls[i]?).bind fun c =>
    (a.group.step c.thread c.stage).map fun (group, effects, stage) =>
      (⟨group, a.calls.set i { c with stage }⟩, effects)

/-- Every call has done what its stage says, and the lock is taken by one of them or by nobody. -/
structure Orderly (asked : Nat → Prop) (a : Assembly) : Prop where
  agrees : ∀ c ∈ a.calls, c.Agrees a.group asked
  guarded : a.calls.countP (fun c => c.stage.holdsLock) = a.group.locked.toNat

variable {asked : Nat → Prop} {a a' : Assembly}

theorem step_cases {i : Nat} {effects : List Effect} (h : a.step i = some (a', effects)) :
    ∃ c g stage, a.calls[i]? = some c ∧ a.group.step c.thread c.stage = some (g, effects, stage) ∧
      a' = ⟨g, a.calls.set i { c with stage }⟩ := by
  obtain ⟨c, hc, h⟩ := Option.bind_eq_some_iff.mp h
  obtain ⟨⟨g, effects', stage⟩, move, same⟩ := Option.map_eq_some_iff.mp h
  cases same
  exact ⟨c, g, stage, hc, move, rfl⟩

/-- Calls keep their aims. -/
theorem aims_step {i : Nat} {effects : List Effect} (h : a.step i = some (a', effects)) :
    a'.calls.map (·.aim) = a.calls.map (·.aim) := by
  obtain ⟨c, g, stage, hc, -, rfl⟩ := step_cases h
  obtain ⟨there, rfl⟩ := List.getElem?_eq_some_iff.mp hc
  have there : i < (a.calls.map (·.aim)).length := by rwa [List.length_map]
  simpa [List.map_set] using List.set_getElem_self there

/-- A call that is over stays as it is. -/
theorem finished_stays {i : Nat} {effects : List Effect} (h : a.step i = some (a', effects))
    {c : Summons} (hc : c ∈ a.calls) (ended : c.stage = .finished) : c ∈ a'.calls := by
  obtain ⟨d, g, stage, hd, turn, rfl⟩ := step_cases h
  obtain ⟨j, hj⟩ := List.mem_iff_getElem?.mp hc
  apply List.mem_of_getElem? (i := j)
  apply (List.getElem?_set_ne _).trans hj
  rintro rfl
  obtain rfl := Option.some.inj (hd.symm.trans hj)
  exact ne_finished_of_step turn ended

theorem step_of_finished (ended : ∀ c ∈ a.calls, c.stage = .finished) (i : Nat) :
    a.step i = none := by
  apply Option.bind_eq_none_iff.mpr
  intro c hc
  rw [ended c (List.mem_of_getElem? hc)]
  rfl

theorem Orderly.summon (h : Orderly asked a) (thread : Nat) (aim : Aim) :
    Orderly asked (a.summon thread aim) where
  agrees := by
    intro c hc
    rcases List.mem_append.mp hc with old | new
    · exact h.agrees c old
    · rw [List.mem_singleton.mp new]
      cases aim <;> trivial
  guarded := by
    show (a.calls ++ [_]).countP _ = a.group.locked.toNat
    rw [List.countP_append, h.guarded]
    cases aim <;> rfl

/-- More threads may be asked to stop. -/
theorem Orderly.mono {asked' : Nat → Prop} (h : Orderly asked a)
    (more : ∀ thread, asked thread → asked' thread) : Orderly asked' a where
  agrees c hc := (h.agrees c hc).mono (.of_members rfl id more)
  guarded := h.guarded

theorem Orderly.locked_of_holds (h : Orderly asked a) {c : Summons} (hc : c ∈ a.calls)
    (holds : c.stage.holdsLock = true) : a.group.locked = true := by
  have held : 0 < a.calls.countP fun c => c.stage.holdsLock :=
    List.countP_pos_iff.mpr ⟨c, hc, holds⟩
  rw [h.guarded] at held
  cases locked : a.group.locked
  · simp [locked] at held
  · rfl

theorem Orderly.step (h : Orderly asked a) {i : Nat} {effects : List Effect}
    (move : a.step i = some (a', effects)) :
    Orderly (fun thread => asked thread ∨ .request thread ∈ effects) a' := by
  obtain ⟨c, g, stage, hc, turn, rfl⟩ := step_cases move
  have member := List.mem_of_getElem? hc
  constructor
  · intro d hd
    rcases List.mem_or_eq_of_mem_set hd with old | rfl
    · exact (h.agrees d old).mono (step_change turn asked)
    · exact Summons.agrees_step (h.agrees c member) turn
  · have change := countP_set_add (fun c => c.stage.holdsLock) { c with stage } hc
    have handed := step_locked turn (h.locked_of_holds member)
    have guarded := h.guarded
    simp only at change ⊢
    omega

/-- Whoever has signed has been asked to stop, once somebody has swept the list. -/
theorem Orderly.asked_of_finished (h : Orderly asked a) {c d : Summons} (hc : c ∈ a.calls)
    (aborts : c.aim = .abort) (swept : c.stage = .finished) (hd : d ∈ a.calls)
    (enlists : d.aim = .enlist) (signed : d.stage = .finished) : asked d.thread := by
  have all := h.agrees c hc
  have member := h.agrees d hd
  simp only [Summons.Agrees, aborts, swept] at all
  simp only [Summons.Agrees, enlists, signed] at member
  exact all.2 d.thread member

/-- Whoever is in a critical section can go on, so where no call can go on all are over. -/
theorem Orderly.finished (h : Orderly asked a) (rest : ∀ i, a.step i = none) :
    ∀ c ∈ a.calls, c.stage = .finished := by
  have stuck : ∀ c ∈ a.calls,
      c.stage = .finished ∨ a.group.locked = true ∧ c.stage.holdsLock = false := by
    intro c hc
    obtain ⟨i, hi⟩ := List.mem_iff_getElem?.mp hc
    have halted := rest i
    simp only [Assembly.step, hi, Option.bind_some, Option.map_eq_none_iff] at halted
    exact step_eq_none halted
  have free : a.group.locked = false := by
    refine Bool.eq_false_iff.mpr fun locked => ?_
    obtain ⟨_, c, there, holds⟩ := exists_of_countP h.guarded locked
    rcases stuck c (List.mem_of_getElem? there) with ended | ⟨-, waits⟩
    · rw [ended] at holds
      cases holds
    · cases waits.symm.trans holds
  exact fun c hc => (stuck c hc).resolve_right fun waits => by cases free.symm.trans waits.1

end Assembly

end Rendezvous
