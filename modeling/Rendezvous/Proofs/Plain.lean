import Mathlib.Data.List.Forall2
import Rendezvous.Proofs.Counting
import Rendezvous.Proofs.Telling
import Rendezvous.Proofs.Traffic.Turn

/-!
# A barrier without a handle

Whoever uses a handle sees a barrier: it waits there, reads the counts and asks for the number of
parties. A `Plain` is such a barrier with nothing around it. There is no slot to look at and nothing
to build, and a call that has not taken the barrier's lock yet has done nothing at all.

What callers can see of it is when a call begins, what it answers and when, and what happens to the
threads' settings meanwhile (`Saying`). A handle is as good as a barrier if it says the same.
-/

set_option autoImplicit false

namespace Rendezvous

open Barrier Handle

/-- The calls for whoever uses a barrier and neither makes nor destroys it. -/
def Handle.Inquiry.isUse : Inquiry → Bool
  | wait | parties | gauge _ => true
  | destroy | status => false

/-- What can be done from outside, and to a call that is not over. -/
inductive Act where
  /-- A thread that is in no call begins one. -/
  | call (thread : Nat) (q : Inquiry)
  /-- A call, named by its place on the list, goes on by one stage. -/
  | go (call : Nat)
  /-- Somebody asks a thread to stop. -/
  | request (thread : Nat)
  /-- A thread that is in no call changes its own settings. -/
  | adjust (thread : Nat) (type : CancelType) (state : CancelState)
  deriving Repr

/-- What can be seen from outside. -/
inductive Saying where
  | calls (thread : Nat) (q : Inquiry)
  | hears (thread : Nat) (answer : Result)
  | asked (thread : Nat)
  | adjusts (thread : Nat) (type : CancelType) (state : CancelState)
  deriving Repr

namespace Plain

/-- Where a call stands. -/
inductive Stage where
  /-- It has not taken the lock yet. -/
  | coming (q : Inquiry)
  | inside (w : Wait)
  | probing (gauge : Gauge) (p : Probe)
  /-- About to return. -/
  | answered (answer : Result)
  | returned (answer : Result)
  deriving Repr

def Stage.isOver : Stage → Bool
  | returned _ => true
  | _ => false

/-- One stage of a call by a thread with settings `c`; `none` if the thread is blocked or done. -/
def Stage.step (b : Barrier) (c : Cancellation) : Stage → Option (Barrier × Cancellation × Stage)
  | coming .wait => if b.locked then none else some (b.lock, c, inside .arrive)
  | coming (.gauge gauge) => if b.locked then none else some (b.lock, c, probing gauge .read)
  | coming .parties => some (b, c, answered (.ok (.parties (some b.parties))))
  | coming .destroy | coming .status => none
  | inside (.finished r) => some (b, c, answered (r.map .outcome))
  | inside w => (w.step b c none).map fun t => (t.barrier, t.cancel, inside t.stage)
  | probing _ (.finished r) => some (b, c, answered (r.map .number))
  | probing gauge p => (p.step b gauge none).map fun t => (t.barrier, c, probing gauge t.stage)
  | answered r => some (b, c, returned r)
  | returned _ => none

structure Call where
  thread : Nat
  stage : Stage
  deriving Repr

/-- What is heard of a call when it has come to its stage. -/
def Call.heard (v : Call) : List Saying :=
  match v.stage with
  | .returned r => [.hears v.thread r]
  | _ => []

end Plain

structure Plain where
  barrier : Barrier
  /-- Each thread's settings. -/
  settings : Nat → Cancellation
  /-- All calls so far, in the order in which they began. -/
  calls : List Plain.Call := []

namespace Plain

def isOutside (p : Plain) (thread : Nat) : Bool :=
  p.calls.all fun v => v.thread != thread || v.stage.isOver

def setSettings (p : Plain) (thread : Nat) (c : Cancellation) : Plain :=
  { p with settings := fun t => if t = thread then c else p.settings t }

/-- What is there when call `i` has come to a stage. -/
def after (p : Plain) (i : Nat) (v : Call) (b : Barrier) (c : Cancellation) (stage : Stage) : Plain :=
  { p.setSettings v.thread c with barrier := b, calls := p.calls.set i { v with stage } }

/-- Does something; `none` if it cannot be done now. -/
def step (p : Plain) : Act → Option Plain
  | .call thread q =>
      if q.isUse && p.isOutside thread then
        some { p with calls := p.calls ++ [⟨thread, .coming q⟩] }
      else none
  | .go i =>
      (p.calls[i]?).bind fun v =>
        (v.stage.step p.barrier (p.settings v.thread)).map fun (b, c, stage) => p.after i v b c stage
  | .request thread => some (p.setSettings thread (p.settings thread).request)
  | .adjust thread type state =>
      if p.isOutside thread then some (p.setSettings thread { p.settings thread with type, state })
      else none

/-- What is seen of it from outside. -/
def sayings (p : Plain) : Act → List Saying
  | .call thread q => [.calls thread q]
  | .go i => ((p.step (.go i)).bind (·.calls[i]?)).elim [] Call.heard
  | .request thread => [.asked thread]
  | .adjust thread type state => [.adjusts thread type state]

/-- Nobody has called yet. -/
def start (b : Barrier) (settings : Nat → Cancellation) : Plain := { barrier := b, settings }

/-- No call can go on. -/
def Still (p : Plain) : Prop := ∀ i, p.step (.go i) = none

/-! ## What a turn does -/

variable {p q : Plain} {i : Nat} {v : Call} {b : Barrier} {c : Cancellation} {x y : Stage}

theorem goes_of_step (hv : p.calls[i]? = some v)
    (moved : v.stage.step p.barrier (p.settings v.thread) = some (b, c, x)) :
    p.step (.go i) = some (p.after i v b c x) := by
  simp [step, hv, moved]

theorem turn_of_step (move : p.step (.go i) = some q) :
    ∃ v b c x, p.calls[i]? = some v ∧
      v.stage.step p.barrier (p.settings v.thread) = some (b, c, x) ∧ q = p.after i v b c x := by
  obtain ⟨v, hv, move⟩ := Option.bind_eq_some_iff.mp move
  obtain ⟨⟨b, c, x⟩, moved, rfl⟩ := Option.map_eq_some_iff.mp move
  exact ⟨v, b, c, x, hv, moved, rfl⟩

theorem call_after (hv : p.calls[i]? = some v) :
    (p.after i v b c x).calls[i]? = some { v with stage := x } :=
  List.getElem?_set_self (List.getElem?_eq_some_iff.mp hv).1

theorem sayings_go (hv : p.calls[i]? = some v)
    (moved : v.stage.step p.barrier (p.settings v.thread) = some (b, c, x)) :
    p.sayings (.go i) = Call.heard { v with stage := x } := by
  rw [sayings, goes_of_step hv moved, Option.bind_some, call_after hv]
  rfl

/-- A turn that leaves its thread's settings alone leaves all settings alone. -/
theorem after_self (p : Plain) (i : Nat) (v : Call) (b : Barrier) (x : Stage) :
    p.after i v b (p.settings v.thread) x =
      { p with barrier := b, calls := p.calls.set i { v with stage := x } } := by
  have settings : (fun t => if t = v.thread then p.settings v.thread else p.settings t) =
      p.settings :=
    funext fun t => ite_eq_right_iff.mpr fun same => by rw [same]
  simp only [after, setSettings, settings]

theorem Stage.step_inside {w : Wait} (going : ∀ r, w ≠ .finished r) :
    Stage.step b c (.inside w) =
      (w.step b c none).map fun t => (t.barrier, t.cancel, .inside t.stage) := by
  cases w with
  | finished r => exact absurd rfl (going r)
  | _ => rfl

theorem Stage.step_probing {gauge : Gauge} {w : Probe} (going : ∀ r, w ≠ .finished r) :
    Stage.step b c (.probing gauge w) =
      (w.step b gauge none).map fun t => (t.barrier, c, .probing gauge t.stage) := by
  cases w with
  | finished r => exact absurd rfl (going r)
  | _ => rfl

/-! ## Turns that nobody hears -/

/-- Turns lead from one stage to another, with the settings as they are, and none is the last. -/
inductive Stage.Goes (c : Cancellation) (b : Barrier) (x : Stage) : Barrier → Stage → Prop where
  | refl : Stage.Goes c b x b x
  | tail {b' b'' : Barrier} {y z : Stage} : Stage.Goes c b x b' y → z.isOver = false →
      y.step b' c = some (b'', c, z) → Stage.Goes c b x b'' z

theorem tells_of_goes (hv : p.calls[i]? = some v)
    (goes : v.stage.Goes (p.settings v.thread) p.barrier b x) :
    Schedule.Tells step sayings p []
      { p with barrier := b, calls := p.calls.set i { v with stage := x } } := by
  have there : i < p.calls.length := (List.getElem?_eq_some_iff.mp hv).1
  induction goes with
  | refl =>
    obtain ⟨_, rfl⟩ := List.getElem?_eq_some_iff.mp hv
    rw [List.set_getElem_self]
    exact .nil p
  | @tail b' b'' y z _ going moved ih =>
    have here : (p.calls.set i { v with stage := y })[i]? = some { v with stage := y } :=
      List.getElem?_set_self there
    have move := goes_of_step
      (p := { p with barrier := b', calls := p.calls.set i { v with stage := y } }) here moved
    have quiet := sayings_go
      (p := { p with barrier := b', calls := p.calls.set i { v with stage := y } }) here moved
    rw [after_self] at move
    simp only [List.set_set] at move
    refine ih.trans (.of_move move ?_)
    rw [quiet]
    cases z with
    | returned r => cases going
    | _ => rfl

/-- At a barrier at which nobody has arrived a count takes the lock, reads nought and gives the lock
back. -/
theorem Stage.goes_reading {gauge : Gauge} (c : Cancellation) (free : b.locked = false)
    (nought : b.read gauge = 0) :
    Stage.Goes c b (.coming (.gauge gauge)) b (.probing gauge (.finished (.ok 0))) := by
  have locks : Stage.Goes c b (.coming (.gauge gauge)) b.lock (.probing gauge .read) :=
    .tail .refl rfl (by simp [step, free])
  have reads : Stage.Goes c b (.coming (.gauge gauge)) b.lock (.probing gauge (.leave 0)) := by
    have same : b.lock.read gauge = 0 := by cases gauge <;> exact nought
    exact locks.tail rfl (by rw [← same]; rfl)
  have back : b.lock.unlock = b := by rw [lock, unlock, ← free]
  exact reads.tail rfl (by rw [← back]; rfl)

/-- And after that the caller is told. -/
theorem Stage.goes_nought {gauge : Gauge} (c : Cancellation) (free : b.locked = false)
    (nought : b.read gauge = 0) :
    Stage.Goes c b (.coming (.gauge gauge)) b (.answered (.ok (.number 0))) :=
  (goes_reading c free nought).tail rfl rfl

/-- All calls go on without being heard, each with the lock free before and after. -/
theorem tells_of_forall₂ {x y : List Call}
    (goes : List.Forall₂ (fun v w => w.thread = v.thread ∧
      v.stage.Goes (p.settings v.thread) p.barrier p.barrier w.stage) x y) :
    Schedule.Tells step sayings { p with calls := x } [] { p with calls := y } := by
  -- those before have gone on already
  suffices all : ∀ before : List Call, Schedule.Tells step sayings
      { p with calls := before ++ x } [] { p with calls := before ++ y } from all []
  induction goes with
  | nil => exact fun before => .nil _
  | @cons v w x y here _ ih =>
    intro before
    have goes := tells_of_goes (p := { p with calls := before ++ v :: x }) (i := before.length)
      (by simp) here.2
    have put : (before ++ v :: x).set before.length { v with stage := w.stage } =
        (before ++ [w]) ++ x := by
      rw [List.set_append_right _ _ (Nat.le_refl _), Nat.sub_self, ← here.1]
      simp
    rw [put] at goes
    have rest := ih (before ++ [w])
    rw [List.append_assoc _ [w] y] at rest
    exact goes.trans rest

/-! ## The lock -/

def Stage.holdsLock : Stage → Bool
  | inside w => w.holdsLock
  | probing _ w => w.holdsLock
  | _ => false

theorem Stage.step_latching {b' : Barrier} {c' : Cancellation} (moved : x.step b c = some (b', c', y)) :
    Latching b b' x.holdsLock y.holdsLock := by
  cases x with
  | coming q =>
    cases q with
    | wait | gauge =>
      simp only [step] at moved
      split at moved
      · cases moved
      · next free =>
        cases moved
        exact .takes (Bool.eq_false_iff.mpr free) rfl rfl rfl
    | parties =>
      cases moved
      exact .keeps rfl rfl
    | destroy | status => cases moved
  | inside w =>
    by_cases ended : ∃ r, w = .finished r
    · obtain ⟨r, rfl⟩ := ended
      cases moved
      exact .keeps rfl rfl
    · rw [step_inside fun r hr => ended ⟨r, hr⟩] at moved
      obtain ⟨t, ht, moved⟩ := Option.map_eq_some_iff.mp moved
      cases moved
      exact (Wait.step_latching ht).2
  | probing g w =>
    by_cases ended : ∃ r, w = .finished r
    · obtain ⟨r, rfl⟩ := ended
      cases moved
      exact .keeps rfl rfl
    · rw [step_probing fun r hr => ended ⟨r, hr⟩] at moved
      obtain ⟨t, ht, moved⟩ := Option.map_eq_some_iff.mp moved
      cases moved
      exact (Probe.step_latching ht).2
  | answered r =>
    cases moved
    exact .keeps rfl rfl
  | returned r => cases moved

theorem Stage.goes_of_holdsLock (holds : x.holdsLock = true) : (x.step b c).isSome = true := by
  cases x with
  | inside w =>
    cases w with
    | trip | counted | retracted | overtaken => rfl
    | arrive | judge =>
      simp only [step, Wait.step]
      split <;> rfl
    | _ => cases holds
  | probing g w =>
    cases w with
    | read | leave => rfl
    | _ => cases holds
  | _ => cases holds

/-- The lock is taken exactly if a call holds it, and then one call does. -/
def Kept (p : Plain) : Prop :=
  p.calls.countP (fun v => v.stage.holdsLock) = p.barrier.locked.toNat

theorem Kept.step {x : Act} (kept : p.Kept) (move : p.step x = some q) : q.Kept := by
  cases x with
  | go i =>
    obtain ⟨v, b, c, x, hv, moved, rfl⟩ := turn_of_step move
    have count := countP_set_add (fun v : Call => v.stage.holdsLock) { v with stage := x } hv
    unfold Kept at kept ⊢
    show (p.calls.set i { v with stage := x }).countP _ = b.locked.toNat
    have bound : v.stage.holdsLock.toNat ≤ p.calls.countP fun v => v.stage.holdsLock := by
      cases holds : v.stage.holdsLock with
      | false => exact Nat.zero_le _
      | true => exact List.countP_pos_iff.mpr ⟨v, List.mem_of_getElem? hv, holds⟩
    cases Stage.step_latching moved with
    | keeps locked holds =>
      simp only [holds, locked] at count ⊢
      omega
    | takes free taken before after =>
      simp only [free, taken, before, after, Bool.toNat_true, Bool.toNat_false] at kept count ⊢
      omega
    | gives freed before after =>
      have := Bool.toNat_le p.barrier.locked
      simp only [freed, before, after, Bool.toNat_true, Bool.toNat_false] at count bound ⊢
      omega
  | call thread r =>
    simp only [Plain.step] at move
    split at move
    · cases move
      simpa [Kept, Stage.holdsLock] using kept
    · cases move
  | request thread =>
    cases move
    exact kept
  | adjust thread type state =>
    simp only [Plain.step] at move
    split at move
    · cases move
      exact kept
    · cases move

theorem stuck_of_still (still : p.Still) (hv : p.calls[i]? = some v) :
    v.stage.step p.barrier (p.settings v.thread) = none := by
  cases moved : v.stage.step p.barrier (p.settings v.thread) with
  | none => rfl
  | some turn => cases (still i).symm.trans (goes_of_step hv moved)

/-- Where nobody can go on, nobody holds the lock. -/
theorem Kept.unlocked_of_still (kept : p.Kept) (still : p.Still) : p.barrier.locked = false := by
  cases locked : p.barrier.locked with
  | false => rfl
  | true =>
    obtain ⟨i, v, hv, holds⟩ := exists_of_countP kept locked
    obtain ⟨turn, moved⟩ := Option.isSome_iff_exists.mp
      (Stage.goes_of_holdsLock (b := p.barrier) (c := p.settings v.thread) holds)
    cases (stuck_of_still still hv).symm.trans moved

end Plain

end Rendezvous
