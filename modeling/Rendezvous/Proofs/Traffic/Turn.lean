import Rendezvous.Proofs.Crowd.Turn
import Rendezvous.Proofs.Stride
import Rendezvous.Proofs.Traffic.Basic

/-!
# What a turn takes and gives back

An operation may hold four things: its slot, in one of three ways; the process-wide lock; a barrier
that nobody else can reach; the lock of a barrier. What it holds can be read off its stage
(`Operation.hands`). A turn takes one of these things or gives one back, or works at the barrier
that the operation is in, or writes the slot. `Deed` lists what there is to do, with what each deed
needs and what it leaves in hand, and `step_deed` says that a turn does nothing else. Whoever holds
what at any time is found by cases on a `Deed`.
-/

set_option autoImplicit false

namespace Rendezvous

open Barrier

namespace Barrier

def Probe.holdsLock : Probe → Bool
  | read | leave _ => true
  | _ => false

def Teardown.holdsLock : Teardown → Bool
  | evenGate | oddGate | unlock => true
  | _ => false

/-! ## The lock of a barrier and its number of parties -/

/-- What a turn does to the lock of a barrier, if its thread held it before and holds it after. -/
inductive Latching (b x : Barrier) (before after : Bool) : Prop where
  | keeps : x.locked = b.locked → after = before → Latching b x before after
  | takes : b.locked = false → x.locked = true → before = false → after = true →
      Latching b x before after
  | gives : x.locked = false → before = true → after = false → Latching b x before after

theorem Wait.step_latching {b : Barrier} {c : Cancellation} {fault : Option PrimitiveError}
    {w : Wait} {turn : Wait.Turn} (h : w.step b c fault = some turn) :
    turn.barrier.parties = b.parties ∧
      Latching b turn.barrier w.holdsLock turn.stage.holdsLock := by
  have afterGate (g : UInt64) (r : Except PrimitiveError Unit) :
      (Wait.afterGate g r).holdsLock = false := by
    rcases r with (_ | _) | _ <;> rfl
  have afterClaim (r : Except PrimitiveError Unit) : (Wait.afterClaim r).holdsLock = false := by
    cases r <;> rfl
  cases w with
  | enter | turnBack g =>
    cases fault <;> obtain rfl := Option.some.inj h <;> exact ⟨rfl, .keeps rfl rfl⟩
  | lock | relock g =>
    simp only [step] at h
    split at h
    · cases h
    · next free =>
      obtain rfl := Option.some.inj h
      exact ⟨rfl, .takes (Bool.eq_false_iff.mpr free) rfl rfl rfl⟩
  | arrive | judge g =>
    simp only [step] at h
    split at h <;> obtain rfl := Option.some.inj h <;> exact ⟨rfl, .keeps rfl rfl⟩
  | trip g | counted g | retracted g | overtaken g =>
    obtain rfl := Option.some.inj h
    exact ⟨rfl, .gives rfl rfl rfl⟩
  | post g =>
    cases fault with
    | some e =>
      obtain rfl := Option.some.inj h
      exact ⟨rfl, .keeps rfl rfl⟩
    | none =>
      simp only [step] at h
      split at h <;> obtain rfl := Option.some.inj h
      · exact ⟨parties_setGate _ _ _, .keeps (locked_setGate _ _ _) rfl⟩
      · exact ⟨rfl, .keeps rfl rfl⟩
  | pause g =>
    cases fault <;> obtain rfl := Option.some.inj h
    · exact ⟨rfl, .keeps rfl rfl⟩
    · exact ⟨rfl, .keeps rfl (afterGate g _)⟩
  | claim g =>
    cases fault <;> obtain rfl := Option.some.inj h <;> exact ⟨rfl, .keeps rfl rfl⟩
  | blocked g shield w =>
    rcases AtGate.blocked.cases h with ⟨r, rfl⟩ | ⟨_, _, _, -, -, rfl⟩
    · obtain rfl := Option.some.inj h
      exact ⟨rfl, .keeps rfl (afterGate g r)⟩
    · exact ⟨parties_setGate _ _ _, .keeps (locked_setGate _ _ _) rfl⟩
  | claiming g shield w =>
    rcases AtGate.claiming.cases h with ⟨r, rfl⟩ | ⟨_, _, _, -, -, rfl⟩
    · obtain rfl := Option.some.inj h
      exact ⟨rfl, .keeps rfl (afterClaim r)⟩
    · exact ⟨parties_setGate _ _ _, .keeps (locked_setGate _ _ _) rfl⟩
  | finished r => cases h

theorem Probe.step_latching {b : Barrier} {gauge : Gauge} {fault : Option PrimitiveError}
    {p : Probe} {turn : Probe.Turn} (h : p.step b gauge fault = some turn) :
    turn.barrier.parties = b.parties ∧
      Latching b turn.barrier p.holdsLock turn.stage.holdsLock := by
  cases p with
  | enter => cases fault <;> obtain rfl := Option.some.inj h <;> exact ⟨rfl, .keeps rfl rfl⟩
  | lock =>
    simp only [step] at h
    split at h
    · cases h
    · next free =>
      obtain rfl := Option.some.inj h
      exact ⟨rfl, .takes (Bool.eq_false_iff.mpr free) rfl rfl rfl⟩
  | read =>
    obtain rfl := Option.some.inj h
    exact ⟨rfl, .keeps rfl rfl⟩
  | leave value =>
    obtain rfl := Option.some.inj h
    exact ⟨rfl, .gives rfl rfl rfl⟩
  | finished r => cases h

theorem Teardown.step_latching {b : Barrier} {fault : Option PrimitiveError} {t : Teardown}
    {turn : Teardown.Turn} (h : t.step b fault = some turn) :
    turn.barrier.parties = b.parties ∧
      Latching b turn.barrier t.holdsLock turn.stage.holdsLock := by
  cases t with
  | evenGate | oddGate | lock =>
    obtain rfl := Option.some.inj h
    exact ⟨rfl, .keeps rfl rfl⟩
  | unlock =>
    obtain rfl := Option.some.inj h
    exact ⟨rfl, .gives rfl rfl rfl⟩
  | finished => cases h

end Barrier

/-- The barrier that a slot owns. -/
def Slot.barrier? : Slot → Option Nat
  | live b => some b
  | _ => none

namespace Handle

/-! ## What an operation holds -/

/-- How an operation holds its slot. -/
inductive Grip where
  | none
  | shared
  | reserved
  | exclusive
  deriving DecidableEq, Repr

structure Hands where
  grip : Grip := .none
  /-- It holds the process-wide lock for unused handles. -/
  guards : Bool := false
  /-- The barrier that no slot owns and no other operation reaches. -/
  owns : Option Nat := .none
  /-- The barrier whose lock it holds. -/
  locks : Option Nat := .none
  deriving DecidableEq, Repr

def Operation.hands : Operation → Hands
  | knock _ | guard _ | claim | finished _ => {}
  | look _ | leave _ => { grip := .shared }
  | inside b w => { grip := .shared, locks := if w.holdsLock then some b else none }
  | probe b _ p => { grip := .shared, locks := if p.holdsLock then some b else none }
  | reserve e => { guards := e.guarded }
  | inspect e | build e _ | giveUp e _ => { grip := .reserved, guards := e.guarded }
  | announce e new => { grip := .reserved, guards := e.guarded, owns := new.barrier? }
  | store e new => { grip := .exclusive, guards := e.guarded, owns := new.barrier? }
  | release e _ => { grip := .exclusive, guards := e.guarded }
  | unguard _ => { guards := true }
  | verify | seize _ | abandon _ => { grip := .exclusive }
  | clear b => { grip := .exclusive, locks := some b }
  | detach b => { grip := .exclusive, owns := some b, locks := some b }
  | tearDown b t => { owns := some b, locks := if t.holdsLock then some b else none }

/-- The barrier that the next stage works at. -/
def Operation.uses : Operation → Option Nat
  | inside b _ | probe b .. | seize b | clear b | detach b | tearDown b _ => some b
  | _ => none

@[simp] theorem Next.hands_stage (n : Next) : n.stage.hands = {} := by cases n <;> rfl

@[simp] theorem Errand.hands_afterSlot (e : Errand) (n : Next) :
    (e.afterSlot n).hands = { guards := e.guarded } := by
  unfold afterSlot
  cases guarded : e.guarded with
  | true => rfl
  | false => simp

@[simp] theorem Errand.hands_inspect (e : Errand) (s : Slot) :
    (e.inspect s).hands = { grip := .reserved, guards := e.guarded } := by
  cases e <;> cases s <;> rfl

@[simp] theorem Inquiry.hands_look (q : Inquiry) (a : Arena) (s : Slot) :
    (q.look a s).hands = { grip := .shared } := by
  cases q <;> cases s <;> rfl

/-! ## Deeds -/

/-- What a turn of an operation on handle `h` does to the arena `a`. The operation stands at `op`;
then follow the arena and the stage after the turn. -/
inductive Deed (a : Arena) (h : Nat) (op : Operation) : Arena → Operation → Prop where
  /-- Leaves everything alone. -/
  | passes {op' : Operation} : op'.hands = op.hands → Deed a h op a op'
  | shares {op' : Operation} : (a.holds h).exclusive = false → op.hands.grip = .none →
      op'.hands = { op.hands with grip := .shared } →
      Deed a h op (a.setHolds h (a.holds h).share) op'
  | unshares {op' : Operation} : op.hands.grip = .shared →
      op'.hands = { op.hands with grip := .none } →
      Deed a h op (a.setHolds h (a.holds h).unshare) op'
  | reserves {op' : Operation} : (a.holds h).reserved = false → (a.holds h).exclusive = false →
      op.hands.grip = .none → op'.hands = { op.hands with grip := .reserved } →
      Deed a h op (a.setHolds h (a.holds h).reserve) op'
  | unreserves {op' : Operation} : op.hands.grip = .reserved →
      op'.hands = { op.hands with grip := .none } →
      Deed a h op (a.setHolds h (a.holds h).unreserve) op'
  | announces {op' : Operation} : op.hands.grip = .reserved →
      op'.hands = { op.hands with grip := .exclusive } →
      Deed a h op (a.setHolds h (a.holds h).announce) op'
  | claims {op' : Operation} : (a.holds h).free = true → op.hands.grip = .none →
      op'.hands = { op.hands with grip := .exclusive } →
      Deed a h op (a.setHolds h (a.holds h).claim) op'
  | unclaims {op' : Operation} : op.hands.grip = .exclusive →
      op'.hands = { op.hands with grip := .none } →
      Deed a h op (a.setHolds h (a.holds h).unclaim) op'
  | guards {op' : Operation} : a.guarded = false → op.hands.guards = false →
      op'.hands = { op.hands with guards := true } → Deed a h op { a with guarded := true } op'
  | unguards {op' : Operation} : op.hands.guards = true →
      op'.hands = { op.hands with guards := false } → Deed a h op { a with guarded := false } op'
  /-- Works at a barrier without taking its lock or giving it back. -/
  | works {op' : Operation} {b : Nat} {x : Barrier} : op.uses = some b →
      x.parties = (a.barrier b).parties → x.locked = (a.barrier b).locked →
      op'.hands = op.hands → Deed a h op (a.setBarrier b x) op'
  | locks {op' : Operation} {b : Nat} {x : Barrier} : op.uses = some b →
      x.parties = (a.barrier b).parties → (a.barrier b).locked = false → x.locked = true →
      op.hands.locks = none → op'.hands = { op.hands with locks := some b } →
      Deed a h op (a.setBarrier b x) op'
  | unlocks {op' : Operation} {b : Nat} {x : Barrier} : op.uses = some b →
      x.parties = (a.barrier b).parties → x.locked = false → op.hands.locks = some b →
      op'.hands = { op.hands with locks := none } → Deed a h op (a.setBarrier b x) op'
  | adopts {e : Errand} {x : Barrier} : op = .build e (.finished (.ok x)) →
      Deed a h op (a.adopt x).1 (.announce e (.live a.barriers.size))
  | stores {e : Errand} {new : Slot} : op = .store e new → (a.holds h).sharers = 0 →
      Deed a h op (a.setSlot h new) (.release e e.onSuccess)
  | clears {b : Nat} : op = .clear b → Deed a h op (a.setSlot h .empty) (.detach b)
  /-- Is done with a barrier that nobody else can reach. -/
  | disposes {b : Nat} : op = .tearDown b .finished → Deed a h op a (.finished (.ok .done))

variable {a : Arena} {h : Nat} {c : Cancellation} {supply : Supply} {fault : Option PrimitiveError}

theorem Deed.of_latching {op op' : Operation} {b : Nat} {x : Barrier} {before after : Bool}
    (uses : op.uses = some b) (parties : x.parties = (a.barrier b).parties)
    (latching : Latching (a.barrier b) x before after)
    (locks : op.hands.locks = if before then some b else none)
    (hands : op'.hands = { op.hands with locks := if after then some b else none }) :
    Deed a h op (a.setBarrier b x) op' := by
  cases latching with
  | keeps same still =>
    subst still
    exact .works uses parties same (by rw [hands, ← locks])
  | takes free taken was is =>
    subst was is
    exact .locks uses parties free taken locks hands
  | gives given was is =>
    subst was is
    exact .unlocks uses parties given locks hands

/-- Every turn does one of the deeds, if the process-wide lock is taken only for errands that give
it back. -/
theorem Operation.step_deed {op : Operation} {turn : Operation.Turn}
    (guarded : ∀ e, op = .guard e → e.guarded = true)
    (move : op.step a h c supply fault = some turn) : Deed a h op turn.arena turn.stage := by
  cases stride_of_step move with
  | knock may => exact .shares (by simpa [Holds.mayShare] using may) rfl rfl
  | look => exact .passes (Inquiry.hands_look ..)
  | inside stepped =>
    obtain ⟨parties, latching⟩ := Wait.step_latching stepped
    exact .of_latching rfl parties latching rfl rfl
  | probe stepped =>
    obtain ⟨parties, latching⟩ := Probe.step_latching stepped
    exact .of_latching rfl parties latching rfl rfl
  | tearDown stepped =>
    obtain ⟨parties, latching⟩ := Teardown.step_latching stepped
    exact .of_latching rfl parties latching rfl rfl
  | leave => exact .unshares rfl (Next.hands_stage _)
  | guard free =>
    refine .guards free rfl ?_
    simp [hands, guarded _ rfl]
  | reserve may =>
    simp only [Holds.mayReserve, Bool.and_eq_true, Bool.not_eq_true'] at may
    exact .reserves may.1 may.2 rfl rfl
  | inspect => exact .passes (Errand.hands_inspect ..)
  | built => exact .adopts rfl
  | announce => exact .announces rfl rfl
  | store alone => exact .stores rfl alone
  | release => exact .unclaims rfl (Errand.hands_afterSlot ..)
  | giveUp => exact .unreserves rfl (Errand.hands_afterSlot ..)
  | unguard => exact .unguards rfl (Next.hands_stage _)
  | claim free => exact .claims free rfl rfl
  | seize _ free => exact .locks rfl rfl free rfl rfl rfl
  | clear => exact .clears rfl
  | detach => exact .unclaims rfl rfl
  | tornDown => exact .disposes rfl
  | abandon => exact .unclaims rfl (Next.hands_stage _)
  | _ => exact .passes rfl

end Handle

end Rendezvous
