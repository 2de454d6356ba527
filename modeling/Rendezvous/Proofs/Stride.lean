import Rendezvous.Handle.Operation

/-!
# One stage of an operation

`Handle.Operation.step` is a function of the stage, and at several stages it looks at the slot, at a
lock or at a failure before it knows what to do. `Stride` lists what can come of it: one constructor
for each thing that one stage can do, with the condition on which it does it. A thread that has moved
has made one of these strides (`stride_of_step`), so whatever is to be said of all turns is said by
cases on a `Stride`, and the function is taken apart here and nowhere else.
-/

set_option autoImplicit false

namespace Rendezvous.Handle

open Barrier

/-- What one stage of an operation on handle `h` does to the arena `a`, and where it leads. -/
inductive Stride (a : Arena) (h : Nat) (c : Cancellation) (supply : Supply)
    (fault : Option PrimitiveError) : Operation → Operation.Turn → Prop where
  | knock {q : Inquiry} : (a.holds h).mayShare = true →
      Stride a h c supply fault (.knock q) ⟨a.setHolds h (a.holds h).share, c, .look q, [], []⟩
  | look {q : Inquiry} : Stride a h c supply fault (.look q) ⟨a, c, q.look a (a.slot h), [], []⟩
  | inside {b : Nat} {w : Wait} {t : Wait.Turn} : w.step (a.barrier b) c fault = some t →
      Stride a h c supply fault (.inside b w)
        ⟨a.setBarrier b t.barrier, t.cancel, .inside b t.stage, t.events, t.notices⟩
  | outside {b : Nat} {r : Except BarrierError Outcome} :
      Stride a h c supply fault (.inside b (.finished r))
        ⟨a, c, .leave (.answer (r.map .outcome)), [], []⟩
  | probe {b : Nat} {gauge : Gauge} {p : Probe} {t : Probe.Turn} :
      p.step (a.barrier b) gauge fault = some t →
      Stride a h c supply fault (.probe b gauge p)
        ⟨a.setBarrier b t.barrier, c, .probe b gauge t.stage, t.events, []⟩
  | probed {b : Nat} {gauge : Gauge} {r : Except BarrierError Nat} :
      Stride a h c supply fault (.probe b gauge (.finished r))
        ⟨a, c, .leave (.answer (r.map .number)), [], []⟩
  | leave {n : Next} :
      Stride a h c supply fault (.leave n) ⟨a.setHolds h (a.holds h).unshare, c, n.stage, [], []⟩
  | guard {e : Errand} : a.guarded = false →
      Stride a h c supply fault (.guard e) ⟨{ a with guarded := true }, c, .reserve e, [], []⟩
  | reserve {e : Errand} : (a.holds h).mayReserve = true →
      Stride a h c supply fault (.reserve e)
        ⟨a.setHolds h (a.holds h).reserve, c, .inspect e, [], []⟩
  | inspect {e : Errand} :
      Stride a h c supply fault (.inspect e) ⟨a, c, e.inspect (a.slot h), [], []⟩
  | build {e : Errand} {s : Construction} {t : Construction.Turn} : s.step supply fault = some t →
      Stride a h c supply fault (.build e s) ⟨a, c, .build e t.stage, t.events, t.notices⟩
  | built {e : Errand} {x : Barrier} : Stride a h c supply fault (.build e (.finished (.ok x)))
      ⟨(a.adopt x).1, c, .announce e (.live (a.adopt x).2), [], []⟩
  | failed {e : Errand} {err : BarrierError} :
      Stride a h c supply fault (.build e (.finished (.error err)))
        ⟨a, c, .giveUp e (.answer (.error err)), [], []⟩
  | announce {e : Errand} {new : Slot} : Stride a h c supply fault (.announce e new)
      ⟨a.setHolds h (a.holds h).announce, c, .store e new, [], []⟩
  | store {e : Errand} {new : Slot} : (a.holds h).sharers = 0 →
      Stride a h c supply fault (.store e new)
        ⟨a.setSlot h new, c, .release e e.onSuccess, [], e.notices a new⟩
  | release {e : Errand} {n : Next} : Stride a h c supply fault (.release e n)
      ⟨a.setHolds h (a.holds h).unclaim, c, e.afterSlot n, [], []⟩
  | giveUp {e : Errand} {n : Next} : Stride a h c supply fault (.giveUp e n)
      ⟨a.setHolds h (a.holds h).unreserve, c, e.afterSlot n, [], []⟩
  | unguard {n : Next} :
      Stride a h c supply fault (.unguard n) ⟨{ a with guarded := false }, c, n.stage, [], []⟩
  | claim : (a.holds h).free = true →
      Stride a h c supply fault .claim ⟨a.setHolds h (a.holds h).claim, c, .verify, [], []⟩
  | keptOut : (a.holds h).free = false →
      Stride a h c supply fault .claim ⟨a, c, .finished (.error (.busy .threadsInside)), [], []⟩
  | verify {b : Nat} : a.slot h = .live b →
      Stride a h c supply fault .verify ⟨a, c, .seize b, [], []⟩
  | verifyEmpty : a.slot h = .empty → Stride a h c supply fault .verify
      ⟨a, c, .abandon (.answer (.error (.invalidArgument .alreadyDestroyed))), [], []⟩
  | verifyUnbuilt {n : UInt32} : a.slot h = .unbuilt n →
      Stride a h c supply fault .verify ⟨a, c, .abandon .discard, [], []⟩
  | seize {b : Nat} : fault = none → (a.barrier b).locked = false →
      Stride a h c supply fault (.seize b)
        ⟨a.setBarrier b (a.barrier b).lock, c, .clear b, [⟨.tryLock, .flag true⟩], []⟩
  | seizeNot {b : Nat} : Stride a h c supply fault (.seize b)
      ⟨a, c, .abandon (.answer (.error (.busy .lockHeld))), [⟨.tryLock, .flag false⟩], []⟩
  | clear {b : Nat} :
      Stride a h c supply fault (.clear b) ⟨a.setSlot h .empty, c, .detach b, [], []⟩
  | detach {b : Nat} : Stride a h c supply fault (.detach b)
      ⟨a.setHolds h (a.holds h).unclaim, c, .tearDown b .evenGate, [], []⟩
  | tearDown {b : Nat} {t : Teardown} {u : Teardown.Turn} : t.step (a.barrier b) fault = some u →
      Stride a h c supply fault (.tearDown b t)
        ⟨a.setBarrier b u.barrier, c, .tearDown b u.stage, u.events, u.notices⟩
  | tornDown {b : Nat} : Stride a h c supply fault (.tearDown b .finished)
      ⟨a, c, .finished (.ok .done), [], []⟩
  | abandon {n : Next} : Stride a h c supply fault (.abandon n)
      ⟨a.setHolds h (a.holds h).unclaim, c, n.stage, [], []⟩

namespace Operation

variable {a : Arena} {h : Nat} {c : Cancellation} {supply : Supply} {fault : Option PrimitiveError}

/-! ## Stages that are steps of something inside -/

theorem step_inside {b : Nat} {w : Wait} (going : ∀ r, w ≠ .finished r) :
    step a h c supply fault (inside b w) = (w.step (a.barrier b) c fault).map fun t =>
      ⟨a.setBarrier b t.barrier, t.cancel, inside b t.stage, t.events, t.notices⟩ := by
  cases w with
  | finished r => exact absurd rfl (going r)
  | _ => rfl

theorem step_probe {b : Nat} {gauge : Gauge} {p : Probe} (going : ∀ r, p ≠ .finished r) :
    step a h c supply fault (probe b gauge p) = (p.step (a.barrier b) gauge fault).map fun t =>
      ⟨a.setBarrier b t.barrier, c, probe b gauge t.stage, t.events, []⟩ := by
  cases p with
  | finished r => exact absurd rfl (going r)
  | _ => rfl

theorem step_build {e : Errand} {s : Construction} (going : ∀ r, s ≠ .finished r) :
    step a h c supply fault (build e s) =
      (s.step supply fault).map fun t => ⟨a, c, build e t.stage, t.events, t.notices⟩ := by
  cases s with
  | finished r => exact absurd rfl (going r)
  | _ => rfl

theorem step_tearDown {b : Nat} {t : Teardown} (going : t ≠ .finished) :
    step a h c supply fault (tearDown b t) = (t.step (a.barrier b) fault).map fun u =>
      ⟨a.setBarrier b u.barrier, c, tearDown b u.stage, u.events, u.notices⟩ := by
  cases t with
  | finished => exact absurd rfl going
  | _ => rfl

/-! ## All stages -/

/-- A thread that has moved has made a stride. -/
theorem stride_of_step {op : Operation} {turn : Turn}
    (move : op.step a h c supply fault = some turn) : Stride a h c supply fault op turn := by
  cases op with
  | knock q =>
    simp only [step] at move
    split at move
    · next may =>
      obtain rfl := Option.some.inj move
      exact .knock may
    · cases move
  | look q =>
    obtain rfl := Option.some.inj move
    exact .look
  | inside b w =>
    by_cases ended : ∃ r, w = .finished r
    · obtain ⟨r, rfl⟩ := ended
      obtain rfl := Option.some.inj move
      exact .outside
    · rw [step_inside fun r hr => ended ⟨r, hr⟩] at move
      obtain ⟨t, ht, rfl⟩ := Option.map_eq_some_iff.mp move
      exact .inside ht
  | probe b gauge p =>
    by_cases ended : ∃ r, p = .finished r
    · obtain ⟨r, rfl⟩ := ended
      obtain rfl := Option.some.inj move
      exact .probed
    · rw [step_probe fun r hr => ended ⟨r, hr⟩] at move
      obtain ⟨t, ht, rfl⟩ := Option.map_eq_some_iff.mp move
      exact .probe ht
  | leave n =>
    obtain rfl := Option.some.inj move
    exact .leave
  | guard e =>
    simp only [step] at move
    split at move
    · cases move
    · next free =>
      obtain rfl := Option.some.inj move
      exact .guard (Bool.eq_false_iff.mpr free)
  | reserve e =>
    simp only [step] at move
    split at move
    · next may =>
      obtain rfl := Option.some.inj move
      exact .reserve may
    · cases move
  | inspect e =>
    obtain rfl := Option.some.inj move
    exact .inspect
  | build e s =>
    by_cases ended : ∃ r, s = .finished r
    · obtain ⟨r, rfl⟩ := ended
      cases r with
      | error err =>
        obtain rfl := Option.some.inj move
        exact .failed
      | ok x =>
        obtain rfl := Option.some.inj move
        exact .built
    · rw [step_build fun r hr => ended ⟨r, hr⟩] at move
      obtain ⟨t, ht, rfl⟩ := Option.map_eq_some_iff.mp move
      exact .build ht
  | announce e new =>
    obtain rfl := Option.some.inj move
    exact .announce
  | store e new =>
    simp only [step] at move
    split at move
    · next alone =>
      obtain rfl := Option.some.inj move
      exact .store alone
    · cases move
  | release e n =>
    obtain rfl := Option.some.inj move
    exact .release
  | giveUp e n =>
    obtain rfl := Option.some.inj move
    exact .giveUp
  | unguard n =>
    obtain rfl := Option.some.inj move
    exact .unguard
  | claim =>
    simp only [step] at move
    split at move
    · next free =>
      obtain rfl := Option.some.inj move
      exact .claim free
    · next taken =>
      obtain rfl := Option.some.inj move
      exact .keptOut (Bool.eq_false_iff.mpr taken)
  | verify =>
    simp only [step] at move
    split at move
    · next b live =>
      obtain rfl := Option.some.inj move
      exact .verify live
    · next empty =>
      obtain rfl := Option.some.inj move
      exact .verifyEmpty empty
    · next n unused =>
      obtain rfl := Option.some.inj move
      exact .verifyUnbuilt unused
  | seize b =>
    simp only [step] at move
    split at move
    · obtain rfl := Option.some.inj move
      exact .seizeNot
    · next free =>
      obtain rfl := Option.some.inj move
      simp only [Bool.or_eq_true, not_or, Bool.not_eq_true, Option.isSome_eq_false_iff,
        Option.isNone_iff_eq_none] at free
      exact .seize free.1 free.2
  | clear b =>
    obtain rfl := Option.some.inj move
    exact .clear
  | detach b =>
    obtain rfl := Option.some.inj move
    exact .detach
  | tearDown b t =>
    by_cases ended : t = .finished
    · subst ended
      obtain rfl := Option.some.inj move
      exact .tornDown
    · rw [step_tearDown ended] at move
      obtain ⟨u, hu, rfl⟩ := Option.map_eq_some_iff.mp move
      exact .tearDown hu
  | abandon n =>
    obtain rfl := Option.some.inj move
    exact .abandon
  | finished r => cases move

end Operation

end Rendezvous.Handle
