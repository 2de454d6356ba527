import Rendezvous.Proofs.Crowd.Basic
import Rendezvous.Proofs.Delivery
import Rendezvous.Run.Crew

/-!
# A crew whose handle owns a barrier

While a crew is at work its handle owns one barrier, and nobody reserves the slot or claims it.
Then all there is to know of the arena is the barrier and how often the slot is shared (`shelter`),
and an operation that waits goes straight in and comes straight out again: what lies between is the
barrier's wait. Before and after, one more thread builds the barrier and tears it down, and nobody
is in its way (`alone_init`, `alone_destroy`).
-/

set_option autoImplicit false

namespace Rendezvous.Run

open Barrier Handle

/-- A handle that owns a barrier, and is shared so many times. -/
def shelter (b : Barrier) (sharers : Nat) : Arena :=
  { handles := #[⟨.live 0, { sharers }⟩], barriers := #[b] }

theorem sharers_of_shelter {b b' : Barrier} {m n : Nat} (h : shelter b m = shelter b' n) :
    m = n :=
  congrArg (fun arena => (arena.holds 0).sharers) h

namespace Crew

variable {c : Crew} {b : Barrier} {n i : Nat}

theorem setIfInBounds_getD_self (cancels : Array Cancellation) (i : Nat) :
    cancels.setIfInBounds i (cancels.getD i {}) = cancels := by
  apply Array.ext_getElem?
  intro j
  rw [Array.getElem?_setIfInBounds]
  split
  · next same =>
    subst same
    split
    · next there => simp [there]
    · next out => rw [Array.getElem?_eq_none (Nat.le_of_not_lt out)]
  · rfl

theorem getD_setIfInBounds (cancels : Array Cancellation) (x : Cancellation) (j : Nat)
    (there : i < cancels.size) :
    (cancels.setIfInBounds i x).getD j {} = if j = i then x else cancels.getD j {} := by
  by_cases same : j = i
  · subst same
    simp [there]
  · simp [same, Ne.symm same]

/-! ## One operation that waits -/

theorem operate_of_step {op : Operation} {turn : Operation.Turn}
    (h : op.step c.arena theHandle (c.cancels.getD i {}) c.supply none = some turn)
    (same : turn.cancel = c.cancels.getD i {}) :
    c.operate i op = some ({ c with arena := turn.arena }, turn.stage) := by
  rw [operate, h, Option.map_some, same, setIfInBounds_getD_self]

theorem operate_knock (h : c.arena = shelter b n) :
    c.operate i (.knock .wait) =
      some ({ c with arena := shelter b (n + 1) }, .look .wait) := by
  have turn : Operation.step c.arena theHandle (c.cancels.getD i {}) c.supply none (.knock .wait) =
      some ⟨shelter b (n + 1), c.cancels.getD i {}, .look .wait, [], []⟩ := by
    rw [h]
    rfl
  exact operate_of_step turn rfl

theorem operate_look (h : c.arena = shelter b n) :
    c.operate i (.look .wait) = some (c, .inside 0 .enter) := by
  have turn : Operation.step c.arena theHandle (c.cancels.getD i {}) c.supply none (.look .wait) =
      some ⟨c.arena, c.cancels.getD i {}, .inside 0 .enter, [], []⟩ := by
    rw [h]
    rfl
  exact operate_of_step turn rfl

/-- A wait at the barrier goes on as it would without a handle. -/
theorem operate_inside (h : c.arena = shelter b n) {w : Barrier.Wait} (going : w.isOver = false) :
    c.operate i (.inside 0 w) = (w.step b (c.cancels.getD i {}) none).map fun turn =>
      ({ c with arena := shelter turn.barrier n,
                cancels := c.cancels.setIfInBounds i turn.cancel }, .inside 0 turn.stage) := by
  have here : (shelter b n).barrier 0 = b := rfl
  have put (b' : Barrier) : (shelter b n).setBarrier 0 b' = shelter b' n := rfl
  cases w with
  | finished r => cases going
  | _ => simp [operate, Operation.step, h, here, put, Function.comp_def]

theorem operate_over (c : Crew) (i : Nat) (r : Except BarrierError Outcome) :
    c.operate i (.inside 0 (.finished r)) = some (c, .leave (.answer (r.map .outcome))) := by
  have turn : Operation.step c.arena theHandle (c.cancels.getD i {}) c.supply none
      (.inside 0 (.finished r)) =
        some ⟨c.arena, c.cancels.getD i {}, .leave (.answer (r.map .outcome)), [], []⟩ := rfl
  exact operate_of_step turn rfl

theorem operate_leave (h : c.arena = shelter b (n + 1)) (r : Result) :
    c.operate i (.leave (.answer r)) =
      some ({ c with arena := shelter b n }, .finished r) := by
  have turn : Operation.step c.arena theHandle (c.cancels.getD i {}) c.supply none
      (.leave (.answer r)) = some ⟨shelter b n, c.cancels.getD i {}, .finished r, [], []⟩ := by
    rw [h]
    rfl
  exact operate_of_step turn rfl

/-! ## Building and tearing down -/

theorem alone_init {supply : Supply} {parties : UInt32} (pos : parties ≠ 0)
    (le : ¬ Semaphore.maxValue < parties) (memory : supply.memory = true) :
    (around supply {}).alone (.init parties false) =
      ({ arena := shelter (fresh parties false supply.gate supply.gate) 0, cancels := #[], supply },
        .ok .done) := by
  simp [alone, patience, finish, around, theHandle, shelter,
    Operation.init, Operation.step, Errand.inspect, Errand.onSuccess, Errand.afterSlot,
    Errand.guarded, Next.stage, Construction.step, Construction.makeGate, Semaphore.create,
    Supply.gate, Arena.holds, Arena.handle, Arena.slot, Arena.setHolds, Arena.setHandle,
    Arena.adopt, Arena.setSlot, Holds.mayReserve, Holds.reserve, Holds.announce, Holds.unclaim,
    pos, le, memory]
  rfl

theorem alone_destroy (h : c.arena = shelter b 0) (free : b.locked = false) :
    (c.alone .destroy).2 = .ok .done := by
  simp [alone, patience, finish, theHandle, shelter, h, free,
    Operation.destroy, Operation.step, Inquiry.look, Next.stage, Teardown.step, Arena.holds,
    Arena.handle, Arena.slot, Arena.barrier, Arena.setHolds, Arena.setHandle, Arena.setBarrier,
    Arena.setSlot, Holds.mayShare, Holds.share, Holds.unshare, Holds.free, Holds.claim,
    Holds.unclaim, Barrier.lock, Barrier.unlock]
  rfl

/-- The count of a barrier at which nobody is can be read. -/
theorem alone_generation (h : c.arena = shelter b 0) (free : b.locked = false) :
    (c.alone (.ask (.gauge .generation))).2 = .ok (.number b.generation.toNat) := by
  simp [alone, patience, finish, theHandle, shelter, Except.map, h, free,
    Operation.ask, Operation.step, Inquiry.look, Next.stage, Probe.step, Barrier.read, Arena.holds,
    Arena.handle, Arena.slot, Arena.barrier, Arena.setHolds, Arena.setHandle, Arena.setBarrier,
    Holds.mayShare, Holds.share, Holds.unshare, Barrier.lock, Barrier.unlock]
  rfl

/-- Once it has been destroyed a wait is refused. -/
theorem alone_wait_destroyed (h : c.arena = shelter b 0) (free : b.locked = false) :
    ((c.alone .destroy).1.alone .wait).2 = .error (.barrier (.invalidArgument .notInitialized)) ∧
      ((c.alone .destroy).1.alone .wait).1.arena.slot theHandle = .empty := by
  simp [alone, patience, finish, theHandle, shelter, h, free,
    Operation.destroy, Operation.wait, Operation.step, Inquiry.look, Next.stage, Teardown.step,
    Arena.holds, Arena.handle, Arena.slot, Arena.barrier, Arena.setHolds, Arena.setHandle,
    Arena.setBarrier, Arena.setSlot, Holds.mayShare, Holds.share, Holds.unshare, Holds.free,
    Holds.claim, Holds.unclaim, Barrier.lock, Barrier.unlock]
  rfl

end Crew

end Rendezvous.Run
