import Rendezvous.Barrier.Basic

/-!
# Handles and their slots

Callers hold a barrier through a handle. A handle is a slot that is in one of three states: it has
never been used and knows how many parties its barrier will have (`unbuilt`), it owns a barrier
(`live`), or it owns nothing (`empty`).

```text
unbuilt ──(first wait, or explicit init)──▶ live ──(destroy)──▶ empty
    │                                        ▲                     │
    └──────────(destroy)──────────▶ empty    └───(explicit init)───┘
```

The slot is guarded by a lock with three modes. Any number of threads may share it. One thread may
reserve it, which keeps other writers out but lets readers come and go. To write, the thread with
the reservation turns it into an exclusive hold, from which moment nobody new may share the slot,
and waits for the readers that are left. Whoever is inside a barrier's wait shares the slot all the
time, which is how a destroy can tell that the barrier is in use.

Barriers have numbers, because a slot can own one barrier after another and because threads may
still be in a barrier that its slot no longer owns.
-/

set_option autoImplicit false

namespace Rendezvous

/-- What a handle owns. A live barrier is named by its number. -/
inductive Slot where
  | unbuilt (parties : UInt32)
  | live (barrier : Nat)
  | empty
  deriving DecidableEq, Repr

instance : Inhabited Slot := ⟨.empty⟩

/-- A slot's state without its contents. -/
inductive Status where
  | unbuilt
  | live
  | empty
  deriving DecidableEq, Repr, Inhabited

def Status.name : Status → String
  | unbuilt => "AutoInit"
  | live => "Valid"
  | empty => "Invalid"

def Slot.status : Slot → Status
  | unbuilt _ => .unbuilt
  | live _ => .live
  | empty => .empty

/-- Who holds a slot. -/
structure Holds where
  /-- How many threads share it. -/
  sharers : Nat := 0
  /-- Some thread has reserved it. -/
  reserved : Bool := false
  /-- Some thread holds it for itself, or has announced that it will. -/
  exclusive : Bool := false
  deriving DecidableEq, Repr, Inhabited

namespace Holds

def mayShare (h : Holds) : Bool := !h.exclusive

def mayReserve (h : Holds) : Bool := !h.reserved && !h.exclusive

/-- Nobody holds the slot in any way. -/
def free (h : Holds) : Bool := h.sharers = 0 && !h.reserved && !h.exclusive

def share (h : Holds) : Holds := { h with sharers := h.sharers + 1 }
def unshare (h : Holds) : Holds := { h with sharers := h.sharers - 1 }
def reserve (h : Holds) : Holds := { h with reserved := true }
def unreserve (h : Holds) : Holds := { h with reserved := false }
def claim (h : Holds) : Holds := { h with exclusive := true }

/-- Turns a reservation into an exclusive hold; readers may still be there. -/
def announce (h : Holds) : Holds := { h with reserved := false, exclusive := true }

def unclaim (h : Holds) : Holds := { h with exclusive := false }

end Holds

structure Handle where
  slot : Slot := .empty
  holds : Holds := {}
  deriving DecidableEq, Repr, Inhabited

namespace Handle

/-- A handle whose barrier is built when it is first waited on. -/
def lazy (parties : UInt32) : Handle := { slot := .unbuilt parties }

/-- The text that shows a handle's status and its number of parties. -/
def inspect (status : Status) (parties : Option UInt32) : String :=
  let shown := match parties with
    | some n => "Some(" ++ toString n.toNat ++ ")"
    | none => "None"
  "BarrierHandle \x7b state: " ++ status.name ++ ", parties: " ++ shown ++ " \x7d"

end Handle

/-! ## What threads share -/

/-- Everything that operations on handles share: the handles, every barrier built so far, and the
lock under which unused handles are turned into something else. -/
structure Arena where
  handles : Array Handle := #[]
  barriers : Array Barrier := #[]
  /-- Somebody holds the process-wide lock for unused handles. -/
  guarded : Bool := false
  deriving Inhabited, Repr

namespace Arena

def handle (a : Arena) (h : Nat) : Handle := a.handles.getD h default

def setHandle (a : Arena) (h : Nat) (x : Handle) : Arena :=
  { a with handles := a.handles.setIfInBounds h x }

def slot (a : Arena) (h : Nat) : Slot := (a.handle h).slot

def holds (a : Arena) (h : Nat) : Holds := (a.handle h).holds

def setSlot (a : Arena) (h : Nat) (s : Slot) : Arena :=
  a.setHandle h { a.handle h with slot := s }

def setHolds (a : Arena) (h : Nat) (x : Holds) : Arena :=
  a.setHandle h { a.handle h with holds := x }

def barrier (a : Arena) (b : Nat) : Barrier := a.barriers.getD b default

def setBarrier (a : Arena) (b : Nat) (x : Barrier) : Arena :=
  { a with barriers := a.barriers.setIfInBounds b x }

/-- Takes a barrier in; it gets the next number. -/
def adopt (a : Arena) (x : Barrier) : Arena × Nat :=
  ({ a with barriers := a.barriers.push x }, a.barriers.size)

/-- How many parties the barrier of a slot has or will have. -/
def partiesOf (a : Arena) : Slot → Option UInt32
  | .unbuilt n => some n
  | .live b => some (a.barrier b).parties
  | .empty => none

/-! ### Reading what was written -/

variable {a : Arena} {h k b c : Nat}

theorem handle_setHandle_self (x : Handle) (hh : h < a.handles.size) :
    (a.setHandle h x).handle h = x := by
  simp [handle, setHandle, hh]

theorem handle_setHandle_of_ne (x : Handle) (ne : k ≠ h) :
    (a.setHandle h x).handle k = a.handle k := by
  simp [handle, setHandle, Ne.symm ne]

@[simp] theorem size_setHandle (a : Arena) (h : Nat) (x : Handle) :
    (a.setHandle h x).handles.size = a.handles.size := by
  simp [setHandle]

/-- A field of a handle that is written as it was stays as it was everywhere. -/
theorem handle_setHandle_congr {α : Type} (f : Handle → α) {x : Handle}
    (same : f x = f (a.handle h)) (k : Nat) : f ((a.setHandle h x).handle k) = f (a.handle k) := by
  by_cases here : k = h
  · subst here
    by_cases hk : k < a.handles.size
    · rw [handle_setHandle_self x hk, same]
    · simp [handle, setHandle, hk]
  · rw [handle_setHandle_of_ne x here]

@[simp] theorem slot_setHolds (a : Arena) (h : Nat) (x : Holds) (k : Nat) :
    (a.setHolds h x).slot k = a.slot k :=
  handle_setHandle_congr (x := { a.handle h with holds := x }) Handle.slot rfl k

@[simp] theorem holds_setSlot (a : Arena) (h : Nat) (s : Slot) (k : Nat) :
    (a.setSlot h s).holds k = a.holds k :=
  handle_setHandle_congr (x := { a.handle h with slot := s }) Handle.holds rfl k

theorem holds_setHolds_self (x : Holds) (hh : h < a.handles.size) :
    (a.setHolds h x).holds h = x :=
  congrArg Handle.holds (handle_setHandle_self _ hh)

theorem holds_setHolds_of_ne (x : Holds) (ne : k ≠ h) : (a.setHolds h x).holds k = a.holds k :=
  congrArg Handle.holds (handle_setHandle_of_ne _ ne)

theorem slot_setSlot_self (s : Slot) (hh : h < a.handles.size) : (a.setSlot h s).slot h = s :=
  congrArg Handle.slot (handle_setHandle_self _ hh)

theorem slot_setSlot_of_ne (s : Slot) (ne : k ≠ h) : (a.setSlot h s).slot k = a.slot k :=
  congrArg Handle.slot (handle_setHandle_of_ne _ ne)

theorem barrier_setBarrier_self (x : Barrier) (hb : b < a.barriers.size) :
    (a.setBarrier b x).barrier b = x := by
  simp [barrier, setBarrier, hb]

theorem barrier_setBarrier_of_ne (x : Barrier) (ne : c ≠ b) :
    (a.setBarrier b x).barrier c = a.barrier c := by
  simp [barrier, setBarrier, Ne.symm ne]

@[simp] theorem size_setBarrier (a : Arena) (b : Nat) (x : Barrier) :
    (a.setBarrier b x).barriers.size = a.barriers.size := by
  simp [setBarrier]

theorem barrier_of_size_le (hb : a.barriers.size ≤ b) : a.barrier b = default := by
  rw [barrier, Array.getD_eq_getD_getElem?, Array.getElem?_eq_none hb]
  rfl

theorem barrier_adopt_of_lt (x : Barrier) (hb : b < a.barriers.size) :
    (a.adopt x).1.barrier b = a.barrier b := by
  simp [barrier, adopt, Array.getElem?_push, Nat.ne_of_lt hb]

theorem barrier_adopt_self (a : Arena) (x : Barrier) :
    (a.adopt x).1.barrier a.barriers.size = x := by
  simp [barrier, adopt]

end Arena

end Rendezvous
