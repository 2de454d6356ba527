import Rendezvous.Semaphore

/-!
# The barrier

A barrier makes a fixed number of threads, its parties, wait for each other. It counts arrivals
down under a lock; the arrival that brings the count to zero trips the barrier, which ends one
generation and begins the next, and lets the others go.

The others block at a gate, a semaphore that the tripping thread opens by posting one unit for each
of them. There are two gates, one for generations of even number and one for odd. A thread that is
released and comes back at once finds itself in the next generation and so at the other gate, where
it cannot take a unit meant for somebody still asleep.

This module holds the data and the operations on the count. Waiting, building and tearing down are
modules of their own, because each of them is a sequence of stages.
-/

set_option autoImplicit false

namespace Rendezvous

/-- How a wait that succeeded ended. -/
inductive Outcome where
  /-- For the one designated thread of a generation, the one that tripped the barrier. -/
  | serial
  /-- For all the others. -/
  | released
  deriving DecidableEq, Repr, Inhabited

namespace Outcome

def isSerial : Outcome → Bool
  | serial => true
  | released => false

/-- The number that the POSIX function returns for an outcome. -/
def raw : Outcome → Int
  | serial => -1
  | released => 0

def name : Outcome → String
  | serial => "Serial"
  | released => "Released"

end Outcome

/-- Which of the two gates a generation uses. -/
inductive Side where
  | even
  | odd
  deriving DecidableEq, Repr, Inhabited

namespace Side

def ofGeneration (g : UInt64) : Side := if g % 2 = 0 then even else odd

def other : Side → Side
  | even => odd
  | odd => even

def index : Side → Nat
  | even => 0
  | odd => 1

end Side

structure Barrier where
  /-- How many threads make up a generation. -/
  parties : UInt32
  /-- Built for use across processes. -/
  shared : Bool := false
  /-- Somebody holds the lock that guards the count. -/
  locked : Bool := false
  /-- Arrivals that the current generation still needs. -/
  missing : UInt32
  /-- Generations completed so far; after the largest number it starts over at zero. -/
  generation : UInt64 := 0
  evenGate : Semaphore
  oddGate : Semaphore
  deriving DecidableEq, Repr, Inhabited

namespace Barrier

/-- A barrier as it comes out of construction. -/
def fresh (parties : UInt32) (shared : Bool) (evenGate oddGate : Semaphore) : Barrier :=
  { parties, shared, missing := parties, evenGate, oddGate }

def gate (b : Barrier) : Side → Semaphore
  | .even => b.evenGate
  | .odd => b.oddGate

def setGate (b : Barrier) (side : Side) (s : Semaphore) : Barrier :=
  match side with
  | .even => { b with evenGate := s }
  | .odd => { b with oddGate := s }

def lock (b : Barrier) : Barrier := { b with locked := true }
def unlock (b : Barrier) : Barrier := { b with locked := false }

/-- Counts one arrival in. -/
def countIn (b : Barrier) : Barrier := { b with missing := b.missing - 1 }

/-- Takes one arrival of the current generation back. -/
def countOut (b : Barrier) : Barrier := { b with missing := b.missing + 1 }

/-- Ends the current generation and begins the next. -/
def trip (b : Barrier) : Barrier :=
  { b with missing := b.parties, generation := b.generation + 1 }

/-- Arrivals of the current generation. -/
def waiting (b : Barrier) : UInt32 := b.parties - b.missing

/-- Units at the two gates that nobody has taken yet. -/
def units (b : Barrier) : List UInt32 := [b.evenGate.value, b.oddGate.value]

def inspect (b : Barrier) : String :=
  "Barrier \x7b parties: " ++ toString b.parties.toNat ++ ", shared: " ++ toString b.shared ++
    ", .. \x7d"

@[simp] theorem gate_setGate_self (b : Barrier) (side : Side) (s : Semaphore) :
    (b.setGate side s).gate side = s := by cases side <;> rfl

@[simp] theorem setGate_gate (b : Barrier) (side : Side) : b.setGate side (b.gate side) = b := by
  cases side <;> rfl

@[simp] theorem parties_setGate (b : Barrier) (side : Side) (s : Semaphore) :
    (b.setGate side s).parties = b.parties := by cases side <;> rfl

@[simp] theorem missing_setGate (b : Barrier) (side : Side) (s : Semaphore) :
    (b.setGate side s).missing = b.missing := by cases side <;> rfl

@[simp] theorem locked_setGate (b : Barrier) (side : Side) (s : Semaphore) :
    (b.setGate side s).locked = b.locked := by cases side <;> rfl

@[simp] theorem generation_setGate (b : Barrier) (side : Side) (s : Semaphore) :
    (b.setGate side s).generation = b.generation := by cases side <;> rfl

@[simp] theorem gate_lock (b : Barrier) (side : Side) : b.lock.gate side = b.gate side := by
  cases side <;> rfl

@[simp] theorem gate_unlock (b : Barrier) (side : Side) : b.unlock.gate side = b.gate side := by
  cases side <;> rfl

@[simp] theorem gate_countIn (b : Barrier) (side : Side) : b.countIn.gate side = b.gate side := by
  cases side <;> rfl

@[simp] theorem gate_countOut (b : Barrier) (side : Side) :
    b.countOut.gate side = b.gate side := by cases side <;> rfl

@[simp] theorem gate_trip (b : Barrier) (side : Side) : b.trip.gate side = b.gate side := by
  cases side <;> rfl

theorem gate_setGate_of_ne (b : Barrier) {side side' : Side} (s : Semaphore) (h : side' ≠ side) :
    (b.setGate side s).gate side' = b.gate side' := by
  cases side <;> cases side' <;> first | rfl | exact absurd rfl h

end Barrier

/-- Consecutive generations use different gates, also across the wrap-around. -/
theorem Side.ofGeneration_add_one (g : UInt64) :
    Side.ofGeneration (g + 1) = (Side.ofGeneration g).other := by
  have wrap : ((g.toNat + 1) % 2 ^ 64) % 2 = (g.toNat + 1) % 2 :=
    Nat.mod_mod_of_dvd _ (by decide)
  have even_iff : ∀ h : UInt64, h % 2 = 0 ↔ h.toNat % 2 = 0 := by
    intro h
    rw [← UInt64.toNat_inj, UInt64.toNat_mod]
    rfl
  unfold Side.ofGeneration
  simp only [even_iff, UInt64.toNat_add, UInt64.toNat_one, wrap]
  rcases Nat.mod_two_eq_zero_or_one g.toNat with h | h
  · rw [if_neg (by omega), if_pos h]; rfl
  · rw [if_pos (by omega), if_neg (by omega)]; rfl

end Rendezvous
