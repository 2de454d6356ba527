import Rendezvous.Cancellation
import Rendezvous.Tuning

/-!
# Counting semaphores

A semaphore holds a number of units, never more than `Semaphore.maxValue`. Posting adds units in
bulk and refuses to go past the maximum. Waiting takes one unit, and blocks while there is none.

Waiting is a cancellation point, and a wait is therefore a sequence of `Wait` stages rather than
one action. Under the usual rule the thread looks for a request before it looks for a unit, and
again each time it wakes; a wait that finds both a unit and a pending request fails and leaves the
unit where it is. Under the other rule a blocked thread is deaf, and only after it has taken a unit
does it look for a request; if there is one it puts the unit back and fails.

`Wait.step` performs one stage for the thread whose settings it is given. A parked thread can move
when there is a unit, or when it has a request it may act on; otherwise the step is `none`.

How a sleeper is woken is folded into this rule. A post notifies sleepers, and each of them also
wakes by itself after every `poll` to look for requests, which nobody notifies it of; so one that has
something to find will be awake to find it, notified or not. A wake-up that finds neither a unit nor
a request leads back to sleep with everything as it was, and is no move. The length of a sleep is
therefore no part of a wait: `poll` is fixed when a semaphore is made, and no stage reads it.
-/

set_option autoImplicit false

namespace Rendezvous

/-- When a wait notices that its thread has been asked to stop. -/
inductive CancelRule where
  /-- At the start and whenever it wakes. -/
  | whileBlocked
  /-- Only once a unit has been taken. -/
  | onTaking
  deriving DecidableEq, Repr, Inhabited

structure Semaphore where
  value : UInt32
  /-- Made for use across processes. -/
  shared : Bool := false
  /-- How often a blocked waiter looks for requests; fixed when the semaphore is made. -/
  poll : Duration := Tuning.standard.pollInterval
  rule : CancelRule := .whileBlocked
  deriving DecidableEq, Repr, Inhabited

namespace Semaphore

def maxValue : UInt32 := 2147483647

/-- Makes a semaphore. `supported` says whether this build can share it between processes. -/
def create (initial : UInt32) (shared supported : Bool) (poll : Duration) (rule : CancelRule) :
    Except PrimitiveError Semaphore :=
  if shared && !supported then .error (.notSupported "process-shared semaphores")
  else if maxValue < initial then .error (.overflow 0 initial maxValue)
  else .ok { value := initial, shared, poll, rule }

/-- Adds `count` units at once, or none of them if they would not all fit. -/
def post (s : Semaphore) (count : UInt32) : Except PrimitiveError Semaphore :=
  if s.value.toNat + count.toNat ≤ maxValue.toNat ∨ count = 0 then
    .ok { s with value := s.value + count }
  else .error (.overflow s.value count maxValue)

/-! ## Waiting -/

/-- Where a wait stands. -/
inductive Wait where
  /-- About to look for a request to act on. -/
  | test
  /-- About to take a unit if there is one. -/
  | take
  /-- Blocked, and woken by a unit or a request. -/
  | parked
  /-- Under the deaf rule: about to stop listening. -/
  | muffle
  /-- Deaf: about to take a unit if there is one. -/
  | deafTake (shield : Shield)
  /-- Deaf and blocked, woken by a unit only. -/
  | deafParked (shield : Shield)
  /-- Listening again, with a unit in hand. -/
  | taken
  | finished (result : Except PrimitiveError Unit)
  deriving Repr

/-- A wait on a semaphore of the given rule begins here. -/
def Wait.start : CancelRule → Wait
  | .whileBlocked => .test
  | .onTaking => .muffle

/-- One stage of a wait by a thread with settings `c`; `none` if the thread is blocked or done. -/
def Wait.step (s : Semaphore) (c : Cancellation) :
    Wait → Option (Semaphore × Cancellation × Wait)
  | .test => some (s, c, if c.pending then .finished (.error .canceled) else .take)
  | .take =>
      if 0 < s.value then some ({ s with value := s.value - 1 }, c, .finished (.ok ()))
      else some (s, c, .parked)
  | .parked => if 0 < s.value ∨ c.pending = true then some (s, c, .test) else none
  | .muffle => some (s, c.shield.2, .deafTake c.shield.1)
  | .deafTake shield =>
      if 0 < s.value then
        some ({ s with value := s.value - 1 }, c.unshield shield, .taken)
      else some (s, c, .deafParked shield)
  | .deafParked shield => if 0 < s.value then some (s, c, .deafTake shield) else none
  | .taken =>
      if c.pending then
        some ({ s with value := s.value + 1 }, c, .finished (.error .canceled))
      else some (s, c, .finished (.ok ()))
  | .finished _ => none

/-- The thread is asleep in the semaphore, awaiting a unit. -/
def Wait.isParked : Wait → Bool
  | .parked | .deafParked _ => true
  | _ => false

/-! ## What posting does to the value -/

theorem post_toNat {s t : Semaphore} {count : UInt32} (h : s.post count = .ok t) :
    t.value.toNat = s.value.toNat + count.toNat := by
  have hmax : maxValue.toNat = 2147483647 := rfl
  unfold post at h
  split at h
  · next fits =>
    obtain rfl := Except.ok.inj h
    show (s.value + count).toNat = _
    rcases fits with fits | rfl
    · rw [UInt32.toNat_add]
      omega
    · simp
  · cases h

/-- Units beyond the largest value are refused. -/
theorem post_le {s t : Semaphore} {count : UInt32} (h : s.post count = .ok t)
    (hs : s.value.toNat ≤ maxValue.toNat) : t.value.toNat ≤ maxValue.toNat := by
  have value := post_toNat h
  unfold post at h
  split at h
  · next fits =>
    rw [value]
    rcases fits with fits | rfl
    · exact fits
    · exact hs
  · cases h

theorem post_rule {s t : Semaphore} {count : UInt32} (h : s.post count = .ok t) :
    t.rule = s.rule := by
  unfold post at h
  split at h
  · injection h with h
    subst h
    rfl
  · simp at h

end Semaphore

end Rendezvous
