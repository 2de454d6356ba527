import Rendezvous.Error

/-!
# Cancellation of a thread

Every thread carries a `Cancellation`: how eagerly it acts on requests (its type), whether it acts
on them at all (its state), and whether somebody has asked it to stop. A request is sticky. Acting
on it means failing with `PrimitiveError.canceled` at a cancellation point, and the request stays
in place, so every later point fails the same way while the state is enabled.

A `Shield` switches the state off for a stretch of code and puts back what it found. There are two
kinds: an unconditional one, and one that only a thread of deferred type takes up. The second kind
is what makes a blocking wait safe from deferred cancellation and open to asynchronous
cancellation.

## What a shield promises

Closing a shield restores exactly the state that was there when it was opened, whatever happened in
between, and closing one that never took effect changes nothing. Neither opening nor closing touches
the type or the request. So a shield with nothing between its two ends leaves everything as it was
(`unshield_shield`, `unshield_shieldDeferred`).
-/

set_option autoImplicit false

namespace Rendezvous

/-- How eagerly a thread acts on a cancellation request. -/
inductive CancelType where
  /-- Only at cancellation points outside shielded code. -/
  | deferred
  /-- At any cancellation point, also inside shields meant for deferred threads. -/
  | asynchronous
  deriving DecidableEq, Repr, Inhabited

/-- Whether a thread acts on cancellation requests at all. -/
inductive CancelState where
  | enabled
  | disabled
  deriving DecidableEq, Repr, Inhabited

/-- One thread's attitude to cancellation, and whether it has been asked to stop. -/
structure Cancellation where
  type : CancelType := .deferred
  state : CancelState := .enabled
  requested : Bool := false
  deriving DecidableEq, Repr, Inhabited

namespace Cancellation

/-- A request is there and would be acted on right now. -/
def pending (c : Cancellation) : Bool := c.state = .enabled && c.requested

/-- A cancellation point. -/
def test (c : Cancellation) : Except PrimitiveError Unit :=
  if c.pending then .error .canceled else .ok ()

/-- Somebody asks the thread to stop. -/
def request (c : Cancellation) : Cancellation := { c with requested := true }

def setType (c : Cancellation) (type : CancelType) : Cancellation := { c with type }

def setState (c : Cancellation) (state : CancelState) : Cancellation := { c with state }

end Cancellation

/-! ## Shields -/

/-- A stretch of code during which cancellation is switched off; it remembers the state to put
back, or nothing if it took no effect. -/
structure Shield where
  restores : Option CancelState
  deriving DecidableEq, Repr, Inhabited

namespace Shield

def takesEffect (s : Shield) : Bool := s.restores.isSome

end Shield

namespace Cancellation

/-- Opens a shield that always takes effect. -/
def shield (c : Cancellation) : Shield × Cancellation :=
  (⟨some c.state⟩, c.setState .disabled)

/-- Opens a shield that takes effect for a thread of deferred type only. -/
def shieldDeferred (c : Cancellation) : Shield × Cancellation :=
  match c.type with
  | .deferred => c.shield
  | .asynchronous => (⟨none⟩, c)

/-- Closes a shield. -/
def unshield (c : Cancellation) (s : Shield) : Cancellation :=
  match s.restores with
  | some state => c.setState state
  | none => c

theorem test_eq_error_iff {c : Cancellation} {e : PrimitiveError} :
    c.test = .error e ↔ c.pending = true ∧ e = .canceled := by
  cases h : c.pending <;> simp [test, h, eq_comm (a := e)]

@[simp] theorem unshield_shield (c : Cancellation) : c.shield.2.unshield c.shield.1 = c := rfl

@[simp] theorem unshield_shieldDeferred (c : Cancellation) :
    c.shieldDeferred.2.unshield c.shieldDeferred.1 = c := by
  unfold shieldDeferred
  split <;> rfl

end Cancellation

end Rendezvous
