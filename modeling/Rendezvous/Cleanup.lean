/-!
# Cleanup routines

A thread may register routines that have to run if the code it is in is left early. They form a
stack, newest first. A routine leaves the stack in one of four ways: it is popped and run, popped
and forgotten, dropped (which runs it), or swept up by an unwinding that runs everything still
registered, newest first.

`Cleanup.step` says for each of these what runs, in order, and what stays registered. A routine
that runs leaves the stack in the same step, which is why none runs twice.
-/

set_option autoImplicit false

namespace Rendezvous.Cleanup

/-- What a thread does with its cleanup routines. -/
inductive Action (ρ : Type) where
  | push (routine : ρ)
  | pop (execute : Bool)
  | drop
  | unwind
  deriving Repr

/-- What one action ran, in order, and the routines still registered after it, newest first. -/
structure Effect (ρ : Type) where
  ran : List ρ
  rest : List ρ
  deriving Repr

/-- Popping or dropping needs a routine to be there; the answer is `none` if there is none. -/
def step {ρ : Type} (stack : List ρ) : Action ρ → Option (Effect ρ)
  | .push routine => some ⟨[], routine :: stack⟩
  | .pop execute =>
      match stack with
      | [] => none
      | newest :: rest => some ⟨if execute then [newest] else [], rest⟩
  | .drop =>
      match stack with
      | [] => none
      | newest :: rest => some ⟨[newest], rest⟩
  | .unwind => some ⟨stack, []⟩

/-- Dropping and unwinding announce each routine they run; popping does so silently. -/
def Action.announces {ρ : Type} : Action ρ → Bool
  | .drop | .unwind => true
  | .push _ | .pop _ => false

end Rendezvous.Cleanup
