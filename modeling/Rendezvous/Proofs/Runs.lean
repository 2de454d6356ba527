import Mathlib.Data.List.Induction
import Rendezvous.Schedule

/-!
# Runs, move by move

A run is a list of moves, and what single moves do can be counted along it. `tally` is told the
state before a move, the move and the state after, and looks at nothing else; so it can be asked
what has happened, whatever a state remembers. What moves tell is gathered in the same way. What is
shown of all runs is shown by adding one more move at the end (`run_induction`).
-/

set_option autoImplicit false

namespace Rendezvous

namespace Schedule

variable {σ ι : Type} {step : σ → ι → Option σ}

/-- How many moves of a list are of a kind. Behind a move that cannot be made nothing counts. -/
def tally (step : σ → ι → Option σ) (kind : σ → ι → σ → Bool) : σ → List ι → Nat
  | _, [] => 0
  | s, i :: rest =>
      match step s i with
      | some t => (kind s i t).toNat + tally step kind t rest
      | none => 0

theorem run_append (moves more : List ι) (s : σ) :
    run step s (moves ++ more) = (run step s moves).bind fun t => run step t more := by
  induction moves generalizing s with
  | nil => rfl
  | cons i rest ih =>
    show (step s i).bind _ = ((step s i).bind _).bind _
    rw [Option.bind_assoc]
    exact Option.bind_congr fun t _ => ih t

theorem run_cons {i : ι} {moves : List ι} {s t u : σ} (move : step s i = some t)
    (more : run step t moves = some u) : run step s (i :: moves) = some u := by
  rw [run, move, Option.bind_some, more]

theorem run_trans {moves more : List ι} {s t u : σ} (h : run step s moves = some t)
    (h' : run step t more = some u) : run step s (moves ++ more) = some u := by
  rw [run_append, h, Option.bind_some, h']

theorem tally_append {kind : σ → ι → σ → Bool} {moves more : List ι} {s t : σ}
    (h : run step s moves = some t) :
    tally step kind s (moves ++ more) = tally step kind s moves + tally step kind t more := by
  induction moves generalizing s with
  | nil =>
    obtain rfl := Option.some.inj h
    simp [tally]
  | cons i rest ih =>
    obtain ⟨u, move, h⟩ := Option.bind_eq_some_iff.mp h
    simp only [List.cons_append, tally, move, ih h, Nat.add_assoc]

theorem tally_concat {kind : σ → ι → σ → Bool} {moves : List ι} {i : ι} {s t u : σ}
    (h : run step s moves = some t) (move : step t i = some u) :
    tally step kind s (moves ++ [i]) = tally step kind s moves + (kind t i u).toNat := by
  rw [tally_append h]
  simp [tally, move]

theorem run_concat {moves : List ι} {i : ι} {s u : σ} (h : run step s (moves ++ [i]) = some u) :
    ∃ t, run step s moves = some t ∧ step t i = some u := by
  rw [run_append] at h
  obtain ⟨t, reach, last⟩ := Option.bind_eq_some_iff.mp h
  refine ⟨t, reach, ?_⟩
  obtain ⟨_, move, same⟩ := Option.bind_eq_some_iff.mp last
  obtain rfl := Option.some.inj same
  exact move

/-- What holds before the first move and is kept by one more move holds after all of them. -/
theorem run_induction {s : σ} {P : List ι → σ → Prop} (start : P [] s)
    (more : ∀ {moves : List ι} {i : ι} {t u : σ}, run step s moves = some t →
      step t i = some u → P moves t → P (moves ++ [i]) u)
    {moves : List ι} {t : σ} (h : run step s moves = some t) : P moves t := by
  induction moves using List.reverseRec generalizing t with
  | nil =>
    obtain rfl := Option.some.inj h
    exact start
  | append_singleton moves i ih =>
    obtain ⟨u, reach, move⟩ := run_concat h
    exact more reach move (ih reach)

/-- What the moves of a list tell, one after the other. Behind a move that cannot be made there is
nothing to tell. -/
def gather {α : Type} (step : σ → ι → Option σ) (tells : σ → ι → List α) : σ → List ι → List α
  | _, [] => []
  | s, i :: rest =>
      match step s i with
      | some t => tells s i ++ gather step tells t rest
      | none => []

theorem gather_concat {α : Type} {tells : σ → ι → List α} {moves : List ι} {i : ι} {s t u : σ}
    (h : run step s moves = some t) (move : step t i = some u) :
    gather step tells s (moves ++ [i]) = gather step tells s moves ++ tells t i := by
  induction moves generalizing s with
  | nil =>
    obtain rfl := Option.some.inj h
    simp [gather, move]
  | cons j rest ih =>
    obtain ⟨v, first, h⟩ := Option.bind_eq_some_iff.mp h
    simp only [List.cons_append, gather, first, ih h, List.append_assoc]

/-- Somewhere on the run a move does this. -/
def Passes (step : σ → ι → Option σ) (s : σ) (moves : List ι) (P : σ → ι → σ → Prop) : Prop :=
  ∃ early i late t u, moves = early ++ i :: late ∧ run step s early = some t ∧
    step t i = some u ∧ P t i u

theorem Passes.concat {s : σ} {moves : List ι} {P : σ → ι → σ → Prop}
    (passes : Passes step s moves P) (i : ι) : Passes step s (moves ++ [i]) P := by
  obtain ⟨early, j, late, t, u, rfl, reach, move, done⟩ := passes
  exact ⟨early, j, late ++ [i], t, u, by simp, reach, move, done⟩

theorem Passes.last {s t u : σ} {moves : List ι} {i : ι} {P : σ → ι → σ → Prop}
    (reach : run step s moves = some t) (move : step t i = some u) (done : P t i u) :
    Passes step s (moves ++ [i]) P :=
  ⟨moves, i, [], t, u, rfl, reach, move, done⟩

/-- What has happened on a run has happened before its last move, or is what that move did. -/
theorem Passes.of_concat {s t u : σ} {moves : List ι} {i : ι} {P : σ → ι → σ → Prop}
    (passes : Passes step s (moves ++ [i]) P) (reach : run step s moves = some t)
    (move : step t i = some u) : Passes step s moves P ∨ P t i u := by
  obtain ⟨early, j, late, t', u', split, reach', move', done⟩ := passes
  rcases List.eq_nil_or_concat late with rfl | ⟨late, k, rfl⟩
  · obtain ⟨rfl, same⟩ := List.append_inj' split rfl
    obtain rfl := List.singleton_inj.mp same
    obtain rfl := Option.some.inj (reach.symm.trans reach')
    obtain rfl := Option.some.inj (move.symm.trans move')
    exact .inr done
  · rw [List.concat_eq_append, ← List.cons_append, ← List.append_assoc] at split
    obtain ⟨rfl, -⟩ := List.append_inj' split rfl
    exact .inl ⟨early, j, late, t', u', rfl, reach', move', done⟩

end Schedule

end Rendezvous
