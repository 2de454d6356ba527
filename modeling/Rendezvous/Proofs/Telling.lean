import Rendezvous.Schedule

/-!
# What runs tell

A move may tell something to whoever watches the system from outside, and what a run has told is what
its moves have told, one after the other (`Tells`). Two systems are the same for whoever watches if
what the runs of the one tell is told by runs of the other. It is enough that every single move of
the one is matched by moves of the other that tell the same (`Tells.matched`), none at all or many.
-/

set_option autoImplicit false

namespace Rendezvous.Schedule

variable {σ τ ι κ α : Type} {step : σ → ι → Option σ} {tells : σ → ι → List α}
  {step' : τ → κ → Option τ} {tells' : τ → κ → List α}

/-- Moves lead from the state `s` to the state `t` and tell this. -/
inductive Tells (step : σ → ι → Option σ) (tells : σ → ι → List α) : σ → List α → σ → Prop where
  | nil (s : σ) : Tells step tells s [] s
  | snoc {s t u : σ} {told : List α} (i : ι) : Tells step tells s told t → step t i = some u →
      Tells step tells s (told ++ tells t i) u

namespace Tells

variable {s t u : σ} {told more : List α}

/-- A single move. -/
theorem of_move {i : ι} (move : step s i = some t) (told : tells s i = more) :
    Tells step tells s more t :=
  told ▸ .snoc i (.nil s) move

theorem trans (first : Tells step tells s told t) (later : Tells step tells t more u) :
    Tells step tells s (told ++ more) u := by
  induction later with
  | nil => simpa using first
  | snoc i _ move ih =>
    rw [← List.append_assoc]
    exact .snoc i ih move

/-- If every move is matched by moves of another system that tell the same, so is every run. -/
theorem matched {R : σ → τ → Prop}
    (matching : ∀ {s s' : σ} {x : τ} {i : ι}, R s x → step s i = some s' →
      ∃ x', Tells step' tells' x (tells s i) x' ∧ R s' x')
    (h : Tells step tells s told t) {x : τ} (related : R s x) :
    ∃ x', Tells step' tells' x told x' ∧ R t x' := by
  induction h with
  | nil => exact ⟨x, .nil x, related⟩
  | snoc i _ move ih =>
    obtain ⟨y, before, related⟩ := ih
    obtain ⟨z, after, related⟩ := matching related move
    exact ⟨z, before.trans after, related⟩

end Tells

end Rendezvous.Schedule
