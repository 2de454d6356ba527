/-!
# Schedules

A system of numbered threads is given by a function that performs one step of one thread, or says
that this thread cannot move. Which thread moves when is a schedule. Whatever is to hold of a system
has to hold of all states that some schedule reaches (`Reaches`), and what every single step keeps
does (`Reaches.keeps`).

A system may have other moves than the steps of its threads; then a schedule is a list of these
moves, and the function performs one of them. `run` makes the moves of a list.

To run a system of threads one schedule is enough. `settle` takes the threads in turn, lets each go
on as long as it can, and stops when none moves any more. It reaches only what schedules reach
(`reaches_settle`).
-/

set_option autoImplicit false

namespace Rendezvous.Schedule

variable {σ ι : Type}

/-- The state `t` comes about from the state `s` by any moves in any order. -/
inductive Reaches (step : σ → ι → Option σ) : σ → σ → Prop where
  | refl (s : σ) : Reaches step s s
  | tail {s t u : σ} (i : ι) : Reaches step s t → step t i = some u → Reaches step s u

/-- No move can be made. -/
def AtRest (step : σ → ι → Option σ) (s : σ) : Prop := ∀ i, step s i = none

/-- Makes the moves of a list, one after the other; `none` if one of them cannot be made. -/
def run (step : σ → ι → Option σ) : σ → List ι → Option σ
  | s, [] => some s
  | s, i :: rest => (step s i).bind fun t => run step t rest

theorem Reaches.trans {step : σ → ι → Option σ} {s t u : σ} (h : Reaches step s t)
    (h' : Reaches step t u) : Reaches step s u := by
  induction h' with
  | refl => exact h
  | tail i _ move ih => exact ih.tail i move

theorem Reaches.single {step : σ → ι → Option σ} {s t : σ} {i : ι} (h : step s i = some t) :
    Reaches step s t := (Reaches.refl s).tail i h

/-- What every step keeps holds of all states that are reached from one of which it holds. -/
theorem Reaches.keeps {step : σ → ι → Option σ} {P : σ → Prop}
    (kept : ∀ {s t : σ} {i : ι}, P s → step s i = some t → P t) {s t : σ}
    (h : Reaches step s t) (hs : P s) : P t := by
  induction h with
  | refl => exact hs
  | tail _ _ move ih => exact kept ih move

theorem reaches_run {step : σ → ι → Option σ} {t : σ} :
    ∀ {moves : List ι} {s : σ}, run step s moves = some t → Reaches step s t
  | [], s, h => by
    obtain rfl := Option.some.inj h
    exact .refl s
  | i :: rest, s, h => by
    obtain ⟨u, move, more⟩ := Option.bind_eq_some_iff.mp h
    exact (Reaches.single move).trans (reaches_run more)

theorem reaches_get {step : σ → ι → Option σ} {s : σ} {moves : List ι}
    (h : (run step s moves).isSome) : Reaches step s ((run step s moves).get h) :=
  reaches_run (Option.some_get h).symm

/-- Lets a thread go on until it cannot, at most so many steps. -/
def exhaust (step : σ → Nat → Option σ) (i : Nat) : Nat → σ → σ
  | 0, s => s
  | fuel + 1, s =>
      match step s i with
      | some s => exhaust step i fuel s
      | none => s

/-- Gives each of the threads a turn of at most so many steps, and says whether any moved. -/
def sweep (step : σ → Nat → Option σ) (turn : Nat) : List Nat → σ → σ × Bool
  | [], s => (s, false)
  | i :: rest, s =>
      match step s i with
      | some s => ((sweep step turn rest (exhaust step i turn s)).1, true)
      | none => sweep step turn rest s

/-- Gives the threads turns until none moves, at most so many times. -/
def settle (step : σ → Nat → Option σ) (threads : List Nat) (turn : Nat) : Nat → σ → σ
  | 0, s => s
  | rounds + 1, s =>
      match sweep step turn threads s with
      | (s, true) => settle step threads turn rounds s
      | (s, false) => s

theorem reaches_exhaust (step : σ → Nat → Option σ) (i : Nat) :
    ∀ (fuel : Nat) (s : σ), Reaches step s (exhaust step i fuel s)
  | 0, s => .refl s
  | fuel + 1, s => by
    unfold exhaust
    split
    · next move => exact (Reaches.single move).trans (reaches_exhaust step i fuel _)
    · exact .refl s

theorem reaches_sweep (step : σ → Nat → Option σ) (turn : Nat) :
    ∀ (threads : List Nat) (s : σ), Reaches step s (sweep step turn threads s).1
  | [], s => .refl s
  | i :: rest, s => by
    unfold sweep
    split
    · next move =>
      exact ((Reaches.single move).trans (reaches_exhaust step i turn _)).trans
        (reaches_sweep step turn rest _)
    · exact reaches_sweep step turn rest s

theorem reaches_settle (step : σ → Nat → Option σ) (threads : List Nat) (turn : Nat) :
    ∀ (rounds : Nat) (s : σ), Reaches step s (settle step threads turn rounds s)
  | 0, s => .refl s
  | rounds + 1, s => by
    have swept := reaches_sweep step turn threads s
    unfold settle
    split
    · next found =>
      rw [found] at swept
      exact swept.trans (reaches_settle step threads turn rounds _)
    · next found =>
      rw [found] at swept
      exact swept

end Rendezvous.Schedule
