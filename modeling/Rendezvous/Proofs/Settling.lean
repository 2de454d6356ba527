import Mathlib.Algebra.Group.Action.Defs
import Mathlib.Algebra.Order.BigOperators.Group.List
import Mathlib.Algebra.Order.Ring.Nat
import Rendezvous.Schedule

/-!
# Settling

Threads that take turns until none moves any more do come to rest, if each of them can be given a
pace: a number with a bound that rises with every step of the thread, and that the steps of others
leave alone as long as the thread is at rest (`Paced`). This asks for less than a number that rises
with every step of the whole system. A thread that has been woken for something may be thrown back
because another comes first, but not if it goes on at once.

So a turn ends because the thread cannot go on, and not because it has used up its fuel
(`Paced.exhaust`). A sweep in which anybody moves adds to the sum of the paces (`Paced.sweep`), and
there are no more such sweeps than the bound allows (`Paced.settle`).
-/

set_option autoImplicit false

namespace Rendezvous.Schedule

variable {σ : Type} {step : σ → Nat → Option σ} {inv : σ → Prop} {resting : σ → Nat → Prop}
  {pace : σ → Nat → Nat} {bound : Nat}

/-- The pace of a thread rises with its own steps, within a bound, and stays as it is while the
thread is at rest. -/
structure Paced (step : σ → Nat → Option σ) (inv : σ → Prop) (resting : σ → Nat → Prop)
    (pace : σ → Nat → Nat) (bound : Nat) : Prop where
  kept : ∀ {s t i}, inv s → step s i = some t → inv t
  rises : ∀ {s t i}, inv s → step s i = some t → pace s i < pace t i
  bounded : ∀ {s} i, inv s → pace s i ≤ bound
  rests : ∀ {s i}, inv s → step s i = none → resting s i
  stays : ∀ {s t i j}, inv s → step s i = some t → j ≠ i → resting s j →
    resting t j ∧ pace t j = pace s j

/-- What a turn of thread `i` leads to. -/
structure Spent (step : σ → Nat → Option σ) (inv : σ → Prop) (resting : σ → Nat → Prop)
    (pace : σ → Nat → Nat) (i : Nat) (s t : σ) : Prop where
  kept : inv t
  stuck : step t i = none
  own : pace s i ≤ pace t i
  others : ∀ j, j ≠ i → resting s j → resting t j ∧ pace t j = pace s j

theorem Paced.exhaust (h : Paced step inv resting pace bound) (i : Nat) {fuel : Nat} {s : σ}
    (here : inv s) (enough : bound < pace s i + fuel) :
    Spent step inv resting pace i s (exhaust step i fuel s) := by
  induction fuel generalizing s with
  | zero => exact absurd (h.bounded i here) (Nat.not_le.mpr enough)
  | succ fuel ih =>
    unfold Schedule.exhaust
    split
    · next t move =>
      have rises := h.rises here move
      have later := ih (h.kept here move) (by omega)
      refine ⟨later.kept, later.stuck, Nat.le_trans (Nat.le_of_lt rises) later.own, ?_⟩
      intro j other rests
      obtain ⟨rests', same⟩ := h.stays here move other rests
      obtain ⟨rests'', same'⟩ := later.others j other rests'
      exact ⟨rests'', same'.trans same⟩
    · next stuck => exact ⟨here, stuck, Nat.le_refl _, fun _ _ rests => ⟨rests, rfl⟩⟩

/-- What a sweep of some threads leads to, and whether anybody has moved. -/
structure Swept (step : σ → Nat → Option σ) (inv : σ → Prop) (resting : σ → Nat → Prop)
    (pace : σ → Nat → Nat) (threads : List Nat) (s t : σ) (moved : Bool) : Prop where
  kept : inv t
  resting : ∀ j, resting t j
  le : ∀ j, pace s j ≤ pace t j
  rises : moved = true → ∃ j ∈ threads, pace s j < pace t j
  still : moved = false → t = s ∧ ∀ j ∈ threads, step s j = none

theorem Paced.sweep (h : Paced step inv resting pace bound) {turn : Nat} (long : bound ≤ turn)
    (threads : List Nat) {s : σ} (here : inv s) (rests : ∀ j, resting s j) :
    Swept step inv resting pace threads s (sweep step turn threads s).1
      (sweep step turn threads s).2 := by
  induction threads generalizing s with
  | nil =>
    refine ⟨here, rests, fun _ => Nat.le_refl _, nofun, fun _ => ⟨rfl, ?_⟩⟩
    intro j mem
    exact absurd mem List.not_mem_nil
  | cons i rest ih =>
    unfold Schedule.sweep
    split
    · next t move =>
      have rises := h.rises here move
      have enough : bound < pace t i + turn := by omega
      have spent := h.exhaust i (h.kept here move) enough
      have stays (j : Nat) (other : j ≠ i) : resting (Schedule.exhaust step i turn t) j ∧
          pace (Schedule.exhaust step i turn t) j = pace s j := by
        obtain ⟨rests, same⟩ := h.stays here move other (rests j)
        obtain ⟨rests', same'⟩ := spent.others j other rests
        exact ⟨rests', same'.trans same⟩
      have own : pace s i < pace (Schedule.exhaust step i turn t) i :=
        Nat.lt_of_lt_of_le rises spent.own
      have later := ih spent.kept fun j => by
        by_cases other : j = i
        · subst other
          exact h.rests spent.kept spent.stuck
        · exact (stays j other).1
      refine ⟨later.kept, later.resting, ?_, ?_, nofun⟩
      · intro j
        by_cases other : j = i
        · subst other
          exact Nat.le_trans (Nat.le_of_lt own) (later.le j)
        · rw [← (stays j other).2]
          exact later.le j
      · intro _
        exact ⟨i, List.mem_cons_self, Nat.lt_of_lt_of_le own (later.le i)⟩
    · next stuck =>
      have later := ih here rests
      refine ⟨later.kept, later.resting, later.le, ?_, ?_⟩
      · intro moved
        obtain ⟨j, hj, less⟩ := later.rises moved
        exact ⟨j, List.mem_cons_of_mem i hj, less⟩
      · intro nobody
        obtain ⟨same, still⟩ := later.still nobody
        refine ⟨same, ?_⟩
        intro j hj
        rcases List.mem_cons.mp hj with rfl | hj
        · exact stuck
        · exact still j hj

/-- With fuel for as many sweeps as there can be steps, all threads come to rest. -/
theorem Paced.settle (h : Paced step inv resting pace bound) {turn : Nat} (long : bound ≤ turn)
    (threads : List Nat) {rounds : Nat} {s : σ} (here : inv s) (rests : ∀ j, resting s j)
    (enough : threads.length * bound < (threads.map (pace s)).sum + rounds) :
    ∀ j ∈ threads, step (Schedule.settle step threads turn rounds s) j = none := by
  induction rounds generalizing s with
  | zero =>
    have le := List.sum_le_card_nsmul (threads.map (pace s)) bound (by
      intro n hn
      obtain ⟨j, -, rfl⟩ := List.mem_map.mp hn
      exact h.bounded j here)
    rw [List.length_map, smul_eq_mul] at le
    exact absurd le (Nat.not_le.mpr enough)
  | succ rounds ih =>
    have swept := h.sweep long threads here rests
    unfold Schedule.settle
    split
    · next t found =>
      rw [found] at swept
      have more : (threads.map (pace s)).sum < (threads.map (pace t)).sum :=
        List.sum_lt_sum _ _ (fun j _ => swept.le j) (swept.rises rfl)
      apply ih (s := t) swept.kept swept.resting
      omega
    · next t found =>
      rw [found] at swept
      obtain ⟨rfl, still⟩ := swept.still rfl
      exact still

end Rendezvous.Schedule
