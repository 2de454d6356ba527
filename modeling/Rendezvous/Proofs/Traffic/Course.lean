import Rendezvous.Proofs.Traffic.Lifecycle

/-!
# The course of one call

What one call has done from its beginning shows on the whole run: other calls have had turns in
between, and the arena is not what it was. `course_induction` goes along a run with one call in mind.
A call begins with nothing behind it; its own turn takes it from stage to stage; everybody else's
moves leave its stage as it is. `turnAt` picks out its turns at stages of one kind, to be counted by
`Schedule.tally`.
-/

set_option autoImplicit false

namespace Rendezvous

/-- What no move of a run does is not counted. -/
theorem Schedule.tally_eq_zero {σ ι : Type} {step : σ → ι → Option σ} {kind : σ → ι → σ → Bool}
    {moves : List ι} (never : ∀ i ∈ moves, ∀ s t, kind s i t = false) (s : σ) :
    Schedule.tally step kind s moves = 0 := by
  induction moves generalizing s with
  | nil => rfl
  | cons i rest ih =>
    unfold tally
    split
    · next t _ =>
      rw [never i List.mem_cons_self s t, ih fun j hj => never j (List.mem_cons_of_mem i hj)]
      rfl
    · rfl

namespace Traffic

open Barrier Handle

variable {mayFail : Ask → Bool} {s t : Traffic} {m : Move} {moves : List Move} {i : Nat} {v w : Job}
  {handles : List (Option UInt32)} {settings : Nat → Cancellation}

/-- The move is a turn that call `i` takes at a stage of this kind. -/
def turnAt (i : Nat) (kind : Operation → Bool) (s : Traffic) (m : Move) (_ : Traffic) : Bool :=
  decide (m.job? = some i) && (s.jobs[i]?).any fun v => kind v.stage

theorem turnAt_of_ne {kind : Operation → Bool} (other : m.job? ≠ some i) :
    turnAt i kind s m t = false := by
  simp [turnAt, other]

theorem turnAt_own {kind : Operation → Bool} {supply : Supply} {fault : Option PrimitiveError}
    (hv : s.jobs[i]? = some v) : turnAt i kind s (.go i supply fault) t = kind v.stage := by
  simp [turnAt, Move.job?, hv]

/-! ### Counting the turns of one call -/

variable {origin : Traffic}

theorem tally_turnAt_of_turnless {kind : Operation → Bool}
    (turnless : ∀ m ∈ moves, m.job? ≠ some i) (origin : Traffic) :
    Schedule.tally (step mayFail) (turnAt i kind) origin moves = 0 :=
  Schedule.tally_eq_zero (fun m hm _ _ => turnAt_of_ne (turnless m hm)) origin

theorem tally_turnAt_of_ne {kind : Operation → Bool}
    (reach : Schedule.run (step mayFail) origin moves = some s) (move : s.step mayFail m = some t)
    (other : m.job? ≠ some i) :
    Schedule.tally (step mayFail) (turnAt i kind) origin (moves ++ [m]) =
      Schedule.tally (step mayFail) (turnAt i kind) origin moves := by
  rw [Schedule.tally_concat reach move, turnAt_of_ne other]
  rfl

theorem tally_turnAt_own {kind : Operation → Bool} {supply : Supply} {fault : Option PrimitiveError}
    (reach : Schedule.run (step mayFail) origin moves = some s)
    (move : s.step mayFail (.go i supply fault) = some t) (hv : s.jobs[i]? = some v) :
    Schedule.tally (step mayFail) (turnAt i kind) origin (moves ++ [.go i supply fault]) =
      Schedule.tally (step mayFail) (turnAt i kind) origin moves + (kind v.stage).toNat := by
  rw [Schedule.tally_concat reach move, turnAt_own hv]

/-! ### From its beginning -/

/-- Before a call has begun it has had no turns. -/
theorem turnless_of_absent
    (run : Schedule.run (step mayFail) (start handles settings) moves = some s)
    (absent : s.jobs[i]? = none) : ∀ m ∈ moves, m.job? ≠ some i := by
  refine Schedule.run_induction (P := fun moves s => s.jobs[i]? = none → ∀ m ∈ moves,
    m.job? ≠ some i) (fun _ => nofun) ?_ run absent
  intro moves m t u reach move before absent k hk
  have earlier : t.jobs[i]? = none := by
    cases hv : t.jobs[i]? with
    | none => rfl
    | some v =>
      obtain ⟨w, hw, -⟩ := job_step move hv
      cases absent.symm.trans hw
  rcases List.mem_append.mp hk with old | last
  · exact before earlier k old
  · obtain rfl := List.mem_singleton.mp last
    intro own
    cases step_effect move with
    | begins => cases own
    | sets quiet => cases quiet.symm.trans own
    | goes hu =>
      obtain rfl := Option.some.inj own
      cases earlier.symm.trans hu

/-- What holds of a call as it begins, is kept by its own turns, and is not undone by other moves
holds of it after every run. -/
theorem course_induction {P : List Move → Traffic → Job → Prop}
    (born : ∀ {moves s v}, Schedule.run (step mayFail) (start handles settings) moves = some s →
      (∀ m ∈ moves, m.job? ≠ some i) → s.jobs[i]? = some v → v.stage = v.purpose.first → P moves s v)
    (other : ∀ {moves s m t v}, Schedule.run (step mayFail) (start handles settings) moves = some s →
      s.step mayFail m = some t → m.job? ≠ some i → s.jobs[i]? = some v → P moves s v →
        P (moves ++ [m]) t v)
    (own : ∀ {moves s supply fault v turn},
      Schedule.run (step mayFail) (start handles settings) moves = some s →
      s.step mayFail (.go i supply fault) = some (s.after i v turn) → s.jobs[i]? = some v →
      v.stage.step s.arena v.handle (s.settings v.thread) supply fault = some turn → P moves s v →
        P (moves ++ [.go i supply fault]) (s.after i v turn) (v.enter s.books turn.stage))
    (run : Schedule.run (step mayFail) (start handles settings) moves = some s)
    (hv : s.jobs[i]? = some v) : P moves s v := by
  refine Schedule.run_induction (P := fun moves s => ∀ v, s.jobs[i]? = some v → P moves s v)
    (fun v hv => by cases hv) ?_ run v hv
  intro moves m t u reach move before w hw
  rcases job_of_step move hw with ⟨v, hv, -, -, ⟨rfl, apart⟩ | turned⟩ | ⟨new, begins, stage⟩
  · exact other reach move apart hv (before w hv)
  · cases turned with
    | took moved => exact own reach move hv moved (before v hv)
  · have absent : t.jobs[i]? = none := List.getElem?_eq_none_iff.mpr (Nat.le_of_eq new.symm)
    have reached : Schedule.run (step mayFail) (start handles settings) (moves ++ [m]) = some u :=
      Schedule.run_trans reach (Schedule.run_cons move rfl)
    refine born reached (fun k hk => ?_) hw stage
    rcases List.mem_append.mp hk with old | last
    · exact turnless_of_absent reach absent k old
    · rw [List.mem_singleton.mp last, begins]
      exact nofun

end Traffic

end Rendezvous
