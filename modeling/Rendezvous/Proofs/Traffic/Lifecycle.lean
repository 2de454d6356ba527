import Rendezvous.Proofs.Runs
import Rendezvous.Proofs.Traffic.Custody

/-!
# The life of a slot

A slot changes in four ways (`Change`): the first wait builds, an explicit init builds, a destroy
discards what was never used, a destroy empties. None of them leads back to an unused handle, and
none puts one barrier in the place of another. Each is a write of one call, and the call has reason
for it because nobody else has touched the slot since it looked (`Custody.change`).

So an unused handle has not been used before (`unbuilt_of_reaches`), the first wait builds at most
once, and who is in a barrier through a handle is in the one that its slot owns.
-/

set_option autoImplicit false

namespace Rendezvous.Traffic

open Barrier Handle

variable {mayFail : Ask → Bool} {s t u : Traffic} {m : Move} {h i j b : Nat} {v w : Job}

/-! ## Answers -/

/-- Whatever happens from now on, call `i` can go on until it is over, and then has answered so. -/
def Settles (mayFail : Ask → Bool) (s : Traffic) (i : Nat) (r : Result) : Prop :=
  ∀ t w, Schedule.Reaches (step mayFail) s t → t.jobs[i]? = some w →
    w.stage = .finished r ∨ w.stage.isOver = false ∧ (t.step mayFail (.go i)).isSome = true

theorem answer?_of_step {r : Result} (move : s.step mayFail m = some t) (hv : s.jobs[i]? = some v)
    (settled : v.stage.answer? = some r) : ∃ w, t.jobs[i]? = some w ∧ w.stage.answer? = some r := by
  obtain ⟨w, hw, -, -, ⟨rfl, -⟩ | turned⟩ := job_step move hv
  · exact ⟨w, hw, settled⟩
  · cases turned with
    | @took supply fault turn moved =>
      refine ⟨_, hw, ?_⟩
      obtain ended | ⟨turn', moved', kept⟩ := Operation.answer?_step settled s.arena v.handle
        (s.settings v.thread) supply fault
      · rw [ended] at moved
        cases moved
      · obtain rfl := Option.some.inj (moved'.symm.trans moved)
        exact kept

theorem settles_of_answer? {r : Result} (hv : s.jobs[i]? = some v)
    (settled : v.stage.answer? = some r) : Settles mayFail s i r := by
  intro t w run hw
  obtain ⟨w', hw', kept⟩ := run.keeps
    (P := fun t => ∃ w, t.jobs[i]? = some w ∧ w.stage.answer? = some r)
    (fun ⟨_, hw, kept⟩ move => answer?_of_step move hw kept) ⟨v, hv, settled⟩
  obtain rfl := Option.some.inj (hw'.symm.trans hw)
  obtain ended | ⟨turn, moved, -⟩ := Operation.answer?_step kept t.arena w'.handle
    (t.settings w'.thread) {} none
  · exact .inl ended
  · refine .inr ⟨?_, ?_⟩
    · cases stage : w'.stage with
      | finished r' =>
        rw [stage] at moved
        cases moved
      | _ => rfl
    · simp [step, hw, permits, moved]

/-! ## Changes -/

/-- How a slot may change, by a call for which purpose. The arena is the one after the change. -/
inductive Change (a : Arena) : Purpose → Slot → Slot → Prop where
  | firstUse {n : UInt32} {b : Nat} : (a.barrier b).parties = n →
      Change a (.inquire .wait) (.unbuilt n) (.live b)
  | init {s : Slot} {b : Nat} {parties : UInt32} {shared : Bool} : (∀ c, s ≠ .live c) →
      (a.barrier b).parties = parties → Change a (.init parties shared) s (.live b)
  | discard {n : UInt32} : Change a (.inquire .destroy) (.unbuilt n) .empty
  | destroy {b : Nat} : Change a (.inquire .destroy) (.live b) .empty

theorem Change.ne_unbuilt {a : Arena} {p : Purpose} {old new : Slot} (c : Change a p old new)
    (n : UInt32) : new ≠ .unbuilt n := by
  cases c <;> nofun

/-- The errand has reason for what it writes. -/
theorem Custody.change_of_store (c : Custody s) (hv : v ∈ s.jobs) {e : Errand} {new : Slot}
    (stage : v.stage = .store e new) {a : Arena}
    (parties : ∀ b, v.stage.hands.owns = some b → (a.barrier b).parties = (s.arena.barrier b).parties) :
    Change a v.purpose (s.arena.slot v.handle) new := by
  have fits := c.fits v hv
  have serves := c.serves v hv
  rw [stage] at fits serves parties
  cases new with
  | unbuilt n => exact fits.elim
  | empty =>
    obtain ⟨rfl, n, slot⟩ := fits
    rw [slot, show v.purpose = _ from serves]
    exact .discard
  | live b =>
    have same := parties b rfl
    cases e with
    | init n shared =>
      obtain ⟨rfl, nothing⟩ : n = _ ∧ (s.arena.slot v.handle).barrier? = none := fits
      rw [show v.purpose = _ from serves]
      refine .init (fun c live => ?_) same
      rw [live] at nothing
      cases nothing
    | resolve =>
      rw [show s.arena.slot v.handle = _ from fits, show v.purpose = _ from serves]
      exact .firstUse same
    | discard => exact fits.elim

/-- A slot stays as it is, or it changes in one of the ways by a move of one call, which after a
change that is not for its own use has nothing left to do but to say so. -/
theorem Custody.change (c : Custody s) (move : s.step mayFail m = some t) (h : Nat) :
    t.arena.slot h = s.arena.slot h ∨
      ∃ i v w, m.job? = some i ∧ s.jobs[i]? = some v ∧ t.jobs[i]? = some w ∧ v.handle = h ∧
        Change t.arena v.purpose (s.arena.slot h) (t.arena.slot h) ∧
        (v.purpose ≠ .inquire .wait → w.stage.answer? = some (.ok .done)) := by
  cases step_effect move with
  | begins | sets => exact .inl rfl
  | @goes i supply fault v turn hv _ moved =>
    have mem := List.mem_of_getElem? hv
    have hh := c.known v mem
    have d := c.deed mem moved
    by_cases here : h = v.handle
    · subst here
      have there : (s.after i v turn).jobs[i]? = some (v.enter s.books turn.stage) :=
        List.getElem?_set_self (List.getElem?_eq_some_iff.mp hv).1
      rcases d.slot hh with still | ⟨e, new, stage, alone, slot, after⟩ | ⟨b, stage, slot, after⟩
      · exact .inl still
      · refine .inr ⟨i, v, _, rfl, hv, there, rfl, ?_, fun other => ?_⟩
        · rw [show (s.after i v turn).arena.slot v.handle = new from slot]
          exact c.change_of_store mem stage fun b owns =>
            d.parties (c.lt_of_owned (Nat.add_pos_left (Custody.owns_pos mem owns) _))
        · show turn.stage.answer? = _
          rw [after]
          cases e with
          | init | discard => rfl
          | resolve =>
            have serves := c.serves v mem
            rw [stage] at serves
            exact absurd serves other
      · have fits := c.fits v mem
        have serves := c.serves v mem
        rw [stage] at fits serves
        refine .inr ⟨i, v, _, rfl, hv, there, rfl, ?_, fun _ => ?_⟩
        · rw [show (s.after i v turn).arena.slot v.handle = .empty from slot, fits.1,
            show v.purpose = _ from serves]
          exact .destroy
        · show turn.stage.answer? = _
          rw [after]
          rfl
    · exact .inl (d.slot_of_ne here)

/-- A handle that is unused now has never been used. -/
theorem unbuilt_of_step (c : Custody s) (move : s.step mayFail m = some t) {n : UInt32}
    (unused : t.arena.slot h = .unbuilt n) : s.arena.slot h = .unbuilt n := by
  rcases c.change move h with still | ⟨_, _, _, -, -, -, -, change, -⟩
  · exact still.symm.trans unused
  · exact absurd unused (change.ne_unbuilt n)

theorem unbuilt_of_reaches (c : Custody s) (run : Schedule.Reaches (step mayFail) s t) {n : UInt32}
    (unused : t.arena.slot h = .unbuilt n) : s.arena.slot h = .unbuilt n := by
  have kept := run.keeps
    (P := fun t => Custody t ∧ (t.arena.slot h = .unbuilt n → s.arena.slot h = .unbuilt n))
    (fun ⟨c, back⟩ move => ⟨c.step move, fun unused => back (unbuilt_of_step c move unused)⟩)
    ⟨c, id⟩
  exact kept.2 unused

theorem Custody.slot_of_inside (c : Custody s) {x : Wait} (hv : v ∈ s.jobs)
    (inside : v.stage = .inside b x) : s.arena.slot v.handle = .live b := by
  have fits := c.fits v hv
  rw [inside] at fits
  exact fits

/-! ## First use -/

/-- The move writes a barrier that a waiting call has built into its handle `h`. -/
def buildsOnFirstUse (h : Nat) (s : Traffic) (m : Move) (_ : Traffic) : Bool :=
  match m.job?.bind fun i => s.jobs[i]? with
  | some v =>
    match v.stage with
    | .store .resolve _ => v.handle == h
    | _ => false
  | none => false

theorem unbuilt_of_buildsOnFirstUse (c : Custody s) (move : s.step mayFail m = some t)
    (first : buildsOnFirstUse h s m t = true) :
    ∃ n b, s.arena.slot h = .unbuilt n ∧ t.arena.slot h = .live b := by
  unfold buildsOnFirstUse at first
  cases step_effect move with
  | begins => cases first
  | sets quiet =>
    rw [quiet] at first
    cases first
  | @goes i supply fault v turn hv _ moved =>
    have mem := List.mem_of_getElem? hv
    have fits := c.fits v mem
    have hh := c.known v mem
    simp only [Move.job?, Option.bind_some, hv] at first
    split at first
    · next new stage =>
      obtain rfl := eq_of_beq first
      rw [stage] at fits moved
      cases new with
      | live b =>
        cases Operation.stride_of_step moved with
        | store => exact ⟨_, b, fits, Arena.slot_setSlot_self _ hh⟩
      | empty => cases fits.1
      | unbuilt n => exact fits.elim
    · cases first

theorem builtOnFirstUse_le {handles : List (Option UInt32)} {settings : Nat → Cancellation}
    {moves : List Move} (run : Schedule.run (step mayFail) (start handles settings) moves = some s) :
    Schedule.tally (step mayFail) (buildsOnFirstUse h) (start handles settings) moves ≤ 1 := by
  have once := Schedule.run_induction
    (P := fun moves s => Custody s ∧
      Schedule.tally (step mayFail) (buildsOnFirstUse h) (start handles settings) moves ≤ 1 ∧
      ∀ n, s.arena.slot h = .unbuilt n →
        Schedule.tally (step mayFail) (buildsOnFirstUse h) (start handles settings) moves = 0)
    ⟨Custody.start handles settings, Nat.zero_le 1, fun _ _ => rfl⟩ ?_ run
  · exact once.2.1
  intro moves m t u reach move ⟨c, most, unused⟩
  rw [Schedule.tally_concat reach move]
  refine ⟨c.step move, ?_, fun n still => ?_⟩
  · cases first : buildsOnFirstUse h t m u with
    | false => exact most
    | true =>
      obtain ⟨n, b, slot, -⟩ := unbuilt_of_buildsOnFirstUse c move first
      rw [unused n slot]
      exact Nat.le_refl 1
  · rw [unused n (unbuilt_of_step c move still)]
    cases first : buildsOnFirstUse h t m u with
    | false => rfl
    | true =>
      obtain ⟨-, b, -, slot⟩ := unbuilt_of_buildsOnFirstUse c move first
      cases slot.symm.trans still

/-! ## All of it -/

/-- A slot only ever moves forward, whoever calls and whatever fails. A move leaves it as it is or
changes it in one of four ways, none of which makes a used handle unused again, and the change is
the work of one call. That call finds the slot as it last saw it, whatever the others do meanwhile,
because it has kept them out since (`Custody.change`); so the first wait builds only where nobody
has built, and at most once. -/
theorem lifecycle_monotone {handles : List (Option UInt32)} {settings : Nat → Cancellation}
    {moves : List Move} (h : Nat)
    (run : Schedule.run (step mayFail) (start handles settings) moves = some s) :
    -- a move leaves the slot as it is, or one call changes it in one of the four ways; whoever
    -- builds on demand or destroys will then answer that it is done
    (∀ m t, s.step mayFail m = some t → t.arena.slot h = s.arena.slot h ∨
      ∃ i v, m.job? = some i ∧ s.jobs[i]? = some v ∧ v.handle = h ∧
        Change t.arena v.purpose (s.arena.slot h) (t.arena.slot h) ∧
        (v.purpose ≠ .inquire .wait → Settles mayFail t i (.ok .done))) ∧
      -- what is unused later is unused now, and for as many as it was declared for
      (∀ t n, Schedule.Reaches (step mayFail) s t → t.arena.slot h = .unbuilt n →
        s.arena.slot h = .unbuilt n ∧ handles[h]? = some (some n)) ∧
      -- the first wait has built at most once
      Schedule.tally (step mayFail) (buildsOnFirstUse h) (start handles settings) moves ≤ 1 ∧
      -- whoever is in a barrier through this handle is in the one that the slot owns
      ∀ v ∈ s.jobs, ∀ b x, v.handle = h → v.stage = .inside b x → s.arena.slot h = .live b := by
  have reached := Schedule.reaches_run run
  have c := Custody.of_reaches reached
  refine ⟨fun m t move => ?_, fun t n more unused => ⟨unbuilt_of_reaches c more unused, ?_⟩,
    builtOnFirstUse_le run, fun v hv b x here inside => ?_⟩
  · rcases c.change move h with still | ⟨i, v, w, whose, hv, hw, here, change, settled⟩
    · exact .inl still
    · exact .inr ⟨i, v, whose, hv, here, change, fun other => settles_of_answer? hw (settled other)⟩
  · exact Arena.slot_declared_unbuilt
      (unbuilt_of_reaches (Custody.start handles settings) (reached.trans more) unused)
  · subst here
    exact c.slot_of_inside hv inside

/-- Two threads wait at a handle for two that was never used, and both find it so. The first one
builds, the second one finds a barrier, and both end up in it. -/
def bothFirst : List Move :=
  [.begin 0 0 (.inquire .wait), .begin 1 0 (.inquire .wait)] ++ Move.goes 0 3 ++ Move.goes 1 3 ++
    Move.goes 0 14 ++ Move.goes 1 7

theorem lifecycle_monotone_bothFirst :
    ∃ s, Schedule.run (step anything) (start [some 2] fun _ => {}) bothFirst = some s ∧
      s.arena.slot 0 = .live 0 ∧
      Schedule.tally (step anything) (buildsOnFirstUse 0) (start [some 2] fun _ => {}) bothFirst = 1 ∧
      (∀ t n, Schedule.Reaches (step anything) s t → t.arena.slot 0 ≠ .unbuilt n) ∧
      ∀ v ∈ s.jobs, v.handle = 0 → ∀ b x, v.stage = .inside b x → b = 0 := by
  have run := (Option.some_get (show (Schedule.run (step anything) (start [some 2] fun _ => {})
    bothFirst).isSome by decide)).symm
  have slot : ((Schedule.run (step anything) (start [some 2] fun _ => {}) bothFirst).get
    (by decide)).arena.slot 0 = .live 0 := by decide
  obtain ⟨-, unused, -, inside⟩ := lifecycle_monotone 0 run
  refine ⟨_, run, slot, by decide, fun t n more still => ?_, fun v hv here b x stage => ?_⟩
  · cases slot.symm.trans (unused t n more still).1
  · exact (Slot.live.inj (slot.symm.trans (inside v hv b x here stage))).symm

end Rendezvous.Traffic
