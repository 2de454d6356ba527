import Rendezvous.Proofs.Traffic.Lap

/-!
# Calls that fail change nothing

A call that builds, discards or destroys can fail in many places: when it looks, when it tries for the
slot or for the barrier's lock, when there is no memory, when a part cannot be made. What all these
places have in common is what cannot have happened before them. Whoever has written a slot, taken a
barrier in or worked at one is at a stage from which there is no way to a failure, or is a wait that
goes on to the barrier. `Operation.Innocent` lists the other stages, and it is read backwards: if a
turn ends at an innocent stage it began at one and left every slot and every barrier as they were
(`Innocent.step`). So whoever stands at such a stage has altered nothing since it began
(`innocent_of_run`).

A wait that comes round for its second look may have built the barrier. It is innocent of that only
as long as its handle is unused, which is why the predicate is told whether the handle is used, as
the laps of a wait are.
-/

set_option autoImplicit false

namespace Rendezvous

open Barrier

namespace Handle

/-- The call is there to write the slot, and does nothing else with the handle. -/
def Purpose.writes : Purpose → Bool
  | init .. | inquire .destroy => true
  | _ => false

/-- Who goes on to this has not altered anything. -/
def Next.Innocent (used : Prop) : Next → Prop
  | answer (.ok _) => False
  | again => ¬ used
  | _ => True

theorem Next.Innocent.mono {used used' : Prop} {n : Next} (innocent : n.Innocent used')
    (still : used → used') : n.Innocent used := by
  cases n with
  | again => exact fun was => innocent (still was)
  | answer r => cases r <;> exact innocent
  | _ => exact innocent

/-- Where a call for the purpose can only be as long as it has not altered anything, given whether
its handle has been used. -/
def Operation.Innocent (used : Prop) (p : Purpose) : Operation → Prop
  | knock q | look q => q = .wait → ¬ used
  | leave n => n.Innocent used ∧ ∀ r, n = .answer r → p.writes = true
  | finished r => Next.Innocent used (.answer r) ∧ p.writes = true
  | release _ n | unguard n => n.Innocent used
  | announce _ new | store _ new => new.barrier? = none
  | guard _ | reserve _ | inspect _ | build .. | giveUp .. | claim | verify | seize _ | abandon _ =>
      True
  | inside .. | probe .. | clear _ | detach _ | tearDown .. => False

/-- The arenas agree in what their handles own and in every barrier. -/
def SameGoods (a a' : Arena) : Prop := (∀ k, a'.slot k = a.slot k) ∧ a'.barriers = a.barriers

theorem SameGoods.refl {a : Arena} : SameGoods a a := ⟨fun _ => rfl, rfl⟩

theorem sameGoods_setHolds (a : Arena) (h : Nat) (x : Holds) : SameGoods a (a.setHolds h x) :=
  ⟨fun k => Arena.slot_setHolds a h x k, rfl⟩

namespace Operation

variable {a : Arena} {h : Nat} {c : Cancellation} {supply : Supply} {fault : Option PrimitiveError}
  {op : Operation} {turn : Turn} {used used' : Prop} {p : Purpose}

/-- Nobody else's turn makes a guilty call innocent, for what was used stays used. -/
theorem Innocent.mono (innocent : op.Innocent used' p) (still : used → used') :
    op.Innocent used p := by
  cases op with
  | knock | look => exact fun wait was => innocent wait (still was)
  | leave | finished => exact ⟨Next.Innocent.mono innocent.1 still, innocent.2⟩
  | release | unguard => exact Next.Innocent.mono innocent still
  | _ => exact innocent

theorem innocent_of_stage {n : Next} (innocent : n.stage.Innocent used p) : n.Innocent used := by
  cases n with
  | answer r => exact innocent.1
  | again => exact innocent rfl
  | _ => trivial

/-- An errand that ends innocently was innocent when it had the slot in hand. -/
theorem innocent_of_afterSlot {e : Errand} {n : Next}
    (innocent : (e.afterSlot n).Innocent used p) : n.Innocent used := by
  unfold Errand.afterSlot at innocent
  split at innocent
  · exact innocent
  · exact innocent_of_stage innocent

theorem innocent_of_leave {n : Next} (innocent : n.stage.Innocent used p) :
    (leave n).Innocent used p := by
  refine ⟨innocent_of_stage innocent, ?_⟩
  rintro r rfl
  exact innocent.2

/-- What a look finds of which an innocent stage follows. -/
theorem innocent_of_look {q : Inquiry}
    (innocent : (q.look a (a.slot h)).Innocent (Used a h) (.inquire q)) :
    (look q).Innocent (Used a h) (.inquire q) := by
  rintro rfl used
  cases slot : a.slot h with
  | unbuilt n => exact used n slot
  | live b =>
    rw [slot] at innocent
    exact innocent
  | empty =>
    rw [slot] at innocent
    cases innocent.2 _ rfl

/-- A turn that ends at an innocent stage began at one, and has changed no slot and no barrier. -/
theorem Innocent.step (known : h < a.handles.size) (serves : op.Serves p) (fits : op.Fits a h)
    (move : op.step a h c supply fault = some turn)
    (innocent : turn.stage.Innocent (Used turn.arena h) p) :
    op.Innocent (Used a h) p ∧ SameGoods a turn.arena := by
  have same (x : Holds) : Used a h → Used (a.setHolds h x) h := fun used n => by
    rw [Arena.slot_setHolds]
    exact used n
  cases stride_of_step move with
  | knock may => exact ⟨fun wait used => innocent wait (same _ used), sameGoods_setHolds ..⟩
  | look =>
    obtain rfl := serves
    exact ⟨innocent_of_look innocent, .refl⟩
  | outside | probed =>
    rw [show p = _ from serves] at innocent
    cases innocent.2 _ rfl
  | leave => exact ⟨(innocent_of_leave innocent).mono (same _), sameGoods_setHolds ..⟩
  | announce => exact ⟨innocent, sameGoods_setHolds ..⟩
  | @store e new alone =>
    cases e with
    | init | discard => exact innocent.elim
    | resolve =>
      -- the barrier is in the slot, so the handle is used
      cases new with
      | live b =>
        refine absurd (fun n unused => ?_) innocent
        cases (Arena.slot_setSlot_self _ known).symm.trans unused
      | unbuilt => exact fits.elim
      | empty => cases fits.1
  | release => exact ⟨(innocent_of_afterSlot innocent).mono (same _), sameGoods_setHolds ..⟩
  | giveUp | claim | abandon => exact ⟨trivial, sameGoods_setHolds ..⟩
  | unguard => exact ⟨innocent_of_stage innocent, .refl⟩
  | reserve => exact ⟨trivial, sameGoods_setHolds ..⟩
  | guard | inspect | build | failed | keptOut | verify | verifyEmpty | verifyUnbuilt | seizeNot =>
    exact ⟨trivial, fun _ => rfl, rfl⟩
  | tornDown => exact innocent.1.elim
  | built => cases innocent
  | _ => exact innocent.elim

/-- Who has settled on a failure has only holds to give back. -/
theorem sameGoods_of_settled {e : BarrierError} (settled : op.answer? = some (.error e))
    (move : op.step a h c supply fault = some turn) : SameGoods a turn.arena := by
  cases stride_of_step move with
  | leave | release | giveUp | abandon => exact sameGoods_setHolds ..
  | unguard | failed | build => exact ⟨fun _ => rfl, rfl⟩
  | _ => cases settled

end Operation

end Handle

namespace Traffic

open Handle

variable {mayFail : Ask → Bool} {s t : Traffic} {m : Move} {moves late : List Move} {i : Nat}
  {v : Job} {handles : List (Option UInt32)} {settings : Nat → Cancellation}

/-- The move is a turn of call `i`, and leaves something different that is not the call's own: a slot,
a barrier, or another call. -/
def Alters (i : Nat) (s : Traffic) (m : Move) (t : Traffic) : Prop :=
  m.job? = some i ∧ ((∃ h, t.arena.slot h ≠ s.arena.slot h) ∨
    t.arena.barriers ≠ s.arena.barriers ∨ ∃ j, j ≠ i ∧ t.jobs[j]? ≠ s.jobs[j]?)

theorem not_alters_of_sameGoods {supply : Supply} {fault : Option PrimitiveError}
    {turn : Operation.Turn} (same : SameGoods s.arena turn.arena) :
    ¬ Alters i s (.go i supply fault) (s.after i v turn) := by
  rintro ⟨-, ⟨h, slot⟩ | barriers | ⟨j, ne, job⟩⟩
  · exact slot (same.1 h)
  · exact barriers same.2
  · exact job (List.getElem?_set_ne (Ne.symm ne))

/-- A call that stands at an innocent stage has altered nothing since it began. -/
theorem innocent_of_run (run : Schedule.run (step mayFail) (start handles settings) moves = some s)
    (hv : s.jobs[i]? = some v) (innocent : v.stage.Innocent (Used s.arena v.handle) v.purpose) :
    ¬ Schedule.Passes (step mayFail) (start handles settings) moves (Alters i) := by
  refine course_induction (P := fun moves s v =>
    v.stage.Innocent (Used s.arena v.handle) v.purpose →
      ¬ Schedule.Passes (step mayFail) (start handles settings) moves (Alters i))
    ?born ?other ?own run hv innocent
  case born =>
    rintro moves s v - turnless - - - ⟨early, m, late, t, u, rfl, -, -, own, -⟩
    exact turnless m (by simp) own
  case other =>
    intro moves s m t v reach move apart _ before innocent passes
    have c := Custody.of_reaches (Schedule.reaches_run reach)
    rcases passes.of_concat reach move with earlier | last
    · exact before (innocent.mono (used_of_step c move)) earlier
    · exact apart last.1
  case own =>
    intro moves s supply fault v turn reach move hv moved before innocent passes
    have c := Custody.of_reaches (Schedule.reaches_run reach)
    have mem := List.mem_of_getElem? hv
    obtain ⟨was, same⟩ := innocent.step (c.known v mem) (c.serves v mem) (c.fits v mem) moved
    rcases passes.of_concat reach move with earlier | last
    · exact before was earlier
    · exact not_alters_of_sameGoods same last

/-- A call that has altered nothing and has settled on a failure alters nothing any more. -/
theorem never_alters_of_settled {e : BarrierError}
    (run : Schedule.run (step mayFail) (start handles settings) moves = some s)
    (hv : s.jobs[i]? = some v) (settled : v.stage.answer? = some (.error e))
    (innocent : v.stage.Innocent (Used s.arena v.handle) v.purpose)
    (more : Schedule.run (step mayFail) s late = some t) :
    ¬ Schedule.Passes (step mayFail) (start handles settings) (moves ++ late) (Alters i) := by
  have kept := Schedule.run_induction (P := fun late t =>
    (∃ w, t.jobs[i]? = some w ∧ w.stage.answer? = some (.error e)) ∧
      ¬ Schedule.Passes (step mayFail) (start handles settings) (moves ++ late) (Alters i))
    ⟨⟨v, hv, settled⟩, ?_⟩ ?_ more
  · exact kept.2
  · rw [List.append_nil]
    exact innocent_of_run run hv innocent
  · intro late m t u reach move ⟨⟨w, hw, still⟩, before⟩
    refine ⟨answer?_of_step move hw still, fun passes => ?_⟩
    have reached : Schedule.run (step mayFail) (start handles settings) (moves ++ late) = some t := by
      rw [Schedule.run_append, run]
      exact reach
    rw [← List.append_assoc] at passes
    rcases passes.of_concat reached move with earlier | last
    · exact before earlier
    · cases step_effect move with
      | begins => cases last.1
      | sets quiet => cases quiet.symm.trans last.1
      | goes hu _ moved =>
        obtain rfl := Option.some.inj last.1
        obtain rfl := Option.some.inj (hw.symm.trans hu)
        exact not_alters_of_sameGoods (Operation.sameGoods_of_settled still moved) last

end Traffic

end Rendezvous
