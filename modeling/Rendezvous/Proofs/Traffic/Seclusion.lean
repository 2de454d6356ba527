import Rendezvous.Proofs.Traffic.Lifecycle

/-!
# A barrier out of reach

Who empties a slot takes the barrier along, and from then on there is no way to it for anybody else:
no slot owns it and nobody has it in hand (`Gone`), whatever is called and built later. A call that
has no way to a barrier neither reads nor writes it: its stage comes out the same whatever the
barrier is like, and leaves it like that (`Operation.step_setBarrier`).

At the moment at which the slot is emptied nobody else is in the barrier (`usedOnlyBy_of_clear`),
because whoever is in a barrier shares its slot.
-/

set_option autoImplicit false

namespace Rendezvous

open Barrier Handle

/-! ## Reading and writing elsewhere -/

section Elsewhere

variable {a : Arena} {h k b c : Nat} {x y : Barrier}

@[simp] theorem Arena.holds_setBarrier (a : Arena) (b : Nat) (x : Barrier) (h : Nat) :
    (a.setBarrier b x).holds h = a.holds h := rfl

@[simp] theorem Arena.slot_setBarrier (a : Arena) (b : Nat) (x : Barrier) (h : Nat) :
    (a.setBarrier b x).slot h = a.slot h := rfl

@[simp] theorem Arena.setHolds_setBarrier (a : Arena) (b : Nat) (x : Barrier) (h : Nat)
    (y : Holds) : (a.setBarrier b x).setHolds h y = (a.setHolds h y).setBarrier b x := rfl

@[simp] theorem Arena.setSlot_setBarrier (a : Arena) (b : Nat) (x : Barrier) (h : Nat) (s : Slot) :
    (a.setBarrier b x).setSlot h s = (a.setSlot h s).setBarrier b x := rfl

theorem Arena.setBarrier_comm (a : Arena) (ne : c ≠ b) (x y : Barrier) :
    (a.setBarrier b x).setBarrier c y = (a.setBarrier c y).setBarrier b x := by
  simp only [setBarrier, Array.setIfInBounds_comm x y (Ne.symm ne)]

theorem Arena.adopt_setBarrier (x y : Barrier) (hb : b < a.barriers.size) :
    (a.setBarrier b x).adopt y = ((a.adopt y).1.setBarrier b x, (a.adopt y).2) := by
  have within : b < (a.barriers.push y).size := by
    rw [Array.size_push]
    exact Nat.lt_succ_of_lt hb
  have pushed : (a.barriers.setIfInBounds b x).push y = (a.barriers.push y).setIfInBounds b x := by
    rw [Array.setIfInBounds, dif_pos hb, Array.setIfInBounds, dif_pos within, Array.set_push,
      dif_pos hb]
  simp [adopt, setBarrier, pushed]

/-- A barrier that is written keeps its number of parties for all who ask for it by its slot. -/
theorem Arena.partiesOf_setBarrier {s : Slot} (hb : b < a.barriers.size)
    (alike : x.parties = (a.barrier b).parties ∨ s ≠ .live b) :
    (a.setBarrier b x).partiesOf s = a.partiesOf s := by
  cases s with
  | live c =>
    by_cases here : c = b
    · subst here
      have same := alike.resolve_right fun other => other rfl
      simp only [partiesOf, barrier_setBarrier_self x hb, same]
    · simp only [partiesOf, barrier_setBarrier_of_ne x here]
  | _ => rfl

theorem Handle.Inquiry.look_setBarrier {s : Slot} (q : Inquiry) (hb : b < a.barriers.size)
    (alike : x.parties = (a.barrier b).parties ∨ s ≠ .live b) :
    q.look (a.setBarrier b x) s = q.look a s := by
  cases q <;> cases s <;> simp only [look, Arena.partiesOf_setBarrier hb alike]

theorem Handle.Errand.notices_setBarrier {s : Slot} (e : Errand) (hb : b < a.barriers.size)
    (alike : x.parties = (a.barrier b).parties ∨ s ≠ .live b) :
    e.notices (a.setBarrier b x) s = e.notices a s := by
  cases e <;> simp only [notices, Arena.partiesOf_setBarrier hb alike]

/-- A call that is not in a barrier does the same whatever the barrier is like, and leaves it as it
is. All it can see of it from outside is the number of parties, and of that only if it has a way to
the barrier. -/
theorem Handle.Operation.step_setBarrier {op : Operation} (hb : b < a.barriers.size)
    (apart : op.uses ≠ some b)
    (alike : x.parties = (a.barrier b).parties ∨ op.hands.owns ≠ some b ∧ a.slot h ≠ .live b)
    (d : Cancellation) (supply : Supply) (fault : Option PrimitiveError) :
    op.step (a.setBarrier b x) h d supply fault =
      (op.step a h d supply fault).map fun t => { t with arena := t.arena.setBarrier b x } := by
  cases op with
  | knock q => by_cases may : (a.holds h).mayShare = true <;> simp [step, may]
  | reserve e => by_cases may : (a.holds h).mayReserve = true <;> simp [step, may]
  | claim => by_cases may : (a.holds h).free = true <;> simp [step, may]
  | guard e =>
    simp only [step, show (a.setBarrier b x).guarded = a.guarded from rfl]
    by_cases taken : a.guarded = true
    · simp [taken]
    · simp [taken]
      rfl
  | look q =>
    simp only [step, Arena.slot_setBarrier, Inquiry.look_setBarrier q hb (alike.imp_right And.right)]
    rfl
  | inside c w =>
    have ne : c ≠ b := fun same => apart (congrArg some same)
    by_cases ended : ∃ r, w = .finished r
    · obtain ⟨r, rfl⟩ := ended
      rfl
    · rw [step_inside fun r hr => ended ⟨r, hr⟩, step_inside fun r hr => ended ⟨r, hr⟩,
        Arena.barrier_setBarrier_of_ne x ne, Option.map_map]
      refine Option.map_congr fun t _ => ?_
      simp only [Function.comp, Arena.setBarrier_comm a ne]
  | probe c gauge p =>
    have ne : c ≠ b := fun same => apart (congrArg some same)
    by_cases ended : ∃ r, p = .finished r
    · obtain ⟨r, rfl⟩ := ended
      rfl
    · rw [step_probe fun r hr => ended ⟨r, hr⟩, step_probe fun r hr => ended ⟨r, hr⟩,
        Arena.barrier_setBarrier_of_ne x ne, Option.map_map]
      refine Option.map_congr fun t _ => ?_
      simp only [Function.comp, Arena.setBarrier_comm a ne]
  | tearDown c t =>
    have ne : c ≠ b := fun same => apart (congrArg some same)
    by_cases ended : t = .finished
    · subst ended
      rfl
    · rw [step_tearDown ended, step_tearDown ended, Arena.barrier_setBarrier_of_ne x ne,
        Option.map_map]
      refine Option.map_congr fun u _ => ?_
      simp only [Function.comp, Arena.setBarrier_comm a ne]
  | build e s =>
    by_cases ended : ∃ r, s = .finished r
    · obtain ⟨r, rfl⟩ := ended
      cases r with
      | error err => rfl
      | ok y =>
        simp only [step, Arena.adopt_setBarrier x y hb]
        rfl
    · rw [step_build fun r hr => ended ⟨r, hr⟩, step_build fun r hr => ended ⟨r, hr⟩,
        Option.map_map]
      rfl
  | store e new =>
    have other : x.parties = (a.barrier b).parties ∨ new ≠ .live b :=
      alike.imp_right fun away same => away.1 (congrArg Slot.barrier? same)
    by_cases alone : (a.holds h).sharers = 0 <;>
      simp [step, alone, Errand.notices_setBarrier e hb other]
  | verify =>
    cases slot : a.slot h <;> simp [step, slot]
  | seize c =>
    have ne : c ≠ b := fun same => apart (congrArg some same)
    by_cases busy : (fault.isSome || (a.barrier c).locked) = true <;>
      simp [step, Arena.barrier_setBarrier_of_ne x ne, Arena.setBarrier_comm a ne, busy]
  | _ => rfl

end Elsewhere

namespace Traffic

variable {mayFail : Ask → Bool} {s t u : Traffic} {m : Move} {h k i j b : Nat} {v w : Job}

/-- What is done to the arena can be done after a move as well as before it, if that is so of the
turn that the move is. -/
theorem step_mapArena {f : Arena → Arena} (handles : ∀ a, (f a).handles.size = a.handles.size)
    (barriers : ∀ a, (f a).barriers.size = a.barriers.size)
    (turns : ∀ j w, m.job? = some j → s.jobs[j]? = some w → ∀ supply fault,
      w.stage.step (f s.arena) w.handle (s.settings w.thread) supply fault =
        (w.stage.step s.arena w.handle (s.settings w.thread) supply fault).map fun t =>
          { t with arena := f t.arena }) :
    step mayFail { s with arena := f s.arena } m =
      (s.step mayFail m).map fun t => { t with arena := f t.arena } := by
  cases m with
  | begin thread handle purpose =>
    have same : (({ s with arena := f s.arena } : Traffic).isOutside thread &&
        decide (handle < (f s.arena).handles.size)) =
      (s.isOutside thread && decide (handle < s.arena.handles.size)) := by rw [handles]; rfl
    simp only [step, same]
    by_cases may : (s.isOutside thread && decide (handle < s.arena.handles.size)) = true
    · rw [if_pos may, if_pos may]
      rfl
    · rw [if_neg may, if_neg may]
      rfl
  | go j supply fault =>
    show (s.jobs[j]?.bind _) = Option.map _ (s.jobs[j]?.bind _)
    cases hw : s.jobs[j]? with
    | none => rfl
    | some w =>
      have moved := turns j w rfl hw supply fault
      by_cases may : permits mayFail w.stage fault = true
      · simp only [Option.bind_some, may, if_true]
        rw [moved, Option.map_map, Option.map_map]
        refine Option.map_congr fun turn _ => ?_
        simp [after, setSettings, Books.after, barriers]
      · simp [may]
  | request thread => rfl
  | adjust thread type state =>
    simp only [step, show ({ s with arena := f s.arena } : Traffic).isOutside thread =
      s.isOutside thread from rfl]
    by_cases may : s.isOutside thread = true
    · rw [if_pos may, if_pos may]
      rfl
    · rw [if_neg may, if_neg may]
      rfl

/-- The same with another barrier in the place of `b`. -/
def withBarrier (s : Traffic) (b : Nat) (x : Barrier) : Traffic :=
  { s with arena := s.arena.setBarrier b x }

/-- Whoever has no way to a barrier makes the same move whatever the barrier is like, and leaves it
as it is. -/
theorem step_withBarrier (hb : b < s.arena.barriers.size)
    (nowhere : ∀ k, s.arena.slot k ≠ .live b)
    (hidden : ∀ j w, m.job? = some j → s.jobs[j]? = some w →
      w.stage.uses ≠ some b ∧ w.stage.hands.owns ≠ some b) (x : Barrier) :
    (s.withBarrier b x).step mayFail m = (s.step mayFail m).map (·.withBarrier b x) := by
  refine step_mapArena (f := (·.setBarrier b x)) (fun _ => rfl) (fun a => Arena.size_setBarrier a b x)
    fun j w whose hw supply fault => ?_
  obtain ⟨apart, unowned⟩ := hidden j w whose hw
  exact Operation.step_setBarrier hb apart (.inr ⟨unowned, nowhere w.handle⟩) _ supply fault

/-! ## Alone in a barrier -/

/-- Nobody works at the barrier but call `i`. -/
def UsedOnlyBy (s : Traffic) (b i : Nat) : Prop :=
  ∀ j w, s.jobs[j]? = some w → j ≠ i → w.stage.uses ≠ some b

namespace Custody

/-- What is in a slot is in no hand. -/
theorem not_owns (c : Custody s) (slot : s.arena.slot h = .live b) (hw : w ∈ s.jobs) :
    w.stage.hands.owns ≠ some b := by
  intro owns
  have most := Nat.le_trans (c.owned b) (Bool.toNat_le _)
  have inHand := owns_pos hw owns
  have inSlot := Arena.owning_pos slot
  omega

/-- A barrier is in one slot only. -/
theorem slot_unique (c : Custody s) (slot : s.arena.slot h = .live b)
    (slot' : s.arena.slot k = .live b) : h = k := by
  have most : s.arena.owning b ≤ 1 :=
    Nat.le_trans (Nat.le_add_left _ _) (Nat.le_trans (c.owned b) (Bool.toNat_le _))
  have there {h : Nat} (slot : s.arena.slot h = .live b) :
      s.arena.handles.toList[h]? = some (s.arena.handle h) := by
    rcases Nat.lt_or_ge h s.arena.handles.size with hh | beyond
    · simp [Arena.handle, hh]
    · have nothing : s.arena.slot h = .empty := by simp [Arena.slot, Arena.handle, beyond]; rfl
      cases nothing.symm.trans slot
  exact eq_of_countP_le_one most (there slot) (there slot')
    (decide_eq_true (congrArg Slot.barrier? slot)) (decide_eq_true (congrArg Slot.barrier? slot'))

/-- Whoever works at the barrier of a slot works on this slot, and holds it. -/
theorem handle_of_uses (c : Custody s) (slot : s.arena.slot h = .live b) (hw : w ∈ s.jobs)
    (uses : w.stage.uses = some b) : w.handle = h ∧ w.stage.hands.grip ≠ .none := by
  have unowned := c.not_owns slot hw
  have place := ((c.fits w hw).place uses).resolve_right unowned
  refine ⟨c.slot_unique place slot, fun idle => unowned ?_⟩
  · cases stage : w.stage with
    | tearDown c t =>
      rw [stage] at uses
      exact uses
    | inside | probe | seize | clear | detach =>
      rw [stage] at idle
      cases idle
    | _ =>
      rw [stage] at uses
      cases uses

/-- Beside a call that is about to empty its slot nobody works at the barrier. -/
theorem usedOnlyBy_of_clear (c : Custody s) (hv : s.jobs[i]? = some v) (stage : v.stage = .clear b) :
    UsedOnlyBy s b i := by
  intro j w hw ne uses
  have fits := c.fits v (List.mem_of_getElem? hv)
  rw [stage] at fits
  obtain ⟨here, holds⟩ := c.handle_of_uses fits.1 (List.mem_of_getElem? hw) uses
  exact holds (c.others_idle hv hw here (by rw [stage]; rfl) fits.2 ne)

/-- A barrier leaves its slot by the hand of one call, and the slot is empty then. -/
theorem emptying (c : Custody s) (move : s.step mayFail m = some t)
    (was : s.arena.slot h = .live b) (now : t.arena.slot h ≠ .live b) :
    ∃ i v w, m.job? = some i ∧ s.jobs[i]? = some v ∧ v.handle = h ∧ v.stage = .clear b ∧
      t.jobs[i]? = some w ∧ w.stage = .detach b ∧ t.arena.slot h = .empty := by
  cases step_effect move with
  | begins | sets => exact absurd was now
  | @goes i supply fault v turn hv _ moved =>
    have mem := List.mem_of_getElem? hv
    have hh := c.known v mem
    have fits := c.fits v mem
    have d := c.deed mem moved
    by_cases here : h = v.handle
    · subst here
      rcases d.slot hh with still | ⟨e, new, stage, -, -, -⟩ | ⟨b', stage, slot, after⟩
      · exact absurd (still.trans was) now
      · exact absurd was (c.slot_of_store mem stage b)
      · rw [stage] at fits
        obtain rfl := Slot.live.inj (was.symm.trans fits.1)
        exact ⟨i, v, _, rfl, hv, rfl, stage,
          List.getElem?_set_self (List.getElem?_eq_some_iff.mp hv).1, after, slot⟩
    · exact absurd ((d.slot_of_ne here).trans was) now

end Custody

/-! ## Gone -/

/-- The call has taken the barrier out of its slot, and may be done with it. -/
def Dismantles (b : Nat) : Operation → Prop
  | .detach c | .tearDown c _ => c = b
  | .finished r => r = .ok .done
  | _ => False

theorem Dismantles.step {a : Arena} {op : Operation} {d : Cancellation} {supply : Supply}
    {fault : Option PrimitiveError} {turn : Operation.Turn} (leaving : Dismantles b op)
    (move : op.step a h d supply fault = some turn) : Dismantles b turn.stage := by
  cases Operation.stride_of_step move with
  | detach | tearDown => exact leaving
  | tornDown => exact rfl
  | _ => exact leaving.elim

/-- No slot owns the barrier, and nobody has it in hand but call `i`, which took it out. -/
structure Gone (b i : Nat) (s : Traffic) : Prop where
  built : b < s.arena.barriers.size
  nowhere : s.arena.owning b = 0
  unowned : ∀ j w, s.jobs[j]? = some w → j ≠ i → w.stage.hands.owns ≠ some b
  leaving : ∃ v, s.jobs[i]? = some v ∧ Dismantles b v.stage

namespace Gone

theorem slot_ne (g : Gone b i s) (k : Nat) : s.arena.slot k ≠ .live b := fun slot =>
  Nat.ne_of_gt (Arena.owning_pos slot) g.nowhere

theorem usedOnlyBy (g : Gone b i s) (c : Custody s) : UsedOnlyBy s b i := by
  intro j w hw ne uses
  rcases (c.fits w (List.mem_of_getElem? hw)).place uses with slot | owns
  · exact g.slot_ne _ slot
  · exact g.unowned j w hw ne owns

/-- What is in no slot and in no hand but one comes into no other. -/
theorem of_turn (g : Gone b i s) (c : Custody s) {supply : Supply} {fault : Option PrimitiveError}
    {turn : Operation.Turn} (hw : s.jobs[j]? = some w)
    (move : w.stage.step s.arena w.handle (s.settings w.thread) supply fault = some turn) :
    b < turn.arena.barriers.size ∧ turn.arena.owning b = 0 ∧
      (j ≠ i → turn.stage.hands.owns ≠ some b) := by
  have mem := List.mem_of_getElem? hw
  have hh := c.known w mem
  have d := c.deed mem move
  have later := Nat.lt_of_lt_of_le g.built d.barriers_le
  have counted := d.owning hh (c.fits w mem) b
  simp only [g.nowhere, g.built, later, decide_true, Bool.toNat_true] at counted
  refine ⟨later, ?_, fun ne owns => ?_⟩
  · by_cases here : j = i
    · -- whoever dismantles the barrier writes no slot
      subst here
      obtain ⟨v, hv, leaving⟩ := g.leaving
      obtain rfl := Option.some.inj (hv.symm.trans hw)
      have slot : turn.arena.slot v.handle = s.arena.slot v.handle := by
        rcases d.slot hh with still | ⟨e, new, stage, -⟩ | ⟨b', stage, -⟩
        · exact still
        · rw [stage] at leaving
          exact leaving.elim
        · rw [stage] at leaving
          exact leaving.elim
      rw [← g.nowhere]
      refine Arena.owning_congr (fun k => ?_) d.size b
      by_cases same : k = v.handle
      · rw [same]
        exact slot
      · exact d.slot_of_ne same
    · have lacks : w.stage.owns b = false := decide_eq_false (g.unowned j w hw here)
      rw [lacks, Bool.toNat_false] at counted
      omega
  · have lacks : w.stage.owns b = false := decide_eq_false (g.unowned j w hw ne)
    have has : turn.stage.owns b = true := decide_eq_true owns
    rw [lacks, has, Bool.toNat_false, Bool.toNat_true] at counted
    omega

theorem step (g : Gone b i s) (c : Custody s) (move : s.step mayFail m = some t) : Gone b i t := by
  obtain ⟨v, hv, leaving⟩ := g.leaving
  have still : b < t.arena.barriers.size ∧ t.arena.owning b = 0 := by
    cases step_effect move with
    | begins | sets => exact ⟨g.built, g.nowhere⟩
    | goes hw _ moved => exact ⟨(g.of_turn c hw moved).1, (g.of_turn c hw moved).2.1⟩
  refine ⟨still.1, still.2, fun j w hw ne owns => ?_, ?_⟩
  · rcases job_of_step move hw with ⟨u, hu, -, -, ⟨rfl, -⟩ | turned⟩ | ⟨-, -, first⟩
    · exact g.unowned j w hu ne owns
    · cases turned with
      | took moved => exact (g.of_turn c hu moved).2.2 ne owns
    · rw [first, Purpose.hands_first] at owns
      cases owns
  · obtain ⟨w, hw, -, -, ⟨rfl, -⟩ | turned⟩ := job_step move hv
    · exact ⟨w, hw, leaving⟩
    · cases turned with
      | took moved => exact ⟨_, hw, leaving.step moved⟩

theorem of_reaches (g : Gone b i s) (c : Custody s) (run : Schedule.Reaches (Traffic.step mayFail) s t) :
    Gone b i t := by
  have kept := run.keeps (P := fun t => Custody t ∧ Gone b i t)
    (fun ⟨c, g⟩ move => ⟨c.step move, g.step c move⟩) ⟨c, g⟩
  exact kept.2

/-- From the hand that took the barrier out of its slot. -/
theorem of_detach (c : Custody s) (hv : s.jobs[i]? = some v) (stage : v.stage = .detach b) :
    Gone b i s := by
  have mem := List.mem_of_getElem? hv
  have owns : v.stage.hands.owns = some b := by rw [stage]; rfl
  have most := Nat.le_trans (c.owned b) (Bool.toNat_le _)
  have inHand := Custody.owns_pos mem owns
  refine ⟨c.uses_lt mem (by rw [stage]; rfl), by omega, fun j w hw ne owns' => ne ?_,
    v, hv, by rw [stage]; rfl⟩
  have most : s.jobs.countP (Job.owns b) ≤ 1 := by omega
  exact eq_of_countP_le_one most hw hv (decide_eq_true owns') (decide_eq_true owns)

/-- Nobody else reads the barrier or writes it. -/
theorem step_withBarrier (g : Gone b i s) (c : Custody s) (other : m.job? ≠ some i) (x : Barrier) :
    (s.withBarrier b x).step mayFail m = (s.step mayFail m).map (·.withBarrier b x) := by
  refine Traffic.step_withBarrier g.built g.slot_ne (fun j w whose hw => ?_) x
  have ne : j ≠ i := fun same => other (by rw [whose, same])
  exact ⟨g.usedOnlyBy c j w hw ne, g.unowned j w hw ne⟩

end Gone

end Traffic

end Rendezvous
