import Rendezvous.Proofs.Delivery
import Rendezvous.Proofs.Traffic.Turn

/-!
# What an operation is about and what it knows

An operation begins for a purpose, and the stages it can get to are those that serve it
(`Operation.Serves`). On its way it looks at its slot, and as long as it holds the slot it may rely
on what it saw: whoever is in a barrier shares a slot that owns this barrier, whoever builds has
reserved a slot that owns none, whoever tears down has emptied the slot before. That is
`Operation.Fits`. Both are kept by the turns of the operation itself (`Serves.step`, `Fits.step`);
that no other operation spoils the second is a matter of who holds what (`Fits.congr`).

From the moment an operation has settled on an answer (`Operation.answer?`) it only gives back what
it holds, and no other answer can come of it (`answer?_step`).
-/

set_option autoImplicit false

namespace Rendezvous

open Barrier

namespace Barrier

/-- A construction waits for nobody. -/
theorem Construction.finished_of_stuck {s : Construction} {supply : Supply}
    {fault : Option PrimitiveError} (stuck : s.step supply fault = none) :
    ∃ r, s = .finished r := by
  cases s with
  | finished r => exact ⟨r, rfl⟩
  | check n shared =>
    simp only [step] at stuck
    split at stuck
    · cases stuck
    · split at stuck
      · cases stuck
      · split at stuck <;> cases stuck
  | makeLock n shared => cases fault <;> cases stuck
  | makeEven n shared | makeOdd n shared evenGate =>
    simp only [step] at stuck
    split at stuck <;> cases stuck
  | undoEven | undoLock => cases stuck

/-- The construction is for so many parties. -/
def Construction.For (n : UInt32) : Construction → Prop
  | check m _ | makeLock m _ | makeEven m _ | makeOdd m _ _ => m = n
  | finished (.ok b) => b.parties = n ∧ b.locked = false
  | undoEven .. | undoLock _ | finished (.error _) => True

theorem Construction.For.step {n : UInt32} {s : Construction} {supply : Supply}
    {fault : Option PrimitiveError} {turn : Construction.Turn} (hs : s.For n)
    (move : s.step supply fault = some turn) : turn.stage.For n := by
  have leads := leads_of_step move
  generalize turn.stage = t at leads ⊢
  cases leads with
  | check | makeLock | makeEven => exact hs
  | makeOdd => exact ⟨hs, rfl⟩
  | undoEven | undoLock | fails => trivial

end Barrier

namespace Handle

/-! ## Purposes -/

def Errand.Serves : Errand → Purpose → Prop
  | init parties shared, p => p = .init parties shared
  | resolve, p => p = .inquire .wait
  | discard, p => p = .inquire .destroy

def Next.Serves : Next → Purpose → Prop
  | answer _, _ => True
  | again, p | resolve, p => p = .inquire .wait
  | discard, p | claim, p => p = .inquire .destroy

/-- A call for the purpose can get to this stage. -/
def Operation.Serves : Operation → Purpose → Prop
  | knock q, p | look q, p => p = .inquire q
  | inside .., p => p = .inquire .wait
  | probe _ gauge _, p => p = .inquire (.gauge gauge)
  | leave n, p | unguard n, p | abandon n, p => n.Serves p
  | guard e, p => e.guarded = true ∧ e.Serves p
  | reserve e, p | inspect e, p | build e _, p | announce e _, p | store e _, p => e.Serves p
  | release e n, p | giveUp e n, p => e.Serves p ∧ n.Serves p
  | claim, p | verify, p | seize _, p | clear _, p | detach _, p | tearDown .., p =>
      p = .inquire .destroy
  | finished _, _ => True

theorem Purpose.serves_first (p : Purpose) : p.first.Serves p := by cases p <;> rfl

theorem Next.Serves.stage {n : Next} {p : Purpose} (h : n.Serves p) : n.stage.Serves p := by
  cases n with
  | resolve | discard => exact ⟨rfl, h⟩
  | _ => exact h

theorem Errand.Serves.afterSlot {e : Errand} {n : Next} {p : Purpose} (h : n.Serves p) :
    (e.afterSlot n).Serves p := by
  unfold Errand.afterSlot
  split
  · exact h
  · exact h.stage

theorem Errand.Serves.onSuccess {e : Errand} {p : Purpose} (h : e.Serves p) :
    e.onSuccess.Serves p := by
  cases e with
  | resolve => exact h
  | _ => trivial

theorem Errand.Serves.inspect {e : Errand} {p : Purpose} (h : e.Serves p) (s : Slot) :
    (e.inspect s).Serves p := by
  cases e <;> cases s <;> first | exact h | exact ⟨h, trivial⟩ | exact ⟨h, h⟩

theorem Inquiry.serves_look (q : Inquiry) (a : Arena) (s : Slot) :
    (q.look a s).Serves (.inquire q) := by
  cases q <;> cases s <;> first | rfl | trivial

variable {a : Arena} {h : Nat} {c : Cancellation} {supply : Supply} {fault : Option PrimitiveError}
  {op : Operation} {turn : Operation.Turn}

theorem Operation.Serves.step {p : Purpose} (hp : op.Serves p)
    (move : op.step a h c supply fault = some turn) : turn.stage.Serves p := by
  cases stride_of_step move with
  | look =>
    obtain rfl := hp
    exact Inquiry.serves_look ..
  | inspect => exact Errand.Serves.inspect hp _
  | leave | unguard | abandon => exact Next.Serves.stage hp
  | release | giveUp => exact Errand.Serves.afterSlot hp.2
  | guard => exact hp.2
  | failed => exact ⟨hp, trivial⟩
  | store => exact ⟨hp, Errand.Serves.onSuccess hp⟩
  | outside | probed | keptOut | verifyEmpty | seizeNot | tornDown => trivial
  | _ => exact hp

/-! ## What is known of the slot -/

/-- The errand builds for so many parties when its slot is in this state. -/
def Errand.Builds (s : Slot) (n : UInt32) : Errand → Prop
  | init parties _ => parties = n ∧ s.barrier? = none
  | resolve => s = .unbuilt n
  | discard => False

/-- The errand has reason to replace the one state of its slot by the other. -/
def Errand.Plans (a : Arena) (s new : Slot) (e : Errand) : Prop :=
  match new with
  | .live b => e.Builds s (a.barrier b).parties
  | .empty => e = .discard ∧ ∃ n, s = .unbuilt n
  | .unbuilt _ => False

/-- What the operation knows of its slot. -/
def Operation.Fits (a : Arena) (h : Nat) : Operation → Prop
  | inside b _ | probe b _ _ => a.slot h = .live b
  | build e s => ∃ n, e.Builds (a.slot h) n ∧ s.For n
  | announce e new | store e new => e.Plans a (a.slot h) new
  | release .. | verify | abandon _ => (a.holds h).sharers = 0
  | seize b | clear b => a.slot h = .live b ∧ (a.holds h).sharers = 0
  | detach _ => a.slot h = .empty ∧ (a.holds h).sharers = 0
  | _ => True

/-- What an operation knows stays true as long as its slot stays as it is, nobody comes to share
what it holds for itself, and the barrier it has in hand is the same. -/
theorem Operation.Fits.congr {a' : Arena} (hf : op.Fits a h)
    (slot : op.hands.grip ≠ .none → a'.slot h = a.slot h)
    (alone : op.hands.grip = .exclusive → (a.holds h).sharers = 0 → (a'.holds h).sharers = 0)
    (parties : ∀ b, op.hands.owns = some b → (a'.barrier b).parties = (a.barrier b).parties) :
    op.Fits a' h := by
  cases op with
  | inside b w | probe b gauge w => exact (slot nofun).trans hf
  | build e s =>
    unfold Fits
    rw [slot nofun]
    exact hf
  | announce e new | store e new =>
    show e.Plans a' (a'.slot h) new
    rw [slot nofun]
    cases new with
    | live b =>
      show e.Builds _ (a'.barrier b).parties
      rw [parties b rfl]
      exact hf
    | _ => exact hf
  | release e n | verify | abandon n => exact alone rfl hf
  | seize b | clear b | detach b => exact ⟨(slot nofun).trans hf.1, alone rfl hf.2⟩
  | _ => trivial

theorem Next.fits_stage (n : Next) : n.stage.Fits a h := by cases n <;> trivial

theorem Errand.fits_afterSlot (e : Errand) (n : Next) : (e.afterSlot n).Fits a h := by
  unfold afterSlot
  split
  · trivial
  · exact Next.fits_stage n

theorem Errand.fits_inspect (e : Errand) : (e.inspect (a.slot h)).Fits a h := by
  cases e <;> cases slot : a.slot h
  all_goals
    first
      | trivial
      | exact ⟨_, ⟨rfl, by rw [slot]; rfl⟩, rfl⟩
      | exact ⟨_, slot, rfl⟩
      | exact ⟨rfl, _, slot⟩

theorem Inquiry.fits_look (q : Inquiry) : (q.look a (a.slot h)).Fits a h := by
  cases q <;> cases slot : a.slot h <;> trivial

/-- Every turn leaves an operation with what it has reason to know. -/
theorem Operation.Fits.step (hh : h < a.handles.size) (hf : op.Fits a h)
    (move : op.step a h c supply fault = some turn) : turn.stage.Fits turn.arena h := by
  cases stride_of_step move with
  | look => exact Inquiry.fits_look _
  | inside | probe => exact hf
  | leave | unguard | abandon => exact Next.fits_stage _
  | inspect => exact Errand.fits_inspect _
  | build stepped =>
    obtain ⟨n, builds, suits⟩ := hf
    exact ⟨n, builds, suits.step stepped⟩
  | @built e x =>
    obtain ⟨n, builds, suits⟩ := hf
    show e.Builds (a.slot h) ((a.adopt x).1.barrier a.barriers.size).parties
    rw [Arena.barrier_adopt_self, suits.1]
    exact builds
  | @announce e new =>
    show e.Plans (a.setHolds h _) ((a.setHolds h _).slot h) new
    rw [Arena.slot_setHolds]
    exact hf
  | @store e new alone =>
    show ((a.setSlot h new).holds h).sharers = 0
    rw [Arena.holds_setSlot]
    exact alone
  | release | giveUp => exact Errand.fits_afterSlot _ _
  | claim free =>
    show ((a.setHolds h _).holds h).sharers = 0
    rw [Arena.holds_setHolds_self _ hh]
    simp only [Holds.free, Bool.and_eq_true, decide_eq_true_eq] at free
    exact free.1.1
  | verify live => exact ⟨live, hf⟩
  | verifyEmpty | verifyUnbuilt => exact hf
  | seize => exact hf
  | seizeNot => exact hf.2
  | clear =>
    refine ⟨Arena.slot_setSlot_self _ hh, ?_⟩
    rw [Arena.holds_setSlot]
    exact hf.2
  | _ => trivial

/-! ## Answers -/

/-- The answer that an operation has settled on. -/
def Operation.answer? : Operation → Option Result
  | leave (.answer r) | release _ (.answer r) | giveUp _ (.answer r) | unguard (.answer r)
  | abandon (.answer r) | finished r => some r
  | build _ (.finished (.error err)) => some (.error err)
  | detach _ | tearDown .. => some (.ok .done)
  | _ => none

theorem Errand.answer?_afterSlot (e : Errand) (r : Result) :
    (e.afterSlot (.answer r)).answer? = some r := by
  unfold afterSlot
  split <;> rfl

/-- An operation that has settled on an answer is over, or can go on, and keeps to it. -/
theorem Operation.answer?_step {r : Result} (settled : op.answer? = some r) (a : Arena) (h : Nat)
    (c : Cancellation) (supply : Supply) (fault : Option PrimitiveError) :
    op = .finished r ∨
      ∃ turn, op.step a h c supply fault = some turn ∧ turn.stage.answer? = some r := by
  cases op with
  | leave n | unguard n | abandon n =>
    cases n with
    | answer r' =>
      obtain rfl := Option.some.inj settled
      exact .inr ⟨_, rfl, rfl⟩
    | _ => cases settled
  | release e n | giveUp e n =>
    cases n with
    | answer r' =>
      obtain rfl := Option.some.inj settled
      exact .inr ⟨_, rfl, Errand.answer?_afterSlot e _⟩
    | _ => cases settled
  | finished r' =>
    obtain rfl := Option.some.inj settled
    exact .inl rfl
  | build e s =>
    cases s with
    | finished r' =>
      cases r' with
      | error err =>
        obtain rfl := Option.some.inj settled
        exact .inr ⟨_, rfl, rfl⟩
      | ok => cases settled
    | _ => cases settled
  | detach b => exact .inr ⟨_, rfl, settled⟩
  | tearDown b t =>
    obtain rfl := Option.some.inj settled
    cases t <;> exact .inr ⟨_, rfl, rfl⟩
  | _ => cases settled

end Handle

end Rendezvous
