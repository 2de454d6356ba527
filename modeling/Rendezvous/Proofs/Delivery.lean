import Rendezvous.Barrier.Construction
import Rendezvous.Schedule

/-!
# What a construction delivers

A construction checks the number of parties, makes the lock and the gates, and may fail at any of
these. What one stage can come to is said once (`Construction.Leads`), and whatever holds all along
a construction is proved from that, case by case. `Delivered` are the barriers it can come to.
Whatever failed on the way, such a barrier is `Pristine`: nobody has arrived, the gates are empty and
the lock is free, and the number of parties is one that the check accepts.
-/

set_option autoImplicit false

namespace Rendezvous.Barrier

/-- One stage of a construction, made to fail or not. -/
def Construction.next (supply : Supply) (c : Construction) (fault : Option PrimitiveError) :
    Option Construction :=
  (c.step supply fault).map (·.stage)

/-- The barrier is what some construction for so many parties came to, shared or not, whatever
failed on the way. -/
def Delivered (supply : Supply) (parties : UInt32) (b : Barrier) : Prop :=
  ∃ shared, Schedule.Reaches (Construction.next supply) (.check parties shared) (.finished (.ok b))

/-- A new barrier as it has to be for a crowd. -/
structure Pristine (parties : UInt32) (b : Barrier) : Prop where
  parties_eq : b.parties = parties
  parties_pos : 0 < parties.toNat
  parties_le : parties.toNat ≤ Semaphore.maxValue.toNat
  missing : b.missing = parties
  generation : b.generation = 0
  free : b.locked = false
  empty : ∀ side, (b.gate side).value = 0
  listens : ∀ side, (b.gate side).rule = .whileBlocked

/-- What is known of a construction at its stages. -/
def Construction.Keeps (supply : Supply) (parties : UInt32) : Construction → Prop
  | .check n _ => n = parties
  | .makeLock n _ | .makeEven n _ =>
      n = parties ∧ 0 < parties.toNat ∧ parties.toNat ≤ Semaphore.maxValue.toNat
  | .makeOdd n _ s =>
      n = parties ∧ 0 < parties.toNat ∧ parties.toNat ≤ Semaphore.maxValue.toNat ∧
        s.value = 0 ∧ s.rule = supply.rule
  | .finished (.ok b) => supply.rule = .whileBlocked → Pristine parties b
  | .undoEven .. | .undoLock _ | .finished (.error _) => True

theorem Construction.makeGate_ok {supply : Supply} {index : Nat} {shared : Bool}
    {fault : Option PrimitiveError} {s : Semaphore} {event : Event}
    (h : makeGate supply index shared fault = (.ok s, event)) :
    s.value = 0 ∧ s.rule = supply.rule := by
  unfold makeGate at h
  split at h
  · cases h
  · split at h
    · next made =>
      cases h
      unfold Semaphore.create at made
      split at made
      · cases made
      · split at made
        · cases made
        · cases made
          exact ⟨rfl, rfl⟩
    · cases h

/-- What a stage of a construction comes to: it goes on with the number of parties that it began
with, or it undoes what it has made and fails. -/
inductive Construction.Leads (supply : Supply) : Construction → Construction → Prop where
  | check {n : UInt32} {shared : Bool} : n ≠ 0 → ¬ Semaphore.maxValue < n →
      Leads supply (.check n shared) (.makeLock n shared)
  | makeLock {n : UInt32} {shared : Bool} : Leads supply (.makeLock n shared) (.makeEven n shared)
  | makeEven {n : UInt32} {shared : Bool} {s : Semaphore} : s.value = 0 → s.rule = supply.rule →
      Leads supply (.makeEven n shared) (.makeOdd n shared s)
  | makeOdd {n : UInt32} {shared : Bool} {e s : Semaphore} : s.value = 0 → s.rule = supply.rule →
      Leads supply (.makeOdd n shared e) (.finished (.ok (fresh n shared e s)))
  | undoEven {c : Construction} {e : PrimitiveError} {s : Semaphore} :
      Leads supply c (.undoEven s e)
  | undoLock {c : Construction} {e : PrimitiveError} : Leads supply c (.undoLock e)
  | fails {c : Construction} {e : BarrierError} : Leads supply c (.finished (.error e))

theorem Construction.leads_of_step {supply : Supply} {c : Construction}
    {fault : Option PrimitiveError} {turn : Turn} (move : c.step supply fault = some turn) :
    Leads supply c turn.stage := by
  cases c with
  | check n shared =>
    simp only [step] at move
    split at move
    · obtain rfl := Option.some.inj move
      exact .fails
    · next positive =>
      split at move
      · obtain rfl := Option.some.inj move
        exact .fails
      · next few =>
        split at move <;> obtain rfl := Option.some.inj move
        · exact .check positive few
        · exact .fails
  | makeLock n shared =>
    cases fault <;> obtain rfl := Option.some.inj move
    · exact .makeLock
    · exact .fails
  | makeEven n shared =>
    simp only [step] at move
    split at move <;> obtain rfl := Option.some.inj move
    · next made =>
      obtain ⟨value, rule⟩ := makeGate_ok made
      exact .makeEven value rule
    · exact .undoLock
  | makeOdd n shared evenGate =>
    simp only [step] at move
    split at move <;> obtain rfl := Option.some.inj move
    · next made =>
      obtain ⟨value, rule⟩ := makeGate_ok made
      exact .makeOdd value rule
    · exact .undoEven
  | undoEven evenGate e =>
    obtain rfl := Option.some.inj move
    exact .undoLock
  | undoLock e =>
    obtain rfl := Option.some.inj move
    exact .fails
  | finished r => cases move

theorem Construction.keeps_next {supply : Supply} {parties : UInt32} {c d : Construction}
    {fault : Option PrimitiveError} (hc : c.Keeps supply parties)
    (h : c.next supply fault = some d) : d.Keeps supply parties := by
  obtain ⟨turn, move, rfl⟩ := Option.map_eq_some_iff.mp h
  have leads := leads_of_step move
  generalize turn.stage = d at leads ⊢
  cases leads with
  | check positive few =>
    obtain rfl := hc
    exact ⟨rfl, Nat.pos_of_ne_zero fun zero => positive (UInt32.toNat_inj.mp zero),
      Nat.le_of_not_lt few⟩
  | makeLock => exact hc
  | makeEven value rule =>
    obtain ⟨rfl, pos, le⟩ := hc
    exact ⟨rfl, pos, le, value, rule⟩
  | makeOdd value' rule' =>
    obtain ⟨rfl, pos, le, value, rule⟩ := hc
    intro listening
    refine ⟨rfl, pos, le, rfl, rfl, rfl, ?_, ?_⟩
    · rintro (_ | _)
      · exact value
      · exact value'
    · rintro (_ | _)
      · exact rule.trans listening
      · exact rule'.trans listening
  | undoEven | undoLock | fails => trivial

theorem Delivered.pristine {supply : Supply} {parties : UInt32} {b : Barrier}
    (h : Delivered supply parties b) (listening : supply.rule = .whileBlocked) :
    Pristine parties b := by
  obtain ⟨shared, reached⟩ := h
  have kept : (Construction.finished (.ok b)).Keeps supply parties :=
    reached.keeps (fun hc move => Construction.keeps_next hc move) rfl
  exact kept listening

/-- A gate as it comes out of a construction. -/
def Supply.gate (supply : Supply) : Semaphore :=
  { value := 0, poll := supply.poll, rule := supply.rule }

/-- Every number of parties that the check accepts is delivered, if there is memory. -/
theorem delivered_fresh {supply : Supply} {parties : UInt32} (pos : parties ≠ 0)
    (le : ¬ Semaphore.maxValue < parties) (memory : supply.memory = true) :
    Delivered supply parties (fresh parties false supply.gate supply.gate) := by
  have made : ∀ index, Construction.makeGate supply index false none =
      (.ok supply.gate, ⟨.semInit index 0 false, .done⟩) := by
    intro index
    simp [Construction.makeGate, Semaphore.create, Supply.gate]
  refine ⟨false, Schedule.reaches_run (show Schedule.run _ _ [none, none, none, none] = _ from ?_)⟩
  simp [Schedule.run, Construction.next, Construction.step, made, pos, le, memory]

end Rendezvous.Barrier
