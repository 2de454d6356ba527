import Mathlib.Data.List.Nodup
import Rendezvous.Proofs.Crowd.Request

/-!
# Users of a barrier

Where it is known which threads use a barrier, two things follow. No more are inside than there are
users, since nobody is inside twice, and one fewer while some user is outside
(`Register.inside_lt`); so a limit on those inside need not be enforced where the users are few
(`Register.begins_upTo`). And what a user is set to can be told at any time: a wait puts shields
over its settings, and takes them off again before it is over (`Disposed.step`).
-/

set_option autoImplicit false

namespace Rendezvous

namespace Barrier

/-- A wait that ends leaves its thread with the settings it came with. -/
theorem Wait.Under.restored {b : Barrier} {c : Cancellation} {w : Wait} {turn : Wait.Turn}
    {type : CancelType} {state : CancelState} (under : w.Under type state c)
    (hturn : w.step b c none = some turn) (ended : turn.stage.isOver = true) :
    turn.cancel = ⟨type, state, turn.cancel.requested⟩ := by
  cases w with
  | post g =>
    simp only [Wait.step] at hturn
    split at hturn <;> obtain rfl := Option.some.inj hturn <;> exact under
  | retracted g =>
    obtain rfl := Option.some.inj hturn
    exact under
  | blocked g shield w =>
    have own : (shield, c) = Cancellation.shieldDeferred ⟨type, state, c.requested⟩ := under
    rcases AtGate.blocked.cases hturn with ⟨r, rfl⟩ | ⟨s, d, w', -, -, rfl⟩
    · obtain rfl := Option.some.inj hturn
      have restored := Cancellation.unshield_shieldDeferred ⟨type, state, c.requested⟩
      rw [← own] at restored
      show c.unshield shield = ⟨type, state, (c.unshield shield).requested⟩
      rw [restored]
    · cases ended
  | claiming g shield w =>
    have own : (shield, c) = Cancellation.shield ⟨type, state, c.requested⟩ := under
    rcases AtGate.claiming.cases hturn with ⟨r, rfl⟩ | ⟨s, d, w', -, -, rfl⟩
    · obtain rfl := Option.some.inj hturn
      have restored := Cancellation.unshield_shield ⟨type, state, c.requested⟩
      rw [← own] at restored
      show c.unshield shield = ⟨type, state, (c.unshield shield).requested⟩
      rw [restored]
    · cases ended
  | enter | trip g | counted g | pause g | turnBack g | overtaken g | claim g =>
    obtain rfl := Option.some.inj hturn
    cases ended
  | lock | arrive | relock g | judge g =>
    simp only [Wait.step] at hturn
    split at hturn
    all_goals cases hturn <;> cases ended
  | finished r => cases hturn

end Barrier

open Barrier

namespace Crowd

variable {s t : Crowd}

/-! ## How many there are -/

theorem isOutside_iff {thread : Nat} :
    s.isOutside thread = true ↔ ∀ v ∈ s.visits, v.thread = thread → v.inside = false := by
  simp only [isOutside, List.all_eq_true, Visit.inside, Bool.or_eq_true, bne_iff_ne, ne_eq,
    Bool.not_eq_false']
  exact forall₂_congr fun v hv => Decidable.imp_iff_not_or.symm

/-- The threads that are inside. -/
def insiders (s : Crowd) : List Nat := (s.visits.filter Visit.inside).map Visit.thread

theorem length_insiders (s : Crowd) : s.insiders.length = s.inside := by
  rw [insiders, List.length_map, inside, List.countP_eq_length_filter]

theorem mem_insiders {thread : Nat} :
    thread ∈ s.insiders ↔ ∃ v ∈ s.visits, v.inside = true ∧ v.thread = thread := by
  simp [insiders, and_assoc]

theorem not_mem_insiders {thread : Nat} : thread ∉ s.insiders ↔ s.isOutside thread = true := by
  rw [mem_insiders, isOutside_iff]
  constructor
  · exact fun h v hv same => Bool.eq_false_iff.mpr fun inside => h ⟨v, hv, inside, same⟩
  · rintro h ⟨v, hv, inside, same⟩
    cases inside.symm.trans (h v hv same)

/-- Nobody is inside twice. -/
theorem Register.nodup_insiders (h : Register s) : s.insiders.Nodup := by
  rw [insiders, List.nodup_iff_pairwise_ne, List.pairwise_map, List.pairwise_filter,
    List.pairwise_iff_getElem]
  intro i j hi hj less inv inw same
  exact Nat.ne_of_lt less
    (h.alone (List.getElem?_eq_getElem hi) (List.getElem?_eq_getElem hj) same inv inw)

theorem Register.inside_lt (h : Register s) {users : List Nat}
    (only : ∀ v ∈ s.visits, v.thread ∈ users) {thread : Nat} (user : thread ∈ users)
    (outside : s.isOutside thread = true) : s.inside < users.length := by
  have apart : (thread :: s.insiders).Nodup :=
    List.nodup_cons.mpr ⟨not_mem_insiders.mpr outside, h.nodup_insiders⟩
  have among : thread :: s.insiders ⊆ users := by
    intro other member
    rcases List.mem_cons.mp member with rfl | member
    · exact user
    · obtain ⟨v, hv, -, rfl⟩ := mem_insiders.mp member
      exact only v hv
  have le := apart.length_le_of_subset among
  rwa [List.length_cons, length_insiders] at le

/-- Where the users are few, there is room for each of them. -/
theorem Register.begins_upTo (h : Register s) {users : List Nat} {room thread : Nat}
    (only : ∀ v ∈ s.visits, v.thread ∈ users) (user : thread ∈ users)
    (few : users.length ≤ room) (move : s.step {} (.begin thread) = some t) :
    s.step (.upTo room) (.begin thread) = some t := by
  simp only [Crowd.step, Bool.and_eq_true] at move
  split at move
  · next may =>
    have admitted : (Rules.upTo room).admits s.inside = true :=
      decide_eq_true (Nat.lt_of_lt_of_le (h.inside_lt only user may.1) few)
    simpa [Crowd.step, may.1, admitted] using move
  · cases move

/-- A turn of one thread leaves the visits of the others alone. -/
theorem mem_after_of_ne {i : Nat} {v w : Visit} {turn : Wait.Turn} (hv : s.visits[i]? = some v)
    (hw : w ∈ s.visits) (ne : w.thread ≠ v.thread) : w ∈ (s.after i v turn).visits := by
  obtain ⟨j, hj⟩ := List.mem_iff_getElem?.mp hw
  apply List.mem_of_getElem? (i := j)
  apply (List.getElem?_set_ne _).trans hj
  rintro rfl
  obtain rfl := Option.some.inj (hv.symm.trans hj)
  exact ne rfl

theorem isOutside_begin_of_ne {thread newcomer : Nat} (ne : thread ≠ newcomer)
    (outside : s.isOutside thread = true) :
    isOutside { s with visits := s.visits ++ [{ thread := newcomer }] } thread = true := by
  apply isOutside_iff.mpr
  intro v hv own
  rcases List.mem_append.mp hv with old | new
  · exact isOutside_iff.mp outside v old own
  · obtain rfl := List.mem_singleton.mp new
    exact absurd own.symm ne

theorem isOutside_after_of_ne {i : Nat} {v : Visit} (turn : Wait.Turn) {thread : Nat}
    (ne : thread ≠ v.thread) (outside : s.isOutside thread = true) :
    (s.after i v turn).isOutside thread = true := by
  apply isOutside_iff.mpr
  intro w hw own
  rcases List.mem_or_eq_of_mem_set hw with old | rfl
  · exact isOutside_iff.mp outside w old own
  · exact absurd own.symm ne

/-- The visit whose turn it was is there at its new stage. -/
theorem enter_mem_after {i : Nat} {v : Visit} (hv : s.visits[i]? = some v) (turn : Wait.Turn) :
    v.enter s.trips turn.stage ∈ (s.after i v turn).visits :=
  List.mem_of_getElem? (List.getElem?_set_self (List.getElem?_eq_some_iff.mp hv).1)

theorem inside_enter (v : Visit) (k : Nat) (w : Wait) : (v.enter k w).inside = !w.isOver := rfl

/-- A thread whose wait ends is outside, since nobody is inside twice. -/
theorem Register.isOutside_after (h : Register s) {i : Nat} {v : Visit} {turn : Wait.Turn}
    (hv : s.visits[i]? = some v) (inside : v.inside = true) (ended : turn.stage.isOver = true) :
    (s.after i v turn).isOutside v.thread = true := by
  apply isOutside_iff.mpr
  intro w hw own
  obtain ⟨j, hj⟩ := List.mem_iff_getElem?.mp hw
  rcases visit_after hj with ⟨-, rfl⟩ | ⟨other, hj⟩
  · rw [inside_enter, ended]
    rfl
  · apply Bool.eq_false_iff.mpr
    intro inw
    exact other (h.alone hj hv own inw inside)

/-! ## What they are set to -/

/-- The thread is of this type and in this state, whatever shields are up. -/
structure Disposed (thread : Nat) (type : CancelType) (state : CancelState) (s : Crowd) : Prop where
  outside : s.isOutside thread = true →
    s.settings thread = ⟨type, state, (s.settings thread).requested⟩
  inside : ∀ v ∈ s.visits, v.thread = thread → v.inside = true →
    v.stage.Heeds type state (s.settings thread)

theorem Disposed.of_isOutside {thread : Nat} {type : CancelType} {state : CancelState}
    (outside : s.isOutside thread = true)
    (same : s.settings thread = ⟨type, state, (s.settings thread).requested⟩) :
    Disposed thread type state s where
  outside _ := same
  inside v hv own inside := by
    cases inside.symm.trans (isOutside_iff.mp outside v hv own)

theorem Disposed.begin {thread : Nat} {type : CancelType} {state : CancelState}
    (h : Disposed thread type state s) {other : Nat} (free : s.isOutside other = true) :
    Disposed thread type state { s with visits := s.visits ++ [{ thread := other }] } where
  outside outside := h.outside <| isOutside_iff.mpr fun v hv own =>
    isOutside_iff.mp outside v (List.mem_append_left _ hv) own
  inside := by
    intro v hv own inside
    rcases List.mem_append.mp hv with old | new
    · exact h.inside v old own inside
    · obtain rfl := List.mem_singleton.mp new
      obtain rfl : other = thread := own
      exact .of_unheard (h.outside free) rfl

/-- What a thread is depends on nobody else's settings. -/
theorem Disposed.setSettings_of_ne {thread other : Nat} {type : CancelType} {state : CancelState}
    (h : Disposed thread type state s) (c : Cancellation) (ne : thread ≠ other) :
    Disposed thread type state (s.setSettings other c) := by
  have kept : (s.setSettings other c).settings thread = s.settings thread := if_neg ne
  constructor
  · intro outside
    rw [kept]
    exact h.outside outside
  · intro v hv own inside
    rw [kept]
    exact h.inside v hv own inside

/-- Asking a thread to stop does not change what it is. -/
theorem Disposed.request {thread : Nat} {type : CancelType} {state : CancelState}
    (h : Disposed thread type state s) (other : Nat) :
    Disposed thread type state (s.setSettings other (s.settings other).request) := by
  by_cases same : thread = other
  · subst same
    have asked : (s.setSettings thread (s.settings thread).request).settings thread =
        (s.settings thread).request := if_pos rfl
    constructor
    · intro outside
      rw [asked, h.outside outside]
      rfl
    · intro v hv own inside
      rw [asked]
      exact (h.inside v hv own inside).request
  · exact h.setSettings_of_ne _ same

/-- A turn leaves every thread what it is. -/
theorem Disposed.after {thread : Nat} {type : CancelType} {state : CancelState}
    (h : Disposed thread type state s) (register : Register s) {i : Nat} {v : Visit}
    {turn : Wait.Turn} (hv : s.visits[i]? = some v)
    (hturn : v.stage.step s.barrier (s.settings v.thread) none = some turn) :
    Disposed thread type state (s.after i v turn) := by
  have member := List.mem_of_getElem? hv
  have there := enter_mem_after hv turn
  by_cases own : v.thread = thread
  · subst own
    have heeds := h.inside v member rfl (inside_of_step hturn)
    have now : (s.after i v turn).settings v.thread = turn.cancel := if_pos rfl
    constructor
    · intro outside
      have ended : turn.stage.isOver = true := by
        simpa [Visit.inside, Visit.enter] using isOutside_iff.mp outside _ there rfl
      rw [now]
      exact heeds.under.restored hturn ended
    · intro w hw own inside
      obtain ⟨j, hj⟩ := List.mem_iff_getElem?.mp hw
      rw [now]
      rcases visit_after hj with ⟨-, rfl⟩ | ⟨other, hj⟩
      · exact heeds.step (register.agrees v member) hturn
      · -- nobody is inside twice
        exact absurd (register.alone hj hv own inside (inside_of_step hturn)) other
  · have kept : (s.after i v turn).settings thread = s.settings thread := if_neg (Ne.symm own)
    have old : ∀ w ∈ (s.after i v turn).visits, w.thread = thread → w ∈ s.visits := by
      intro w hw same
      rcases List.mem_or_eq_of_mem_set hw with old | rfl
      · exact old
      · exact absurd same own
    constructor
    · intro outside
      rw [kept]
      refine h.outside (isOutside_iff.mpr fun w hw same => ?_)
      have ne : w.thread ≠ v.thread := by
        rw [same]
        exact Ne.symm own
      exact isOutside_iff.mp outside w (mem_after_of_ne hv hw ne) same
    · intro w hw same inside
      rw [kept]
      exact h.inside w (old w hw same) same inside

end Crowd

end Rendezvous
