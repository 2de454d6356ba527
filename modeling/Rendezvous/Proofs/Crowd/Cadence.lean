import Rendezvous.Proofs.Crowd.Generation
import Rendezvous.Proofs.Crowd.Users

/-!
# Users that keep step

Suppose that a barrier has as many users as make up a generation, and that nobody is ever asked to
stop. Then a generation cannot end without all of them, so that every user takes part in every
generation, once. It follows that a user which has been through `k` waits is in its wait number `k`,
and that this is the generation it stands in (`InStep.standing`); a user that does not stand in any
has been through as many waits as generations have ended (`InStep.idle`).

Both are needed for either: at the moment at which a generation ends, everybody inside stands in it
(`Convoy.all_stand`), and these are all the users there are.
-/

set_option autoImplicit false

namespace Rendezvous

open Barrier

namespace Crowd

variable {parties : UInt32} {b : Barrier} {settings : Nat → Cancellation} {s : Crowd}

/-! ## Crowds in which nobody is asked to stop -/

/-- There has always been room, and nobody was asked to stop. -/
structure Unasked (parties : UInt32) (b : Barrier) (settings : Nat → Cancellation) (s : Crowd) :
    Prop where
  reached : Schedule.Reaches (Crowd.step (.upTo parties.toNat)) (around b settings) s
  calm : ∀ thread, (s.settings thread).requested = false

namespace Unasked

theorem convoy (h : Unasked parties b settings s) (new : Pristine parties b) : Convoy s :=
  .of_reaches new (fun _ => rfl) (Rules.confines_upTo (Nat.le_refl parties.toNat)) h.reached

/-- Nobody acts on a request, since there is none. -/
theorem unheard (h : Unasked parties b settings s) (new : Pristine parties b) {v : Visit}
    (hv : v ∈ s.visits) : v.stage.heard = false := by
  obtain ⟨type, state, heeds⟩ := heeds_of_reaches new (fun _ => rfl) h.reached v hv
  apply Bool.eq_false_iff.mpr
  intro heard
  obtain ⟨-, -, requested⟩ := heeds.heard heard
  cases (h.calm v.thread).symm.trans requested

theorem not_withdrawn (h : Unasked parties b settings s) (new : Pristine parties b) {v : Visit}
    (hv : v ∈ s.visits) (n during : Nat) : v.arrival ≠ .withdrawn n during := by
  intro withdrawn
  have convoy := h.convoy new
  have heard := convoy.register.heard_of_withdrawn hv (convoy.excused v hv) withdrawn
  cases (h.unheard new hv).symm.trans heard

/-- So every wait that is over has got one of the two outcomes. -/
theorem ok_of_over (h : Unasked parties b settings s) (new : Pristine parties b) {v : Visit}
    (hv : v ∈ s.visits) (gone : v.inside = false) :
    ∃ outcome, v.stage = .finished (.ok outcome) := by
  cases stage : v.stage with
  | finished r =>
    rcases r with e | outcome
    · rcases (h.convoy new).excused v hv e stage with ⟨rfl, -⟩ | ⟨n, last⟩
      · have unheard := h.unheard new hv
        rw [stage] at unheard
        cases unheard
      · have fit := (h.convoy new).fit v hv
        simp [Visit.refused, last, stage] at fit
    · exact ⟨outcome, rfl⟩
  | _ => simp [Visit.inside, Wait.isOver, stage] at gone

theorem after (h : Unasked parties b settings s) {i : Nat} {v : Visit} {turn : Wait.Turn}
    (hv : s.visits[i]? = some v)
    (hturn : v.stage.step s.barrier (s.settings v.thread) none = some turn) :
    Unasked parties b settings (s.after i v turn) where
  reached := by
    apply h.reached.tail (.go i)
    simp [Crowd.step, hv, Rules.permits, hturn]
  calm := by
    intro thread
    show (if thread = v.thread then turn.cancel else s.settings thread).requested = false
    split
    · rw [Wait.requested_step hturn]
      exact h.calm v.thread
    · exact h.calm thread

end Unasked

/-! ## Rounds -/

/-- How many waits of a thread are over. -/
def rounds (s : Crowd) (thread : Nat) : Nat :=
  s.visits.countP fun v => v.thread = thread && !v.inside

theorem rounds_begin (visits : List Visit) (newcomer thread : Nat) :
    rounds { s with visits := visits ++ [{ thread := newcomer }] } thread =
      rounds { s with visits } thread := by
  apply countP_begin
  simp [Visit.inside, Wait.isOver]

theorem rounds_after {i : Nat} {v : Visit} {turn : Wait.Turn} (hv : s.visits[i]? = some v)
    (inside : v.inside = true) (thread : Nat) :
    (s.after i v turn).rounds thread =
      s.rounds thread + (v.thread = thread && turn.stage.isOver).toNat := by
  have change := countP_after (fun v => v.thread = thread && !v.inside) turn hv
  have gone : (!(v.enter s.trips turn.stage).inside) = turn.stage.isOver := Bool.not_not _
  simp only [inside, Bool.not_true, Bool.and_false, Bool.toNat_false, Nat.add_zero, gone] at change
  exact change

theorem rounds_after_of_ne {i : Nat} {v : Visit} {turn : Wait.Turn} (hv : s.visits[i]? = some v)
    (inside : v.inside = true) {thread : Nat} (ne : v.thread ≠ thread) :
    (s.after i v turn).rounds thread = s.rounds thread := by
  rw [rounds_after hv inside, decide_eq_false ne]
  rfl

/-- What holds of users that are as many as make up a generation and are not asked to stop. -/
structure InStep (users : List Nat) (parties : UInt32) (b : Barrier)
    (settings : Nat → Cancellation) (s : Crowd) : Prop where
  unasked : Unasked parties b settings s
  only : ∀ v ∈ s.visits, v.thread ∈ users
  /-- Whoever stands in a generation has been through as many waits as came before it. -/
  standing : ∀ v ∈ s.visits, v.inside = true → ∀ g, v.standsIn g = true → s.rounds v.thread = g
  /-- Whoever stands in none has been through as many waits as there were generations. -/
  idle : ∀ thread ∈ users, (∀ v ∈ s.visits, v.thread = thread → v.inside = true →
    ∀ g, v.standsIn g = false) → s.rounds thread = s.trips

namespace InStep

variable {users : List Nat}

theorem start (calm : ∀ thread, (settings thread).requested = false) :
    InStep users parties b settings (around b settings) where
  unasked := ⟨.refl _, calm⟩
  only _ hv := (List.not_mem_nil hv).elim
  standing _ hv := (List.not_mem_nil hv).elim
  idle _ _ _ := rfl

theorem rounds_of_isOutside (h : InStep users parties b settings s) {thread : Nat}
    (user : thread ∈ users) (outside : s.isOutside thread = true) :
    s.rounds thread = s.trips := by
  apply h.idle thread user
  intro v hv own inside
  cases (isOutside_iff.mp outside v hv own).symm.trans inside

theorem begin (h : InStep users parties b settings s) (new : Pristine parties b)
    (few : users.length ≤ parties.toNat) {thread : Nat} (user : thread ∈ users)
    (outside : s.isOutside thread = true) :
    InStep users parties b settings
      { s with visits := s.visits ++ [{ thread := thread }] } where
  unasked := by
    have register := (h.unasked.convoy new).register
    have move : s.step {} (.begin thread) =
        some { s with visits := s.visits ++ [{ thread := thread }] } := by
      simp [Crowd.step, outside, Rules.admits]
    exact ⟨h.unasked.reached.tail _ (register.begins_upTo h.only user few move), h.unasked.calm⟩
  only := by
    intro v hv
    rcases List.mem_append.mp hv with old | new
    · exact h.only v old
    · rw [List.mem_singleton.mp new]
      exact user
  standing := by
    intro v hv inside g stands
    rw [rounds_begin]
    rcases List.mem_append.mp hv with old | new
    · exact h.standing v old inside g stands
    · rw [List.mem_singleton.mp new] at stands
      cases stands
  idle := by
    intro other member idle
    rw [rounds_begin]
    apply h.idle other member
    intro v hv
    exact idle v (List.mem_append_left _ hv)

/-- A thread that is outside changes its type. -/
theorem retype (h : InStep users parties b settings s) {thread : Nat} (type : CancelType)
    (outside : s.isOutside thread = true) :
    InStep users parties b settings
      (s.setSettings thread ((s.settings thread).setType type)) where
  unasked := by
    refine ⟨h.unasked.reached.tail (.adjust thread type (s.settings thread).state)
      (if_pos outside), fun other => ?_⟩
    show (if other = thread then _ else s.settings other).requested = false
    split
    · exact h.unasked.calm thread
    · exact h.unasked.calm other
  only := h.only
  standing := h.standing
  idle := h.idle

/-! ### Turns -/

section

variable {i : Nat} {v : Visit} {turn : Wait.Turn}

/-- Whoever has not been counted yet has been through as many waits as there were generations. -/
theorem rounds_of_due (h : InStep users parties b settings s) (new : Pristine parties b)
    (hv : s.visits[i]? = some v) (inside : v.inside = true)
    (free : ∀ g, v.standsIn g = false) : s.rounds v.thread = s.trips := by
  have member := List.mem_of_getElem? hv
  apply h.idle v.thread (h.only v member)
  intro w hw own inw
  obtain ⟨j, hj⟩ := List.mem_iff_getElem?.mp hw
  obtain rfl := (h.unasked.convoy new).register.alone hj hv own inw inside
  obtain rfl := Option.some.inj (hv.symm.trans hj)
  exact free

/-- A wait that ends is that of the generation before the open one. -/
theorem rounds_of_over (h : InStep users parties b settings s) (new : Pristine parties b)
    (hv : s.visits[i]? = some v)
    (hturn : v.stage.step s.barrier (s.settings v.thread) none = some turn)
    (gone : turn.stage.isOver = true) :
    (s.after i v turn).trips = s.trips ∧ s.rounds v.thread + 1 = s.trips := by
  have inside := inside_of_step hturn
  have member := List.mem_of_getElem? hv
  have there := enter_mem_after hv turn
  have later := h.unasked.after hv hturn
  have left : (v.enter s.trips turn.stage).inside = false := by
    rw [inside_enter, gone]
    rfl
  have trips : (s.after i v turn).trips = s.trips := by
    rw [trips_after]
    cases stage : turn.stage with
    | finished r => rfl
    | _ => simp [stage, Wait.isOver] at gone
  refine ⟨trips, ?_⟩
  obtain ⟨outcome, ok⟩ := later.ok_of_over new there left
  obtain ⟨g, stands, ended⟩ := (later.convoy new).ended_of_ok there ok
  rw [trips] at ended
  have kept : (v.enter s.trips turn.stage).arrival = v.arrival := by
    show v.arrival.entering s.trips turn.stage = v.arrival
    have stage : turn.stage = .finished (.ok outcome) := ok
    rw [stage]
    rfl
  have stands : v.standsIn g = true := by
    unfold Visit.standsIn at stands ⊢
    rwa [kept] at stands
  have near := (h.unasked.convoy new).near v member inside g stands
  rw [h.standing v member inside g stands]
  omega

theorem after_standing (h : InStep users parties b settings s) (new : Pristine parties b)
    (hv : s.visits[i]? = some v)
    (hturn : v.stage.step s.barrier (s.settings v.thread) none = some turn) :
    ∀ w ∈ (s.after i v turn).visits, w.inside = true → ∀ g, w.standsIn g = true →
      (s.after i v turn).rounds w.thread = g := by
  intro w hw inw g stands
  have inside := inside_of_step hturn
  have register := (h.unasked.convoy new).register
  have member := List.mem_of_getElem? hv
  obtain ⟨j, hj⟩ := List.mem_iff_getElem?.mp hw
  rcases visit_after hj with ⟨-, rfl⟩ | ⟨other, hj⟩
  · -- the wait goes on, and if it was counted just now, then in the open generation
    have going : turn.stage.isOver = false := by
      simpa [Visit.inside, Visit.enter] using inw
    show (s.after i v turn).rounds v.thread = g
    rw [rounds_after hv inside, going, Bool.and_false, Bool.toNat_false, Nat.add_zero]
    have due : v.arrival = .due → s.rounds v.thread = s.trips := by
      intro due
      apply h.rounds_of_due new hv inside
      intro g
      simp [Visit.standsIn, due]
    rcases (register.deed hv hturn).arrival_cases with ⟨-, same⟩ | ⟨-, uncounted, counted⟩ |
      ⟨-, uncounted, last, -⟩ | ⟨n, -, -, withdrawn, -⟩
    · refine h.standing v member inside g ?_
      simpa [Visit.standsIn, Visit.enter, same] using stands
    · rw [due uncounted]
      simpa [Visit.standsIn, Visit.enter, counted] using stands
    · rw [due uncounted]
      simpa [Visit.standsIn, Visit.enter, last] using stands
    · simp [Visit.standsIn, Visit.enter, withdrawn] at stands
  · have ne : v.thread ≠ w.thread := by
      intro same
      exact other (register.alone hj hv same.symm inw inside)
    rw [rounds_after_of_ne hv inside ne]
    exact h.standing w (List.mem_of_getElem? hj) inw g stands

theorem after_only (h : InStep users parties b settings s) (hv : s.visits[i]? = some v)
    (turn : Wait.Turn) : ∀ w ∈ (s.after i v turn).visits, w.thread ∈ users := by
  intro w hw
  rcases List.mem_or_eq_of_mem_set hw with old | rfl
  · exact h.only w old
  · exact h.only v (List.mem_of_getElem? hv)

/-- A generation that ends is one in which every user stands. -/
theorem stands_of_ends (h : InStep users parties b settings s) (new : Pristine parties b)
    (all : users.length = parties.toNat) (hv : s.visits[i]? = some v)
    (hturn : v.stage.step s.barrier (s.settings v.thread) none = some turn)
    (ends : (s.after i v turn).trips = s.trips + 1) (complete : s.barrier.countIn.missing = 0)
    (due : v.arrival = .due) (last : v.arrival.entering s.trips turn.stage = .last s.trips)
    {thread : Nat} (user : thread ∈ users) :
    ∃ w ∈ (s.after i v turn).visits, w.thread = thread ∧ w.inside = true ∧
      w.standsIn s.trips = true := by
  have later := (h.unasked.after hv hturn).convoy new
  obtain ⟨stand, stay⟩ :=
    (h.unasked.convoy new).all_stand hv (inside_of_step hturn) ends complete due last
  have full : (s.after i v turn).inside = users.length := by
    rw [Crowd.inside, List.countP_congr fun w hw => by rw [stay w hw], stand, all,
      parties_of_reaches new h.unasked.reached]
  -- were a user outside, fewer would be inside
  have inside : ¬ (s.after i v turn).isOutside thread = true := by
    intro outside
    have fewer := later.register.inside_lt (h.after_only hv turn) user outside
    rw [full] at fewer
    exact absurd fewer (Nat.lt_irrefl _)
  obtain ⟨w, hw, inw, own⟩ :=
    mem_insiders.mp (Decidable.not_not.mp (mt not_mem_insiders.mp inside))
  exact ⟨w, hw, own, inw, (stay w hw).symm.trans inw⟩

theorem after_idle (h : InStep users parties b settings s) (new : Pristine parties b)
    (all : users.length = parties.toNat) (hv : s.visits[i]? = some v)
    (hturn : v.stage.step s.barrier (s.settings v.thread) none = some turn) :
    ∀ thread ∈ users, (∀ w ∈ (s.after i v turn).visits, w.thread = thread → w.inside = true →
      ∀ g, w.standsIn g = false) → (s.after i v turn).rounds thread = (s.after i v turn).trips := by
  intro thread user free
  have inside := inside_of_step hturn
  have there := enter_mem_after hv turn
  have others : v.thread ≠ thread → (s.after i v turn).trips = s.trips →
      (s.after i v turn).rounds thread = (s.after i v turn).trips := by
    intro ne trips
    rw [rounds_after_of_ne hv inside ne, trips]
    apply h.idle thread user
    intro w hw own
    exact free w (mem_after_of_ne hv hw (own ▸ Ne.symm ne)) own
  rcases ((h.unasked.convoy new).register.deed hv hturn).arrival_cases with ⟨trips, same⟩ |
    ⟨trips, due, counted⟩ | ⟨trips, due, last, complete⟩ | ⟨n, -, -, withdrawn, -⟩
  · by_cases own : v.thread = thread
    · subst own
      cases gone : turn.stage.isOver with
      | true =>
        obtain ⟨trips, ended⟩ := h.rounds_of_over new hv hturn gone
        rw [rounds_after hv inside, trips, gone]
        simpa using ended
      | false =>
        rw [rounds_after hv inside, gone, Bool.and_false, trips]
        apply h.rounds_of_due new hv inside
        intro g
        have now := free _ there rfl (by rw [inside_enter, gone]; rfl) g
        simpa [Visit.standsIn, Visit.enter, same] using now
    · exact others own trips
  · by_cases own : v.thread = thread
    · -- it stands in the open generation
      have going : (v.enter s.trips turn.stage).inside = true := by
        cases stage : turn.stage with
        | finished r =>
          rw [stage] at counted
          cases due.symm.trans counted
        | _ => rfl
      have stands := free _ there own going s.trips
      simp [Visit.standsIn, Visit.enter, counted] at stands
    · exact others own trips
  · obtain ⟨w, hw, own, inw, stands⟩ :=
      h.stands_of_ends new all hv hturn trips complete due last user
    cases (free w hw own inw s.trips).symm.trans stands
  · cases (h.unasked.after hv hturn).not_withdrawn new there n s.trips withdrawn

end

theorem after (h : InStep users parties b settings s) (new : Pristine parties b)
    (all : users.length = parties.toNat) {i : Nat} {v : Visit} {turn : Wait.Turn}
    (hv : s.visits[i]? = some v)
    (hturn : v.stage.step s.barrier (s.settings v.thread) none = some turn) :
    InStep users parties b settings (s.after i v turn) where
  unasked := h.unasked.after hv hturn
  only := h.after_only hv turn
  standing := h.after_standing new hv hturn
  idle := h.after_idle new all hv hturn

end InStep

end Crowd

end Rendezvous
