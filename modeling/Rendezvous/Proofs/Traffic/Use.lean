import Rendezvous.Proofs.Delivery
import Rendezvous.Proofs.Plain
import Rendezvous.Proofs.Traffic.Deadlock

/-!
# A handle in use

Traffic on a single handle that nobody makes or destroys, with nothing made to fail. If the handle
was made for so many parties and not built, the first waits will try to build its barrier. What their
constructions come to is settled beforehand (`Construction.Yields`), whoever gets there first: they
all fail in the same way, or one of them builds the one barrier that the handle will ever have
(`InUse`).
-/

set_option autoImplicit false

namespace Rendezvous

open Barrier Handle

namespace Barrier

variable {supply : Supply} {c : Construction} {r r' : Except BarrierError Barrier} {n : UInt32}
  {turn : Construction.Turn}

/-! ## What a construction comes to -/

/-- With nothing made to fail the construction comes to this. -/
def Construction.Yields (supply : Supply) (c : Construction) (r : Except BarrierError Barrier) :
    Prop :=
  ∃ k, Schedule.run (next supply) c (List.replicate k none) = some (.finished r)

theorem Construction.Yields.step (yields : c.Yields supply r)
    (move : c.step supply none = some turn) : turn.stage.Yields supply r := by
  obtain ⟨k, run⟩ := yields
  cases k with
  | zero =>
    obtain rfl := Option.some.inj run
    cases move
  | succ k =>
    have here : next supply c none = some turn.stage := by rw [next, move]; rfl
    rw [List.replicate_succ, Schedule.run, here] at run
    exact ⟨k, run⟩

theorem Construction.Yields.of_finished (yields : (finished r').Yields supply r) : r' = r := by
  obtain ⟨k, run⟩ := yields
  cases k with
  | zero => exact Construction.finished.inj (Option.some.inj run)
  | succ k => cases run

/-- What the construction for so many parties comes to. -/
def Construction.verdict (supply : Supply) (n : UInt32) : Except BarrierError Barrier :=
  if n = 0 then .error (.invalidArgument .noParties)
  else if Semaphore.maxValue < n then
    .error (.invalidArgument (.tooManyParties n Semaphore.maxValue))
  else if supply.memory then .ok (fresh n false supply.gate supply.gate)
  else .error (.resourceExhausted "memory for a barrier")

theorem Construction.yields_verdict (supply : Supply) (n : UInt32) :
    (check n false).Yields supply (verdict supply n) := by
  have made (index : Nat) : makeGate supply index false none =
      (.ok supply.gate, ⟨.semInit index 0 false, .done⟩) := by
    simp [makeGate, Semaphore.create, Supply.gate]
  unfold verdict
  split
  · next zero => exact ⟨1, by simp [Schedule.run, next, Construction.step, zero]⟩
  · next nonzero =>
    split
    · next many => exact ⟨1, by simp [Schedule.run, next, Construction.step, nonzero, many]⟩
    · next few =>
      split
      · next memory =>
        exact ⟨4, by simp [Schedule.run, next, Construction.step, made, nonzero, few, memory,
          List.replicate]⟩
      · next memory => exact ⟨1, by simp [Schedule.run, next, Construction.step, nonzero, few, memory]⟩

end Barrier

namespace Handle

variable {a : Arena} {d : Cancellation} {supply : Supply} {r : Except BarrierError Barrier}
  {n : UInt32} {q : Inquiry} {op : Operation} {turn : Operation.Turn}

/-! ## Stages of a use -/

/-- The errand on which the stage is, if it is one, and what came of it, fit with what constructions
come to. -/
def Operation.OnTrack (supply : Supply) (r : Except BarrierError Barrier) : Operation → Prop
  | build _ c => c.Yields supply r
  | announce _ new | store _ new => new = .live 0
  | release _ (.answer x) | giveUp _ (.answer x) | unguard (.answer x) =>
      ∃ err, r = .error err ∧ x = .error err
  | abandon _ => False
  | _ => True

theorem Errand.eq_resolve {e : Errand} (use : q.isUse = true) (serves : e.Serves (.inquire q)) :
    e = .resolve := by
  cases e with
  | resolve => rfl
  | init => cases serves
  | discard =>
    cases serves
    cases use

/-- A use goes on as it should, if its handle is unbuilt or owns the first barrier. -/
theorem Operation.OnTrack.step (track : op.OnTrack supply r) (use : q.isUse = true)
    (serves : op.Serves (.inquire q)) (yields : (Construction.check n false).Yields supply r)
    (slot : a.slot 0 = .unbuilt n ∨ a.slot 0 = .live 0)
    (first : ∀ e x, op = .build e (.finished (.ok x)) → a.barriers.size = 0)
    (move : op.step a 0 d supply none = some turn) : turn.stage.OnTrack supply r := by
  cases stride_of_step move with
  | @look q' =>
    rcases slot with slot | slot <;> rw [slot] <;> cases q' <;> trivial
  | @leave m | @unguard m => cases m <;> trivial
  | @inspect e =>
    obtain rfl := Errand.eq_resolve use serves
    rcases slot with slot | slot <;> rw [slot]
    · exact yields
    · trivial
  | build stepped => exact Construction.Yields.step track stepped
  | @built e x => exact congrArg Slot.live (first e x rfl)
  | failed =>
    obtain rfl := Construction.Yields.of_finished track
    exact ⟨_, rfl, rfl⟩
  | announce => exact track
  | @store e new =>
    obtain rfl := Errand.eq_resolve use serves
    trivial
  | @release e m | @giveUp e m =>
    obtain rfl := Errand.eq_resolve use serves.1
    cases m with
    | answer => exact track
    | _ => trivial
  | abandon => exact track.elim
  | verifyEmpty | verifyUnbuilt | seizeNot =>
    cases serves
    cases use
  | _ => trivial

end Handle

/-- The move that this is, on handle 0 and with nothing made to fail. -/
def Act.move (supply : Supply) : Act → Traffic.Move
  | .call thread q => .begin thread 0 (.inquire q)
  | .go i => .go i supply
  | .request thread => .request thread
  | .adjust thread type state => .adjust thread type state

namespace Traffic

variable {supply : Supply} {n : UInt32} {r : Except BarrierError Barrier} {s t : Traffic} {x : Act}
  {i : Nat} {v w : Job}

/-! ## Using the handle -/

/-- Nothing fails. -/
def nothing : Ask → Bool := fun _ => false

/-- Does something with the handle other than making or destroying it. -/
def act (supply : Supply) (s : Traffic) (x : Act) : Option Traffic :=
  match x with
  | .call _ q => if q.isUse then s.step nothing (x.move supply) else none
  | _ => s.step nothing (x.move supply)

/-- What is heard when a call of this thread comes to this stage. -/
def heard (thread : Nat) : Operation → List Saying
  | .finished r => [.hears thread r]
  | _ => []

theorem heard_of_going {op : Operation} (thread : Nat) (going : op.isOver = false) :
    heard thread op = [] := by
  cases op with
  | finished r => cases going
  | _ => rfl

/-- What is seen of it from outside. -/
def sayings (supply : Supply) (s : Traffic) : Act → List Saying
  | .call thread q => [.calls thread q]
  | .go i => ((s.act supply (.go i)).bind (·.jobs[i]?)).elim [] fun v => heard v.thread v.stage
  | .request thread => [.asked thread]
  | .adjust thread type state => [.adjusts thread type state]

theorem step_of_act (h : s.act supply x = some t) : s.step nothing (x.move supply) = some t := by
  cases x with
  | call thread q =>
    simp only [act] at h
    split at h
    · exact h
    · cases h
  | _ => exact h

/-- What the slot owns, and how it comes that it owns nothing yet. -/
inductive Place (n : UInt32) (r : Except BarrierError Barrier) (s : Traffic) : Prop where
  | unbuilt : s.arena.slot 0 = .unbuilt n → s.arena.barriers = #[] → Place n r s
  /-- A barrier has been built, and somebody is about to put it there. -/
  | built {b : Barrier} {w : Job} : s.arena.slot 0 = .unbuilt n → s.arena.barriers = #[b] →
      r = .ok b → w ∈ s.jobs → w.stage.hands.owns = some 0 → Place n r s
  | live {b : Barrier} : s.arena.slot 0 = .live 0 → s.arena.barriers.size = 1 → r = .ok b →
      Place n r s

theorem Place.slot (p : Place n r s) : s.arena.slot 0 = .unbuilt n ∨ s.arena.slot 0 = .live 0 := by
  cases p with
  | unbuilt slot | built slot => exact .inl slot
  | live slot => exact .inr slot

structure InUse (supply : Supply) (n : UInt32) (r : Except BarrierError Barrier) (s : Traffic) :
    Prop where
  custody : Custody s
  yields : (Construction.check n false).Yields supply r
  single : s.arena.handles.size = 1
  uses : ∀ v ∈ s.jobs, ∃ q, q.isUse = true ∧ v.purpose = .inquire q
  onTrack : ∀ v ∈ s.jobs, v.stage.OnTrack supply r
  place : Place n r s

namespace InUse

theorem handle (u : InUse supply n r s) (hv : v ∈ s.jobs) : v.handle = 0 := by
  have known := u.custody.known v hv
  rw [u.single] at known
  omega

/-- Nobody makes or destroys the handle. -/
theorem serves (u : InUse supply n r s) (hv : v ∈ s.jobs) :
    ∃ q, q.isUse = true ∧ v.stage.Serves (.inquire q) := by
  obtain ⟨q, use, aim⟩ := u.uses v hv
  exact ⟨q, use, aim ▸ u.custody.serves v hv⟩

/-- Whoever works at a barrier works at the one that the slot owns. -/
theorem slot_of_uses (u : InUse supply n r s) (hv : v ∈ s.jobs) {b : Nat}
    (uses : v.stage.uses = some b) : s.arena.slot 0 = .live 0 ∧ b = 0 := by
  obtain ⟨q, use, serves⟩ := u.serves hv
  have live : s.arena.slot 0 = .live b := by
    rw [← u.handle hv]
    refine ((u.custody.fits v hv).place uses).resolve_right fun owns => ?_
    cases stage : v.stage with
    | detach | tearDown =>
      rw [stage] at serves
      cases serves
      cases use
    | announce | store =>
      rw [stage] at uses
      cases uses
    | _ =>
      rw [stage] at owns
      cases owns
  rcases u.place.slot with slot | slot
  · cases slot.symm.trans live
  · exact ⟨slot, Slot.live.inj (live.symm.trans slot)⟩

/-- Whoever has a barrier in hand or is building one does so for a wait, under the process-wide
lock. -/
theorem guards_of_builder (u : InUse supply n r s) (hv : v ∈ s.jobs)
    (builds : v.stage.hands.owns = some 0 ∨ ∃ e c, v.stage = .build e c) : v.guards = true := by
  obtain ⟨q, use, serves⟩ := u.serves hv
  rw [Job.guards]
  cases stage : v.stage with
  | build e c | announce e new | store e new =>
    rw [stage] at serves
    obtain rfl := Errand.eq_resolve use serves
    rfl
  | detach | tearDown =>
    rw [stage] at serves
    cases serves
    cases use
  | _ =>
    rw [stage] at builds
    rcases builds with builds | ⟨_, _, builds⟩ <;> cases builds

/-- Nothing has been built while somebody has a barrier just built. -/
theorem size_of_built (u : InUse supply n r s) (hv : s.jobs[i]? = some v) {e : Errand} {b : Barrier}
    (stage : v.stage = .build e (.finished (.ok b))) : s.arena.barriers.size = 0 := by
  have mem := List.mem_of_getElem? hv
  cases u.place with
  | unbuilt _ bare => simp [bare]
  | @built _ w _ _ _ hw owns =>
    -- two calls would have the process-wide lock
    obtain ⟨j, hj⟩ := List.mem_iff_getElem?.mp hw
    have one : s.jobs.countP Job.guards ≤ 1 := by
      rw [u.custody.guarded]
      exact Bool.toNat_le _
    obtain rfl := eq_of_countP_le_one one hv hj (u.guards_of_builder mem (.inr ⟨_, _, stage⟩))
      (u.guards_of_builder hw (.inl owns))
    obtain rfl := Option.some.inj (hv.symm.trans hj)
    rw [stage] at owns
    cases owns
  | live slot =>
    obtain ⟨q, use, serves⟩ := u.serves mem
    have fits := u.custody.fits v mem
    rw [stage] at serves fits
    obtain rfl := Errand.eq_resolve use serves
    obtain ⟨m, builds, -⟩ := fits
    rw [u.handle mem] at builds
    cases slot.symm.trans builds

/-- Whoever is about to write the slot has built the barrier, and the slot is unbuilt. -/
theorem built_of_store (u : InUse supply n r s) (hv : v ∈ s.jobs) {e : Errand} {new : Slot}
    (stage : v.stage = .store e new) :
    ∃ b, r = .ok b ∧ s.arena.slot 0 = .unbuilt n ∧ s.arena.barriers = #[b] := by
  have track := u.onTrack v hv
  rw [stage] at track
  obtain rfl : new = .live 0 := track
  have owns : v.stage.hands.owns = some 0 := by rw [stage]; rfl
  cases u.place with
  | unbuilt _ bare =>
    have owned := u.custody.lt_of_owned (Nat.add_pos_left (Custody.owns_pos hv owns) _)
    rw [bare] at owned
    cases owned
  | @built b _ was one isOk => exact ⟨b, isOk, was, one⟩
  | live was => exact absurd was (u.handle hv ▸ u.custody.slot_of_store hv stage 0)

/-- What a turn leaves of the slot and of what somebody may be about to put there. -/
theorem place_after (u : InUse supply n r s) (hv : s.jobs[i]? = some v) {turn : Operation.Turn}
    (moved : v.stage.step s.arena 0 (s.settings v.thread) supply none = some turn) :
    Place n r (s.after i v turn) := by
  have mem := List.mem_of_getElem? hv
  have here := u.handle mem
  have d : Deed s.arena 0 v.stage turn.arena turn.stage := by
    have d := u.custody.deed mem (by rw [here]; exact moved)
    rwa [here] at d
  have known : 0 < s.arena.handles.size := by rw [u.single]; exact Nat.one_pos
  -- a turn that leaves slot and barriers alone, and what is in hand, leaves the place as it was
  have keeps (slot : turn.arena.slot 0 = s.arena.slot 0)
      (barriers : turn.arena.barriers = s.arena.barriers)
      (owns : turn.stage.hands.owns = v.stage.hands.owns) : Place n r (s.after i v turn) := by
    cases u.place with
    | unbuilt was bare => exact .unbuilt (slot.trans was) (barriers.trans bare)
    | live was one isOk => exact .live (slot.trans was) ((congrArg _ barriers).trans one) isOk
    | @built b w was one isOk hw had =>
      obtain ⟨j, hj⟩ := List.mem_iff_getElem?.mp hw
      by_cases me : j = i
      · subst me
        obtain rfl := Option.some.inj (hv.symm.trans hj)
        exact .built (slot.trans was) (barriers.trans one) isOk
          (List.mem_of_getElem? (List.getElem?_set_self (List.getElem?_eq_some_iff.mp hv).1))
          (owns.trans had)
      · exact .built (slot.trans was) (barriers.trans one) isOk
          (List.mem_of_getElem? ((List.getElem?_set_ne (Ne.symm me)).trans hj)) had
  have works {b : Nat} {x : Barrier} (uses : v.stage.uses = some b)
      (arena : turn.arena = s.arena.setBarrier b x) : Place n r (s.after i v turn) := by
    have live := (u.slot_of_uses mem uses).1
    cases u.place with
    | unbuilt was | built was => cases was.symm.trans live
    | live was one isOk =>
      exact .live (by rw [show (s.after i v turn).arena = _ from arena]; exact was)
        (by rw [show (s.after i v turn).arena = _ from arena, Arena.size_setBarrier]; exact one) isOk
  obtain ⟨arena, cancel, stage, events, notices⟩ := turn
  obtain ⟨q, use, serves⟩ := u.serves mem
  cases d with
  | passes hands => exact keeps rfl rfl (by rw [hands])
  | shares _ _ hands | unshares _ hands | reserves _ _ _ hands | unreserves _ hands
  | announces _ hands | claims _ _ hands | unclaims _ hands =>
    exact keeps (Arena.slot_setHolds ..) rfl (by rw [hands])
  | guards _ _ hands | unguards _ hands => exact keeps rfl rfl (by rw [hands])
  | works uses | locks uses | unlocks uses => exact works uses rfl
  | @adopts e b stage =>
    have bare := u.size_of_built hv stage
    have track := u.onTrack v mem
    rw [stage] at track
    obtain rfl := Construction.Yields.of_finished track
    have empty : s.arena.barriers = #[] := Array.eq_empty_of_size_eq_zero bare
    rcases u.place.slot with was | was
    · refine .built (b := b) was ?_ rfl
        (List.mem_of_getElem? (List.getElem?_set_self (List.getElem?_eq_some_iff.mp hv).1)) ?_
      · show s.arena.barriers.push b = #[b]
        rw [empty]
        rfl
      · exact congrArg some bare
    · cases u.place with
      | unbuilt slot | built slot => cases slot.symm.trans was
      | live _ one => omega
  | @stores e new stage alone =>
    have track := u.onTrack v mem
    rw [stage] at track
    obtain rfl : new = .live 0 := track
    obtain ⟨b, isOk, -, one⟩ := u.built_of_store mem stage
    refine .live (Arena.slot_setSlot_self _ known) ?_ isOk
    show s.arena.barriers.size = 1
    rw [one]
    rfl
  | clears stage | disposes stage =>
    rw [stage] at serves
    cases serves
    cases use

theorem goes (u : InUse supply n r s) (hv : s.jobs[i]? = some v) {turn : Operation.Turn}
    (moved : v.stage.step s.arena 0 (s.settings v.thread) supply none = some turn) :
    InUse supply n r (s.after i v turn) := by
  have mem := List.mem_of_getElem? hv
  have here := u.handle mem
  have c : Custody (s.after i v turn) := u.custody.goes hv (by rw [here]; exact moved)
  obtain ⟨q, use, serves⟩ := u.serves mem
  refine ⟨c, u.yields, ?_, ?_, ?_, u.place_after hv moved⟩
  · have d := u.custody.deed mem (by rw [here]; exact moved)
    exact d.size.trans u.single
  · intro w hw
    rcases List.mem_or_eq_of_mem_set hw with hw | rfl
    · exact u.uses w hw
    · exact u.uses v mem
  · intro w hw
    rcases List.mem_or_eq_of_mem_set hw with hw | rfl
    · exact u.onTrack w hw
    · exact (u.onTrack v mem).step use serves u.yields u.place.slot
        (fun e b stage => u.size_of_built hv stage) moved

/-- Whatever the settings are. -/
theorem sets (u : InUse supply n r s) (settings : Nat → Cancellation) :
    InUse supply n r { s with settings } := by
  have c := u.custody
  refine ⟨⟨c.known, c.serves, c.fits, c.holds, c.apart, c.guarded, c.owned, c.locked⟩, u.yields,
    u.single, u.uses, u.onTrack, ?_⟩
  cases u.place with
  | unbuilt slot bare => exact .unbuilt slot bare
  | built slot one isOk hw owns => exact .built slot one isOk hw owns
  | live slot one isOk => exact .live slot one isOk

theorem step (u : InUse supply n r s) (h : s.act supply x = some t) : InUse supply n r t := by
  have move := step_of_act h
  have c := u.custody.step move
  cases x with
  | call thread q =>
    have use : q.isUse = true := by
      simp only [act] at h
      split at h
      · next use => exact use
      · cases h
    cases step_effect move with
    | begins =>
      refine ⟨c, u.yields, u.single, ?_, ?_, ?_⟩
      · intro w hw
        rcases List.mem_append.mp hw with hw | hw
        · exact u.uses w hw
        · obtain rfl := List.mem_singleton.mp hw
          exact ⟨q, use, rfl⟩
      · intro w hw
        rcases List.mem_append.mp hw with hw | hw
        · exact u.onTrack w hw
        · obtain rfl := List.mem_singleton.mp hw
          trivial
      · cases u.place with
        | unbuilt slot bare => exact .unbuilt slot bare
        | built slot one isOk hw owns => exact .built slot one isOk (List.mem_append_left _ hw) owns
        | live slot one isOk => exact .live slot one isOk
    | sets _ quiet => cases quiet
  | go i =>
    cases step_effect move with
    | goes hv _ moved =>
      rw [u.handle (List.mem_of_getElem? hv)] at moved
      exact u.goes hv moved
    | sets quiet => cases quiet
  | request | adjust =>
    cases step_effect move with
    | sets => exact u.sets _

/-- A handle that was made for so many parties, and that nobody has used. -/
theorem start (supply : Supply) (n : UInt32) (settings : Nat → Cancellation) :
    InUse supply n (Construction.verdict supply n) (start [some n] settings) :=
  ⟨Custody.start _ _, Construction.yields_verdict supply n, rfl,
    fun _ hv => absurd hv List.not_mem_nil, fun _ hv => absurd hv List.not_mem_nil,
    .unbuilt rfl rfl⟩

end InUse

end Traffic

end Rendezvous
