import Rendezvous.Proofs.Run.Crew
import Rendezvous.Proofs.Traffic.Facade

/-!
# A barrier's runs on a handle

Whatever can be seen of a barrier with nothing around it can be seen of a handle. If the handle owns
the barrier, each turn at the barrier is a few turns on the handle (`Enacts`).

If nothing has been built, the handle lags behind (`Lags`): calls that have taken the lock, read
nought or been told the number of parties have not even knocked, and can be told the same when they
are about to return. The first wait that takes the lock has its call build the barrier, while nobody
shares the slot; after that everybody else catches up (`Lags.enacts`).
-/

set_option autoImplicit false

namespace Rendezvous

open Barrier Handle
open Run (shelter)

/-! ## Lists side by side -/

theorem forall₂_set {α β : Type} {R : α → β → Prop} {l : List α} {m : List β} {x : α} {y : β}
    (h : List.Forall₂ R l m) (here : R x y) (i : Nat) : List.Forall₂ R (l.set i x) (m.set i y) := by
  induction h generalizing i with
  | nil => exact .nil
  | cons first rest ih =>
    cases i with
    | zero => exact .cons here rest
    | succ i => exact .cons first (ih i)

theorem forall₂_getElem? {α β : Type} {R : α → β → Prop} {l : List α} {m : List β} {i : Nat} {x : α}
    (h : List.Forall₂ R l m) (hx : l[i]? = some x) : ∃ y, m[i]? = some y ∧ R x y := by
  induction h generalizing i with
  | nil => cases hx
  | cons first rest ih =>
    cases i with
    | zero =>
      obtain rfl := Option.some.inj hx
      exact ⟨_, rfl, first⟩
    | succ i => exact ih hx

/-! ## Several turns on a handle -/

namespace Handle

/-- Turns on handle 0 lead from one stage to another, with nothing failing and the settings as they
are, and none is the last. -/
inductive Operation.Goes (supply : Supply) (c : Cancellation) (a : Arena) (op : Operation) :
    Arena → Operation → Prop where
  | refl : Operation.Goes supply c a op a op
  | tail {a' a'' : Arena} {x y : Operation} {events : List Event} {notices : List Notice} :
      Operation.Goes supply c a op a' x →
      x.step a' 0 c supply none = some ⟨a'', c, y, events, notices⟩ → y.isOver = false →
      Operation.Goes supply c a op a'' y

theorem Operation.Goes.trans {supply : Supply} {c : Cancellation} {a a' a'' : Arena}
    {x y z : Operation} (first : Operation.Goes supply c a x a' y)
    (rest : Operation.Goes supply c a' y a'' z) : Operation.Goes supply c a x a'' z := by
  induction rest with
  | refl => exact first
  | tail _ move going ih => exact ih.tail move going

/-- A construction that nothing disturbs goes on to its end. -/
theorem Operation.goes_of_yields {supply : Supply} {c : Cancellation} {a : Arena} {e : Errand}
    {s : Construction} {r : Except BarrierError Barrier} (yields : s.Yields supply r) :
    Operation.Goes supply c a (.build e s) a (.build e (.finished r)) := by
  obtain ⟨k, run⟩ := yields
  induction k generalizing s with
  | zero =>
    obtain rfl := Option.some.inj run
    exact .refl
  | succ k ih =>
    obtain ⟨s', next, run⟩ := Option.bind_eq_some_iff.mp run
    obtain ⟨t, ht, rfl⟩ := Option.map_eq_some_iff.mp next
    have move : (Operation.build e s).step a 0 c supply none =
        some ⟨a, c, .build e t.stage, t.events, t.notices⟩ := by
      rw [Operation.step_build, ht]
      · rfl
      · rintro r rfl
        cases ht
    exact (Operation.Goes.refl.tail move rfl).trans (ih run)

/-- Whose call it is, and where it stands. -/
def Job.spot (v : Job) : Nat × Operation := (v.thread, v.stage)

end Handle

namespace Plain

/-- Where a call on a handle stands whose barrier sees it at this stage. -/
def Stage.enact : Stage → Operation
  | coming q => .knock q
  | inside w => .inside 0 w
  | probing g w => .probe 0 g w
  | answered r => .leave (.answer r)
  | returned r => .finished r

def Call.enact (v : Call) : Nat × Operation := (v.thread, v.stage.enact)

/-- To come to the barrier is to share the slot, to look at it and to ask for the lock. -/
theorem Stage.enacted_coming {b b' : Barrier} {c c' : Cancellation} {q : Inquiry} {y : Stage}
    (supply : Supply) (k : Nat) (move : (coming q).step b c = some (b', c', y)) :
    ∃ a op events, (Operation.knock q).Goes supply c (shelter b k) a op ∧
      op.step a 0 c supply none = some ⟨shelter b' (k + 1), c', y.enact, events, []⟩ := by
  have looks (q : Inquiry) :
      (Operation.knock q).Goes supply c (shelter b k) (shelter b (k + 1)) (.look q) :=
    .tail .refl rfl rfl
  cases q with
  | wait =>
    simp only [step] at move
    split at move
    · cases move
    · next free =>
      cases move
      have enters : (Operation.knock .wait).Goes supply c (shelter b k) (shelter b (k + 1))
          (.inside 0 .lock) := ((looks .wait).tail (y := .inside 0 .enter) rfl rfl).tail rfl rfl
      refine ⟨_, _, [⟨.lock, .done⟩], enters, ?_⟩
      have takes : Wait.lock.step ((shelter b (k + 1)).barrier 0) c none =
          some ⟨b.lock, c, .arrive, [⟨.lock, .done⟩], []⟩ := if_neg free
      rw [Operation.step, takes]
      · rfl
      · rintro _ ⟨⟩
  | gauge g =>
    simp only [step] at move
    split at move
    · cases move
    · next free =>
      cases move
      have enters : (Operation.knock (.gauge g)).Goes supply c (shelter b k) (shelter b (k + 1))
          (.probe 0 g .lock) :=
        ((looks (.gauge g)).tail (y := .probe 0 g .enter) rfl rfl).tail rfl rfl
      refine ⟨_, _, [⟨.lock, .done⟩], enters, ?_⟩
      have takes : Probe.lock.step ((shelter b (k + 1)).barrier 0) g none =
          some ⟨b.lock, .read, [⟨.lock, .done⟩]⟩ := if_neg free
      rw [Operation.step, takes]
      · rfl
      · rintro _ ⟨⟩
  | parties =>
    cases move
    exact ⟨_, _, [], looks .parties, rfl⟩
  | destroy | status => cases move

/-- A turn at the barrier is a few turns on its handle. -/
theorem Stage.enacted {b b' : Barrier} {c c' : Cancellation} {x y : Stage} (supply : Supply)
    (k : Nat) (move : x.step b c = some (b', c', y)) :
    ∃ a op k' events notices, x.enact.Goes supply c (shelter b k) a op ∧
      op.step a 0 c supply none = some ⟨shelter b' k', c', y.enact, events, notices⟩ := by
  cases x with
  | coming q =>
    obtain ⟨a, op, events, goes, last⟩ := enacted_coming supply k move
    exact ⟨a, op, k + 1, events, [], goes, last⟩
  | inside w =>
    by_cases ended : ∃ r, w = .finished r
    · obtain ⟨r, rfl⟩ := ended
      cases move
      exact ⟨_, _, k, [], [], .refl, rfl⟩
    · rw [step_inside fun r hr => ended ⟨r, hr⟩] at move
      obtain ⟨t, ht, move⟩ := Option.map_eq_some_iff.mp move
      cases move
      refine ⟨_, _, k, t.events, t.notices, .refl, ?_⟩
      rw [enact, Operation.step_inside fun r hr => ended ⟨r, hr⟩]
      show (w.step b c none).map _ = _
      rw [ht]
      rfl
  | probing g w =>
    by_cases ended : ∃ r, w = .finished r
    · obtain ⟨r, rfl⟩ := ended
      cases move
      exact ⟨_, _, k, [], [], .refl, rfl⟩
    · rw [step_probing fun r hr => ended ⟨r, hr⟩] at move
      obtain ⟨t, ht, move⟩ := Option.map_eq_some_iff.mp move
      cases move
      refine ⟨_, _, k, t.events, [], .refl, ?_⟩
      rw [enact, Operation.step_probe fun r hr => ended ⟨r, hr⟩]
      show (w.step b g none).map _ = _
      rw [ht]
      rfl
  | answered r =>
    cases move
    exact ⟨_, _, k - 1, [], [], .refl, rfl⟩
  | returned r => cases move

end Plain

namespace Traffic

variable {supply : Supply} {n : UInt32} {r : Except BarrierError Barrier} {b : Barrier}
  {s t u : Traffic} {i thread : Nat} {v : Job} {a a' : Arena} {x y : Operation}
  {c c' : Cancellation} {p q : Plain}

/-! ## Turns of one call -/

/-- Turns of call `i`, of this thread, have led from `s` to `t`; now the arena, the settings of the
thread and the stage of the call are these. -/
structure Moved (s t : Traffic) (i thread : Nat) (a : Arena) (c : Cancellation) (x : Operation) :
    Prop where
  arena : t.arena = a
  settings : t.settings = fun k => if k = thread then c else s.settings k
  spots : t.jobs.map Job.spot = (s.jobs.map Job.spot).set i (thread, x)

theorem Moved.trans (first : Moved s t i thread a c x) (rest : Moved t u i thread a' c' y) :
    Moved s u i thread a' c' y := by
  refine ⟨rest.arena, ?_, ?_⟩
  · rw [rest.settings, first.settings]
    funext k
    dsimp only
    split
    · rfl
    · rfl
  · rw [rest.spots, first.spots, List.set_set]

theorem spot_getElem? (hv : (s.jobs.map Job.spot)[i]? = some (thread, x)) :
    ∃ v, s.jobs[i]? = some v ∧ v.thread = thread ∧ v.stage = x := by
  rw [List.getElem?_map] at hv
  obtain ⟨v, hv, same⟩ := Option.map_eq_some_iff.mp hv
  exact ⟨v, hv, congrArg Prod.fst same, congrArg Prod.snd same⟩

/-- One turn. -/
theorem InUse.turn (u : InUse supply n r s) (here : (s.jobs.map Job.spot)[i]? = some (thread, x))
    {events : List Event} {notices : List Notice}
    (moved : x.step s.arena 0 (s.settings thread) supply none = some ⟨a, c, y, events, notices⟩) :
    ∃ t, Schedule.Tells (act supply) (sayings supply) s (heard thread y) t ∧
      InUse supply n r t ∧ Moved s t i thread a c y := by
  obtain ⟨v, hv, rfl, rfl⟩ := spot_getElem? here
  obtain ⟨move, told⟩ := sayings_go hv (u.handle (List.mem_of_getElem? hv)) moved
  refine ⟨_, .of_move move told, u.step move, rfl, rfl, ?_⟩
  show (s.jobs.set i _).map Job.spot = _
  rw [List.map_set]
  rfl

/-- Several turns that are not heard. -/
theorem InUse.turns (u : InUse supply n r s) (here : (s.jobs.map Job.spot)[i]? = some (thread, x))
    (goes : x.Goes supply (s.settings thread) s.arena a y) :
    ∃ t, Schedule.Tells (act supply) (sayings supply) s [] t ∧
      InUse supply n r t ∧ Moved s t i thread a (s.settings thread) y := by
  induction goes with
  | refl =>
    have same : s.settings = fun k => if k = thread then s.settings thread else s.settings k :=
      funext fun k => (ite_eq_right_iff.mpr fun here => by rw [here]).symm
    obtain ⟨there, value⟩ := List.getElem?_eq_some_iff.mp here
    exact ⟨s, .nil s, u, rfl, same, by rw [← value, List.set_getElem_self]⟩
  | tail _ move going ih =>
    obtain ⟨t, told, u, moved⟩ := ih
    have settings : t.settings thread = s.settings thread := by simp [moved.settings]
    have now := moved.spots ▸ List.getElem?_set_self (List.getElem?_eq_some_iff.mp here).1
    rw [← moved.arena, ← settings] at move
    obtain ⟨t', told', u, moved'⟩ := u.turn now move
    rw [heard_of_going thread going] at told'
    exact ⟨t', told.trans told', u, settings ▸ moved.trans moved'⟩

/-- Several turns, of which the last may be heard. -/
theorem InUse.walks (u : InUse supply n r s) (here : (s.jobs.map Job.spot)[i]? = some (thread, x))
    (goes : x.Goes supply (s.settings thread) s.arena a y) {z : Operation} {events : List Event}
    {notices : List Notice}
    (last : y.step a 0 (s.settings thread) supply none = some ⟨a', c, z, events, notices⟩) :
    ∃ t, Schedule.Tells (act supply) (sayings supply) s (heard thread z) t ∧
      InUse supply n r t ∧ Moved s t i thread a' c z := by
  obtain ⟨t, told, u, moved⟩ := u.turns here goes
  have settings : t.settings thread = s.settings thread := by simp [moved.settings]
  have now := moved.spots ▸ List.getElem?_set_self (List.getElem?_eq_some_iff.mp here).1
  rw [← moved.arena, ← settings] at last
  obtain ⟨t', told', u, moved'⟩ := u.turn now last
  exact ⟨t', told.trans told', u, moved.trans moved'⟩

/-! ## What is not a turn -/

theorem isOutside_eq_spots (s : Traffic) (thread : Nat) : s.isOutside thread =
    (s.jobs.map Job.spot).all fun x => x.1 != thread || x.2.isOver := by
  rw [List.all_map]
  rfl

/-- A call may have begun at the barrier and on the handle, and nothing else has happened. -/
structure Begun (p q : Plain) (s t : Traffic) : Prop where
  arena : t.arena = s.arena
  barrier : q.barrier = p.barrier
  settings : t.settings = q.settings
  calls : q.calls = p.calls ∧ t.jobs.map Job.spot = s.jobs.map Job.spot ∨
    ∃ thread r, q.calls = p.calls ++ [⟨thread, .coming r⟩] ∧
      t.jobs.map Job.spot = s.jobs.map Job.spot ++ [(thread, .knock r)]

/-- What is not a turn is done to the handle as to the barrier. -/
theorem InUse.echoes (u : InUse supply n r s) (settings : s.settings = p.settings)
    (outside : ∀ thread, s.isOutside thread = p.isOutside thread) {x : Act} (quiet : ∀ i, x ≠ .go i)
    (move : p.step x = some q) :
    ∃ t, Schedule.Tells (act supply) (sayings supply) s (p.sayings x) t ∧ InUse supply n r t ∧
      Begun p q s t := by
  cases x with
  | call thread r =>
    simp only [Plain.step, Bool.and_eq_true] at move
    split at move
    · next may =>
      cases move
      have step : s.act supply (.call thread r) =
          some { s with jobs := s.jobs ++ [⟨thread, 0, .inquire r, .knock r, 0⟩] } := by
        simp [act, Act.move, Traffic.step, may.1, outside, may.2, u.single]
        rfl
      refine ⟨_, .of_move step rfl, u.step step, rfl, rfl, settings,
        .inr ⟨thread, r, rfl, ?_⟩⟩
      rw [List.map_append]
      rfl
    · cases move
  | go i => exact absurd rfl (quiet i)
  | request thread =>
    cases move
    have step : s.act supply (.request thread) =
      some (s.setSettings thread (s.settings thread).request) := rfl
    refine ⟨_, .of_move step rfl, u.step step, rfl, rfl, ?_, .inl ⟨rfl, rfl⟩⟩
    rw [setSettings, settings]
    rfl
  | adjust thread type state =>
    simp only [Plain.step] at move
    split at move
    · next may =>
      cases move
      have step : s.act supply (.adjust thread type state) =
          some (s.setSettings thread { s.settings thread with type, state }) := by
        simp [act, Act.move, Traffic.step, outside, may]
      refine ⟨_, .of_move step rfl, u.step step, rfl, rfl, ?_, .inl ⟨rfl, rfl⟩⟩
      rw [setSettings, settings]
      rfl
    · cases move

/-! ## With the barrier in place -/

/-- The handle owns the barrier, and its calls stand where those at the barrier stand. -/
structure Enacts (supply : Supply) (n : UInt32) (b : Barrier) (p : Plain) (s : Traffic) : Prop where
  use : InUse supply n (.ok b) s
  arena : ∃ k, s.arena = shelter p.barrier k
  settings : s.settings = p.settings
  calls : s.jobs.map Job.spot = p.calls.map Plain.Call.enact

namespace Enacts

theorem isOutside (e : Enacts supply n b p s) (thread : Nat) :
    s.isOutside thread = p.isOutside thread := by
  rw [isOutside_eq_spots, e.calls, List.all_map, Plain.isOutside]
  refine List.all_congr rfl fun v => ?_
  cases h : v.stage <;> simp [Plain.Call.enact, Plain.Stage.enact, Plain.Stage.isOver,
    Operation.isOver, h]

theorem step (e : Enacts supply n b p s) {x : Act} (move : p.step x = some q) :
    ∃ t, Schedule.Tells (act supply) (sayings supply) s (p.sayings x) t ∧ Enacts supply n b q t := by
  by_cases turn : ∃ i, x = .go i
  · obtain ⟨i, rfl⟩ := turn
    obtain ⟨v, b', c, y, hv, moved, rfl⟩ := Plain.turn_of_step move
    obtain ⟨k, arena⟩ := e.arena
    have here : (s.jobs.map Job.spot)[i]? = some (v.thread, v.stage.enact) := by
      rw [e.calls, List.getElem?_map, hv]
      rfl
    obtain ⟨a, op, k', events, notices, goes, last⟩ := Plain.Stage.enacted supply k moved
    rw [← arena, ← e.settings] at goes
    rw [← e.settings] at last
    obtain ⟨t, told, u, arena', settings, spots⟩ := e.use.walks here goes last
    refine ⟨t, ?_, u, ⟨k', arena'⟩, ?_, ?_⟩
    · rw [Plain.sayings_go hv moved]
      cases y <;> exact told
    · rw [settings, e.settings]
      rfl
    · rw [spots, e.calls]
      show _ = (p.calls.set i { v with stage := y }).map Plain.Call.enact
      rw [List.map_set]
      rfl
  · obtain ⟨t, told, u, begun⟩ := e.use.echoes e.settings e.isOutside (fun i hi => turn ⟨i, hi⟩) move
    refine ⟨t, told, u, by rw [begun.arena, begun.barrier]; exact e.arena, begun.settings, ?_⟩
    rcases begun.calls with ⟨calls, spots⟩ | ⟨thread, r, calls, spots⟩
    · rw [calls, spots, e.calls]
    · rw [calls, spots, e.calls, List.map_append]
      rfl

/-- Where nobody can go on at the barrier, nobody can on its handle. -/
theorem still (e : Enacts supply n b p s) (kept : p.Kept) (still : p.Still) : Still supply s := by
  refine e.use.still_of_stuck fun i v hv => ?_
  obtain ⟨q, use, serves⟩ := e.use.serves (List.mem_of_getElem? hv)
  obtain ⟨k, arena⟩ := e.arena
  obtain ⟨w, hw, same⟩ : ∃ w, p.calls[i]? = some w ∧ w.enact = v.spot :=
    Option.map_eq_some_iff.mp (by rw [← List.getElem?_map, ← e.calls, List.getElem?_map, hv]; rfl)
  obtain ⟨thread, stage⟩ : w.thread = v.thread ∧ w.stage.enact = v.stage := Prod.mk.inj same
  have stuck := Plain.stuck_of_still still hw
  have free := kept.unlocked_of_still still
  rw [← stage] at serves
  rw [← stage, ← thread, arena, e.settings]
  obtain ⟨_, x⟩ := w
  dsimp only at stuck serves ⊢
  cases x with
  | coming q' =>
    cases serves
    cases q with
    | wait | gauge => simp [Plain.Stage.step, free] at stuck
    | parties => cases stuck
    | destroy | status => cases use
  | inside x =>
    by_cases ended : ∃ r, x = .finished r
    · obtain ⟨r, rfl⟩ := ended
      cases stuck
    · rw [Plain.Stage.step_inside fun r hr => ended ⟨r, hr⟩, Option.map_eq_none_iff] at stuck
      rw [Plain.Stage.enact, Operation.step_inside fun r hr => ended ⟨r, hr⟩, Option.map_eq_none_iff]
      exact stuck
  | probing g x =>
    by_cases ended : ∃ r, x = .finished r
    · obtain ⟨r, rfl⟩ := ended
      cases stuck
    · rw [Plain.Stage.step_probing fun r hr => ended ⟨r, hr⟩, Option.map_eq_none_iff] at stuck
      rw [Plain.Stage.enact, Operation.step_probe fun r hr => ended ⟨r, hr⟩, Option.map_eq_none_iff]
      exact stuck
  | answered r => cases stuck
  | returned r => rfl

end Enacts

/-! ## With nothing built yet -/

/-- What the call has been told at the barrier it will be told on the handle, where it has not
knocked yet. -/
inductive Behind (n : UInt32) : Plain.Stage → Operation → Prop where
  | coming {q : Inquiry} : Behind n (.coming q) (.knock q)
  | reads {g : Gauge} : Behind n (.probing g .read) (.knock (.gauge g))
  | leaves {g : Gauge} : Behind n (.probing g (.leave 0)) (.knock (.gauge g))
  | read {g : Gauge} : Behind n (.probing g (.finished (.ok 0))) (.knock (.gauge g))
  | counted {g : Gauge} : Behind n (.answered (.ok (.number 0))) (.knock (.gauge g))
  | parties : Behind n (.answered (.ok (.parties (some n)))) (.knock .parties)
  | returned {r : Result} : Behind n (.returned r) (.finished r)

/-- The handle is as it was made, and nobody has got further at the barrier than to be told what the
handle tells as well. -/
structure Lags (supply : Supply) (n : UInt32) (b : Barrier) (p : Plain) (s : Traffic) : Prop where
  use : InUse supply n (.ok b) s
  arena : s.arena = .declared [some n]
  settings : s.settings = p.settings
  barrier : p.barrier = { b with locked := p.barrier.locked }
  calls : List.Forall₂ (fun v x => x.1 = v.thread ∧ Behind n v.stage x.2) p.calls
    (s.jobs.map Job.spot)

/-- A barrier that nobody has come to. -/
structure Untouched (n : UInt32) (b : Barrier) : Prop where
  parties : b.parties = n
  free : b.locked = false
  nought : ∀ g, b.read g = 0

/-- With the only handle reserved, a construction that comes to a barrier puts it there. -/
theorem goes_installing {e : Errand} (old : Slot) (guarded : Bool) (c : Cancellation)
    (yields : (Construction.check n false).Yields supply (.ok b)) :
    (Operation.build e (.check n false)).Goes supply c
      { handles := #[⟨old, { reserved := true }⟩], guarded }
      { handles := #[⟨.live 0, { exclusive := true }⟩], barriers := #[b], guarded }
      (.release e e.onSuccess) := by
  have built := Operation.goes_of_yields (e := e) (c := c)
    (a := { handles := #[⟨old, { reserved := true }⟩], guarded }) yields
  have adopts : (Operation.build e (.check n false)).Goes supply c
      { handles := #[⟨old, { reserved := true }⟩], guarded }
      { handles := #[⟨old, { reserved := true }⟩], barriers := #[b], guarded }
      (.announce e (.live 0)) := built.tail rfl rfl
  have announces : (Operation.build e (.check n false)).Goes supply c
      { handles := #[⟨old, { reserved := true }⟩], guarded }
      { handles := #[⟨old, { exclusive := true }⟩], barriers := #[b], guarded }
      (.store e (.live 0)) := adopts.tail rfl rfl
  exact announces.tail rfl rfl

/-- The first wait has its call build the barrier, if nobody shares the slot. -/
theorem goes_building (c : Cancellation) (yields : (Construction.check n false).Yields supply (.ok b)) :
    (Operation.knock .wait).Goes supply c (.declared [some n]) (shelter b 0) (.knock .wait) := by
  have shares : (Operation.knock .wait).Goes supply c (.declared [some n])
      { handles := #[⟨.unbuilt n, { sharers := 1 }⟩] } (.look .wait) := .tail .refl rfl rfl
  have looks : (Operation.knock .wait).Goes supply c (.declared [some n])
      { handles := #[⟨.unbuilt n, { sharers := 1 }⟩] } (.leave .resolve) := shares.tail rfl rfl
  have leaves : (Operation.knock .wait).Goes supply c (.declared [some n])
      (.declared [some n]) (.guard .resolve) := looks.tail rfl rfl
  have guards : (Operation.knock .wait).Goes supply c (.declared [some n])
      { handles := #[⟨.unbuilt n, {}⟩], guarded := true } (.reserve .resolve) := leaves.tail rfl rfl
  have reserves : (Operation.knock .wait).Goes supply c (.declared [some n])
      { handles := #[⟨.unbuilt n, { reserved := true }⟩], guarded := true } (.inspect .resolve) :=
    guards.tail rfl rfl
  have inspects : (Operation.knock .wait).Goes supply c (.declared [some n])
      { handles := #[⟨.unbuilt n, { reserved := true }⟩], guarded := true }
      (.build .resolve (.check n false)) := reserves.tail rfl rfl
  have stores := inspects.trans (goes_installing (e := .resolve) (.unbuilt n) true c yields)
  have releases : (Operation.knock .wait).Goes supply c (.declared [some n])
      { handles := #[⟨.live 0, {}⟩], barriers := #[b], guarded := true } (.unguard .again) :=
    stores.tail rfl rfl
  exact releases.tail rfl rfl

namespace Behind

variable {x : Plain.Stage} {op : Operation}

theorem isOver (h : Behind n x op) : op.isOver = x.isOver := by cases h <;> rfl

/-- The handle is where the barrier was before the call took the lock or was told anything. -/
theorem enact_plain (h : Behind n x op) : op.plain.enact = op := by cases h <;> rfl

/-- With the lock free, the barrier comes from there to where it is now. -/
theorem goes (h : Behind n x op) (fresh : Untouched n b) (free : x.holdsLock = false) :
    op.plain.Goes c b b x := by
  cases h with
  | coming | returned => exact .refl
  | reads | leaves => cases free
  | read => exact Plain.Stage.goes_reading c fresh.free (fresh.nought _)
  | counted => exact Plain.Stage.goes_nought c fresh.free (fresh.nought _)
  | parties =>
    refine .tail .refl rfl ?_
    show some _ = some _
    rw [fresh.parties]

end Behind

/-- At the handle that is as it was made, a call is told what it has been told at the barrier. -/
theorem goes_unbuilt {q : Inquiry} {r : Result} (supply : Supply) (c : Cancellation)
    (told : Behind n (.answered r) (.knock q)) :
    (Operation.knock q).Goes supply c (.declared [some n])
      { handles := #[⟨.unbuilt n, { sharers := 1 }⟩] } (.leave (.answer r)) := by
  have shares : (Operation.knock q).Goes supply c (.declared [some n])
      { handles := #[⟨.unbuilt n, { sharers := 1 }⟩] } (.look q) := .tail .refl rfl rfl
  cases told with
  | counted | parties => exact shares.tail rfl rfl

namespace Lags

theorem isOutside (l : Lags supply n b p s) (thread : Nat) :
    s.isOutside thread = p.isOutside thread := by
  rw [isOutside_eq_spots, Plain.isOutside]
  have calls := l.calls
  generalize p.calls = plain, s.jobs.map Job.spot = spots at calls
  induction calls with
  | nil => rfl
  | cons here _ ih => simp [ih, here.1, here.2.isOver]

/-- A call at the barrier has gone on without being heard, and its call on the handle has not. -/
theorem waits (l : Lags supply n b p s) {v : Plain.Call}
    (here : (s.jobs.map Job.spot)[i]? = some (v.thread, x)) {b' : Barrier} {y : Plain.Stage}
    (barrier : b' = { b with locked := b'.locked }) (behind : Behind n y x) :
    Lags supply n b (p.after i v b' (p.settings v.thread) y) s := by
  rw [Plain.after_self]
  refine ⟨l.use, l.arena, l.settings, barrier, ?_⟩
  obtain ⟨_, value⟩ := List.getElem?_eq_some_iff.mp here
  have both := forall₂_set (x := { v with stage := y }) (y := (v.thread, x)) l.calls
    ⟨rfl, behind⟩ i
  rwa [← value, List.set_getElem_self] at both

/-- A wait that can take the lock has its call build the barrier, and all others catch up. -/
theorem enacts (l : Lags supply n b p s) (fresh : Untouched n b) (kept : p.Kept)
    (free : p.barrier.locked = false)
    (here : (s.jobs.map Job.spot)[i]? = some (thread, .knock .wait)) :
    ∃ t, Schedule.Tells (act supply) (sayings supply) s [] t ∧ Enacts supply n b p t := by
  have barrier : p.barrier = b := by
    rw [l.barrier, free, ← fresh.free]
  have unheld : ∀ v ∈ p.calls, v.stage.holdsLock = false := by
    intro v mem
    have zero : p.calls.countP (fun v => v.stage.holdsLock) = 0 := by rw [kept, free]; rfl
    simpa using List.countP_eq_zero.mp zero v mem
  obtain ⟨t, told, u, moved⟩ := l.use.turns here (l.arena ▸ goes_building _ l.use.yields)
  have spots : t.jobs.map Job.spot = s.jobs.map Job.spot := by
    obtain ⟨_, value⟩ := List.getElem?_eq_some_iff.mp here
    rw [moved.spots, ← value, List.set_getElem_self]
  have settings : t.settings = s.settings := by
    rw [moved.settings]
    exact funext fun k => ite_eq_right_iff.mpr fun same => by rw [same]
  -- where the barrier was when nobody had taken the lock or been told anything
  have earlier : Enacts supply n b
      { p with calls := (s.jobs.map Job.spot).map fun x => ⟨x.1, x.2.plain⟩ } t := by
    refine ⟨u, ⟨0, by rw [barrier]; exact moved.arena⟩, settings.trans l.settings, ?_⟩
    rw [spots]
    show _ = List.map Plain.Call.enact _
    rw [List.map_map]
    have calls := l.calls
    generalize p.calls = plain, s.jobs.map Job.spot = spots at calls
    induction calls with
    | nil => rfl
    | @cons _ x _ _ here _ ih =>
      rw [List.map_cons, ← ih]
      exact congrArg (· :: _) (Prod.ext rfl here.2.enact_plain.symm)
  have later : Schedule.Tells Plain.step Plain.sayings
      { p with calls := (s.jobs.map Job.spot).map fun x => ⟨x.1, x.2.plain⟩ } [] p := by
    refine Plain.tells_of_forall₂ (p := p) (y := p.calls) (List.forall₂_map_left_iff.mpr ?_)
    have all := ((List.forall₂_and_left _ _).mpr ⟨unheld, l.calls⟩).flip
    refine all.imp fun x v h => ⟨h.2.1.symm, ?_⟩
    rw [barrier]
    exact h.2.2.goes fresh h.1
  obtain ⟨t', told', e⟩ := later.matched (R := Enacts supply n b) (fun e move => e.step move) earlier
  exact ⟨t', told.trans told', e⟩

/-- A turn at the barrier is matched on the handle, by nothing for the time being or by what builds
the barrier. -/
theorem goes (l : Lags supply n b p s) (fresh : Untouched n b) (kept : p.Kept) {v : Plain.Call}
    (hv : p.calls[i]? = some v) {b' : Barrier} {y : Plain.Stage}
    (moved : v.stage.step p.barrier (p.settings v.thread) = some (b', c, y)) :
    ∃ t, Schedule.Tells (act supply) (sayings supply) s (Plain.Call.heard { v with stage := y }) t ∧
      (Lags supply n b (p.after i v b' c y) t ∨ Enacts supply n b (p.after i v b' c y) t) := by
  obtain ⟨⟨_, op⟩, here, rfl, behind⟩ := forall₂_getElem? l.calls hv
  obtain ⟨thread, stage⟩ := v
  dsimp only at here behind moved
  have reads (g : Gauge) : p.barrier.read g = 0 := by
    rw [l.barrier, ← fresh.nought g]
    cases g <;> rfl
  cases behind with
  | @coming q =>
    cases q with
    | wait =>
      have free : p.barrier.locked = false := by
        simp only [Plain.Stage.step] at moved
        split at moved
        · cases moved
        · next free => exact Bool.eq_false_iff.mpr free
      obtain ⟨t, told, e⟩ := l.enacts fresh kept free here
      obtain ⟨t', told', e⟩ := e.step (Plain.goes_of_step hv moved)
      rw [Plain.sayings_go hv moved] at told'
      exact ⟨t', told.trans told', .inr e⟩
    | gauge g =>
      simp only [Plain.Stage.step] at moved
      split at moved
      · cases moved
      · cases moved
        refine ⟨s, .nil s, .inl (l.waits here ?_ .reads)⟩
        rw [l.barrier]
        rfl
    | parties =>
      cases moved
      have same : p.barrier.parties = n := by rw [l.barrier, ← fresh.parties]
      refine ⟨s, .nil s, .inl (l.waits here l.barrier ?_)⟩
      rw [same]
      exact .parties
    | destroy | status => cases moved
  | @reads g =>
    cases moved
    refine ⟨s, .nil s, .inl (l.waits here l.barrier ?_)⟩
    rw [reads]
    exact .leaves
  | leaves =>
    cases moved
    refine ⟨s, .nil s, .inl (l.waits here ?_ .read)⟩
    rw [l.barrier]
    rfl
  | read =>
    cases moved
    exact ⟨s, .nil s, .inl (l.waits here l.barrier .counted)⟩
  | returned => cases moved
  | counted | parties =>
    cases moved
    obtain ⟨t, told, u, arena, settings, spots⟩ := l.use.walks here
      (l.arena ▸ goes_unbuilt supply _ (by constructor)) rfl
    refine ⟨t, told, .inl ⟨u, arena, ?_, l.barrier, ?_⟩⟩
    · rw [settings, l.settings]
      rfl
    · rw [spots]
      exact forall₂_set l.calls ⟨rfl, .returned⟩ i

theorem step (l : Lags supply n b p s) (fresh : Untouched n b) (kept : p.Kept) {x : Act}
    (move : p.step x = some q) :
    ∃ t, Schedule.Tells (act supply) (sayings supply) s (p.sayings x) t ∧
      (Lags supply n b q t ∨ Enacts supply n b q t) := by
  by_cases turn : ∃ i, x = .go i
  · obtain ⟨i, rfl⟩ := turn
    obtain ⟨v, b', c, y, hv, moved, rfl⟩ := Plain.turn_of_step move
    rw [Plain.sayings_go hv moved]
    exact l.goes fresh kept hv moved
  · obtain ⟨t, told, u, begun⟩ := l.use.echoes l.settings l.isOutside (fun i hi => turn ⟨i, hi⟩) move
    refine ⟨t, told, .inl ⟨u, begun.arena.trans l.arena, begun.settings, ?_, ?_⟩⟩
    · rw [begun.barrier]
      exact l.barrier
    · rcases begun.calls with ⟨calls, spots⟩ | ⟨thread, r, calls, spots⟩
      · rw [calls, spots]
        exact l.calls
      · rw [calls, spots]
        exact List.rel_append l.calls (.cons ⟨rfl, .coming⟩ .nil)

/-- Where nobody can go on at the barrier, everybody has returned. -/
theorem still (l : Lags supply n b p s) (kept : p.Kept) (still : p.Still) : Still supply s := by
  refine l.use.still_of_stuck fun i v hv => ?_
  have here : (s.jobs.map Job.spot)[i]? = some v.spot := by rw [List.getElem?_map, hv]; rfl
  obtain ⟨⟨thread, x⟩, hw, -, behind⟩ :=
    forall₂_getElem? (List.Forall₂.flip (R := fun (x : Nat × Operation) (v : Plain.Call) =>
      x.1 = v.thread ∧ Behind n v.stage x.2) l.calls) here
  have stuck := Plain.stuck_of_still still hw
  have free := kept.unlocked_of_still still
  cases stage : v.stage with
  | knock q =>
    obtain ⟨q', use, serves⟩ := l.use.serves (List.mem_of_getElem? hv)
    rw [stage] at serves
    cases serves
    rw [Job.spot, stage] at behind
    cases behind with
    | coming =>
      cases q with
      | wait | gauge => simp [Plain.Stage.step, free] at stuck
      | parties => cases stuck
      | destroy | status => cases use
    | _ => cases stuck
  | finished r => rfl
  | _ =>
    rw [Job.spot, stage] at behind
    cases behind

end Lags

end Traffic

end Rendezvous
