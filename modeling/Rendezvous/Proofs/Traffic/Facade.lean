import Rendezvous.Proofs.Traffic.Use

/-!
# What callers see of a handle

From outside a handle in use looks like a barrier with nothing around it. A call that looks at the
slot, builds, or asks for the lock has not come yet; the barrier, while nobody has put it into its
slot, is the one that a construction will come to (`Arena.sight`). Then every turn on the handle is a
turn at the barrier, or none at all; only a count that is told from the unbuilt handle takes a few,
with which the caller takes the lock, reads nought and gives the lock back (`InUse.seen`).
-/

set_option autoImplicit false

namespace Rendezvous

open Barrier Handle

namespace Barrier

/-- It has not taken the lock yet. -/
def Wait.isComing : Wait → Bool
  | enter | lock => true
  | _ => false

theorem Wait.isComing_step {b : Barrier} {c : Cancellation} {fault : Option PrimitiveError}
    {w : Wait} {t : Wait.Turn} (move : w.step b c fault = some t) (inner : w ≠ .enter) :
    t.stage.isComing = false := by
  have afterGate (g : UInt64) (r : Except PrimitiveError Unit) :
      (Wait.afterGate g r).isComing = false := by
    rcases r with (_ | _) | _ <;> rfl
  have afterClaim (r : Except PrimitiveError Unit) : (Wait.afterClaim r).isComing = false := by
    cases r <;> rfl
  cases w with
  | enter => exact absurd rfl inner
  | lock | relock g | arrive | judge g =>
    simp only [step] at move
    split at move <;> cases move <;> rfl
  | trip g | counted g | retracted g | overtaken g => cases move; rfl
  | post g =>
    cases fault with
    | some e => cases move; rfl
    | none =>
      simp only [step] at move
      split at move <;> cases move <;> rfl
  | turnBack g => cases fault <;> cases move <;> rfl
  | pause g =>
    cases fault <;> cases move
    · rfl
    · exact afterGate g _
  | claim g => cases fault <;> cases move <;> rfl
  | blocked g shield w =>
    rcases AtGate.blocked.cases move with ⟨r, rfl⟩ | ⟨_, _, _, -, -, rfl⟩
    · cases move
      exact afterGate g r
    · rfl
  | claiming g shield w =>
    rcases AtGate.claiming.cases move with ⟨r, rfl⟩ | ⟨_, _, _, -, -, rfl⟩
    · cases move
      exact afterClaim r
    · rfl
  | finished r => cases move

end Barrier

namespace Handle

/-! ## Stages seen from outside -/

def Operation.plain : Operation → Plain.Stage
  | knock q | look q => .coming q
  | inside _ .enter | inside _ .lock => .coming .wait
  | inside _ w => .inside w
  | probe _ gauge .enter | probe _ gauge .lock => .coming (.gauge gauge)
  | probe _ gauge p => .probing gauge p
  | leave (.answer r) => .answered r
  | finished r => .returned r
  | _ => .coming .wait

def Job.plain (v : Job) : Plain.Call := ⟨v.thread, v.stage.plain⟩

theorem Operation.plain_inside {b : Nat} {w : Wait} (inner : w.isComing = false) :
    (inside b w).plain = .inside w := by
  cases w with
  | enter | lock => cases inner
  | _ => rfl

theorem Operation.isOver_plain (op : Operation) : op.plain.isOver = op.isOver := by
  cases op with
  | inside b w => cases w <;> rfl
  | probe b gauge p => cases p <;> rfl
  | leave n => cases n <;> rfl
  | _ => rfl

end Handle

/-- The barrier that callers of handle 0 see, if constructions come to `b`. -/
def Arena.sight (b : Barrier) (a : Arena) : Barrier :=
  match a.slot 0 with
  | .live _ => a.barrier 0
  | _ => b

namespace Arena

variable {b : Barrier} {a : Arena}

@[simp] theorem sight_setHolds (b : Barrier) (a : Arena) (h : Nat) (x : Holds) :
    (a.setHolds h x).sight b = a.sight b := by
  rw [sight, slot_setHolds]
  rfl

theorem sight_of_live {c : Nat} (live : a.slot 0 = .live c) : a.sight b = a.barrier 0 := by
  rw [sight, live]

theorem sight_of_unbuilt {n : UInt32} (slot : a.slot 0 = .unbuilt n) : a.sight b = b := by
  rw [sight, slot]

theorem sight_setBarrier {c : Nat} (live : a.slot 0 = .live c) (there : 0 < a.barriers.size)
    (x : Barrier) : (a.setBarrier 0 x).sight b = x := by
  rw [sight_of_live (a := a.setBarrier 0 x) (slot_setBarrier a 0 x 0 ▸ live),
    barrier_setBarrier_self x there]

end Arena

namespace Handle

variable {a : Arena} {b : Barrier} {c : Cancellation} {supply : Supply} {n : UInt32} {q : Inquiry}
  {op : Operation} {turn : Operation.Turn}

/-- Whether an operation can go on does not depend on what there is to build from. -/
theorem Operation.stuck_supply {op : Operation} {a : Arena} {h : Nat} {d : Cancellation}
    {supply : Supply} {fault : Option PrimitiveError} (stuck : op.step a h d supply fault = none)
    (other : Supply) : op.step a h d other fault = none := by
  cases op with
  | build e s =>
    by_cases ended : ∃ r, s = .finished r
    · obtain ⟨r, rfl⟩ := ended
      cases r <;> cases stuck
    · rw [step_build fun r hr => ended ⟨r, hr⟩, Option.map_eq_none_iff] at stuck
      exact absurd (Construction.finished_of_stuck stuck) ended
  | inside b w => cases w <;> exact stuck
  | probe b gauge p => cases p <;> exact stuck
  | tearDown b t => cases t <;> exact stuck
  | _ => exact stuck

/-! ## Turns seen from outside -/

/-- What is seen of a turn on the handle. -/
inductive Operation.Seen (b : Barrier) (a : Arena) (c : Cancellation) (op : Operation)
    (turn : Operation.Turn) : Prop where
  | quiet : turn.stage.plain = op.plain → turn.arena.sight b = a.sight b → turn.cancel = c →
      turn.stage.isOver = false → Operation.Seen b a c op turn
  | shown : op.plain.step (a.sight b) c =
      some (turn.arena.sight b, turn.cancel, turn.stage.plain) → Operation.Seen b a c op turn
  /-- A count told from the unbuilt handle. -/
  | nought {gauge : Gauge} : op = .look (.gauge gauge) → a.sight b = b → turn.arena = a →
      turn.cancel = c → turn.stage = .leave (.answer (.ok (.number 0))) →
      Operation.Seen b a c op turn

/-- The first look at a slot is not seen, unless there is an answer at once. -/
theorem Operation.seen_look (use : q.isUse = true) (parties : b.parties = n)
    (slot : a.slot 0 = .unbuilt n ∨ a.slot 0 = .live 0) :
    (look q).Seen b a c ⟨a, c, q.look a (a.slot 0), [], []⟩ := by
  rcases slot with slot | slot
  · cases q with
    | wait => exact .quiet (by simp only [slot]; rfl) rfl rfl (by simp only [slot]; rfl)
    | gauge g => exact .nought rfl (Arena.sight_of_unbuilt slot) rfl rfl (by simp only [slot]; rfl)
    | parties =>
      refine .shown ?_
      simp only [slot, Inquiry.look, Arena.partiesOf]
      rw [Arena.sight_of_unbuilt slot, ← parties]
      rfl
    | destroy | status => cases use
  · cases q with
    | wait => exact .quiet (by simp only [slot]; rfl) rfl rfl (by simp only [slot]; rfl)
    | gauge g => exact .quiet (by simp only [slot]; rfl) rfl rfl (by simp only [slot]; rfl)
    | parties =>
      refine .shown ?_
      simp only [slot, Inquiry.look, Arena.partiesOf]
      rw [Arena.sight_of_live slot]
      rfl
    | destroy | status => cases use

/-- A wait is seen from the turn on with which it takes the lock. -/
theorem Operation.seen_inside {w : Wait} {t : Wait.Turn} (live : a.slot 0 = .live 0)
    (there : 0 < a.barriers.size) (stepped : w.step (a.barrier 0) c none = some t) :
    (inside 0 w).Seen b a c
      ⟨a.setBarrier 0 t.barrier, t.cancel, inside 0 t.stage, t.events, t.notices⟩ := by
  by_cases first : w = .enter
  · subst first
    cases stepped
    refine .quiet rfl ?_ rfl rfl
    rw [Arena.sight_setBarrier live there, Arena.sight_of_live live]
  · have inner := Wait.isComing_step stepped first
    refine .shown ?_
    rw [Arena.sight_setBarrier live there, Arena.sight_of_live live, Operation.plain_inside inner]
    by_cases second : w = .lock
    · subst second
      simp only [Wait.step] at stepped
      split at stepped
      · cases stepped
      · next free =>
        cases stepped
        simp [Operation.plain, Plain.Stage.step, free]
    · rw [Operation.plain_inside, Plain.Stage.step_inside, stepped]
      · rfl
      · rintro r rfl
        cases stepped
      · cases w <;> first | rfl | exact absurd rfl first | exact absurd rfl second

/-- So is the reading of a count. -/
theorem Operation.seen_probe {g : Gauge} {p : Probe} {t : Probe.Turn} (live : a.slot 0 = .live 0)
    (there : 0 < a.barriers.size) (stepped : p.step (a.barrier 0) g none = some t) :
    (probe 0 g p).Seen b a c ⟨a.setBarrier 0 t.barrier, c, probe 0 g t.stage, t.events, []⟩ := by
  have before : a.sight b = a.barrier 0 := Arena.sight_of_live live
  have after := Arena.sight_setBarrier (b := b) live there t.barrier
  cases p with
  | enter =>
    cases stepped
    exact .quiet rfl (after.trans before.symm) rfl rfl
  | lock =>
    refine .shown ?_
    rw [after, before]
    simp only [Probe.step] at stepped
    split at stepped
    · cases stepped
    · next free =>
      cases stepped
      simp [Operation.plain, Plain.Stage.step, free]
  | read | leave value =>
    cases stepped
    refine .shown ?_
    rw [after, before]
    rfl
  | finished r => cases stepped

end Handle

namespace Traffic

variable {supply : Supply} {n : UInt32} {b : Barrier} {s t : Traffic} {x : Act} {i : Nat} {v w : Job}
  {p : Plain} {turn : Operation.Turn}

namespace InUse

/-- While a slot is unbuilt nobody works at a barrier, and what has been built is what is to be. -/
theorem seen (u : InUse supply n (.ok b) s) (parties : b.parties = n) (hv : s.jobs[i]? = some v)
    (moved : v.stage.step s.arena 0 (s.settings v.thread) supply none = some turn) :
    v.stage.Seen b s.arena (s.settings v.thread) turn := by
  have mem := List.mem_of_getElem? hv
  obtain ⟨q, use, serves⟩ := u.serves mem
  have track := u.onTrack v mem
  have known : 0 < s.arena.handles.size := by rw [u.single]; exact Nat.one_pos
  have working {k : Nat} (uses : v.stage.uses = some k) :
      s.arena.slot 0 = .live 0 ∧ k = 0 ∧ 0 < s.arena.barriers.size :=
    ⟨(u.slot_of_uses mem uses).1, (u.slot_of_uses mem uses).2,
      Nat.lt_of_le_of_lt (Nat.zero_le _) (u.custody.uses_lt mem uses)⟩
  obtain ⟨thread, h, aim, op, build⟩ := v
  dsimp only at *
  cases Operation.stride_of_step moved with
  | knock => exact .quiet rfl (by simp) rfl rfl
  | look =>
    cases serves
    exact Operation.seen_look use parties u.place.slot
  | @inside k w t stepped =>
    obtain ⟨live, rfl, there⟩ := working rfl
    exact Operation.seen_inside live there stepped
  | @outside k r => exact .shown rfl
  | @probe k g p t stepped =>
    obtain ⟨live, rfl, there⟩ := working rfl
    exact Operation.seen_probe live there stepped
  | @probed k g r => exact .shown rfl
  | @leave m =>
    cases m with
    | answer r => exact .shown (by rw [Arena.sight_setHolds]; rfl)
    | again | resolve => exact .quiet rfl (by simp) rfl rfl
    | discard | claim =>
      cases serves
      cases use
  | guard => exact .quiet rfl rfl rfl rfl
  | reserve => exact .quiet rfl (by simp) rfl rfl
  | @inspect e =>
    obtain rfl := Errand.eq_resolve use serves
    rcases u.place.slot with slot | slot <;>
      exact .quiet (by simp only [slot]; rfl) rfl rfl (by simp only [slot]; rfl)
  | build => exact .quiet rfl rfl rfl rfl
  | @built e x =>
    obtain rfl := Errand.eq_resolve use serves
    rcases u.place.slot with slot | slot
    · refine .quiet rfl ?_ rfl rfl
      rw [Arena.sight_of_unbuilt slot]
      exact Arena.sight_of_unbuilt (a := (s.arena.adopt x).1) slot
    · obtain ⟨m, builds, -⟩ := u.custody.fits _ mem
      rw [u.handle mem] at builds
      cases slot.symm.trans builds
  | failed =>
    cases Construction.Yields.of_finished track
  | announce => exact .quiet rfl (by simp) rfl rfl
  | @store e new =>
    obtain rfl : new = .live 0 := track
    obtain ⟨_, isOk, was, one⟩ := u.built_of_store mem rfl
    obtain rfl := Except.ok.inj isOk
    refine .quiet rfl ?_ rfl rfl
    rw [Arena.sight_of_unbuilt was,
      Arena.sight_of_live (a := s.arena.setSlot 0 (.live 0)) (Arena.slot_setSlot_self _ known)]
    show s.arena.barriers.getD 0 default = b
    rw [one]
    rfl
  | @release e m | @giveUp e m =>
    obtain rfl := Errand.eq_resolve use serves.1
    cases m with
    | answer r =>
      obtain ⟨_, isError, -⟩ := track
      cases isError
    | _ => exact .quiet rfl (by simp) rfl rfl
  | @unguard m =>
    cases m with
    | answer r =>
      obtain ⟨_, isError, -⟩ := track
      cases isError
    | again | resolve => exact .quiet rfl rfl rfl rfl
    | discard | claim =>
      cases serves
      cases use
  | abandon => exact track.elim
  | _ =>
    cases serves
    cases use

end InUse

/-! ## Runs seen from outside -/

/-- What is seen of the traffic is this. -/
structure Looks (supply : Supply) (n : UInt32) (b : Barrier) (s : Traffic) (p : Plain) : Prop where
  use : InUse supply n (.ok b) s
  barrier : p.barrier = s.arena.sight b
  settings : p.settings = s.settings
  calls : p.calls = s.jobs.map Job.plain

theorem sayings_go (hv : s.jobs[i]? = some v) (here : v.handle = 0)
    (moved : v.stage.step s.arena 0 (s.settings v.thread) supply none = some turn) :
    s.act supply (.go i) = some (s.after i v turn) ∧
      s.sayings supply (.go i) = heard v.thread turn.stage := by
  have move : s.act supply (.go i) = some (s.after i v turn) := by
    simp [act, Act.move, step, hv, permits, here, moved]
  refine ⟨move, ?_⟩
  rw [sayings, move, Option.bind_some, job_after_self hv]
  rfl

namespace Looks

theorem isOutside (l : Looks supply n b s p) (thread : Nat) :
    p.isOutside thread = s.isOutside thread := by
  rw [Plain.isOutside, Traffic.isOutside, l.calls, List.all_map]
  refine List.all_congr rfl fun v => ?_
  simp [Job.plain, Operation.isOver_plain]

/-- The call at its place, and the settings of its thread. -/
theorem call (l : Looks supply n b s p) (hv : s.jobs[i]? = some v) :
    p.calls[i]? = some v.plain ∧ p.settings v.plain.thread = s.settings v.thread := by
  refine ⟨by rw [l.calls, List.getElem?_map, hv]; rfl, by rw [l.settings]; rfl⟩

/-- What is heard of a stage is heard of it at the barrier, too. -/
theorem heard_plain (thread : Nat) (op : Operation) :
    Plain.Call.heard ⟨thread, op.plain⟩ = heard thread op := by
  cases op with
  | inside c w => cases w <;> rfl
  | probe c gauge w => cases w <;> rfl
  | leave m => cases m <;> rfl
  | _ => rfl

/-- Every turn on the handle is matched by turns at the barrier of which as much is heard. -/
theorem goes (l : Looks supply n b s p) (parties : b.parties = n) (free : b.locked = false)
    (zero : ∀ g, b.read g = 0) (hv : s.jobs[i]? = some v)
    (moved : v.stage.step s.arena 0 (s.settings v.thread) supply none = some turn) :
    ∃ q, Schedule.Tells Plain.step Plain.sayings p (heard v.thread turn.stage) q ∧
      Looks supply n b (s.after i v turn) q := by
  have u := l.use.goes hv moved
  obtain ⟨hc, same⟩ := l.call hv
  have calls (stage : Operation) : (s.jobs.set i (v.enter s.books stage)).map Job.plain =
      p.calls.set i { v.plain with stage := stage.plain } := by
    rw [List.map_set, ← l.calls]
    rfl
  have kept (keeps : turn.cancel = s.settings v.thread) :
      p.settings = (s.after i v turn).settings := by
    rw [l.settings]
    exact funext fun t => (ite_eq_right_iff.mpr fun here => by rw [here, keeps]).symm
  cases l.use.seen parties hv moved with
  | quiet still sight keeps going =>
    have unheard : heard v.thread turn.stage = [] := heard_of_going v.thread going
    rw [unheard]
    refine ⟨p, .nil p, u, l.barrier.trans sight.symm, kept keeps, ?_⟩
    rw [show (s.after i v turn).jobs.map Job.plain = _ from calls turn.stage, still]
    obtain ⟨there, value⟩ := List.getElem?_eq_some_iff.mp hc
    rw [show ({ v.plain with stage := v.stage.plain } : Plain.Call) = v.plain from rfl, ← value,
      List.set_getElem_self]
  | shown shown =>
    rw [← l.barrier, ← same] at shown
    have move := Plain.goes_of_step hc shown
    refine ⟨p.after i v.plain (turn.arena.sight b) turn.cancel turn.stage.plain, ?_, u, rfl, ?_,
      (calls turn.stage).symm⟩
    · exact .of_move move ((Plain.sayings_go hc shown).trans (heard_plain v.thread turn.stage))
    · show (fun t => if t = v.thread then turn.cancel else p.settings t) = _
      rw [l.settings]
      rfl
  | @nought g asks sight arena keeps stage =>
    have here : p.barrier = b := l.barrier.trans sight
    have told := Plain.tells_of_goes (x := .answered (.ok (.number 0))) hc (b := p.barrier) (by
      rw [show v.plain.stage = .coming (.gauge g) by rw [Job.plain, asks]; rfl]
      exact Plain.Stage.goes_nought _ (here ▸ free) (here ▸ zero g))
    refine ⟨{ p with calls := p.calls.set i { v.plain with stage := .answered (.ok (.number 0)) } },
      ?_, u, ?_, kept keeps, ?_⟩
    · rw [stage]
      exact told
    · rw [show (s.after i v turn).arena = _ from arena]
      exact l.barrier
    · rw [show (s.after i v turn).jobs.map Job.plain = _ from calls turn.stage, stage]
      rfl

/-- What is done to the handle is matched by what is done to the barrier. -/
theorem step (l : Looks supply n b s p) (parties : b.parties = n) (free : b.locked = false)
    (zero : ∀ g, b.read g = 0) (h : s.act supply x = some t) :
    ∃ q, Schedule.Tells Plain.step Plain.sayings p (s.sayings supply x) q ∧
      Looks supply n b t q := by
  have u := l.use.step h
  have move := step_of_act h
  cases x with
  | call thread q =>
    have use : q.isUse = true := by
      simp only [act] at h
      split at h
      · next use => exact use
      · cases h
    cases step_effect move with
    | begins outside =>
      refine ⟨{ p with calls := p.calls ++ [⟨thread, .coming q⟩] },
        .of_move (i := .call thread q) ?_ rfl, u, l.barrier, l.settings, ?_⟩
      · simp [Plain.step, use, l.isOutside, outside]
      · rw [l.calls, List.map_append]
        rfl
    | sets _ quiet => cases quiet
  | go i =>
    cases step_effect move with
    | @goes _ _ _ v turn hv _ moved =>
      have here := l.use.handle (List.mem_of_getElem? hv)
      rw [here] at moved
      rw [(sayings_go hv here moved).2]
      exact l.goes parties free zero hv moved
    | sets quiet => cases quiet
  | request thread =>
    cases h
    refine ⟨_, .of_move (i := .request thread) rfl rfl, u, l.barrier, ?_, l.calls⟩
    rw [Plain.setSettings, l.settings]
    rfl
  | adjust thread type state =>
    simp only [act, Act.move, Traffic.step] at h
    split at h
    · next outside =>
      cases h
      refine ⟨p.setSettings thread { p.settings thread with type, state },
        .of_move (i := .adjust thread type state) ?_ rfl, u, l.barrier, ?_, l.calls⟩
      · simp [Plain.step, l.isOutside, outside]
      · rw [Plain.setSettings, l.settings]
        rfl
    · cases h

end Looks

/-! ## At rest -/

/-- No call can go on. -/
def Still (supply : Supply) (s : Traffic) : Prop := ∀ i, s.act supply (.go i) = none

namespace InUse

variable {r : Except BarrierError Barrier}

theorem stuck_of_still (u : InUse supply n r s) (still : Still supply s) (hv : s.jobs[i]? = some v) :
    v.stage.step s.arena 0 (s.settings v.thread) supply none = none := by
  cases moved : v.stage.step s.arena 0 (s.settings v.thread) supply none with
  | none => rfl
  | some turn =>
    have goes := (sayings_go hv (u.handle (List.mem_of_getElem? hv)) moved).1
    cases (still i).symm.trans goes

theorem still_of_stuck (u : InUse supply n r s)
    (stuck : ∀ (i : Nat) (v : Job), s.jobs[i]? = some v →
      v.stage.step s.arena 0 (s.settings v.thread) supply none = none) : Still supply s := by
  intro i
  cases move : s.act supply (.go i) with
  | none => rfl
  | some t =>
    cases step_effect (step_of_act move) with
    | @goes _ _ _ v turn hv _ moved =>
      rw [u.handle (List.mem_of_getElem? hv), stuck i v hv] at moved
      cases moved
    | sets quiet => cases quiet

/-- Where nobody can go on, nobody holds the barrier's lock. -/
theorem unlocked_of_still (u : InUse supply n r s) (still : Still supply s) :
    (s.arena.barrier 0).locked = false := by
  cases locked : (s.arena.barrier 0).locked with
  | false => rfl
  | true =>
    obtain ⟨k, w, hw, locks⟩ := u.custody.lockHolder locked
    have mem := List.mem_of_getElem? hw
    obtain ⟨q, use, serves⟩ := u.serves mem
    have within : w.stage.within = true := by
      cases stage : w.stage with
      | inside | probe => rfl
      | clear | detach | tearDown =>
        rw [stage] at serves
        cases serves
        cases use
      | _ =>
        rw [stage] at locks
        cases locks
    obtain ⟨turn, moved, -⟩ := Operation.releases (a := s.arena) (h := 0)
      (d := s.settings w.thread) within locks
    cases (Operation.stuck_supply (u.stuck_of_still still hw) {}).symm.trans moved

theorem not_parked_of_still (u : InUse supply n r s) (still : Still supply s) : ¬ Parked s i := by
  intro parked
  obtain ⟨j, -, goes, -⟩ : Unwinds nothing s i := u.custody.unwinds_of_parked parked
  obtain ⟨t, move⟩ := Option.isSome_iff_exists.mp goes
  cases step_effect move with
  | goes hw _ moved =>
    rw [u.handle (List.mem_of_getElem? hw)] at moved
    cases (Operation.stuck_supply (u.stuck_of_still still hw) {}).symm.trans moved
  | sets quiet => cases quiet

/-- Where nobody can go on, whoever is not over is in the barrier, beyond its lock. -/
theorem inside_of_still (u : InUse supply n r s) (still : Still supply s) (hv : s.jobs[i]? = some v)
    (going : v.stage.isOver = false) : s.arena.slot 0 = .live 0 ∧
      ∃ w : Wait, v.stage = .inside 0 w ∧ w.isComing = false ∧ ∀ x, w ≠ .finished x := by
  have mem := List.mem_of_getElem? hv
  have stuck := u.stuck_of_still still hv
  have free := u.unlocked_of_still still
  cases stage : v.stage with
  | inside k w =>
    obtain ⟨live, rfl⟩ := u.slot_of_uses mem (b := k) (by rw [stage]; rfl)
    rw [stage] at stuck
    refine ⟨live, w, rfl, ?_, ?_⟩
    · cases w with
      | enter => cases stuck
      | lock => simp [Operation.step, Wait.step, free] at stuck
      | _ => rfl
    · rintro x rfl
      cases stuck
  | probe k g w =>
    obtain ⟨live, rfl⟩ := u.slot_of_uses mem (b := k) (by rw [stage]; rfl)
    rw [stage] at stuck
    cases w with
    | lock => simp [Operation.step, Probe.step, free] at stuck
    | _ => cases stuck
  | knock | guard | reserve | store =>
    refine absurd ⟨v, hv, by rw [stage]; rfl, fun supply' fault => ?_⟩ (u.not_parked_of_still still)
    rw [u.handle mem, stage]
    rw [stage] at stuck
    exact stuck
  | finished =>
    rw [stage] at going
    cases going
  | _ =>
    have goes : (v.stage.step s.arena 0 (s.settings v.thread) supply none).isSome = true :=
      Operation.goes (by rw [stage]; rfl) (by rw [stage]; rfl) going
    rw [stuck] at goes
    cases goes

end InUse

/-- Where nobody can go on at the handle, nobody can at the barrier that is seen. -/
theorem Looks.still (l : Looks supply n b s p) (still : Still supply s) : p.Still := by
  intro i
  cases move : p.step (.go i) with
  | none => rfl
  | some q =>
    obtain ⟨c, _, _, _, hc, moved, -⟩ := Plain.turn_of_step move
    rw [l.calls, List.getElem?_map] at hc
    obtain ⟨v, hv, rfl⟩ := Option.map_eq_some_iff.mp hc
    have stuck := l.use.stuck_of_still still hv
    rw [l.barrier, l.settings] at moved
    cases ended : v.stage.isOver with
    | true =>
      cases stage : v.stage with
      | finished r =>
        simp only [Job.plain, stage] at moved
        cases moved
      | _ =>
        rw [stage] at ended
        cases ended
    | false =>
      obtain ⟨live, w, stage, inner, going⟩ := l.use.inside_of_still still hv ended
      rw [stage, Operation.step_inside going, Option.map_eq_none_iff] at stuck
      simp only [Job.plain, stage, Operation.plain_inside inner, Plain.Stage.step_inside going,
        Arena.sight_of_live live, stuck] at moved
      cases moved

end Traffic

end Rendezvous
