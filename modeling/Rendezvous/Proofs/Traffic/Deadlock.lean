import Mathlib.Logic.Relation
import Rendezvous.Proofs.Traffic.Seclusion

/-!
# Nobody waits for ever at a slot

A call can be kept waiting in two ways that have nothing to do with its barrier: at its slot, by
whoever holds the slot in a way that excludes it, and at the process-wide lock, by whoever holds
that (`Awaits`). Whoever holds a slot reserved goes on without waiting for anybody, and so does
whoever holds it exclusively, but for the last step of an errand: it waits for the sharers that are
left. These do not stay, because an errand writes only where there is no barrier to be inside of.
And whoever holds the process-wide lock waits at most for a slot.

So from every call that is kept waiting a chain of such waits leads to one that can go on
(`unwinds_of_parked`), and nobody on the chain is in a barrier, not even at its end. In particular
nobody can shut the slot of a barrier while somebody is inside: whoever comes to wait there gets in,
and as far as being counted (`canArrive_of_inside`).
-/

set_option autoImplicit false

namespace Rendezvous

open Barrier Handle

namespace Handle

variable {a : Arena} {h b : Nat} {d : Cancellation} {supply : Supply} {op : Operation}

/-! ## Who can be kept waiting -/

/-- The next stage takes the process-wide lock or takes the slot, and may have to wait for it. -/
def Operation.acquires : Operation → Bool
  | knock _ | guard _ | reserve _ | store .. => true
  | _ => false

/-- It is in a barrier. -/
def Operation.within : Operation → Bool
  | inside .. | probe .. => true
  | _ => false

/-- Holding the slot in this way keeps the next stage waiting. -/
def Operation.keptOutBy : Operation → Grip → Bool
  | knock _, .exclusive | reserve _, .reserved | reserve _, .exclusive | store .., .shared => true
  | _, _ => false

/-- Whoever is not taking anything, not in a barrier and not over can go on. -/
theorem Operation.goes (takes : op.acquires = false) (outside : op.within = false)
    (unfinished : op.isOver = false) : (op.step a h d supply none).isSome = true := by
  cases op with
  | knock | guard | reserve | store => cases takes
  | inside | probe => cases outside
  | finished => cases unfinished
  | build e s =>
    by_cases ended : ∃ r, s = .finished r
    · obtain ⟨r, rfl⟩ := ended
      cases r <;> rfl
    · rw [step_build fun r hr => ended ⟨r, hr⟩, Option.isSome_map, Option.isSome_iff_ne_none]
      exact fun stuck => ended (Construction.finished_of_stuck stuck)
  | claim | seize c =>
    simp only [step]
    split <;> rfl
  | verify =>
    simp only [step]
    split <;> rfl
  | tearDown c t => cases t <;> rfl
  | _ => rfl

/-- Whoever holds something that another call may need is not over, and takes nothing more while it
holds a slot, but for the errand at its end. -/
theorem Operation.goes_or_stores (grip : op.hands.grip = .reserved ∨ op.hands.grip = .exclusive) :
    (∃ e new, op = .store e new) ∨ (op.step a h d supply none).isSome = true := by
  cases op with
  | store e new => exact .inl ⟨e, new, rfl⟩
  | knock | look | inside | probe | leave | guard | reserve | unguard | claim | tearDown
  | finished => rcases grip with grip | grip <;> cases grip
  | _ => exact .inr (goes rfl rfl rfl)

/-- Whoever is in a barrier with its lock gives the lock back with its next turn or with the one
after. -/
theorem Operation.releases (within : op.within = true) (locks : op.hands.locks = some b) :
    ∃ turn, op.step a h d {} none = some turn ∧
      (turn.stage.hands.locks = none ∨ turn.stage.hands.locks = some b ∧
        ∀ a d, ∃ turn', turn.stage.step a h d {} none = some turn' ∧
          turn'.stage.hands.locks = none) := by
  cases op with
  | inside c w =>
    have holds : w.holdsLock = true := by
      by_contra free
      simp [hands, free] at locks
    obtain rfl : c = b := by simpa [hands, holds] using locks
    rw [step_inside fun r hr => by rw [hr] at holds; cases holds]
    cases w with
    | trip g | counted g | retracted g | overtaken g => exact ⟨_, rfl, .inl rfl⟩
    | arrive =>
      simp only [Wait.step]
      split <;> exact ⟨_, rfl, .inr ⟨rfl, fun _ _ => ⟨_, rfl, rfl⟩⟩⟩
    | judge g =>
      simp only [Wait.step]
      split <;> exact ⟨_, rfl, .inr ⟨rfl, fun _ _ => ⟨_, rfl, rfl⟩⟩⟩
    | _ => cases holds
  | probe c g p =>
    have holds : p.holdsLock = true := by
      by_contra free
      simp [hands, free] at locks
    obtain rfl : c = b := by simpa [hands, holds] using locks
    cases p with
    | read => exact ⟨_, rfl, .inr ⟨rfl, fun _ _ => ⟨_, rfl, rfl⟩⟩⟩
    | leave value => exact ⟨_, rfl, .inl rfl⟩
    | _ => cases holds
  | _ => cases within

end Handle

namespace Traffic

variable {mayFail : Ask → Bool} {s t u : Traffic} {m : Move} {h k i j b : Nat} {v w : Job}

/-- Call `i` has to wait at its slot or at the process-wide lock. -/
def Parked (s : Traffic) (i : Nat) : Prop :=
  ∃ v, s.jobs[i]? = some v ∧ v.stage.acquires = true ∧
    ∀ supply fault, v.stage.step s.arena v.handle (s.settings v.thread) supply fault = none

/-- Call `i` waits for something that call `j` holds. -/
inductive Awaits (s : Traffic) : Nat → Nat → Prop where
  | slot {i j : Nat} {v w : Job} : s.jobs[i]? = some v → s.jobs[j]? = some w → w.handle = v.handle →
      v.stage.keptOutBy w.stage.hands.grip = true → Awaits s i j
  | guard {i j : Nat} {v w : Job} {e : Errand} : s.jobs[i]? = some v → s.jobs[j]? = some w →
      v.stage = .guard e → w.stage.hands.guards = true → Awaits s i j

/-- Call `j` can go on, and is not in a barrier. -/
def Free (mayFail : Ask → Bool) (s : Traffic) (j : Nat) : Prop :=
  (s.step mayFail (.go j)).isSome = true ∧ ∃ w, s.jobs[j]? = some w ∧ w.stage.within = false

/-- The waits lead to somebody who can go on. -/
def Unwinds (mayFail : Ask → Bool) (s : Traffic) (i : Nat) : Prop :=
  ∃ j, Relation.ReflTransGen (Awaits s) i j ∧ Free mayFail s j

theorem Unwinds.here (free : Free mayFail s i) : Unwinds mayFail s i := ⟨i, .refl, free⟩

theorem Unwinds.behind (awaits : Awaits s i j) (rest : Unwinds mayFail s j) :
    Unwinds mayFail s i := by
  obtain ⟨k, waits, free⟩ := rest
  exact ⟨k, .head awaits waits, free⟩

theorem goes_of_step {turn : Operation.Turn} (hw : s.jobs[j]? = some w)
    (moved : w.stage.step s.arena w.handle (s.settings w.thread) {} none = some turn) :
    s.step mayFail (.go j) = some (s.after j w turn) := by
  simp [step, hw, permits, moved]

theorem free_of_step (hw : s.jobs[j]? = some w) (outside : w.stage.within = false)
    (goes : (w.stage.step s.arena w.handle (s.settings w.thread) {} none).isSome = true) :
    Free mayFail s j := by
  obtain ⟨turn, moved⟩ := Option.isSome_iff_exists.mp goes
  exact ⟨by rw [goes_of_step hw moved]; rfl, w, hw, outside⟩

namespace Custody

/-! ## Finding the holder -/

theorem holder (c : Custody s) {g : Grip} (held : 0 < (s.arena.holds h).count g) :
    ∃ (j : Nat) (w : Job), s.jobs[j]? = some w ∧ w.handle = h ∧ w.stage.hands.grip = g := by
  rw [← c.holds h g] at held
  obtain ⟨w, mem, grips⟩ := List.countP_pos_iff.mp held
  obtain ⟨j, hw⟩ := List.mem_iff_getElem?.mp mem
  simp only [Job.grips, Operation.grips, Bool.and_eq_true, decide_eq_true_eq] at grips
  exact ⟨j, w, hw, grips.1, grips.2.2⟩

theorem guardian (c : Custody s) (guarded : s.arena.guarded = true) :
    ∃ (j : Nat) (w : Job), s.jobs[j]? = some w ∧ w.stage.hands.guards = true :=
  exists_of_countP c.guarded guarded

theorem lockHolder (c : Custody s) (locked : (s.arena.barrier b).locked = true) :
    ∃ (j : Nat) (w : Job), s.jobs[j]? = some w ∧ w.stage.hands.locks = some b := by
  obtain ⟨j, w, hw, locks⟩ := exists_of_countP (c.locked b) locked
  exact ⟨j, w, hw, of_decide_eq_true locks⟩

/-! ## Following the waits -/

/-- Whoever shares a slot without a barrier is not in one. -/
theorem outside_of_shared (c : Custody s) (hw : w ∈ s.jobs)
    (shares : w.stage.hands.grip = .shared) (unowned : ∀ b, s.arena.slot w.handle ≠ .live b) :
    w.stage.within = false ∧ w.stage.acquires = false ∧ w.stage.isOver = false := by
  have fits := c.fits w hw
  cases stage : w.stage with
  | look | leave => exact ⟨rfl, rfl, rfl⟩
  | inside c x | probe c g x =>
    rw [stage] at fits
    exact absurd fits (unowned c)
  | _ =>
    rw [stage] at shares
    cases shares

/-- An errand that cannot write yet waits for somebody who can go on. -/
theorem unwinds_of_store (c : Custody s) (hv : s.jobs[i]? = some v) {e : Errand} {new : Slot}
    (stage : v.stage = .store e new) : Unwinds mayFail s i := by
  have mem := List.mem_of_getElem? hv
  by_cases alone : (s.arena.holds v.handle).sharers = 0
  · refine .here (free_of_step hv (by rw [stage]; rfl) ?_)
    simp [stage, Operation.step, alone]
  · obtain ⟨j, w, hw, same, shares⟩ := c.holder (g := .shared) (Nat.pos_of_ne_zero alone)
    obtain ⟨outside, takes, going⟩ := c.outside_of_shared (List.mem_of_getElem? hw) shares
      fun b => by rw [same]; exact c.slot_of_store mem stage b
    have free : Free mayFail s j := free_of_step hw outside (Operation.goes takes outside going)
    exact .behind (.slot hv hw same (by rw [stage, shares]; rfl)) (.here free)

/-- Whoever keeps others out of its slot can go on, or waits for somebody who can. -/
theorem unwinds_of_holding (c : Custody s) (hv : s.jobs[i]? = some v)
    (grip : v.stage.hands.grip = .reserved ∨ v.stage.hands.grip = .exclusive) :
    Unwinds mayFail s i := by
  have outside : v.stage.within = false := by
    cases stage : v.stage with
    | inside | probe =>
      rw [stage] at grip
      rcases grip with grip | grip <;> cases grip
    | _ => rfl
  rcases Operation.goes_or_stores grip with ⟨e, new, stage⟩ | goes
  · exact c.unwinds_of_store hv stage
  · exact .here (free_of_step hv outside goes)

theorem unwinds_of_reserve (c : Custody s) (hv : s.jobs[i]? = some v) {e : Errand}
    (stage : v.stage = .reserve e) : Unwinds mayFail s i := by
  by_cases may : (s.arena.holds v.handle).mayReserve = true
  · refine .here (free_of_step hv (by rw [stage]; rfl) ?_)
    simp [stage, Operation.step, may]
  · have taken : (s.arena.holds v.handle).reserved = true ∨
        (s.arena.holds v.handle).exclusive = true := by
      simpa [Holds.mayReserve, or_iff_not_imp_left] using may
    obtain ⟨g, either, held⟩ : ∃ g, (g = .reserved ∨ g = .exclusive) ∧
        0 < (s.arena.holds v.handle).count g := by
      rcases taken with taken | taken
      · exact ⟨.reserved, .inl rfl, by simp [Holds.count, taken]⟩
      · exact ⟨.exclusive, .inr rfl, by simp [Holds.count, taken]⟩
    obtain ⟨j, w, hw, same, grip⟩ := c.holder held
    refine .behind (.slot hv hw same ?_) (c.unwinds_of_holding hw (by rw [grip]; exact either))
    rw [stage, grip]
    rcases either with rfl | rfl <;> rfl

/-- Whoever holds the process-wide lock can go on, or waits at its slot. -/
theorem unwinds_of_guards (c : Custody s) (hv : s.jobs[i]? = some v)
    (guards : v.stage.hands.guards = true) : Unwinds mayFail s i := by
  cases stage : v.stage with
  | reserve e => exact c.unwinds_of_reserve hv stage
  | inspect | build | announce | giveUp =>
    exact c.unwinds_of_holding hv (.inl (by rw [stage]; rfl))
  | store | release => exact c.unwinds_of_holding hv (.inr (by rw [stage]; rfl))
  | unguard n =>
    exact .here (free_of_step hv (by rw [stage]; rfl) (by rw [stage]; rfl))
  | inside | probe | knock | look | leave | guard | claim | verify | seize | clear | detach
  | tearDown | abandon | finished =>
    rw [stage] at guards
    cases guards

/-- From whoever is kept waiting the waits lead to somebody who can go on. -/
theorem unwinds_of_parked (c : Custody s) (parked : Parked s i) : Unwinds mayFail s i := by
  obtain ⟨v, hv, takes, still⟩ := parked
  have still := still {} none
  cases stage : v.stage with
  | knock q =>
    rw [stage, Operation.step] at still
    by_cases may : (s.arena.holds v.handle).mayShare = true
    · rw [if_pos may] at still
      cases still
    · have held : 0 < (s.arena.holds v.handle).count .exclusive := by
        have taken : (s.arena.holds v.handle).exclusive = true := by
          simpa [Holds.mayShare] using may
        simp [Holds.count, taken]
      obtain ⟨j, w, hw, same, grip⟩ := c.holder held
      exact .behind (.slot hv hw same (by rw [stage, grip]; rfl)) (c.unwinds_of_holding hw (.inr grip))
  | guard e =>
    rw [stage, Operation.step] at still
    by_cases taken : s.arena.guarded = true
    · obtain ⟨j, w, hw, guards⟩ := c.guardian taken
      exact .behind (.guard hv hw stage guards) (c.unwinds_of_guards hw guards)
    · rw [if_neg taken] at still
      cases still
  | reserve e => exact c.unwinds_of_reserve hv stage
  | store e new => exact c.unwinds_of_store hv stage
  | _ =>
    rw [stage] at takes
    cases takes

/-- Nobody waits at a slot or at the process-wide lock for somebody in a barrier. -/
theorem outside_of_awaits (c : Custody s) (awaits : Awaits s i j) (hw : s.jobs[j]? = some w) :
    w.stage.within = false := by
  cases awaits with
  | @slot v w' hv hw' same kept =>
    obtain rfl := Option.some.inj (hw.symm.trans hw')
    cases within : w.stage with
    | inside b x | probe b g x =>
      rw [within] at kept
      cases stage : v.stage with
      | store e new =>
        have fits := c.fits w (List.mem_of_getElem? hw)
        rw [within, same] at fits
        exact absurd fits (c.slot_of_store (List.mem_of_getElem? hv) stage b)
      | _ =>
        rw [stage] at kept
        cases kept
    | _ => rfl
  | guard _ hw' _ guards =>
    obtain rfl := Option.some.inj (hw.symm.trans hw')
    cases within : w.stage with
    | inside | probe =>
      rw [within] at guards
      cases guards
    | _ => rfl

/-! ## Arriving -/

/-- Nobody shuts a slot while somebody is in its barrier. -/
theorem mayShare_of_inside (c : Custody s) (hv : v ∈ s.jobs) {x : Wait}
    (inside : v.stage = .inside b x) : (s.arena.holds v.handle).mayShare = true := by
  have live := c.slot_of_inside hv inside
  have shares := c.count_pos hv rfl (g := .shared) (by rw [inside]; rfl) (by decide)
  have sharers : (s.arena.holds v.handle).sharers ≠ 0 := Nat.ne_of_gt shares
  cases taken : (s.arena.holds v.handle).exclusive with
  | false => simp [Holds.mayShare, taken]
  | true =>
    obtain ⟨j, w, hw, same, grip⟩ := c.holder (h := v.handle) (g := .exclusive)
      (by simp [Holds.count, taken])
    have mem := List.mem_of_getElem? hw
    have fits := c.fits w mem
    rw [← same] at live sharers
    cases stage : w.stage with
    | store e new => exact absurd live (c.slot_of_store mem stage b)
    | release | verify | abandon =>
      rw [stage] at fits
      exact absurd fits sharers
    | seize | clear | detach =>
      rw [stage] at fits
      exact absurd fits.2 sharers
    | _ =>
      rw [stage] at grip
      cases grip

end Custody

/-- Call `j` can be brought to where it is counted in, or is the last to be, by turns of its own and
of call `k`. -/
def CanArrive (mayFail : Ask → Bool) (b j k : Nat) (s : Traffic) : Prop :=
  ∃ moves t u g, (∀ m ∈ moves, m = .go j ∨ m = .go k) ∧
    Schedule.run (step mayFail) s moves = some t ∧ t.jobs[j]? = some u ∧
    (u.stage = .inside b (.counted g) ∨ u.stage = .inside b (.trip g))

theorem CanArrive.of_go {l : Nat} (rest : CanArrive mayFail b j k t) (mover : l = j ∨ l = k)
    (moved : s.step mayFail (.go l) = some t) : CanArrive mayFail b j k s := by
  obtain ⟨moves, u, w, g, own, run, hw, there⟩ := rest
  refine ⟨.go l :: moves, u, w, g, fun m hm => ?_, by simp [Schedule.run, moved, run], hw, there⟩
  rcases List.mem_cons.mp hm with rfl | hm
  · rcases mover with rfl | rfl
    · exact .inl rfl
    · exact .inr rfl
  · exact own m hm

theorem job_after_self {turn : Operation.Turn} (hw : s.jobs[j]? = some w) :
    (s.after j w turn).jobs[j]? = some (w.enter s.books turn.stage) :=
  List.getElem?_set_self (List.getElem?_eq_some_iff.mp hw).1

theorem job_after_of_ne {turn : Operation.Turn} (hw : s.jobs[j]? = some w) (ne : k ≠ j) :
    (s.after k v turn).jobs[j]? = some w := (List.getElem?_set_ne ne).trans hw

theorem canArrive_of_arrive (k : Nat) (hw : s.jobs[j]? = some w)
    (stage : w.stage = .inside b .arrive) : CanArrive mayFail b j k s := by
  have counting : ∃ turn g, w.stage.step s.arena w.handle (s.settings w.thread) {} none = some turn ∧
      (turn.stage = .inside b (.counted g) ∨ turn.stage = .inside b (.trip g)) := by
    rw [stage, Operation.step_inside (w := .arrive) fun _ => nofun]
    simp only [Wait.step]
    split
    · exact ⟨_, _, rfl, .inr rfl⟩
    · exact ⟨_, _, rfl, .inl rfl⟩
  obtain ⟨turn, g, moved, there⟩ := counting
  refine ⟨[.go j], _, _, g, fun m hm => .inl (List.mem_singleton.mp hm), ?_, job_after_self hw, there⟩
  simp [Schedule.run, goes_of_step hw moved]

theorem canArrive_of_free (k : Nat) (hw : s.jobs[j]? = some w) (stage : w.stage = .inside b .lock)
    (free : (s.arena.barrier b).locked = false) : CanArrive mayFail b j k s := by
  have moved : w.stage.step s.arena w.handle (s.settings w.thread) {} none = some
      ⟨s.arena.setBarrier b (s.arena.barrier b).lock, s.settings w.thread, .inside b .arrive,
        [⟨.lock, .done⟩], []⟩ := by
    rw [stage, Operation.step_inside (w := .lock) fun _ => nofun]
    simp [Wait.step, free]
  exact (canArrive_of_arrive k (job_after_self hw) rfl).of_go (.inl rfl) (goes_of_step hw moved)

namespace Custody

/-- Once the holder has given the lock back, it is free. -/
theorem unlocked_after (c : Custody s) (hv : s.jobs[k]? = some v)
    (locks : v.stage.hands.locks = some b) {turn : Operation.Turn}
    (moved : v.stage.step s.arena v.handle (s.settings v.thread) {} none = some turn)
    (released : turn.stage.hands.locks = none) :
    ((s.after k v turn).arena.barrier b).locked = false := by
  have counted := countP_set_add (Job.locks b) (v.enter s.books turn.stage) hv
  have before := c.locked b
  have after : (s.jobs.set k (v.enter s.books turn.stage)).countP (Job.locks b) =
      ((s.after k v turn).arena.barrier b).locked.toNat := (c.goes hv moved).locked b
  have had : v.locks b = true := decide_eq_true locks
  have has : (v.enter s.books turn.stage).locks b = false := by
    refine decide_eq_false ?_
    rw [show (v.enter s.books turn.stage).stage = turn.stage from rfl, released]
    nofun
  have most := Bool.toNat_le (s.arena.barrier b).locked
  rw [had, has, Bool.toNat_true, Bool.toNat_false] at counted
  exact Bool.toNat_eq_zero.mp (by omega)

theorem canArrive_of_lock (c : Custody s) (hw : s.jobs[j]? = some w)
    (stage : w.stage = .inside b .lock) : ∃ k, CanArrive mayFail b j k s := by
  cases locked : (s.arena.barrier b).locked with
  | false => exact ⟨j, canArrive_of_free j hw stage locked⟩
  | true =>
    have mem := List.mem_of_getElem? hw
    have live := c.slot_of_inside mem stage
    obtain ⟨k, v, hv, locks⟩ := c.lockHolder locked
    have memv := List.mem_of_getElem? hv
    obtain ⟨same, -⟩ := c.handle_of_uses live memv (Operation.uses_of_locks locks)
    have ne : k ≠ j := by
      rintro rfl
      obtain rfl := Option.some.inj (hv.symm.trans hw)
      rw [stage] at locks
      cases locks
    -- nobody has the slot for itself while this call is inside, so the holder is in the barrier
    have within : v.stage.within = true := by
      have may := c.mayShare_of_inside mem stage
      cases stage' : v.stage with
      | inside | probe => rfl
      | clear | detach =>
        have taken := c.count_pos memv same (g := .exclusive) (by rw [stage']; rfl) (by decide)
        simp [Holds.mayShare, Holds.exclusive_of_count taken] at may
      | tearDown =>
        have unowned := c.not_owns live memv
        have uses := Operation.uses_of_locks locks
        rw [stage'] at unowned uses
        exact absurd uses unowned
      | _ =>
        rw [stage'] at locks
        cases locks
    refine ⟨k, ?_⟩
    obtain ⟨turn, moved, released | ⟨still, next⟩⟩ := Operation.releases (a := s.arena)
      (h := v.handle) (d := s.settings v.thread) within locks
    · have free := c.unlocked_after hv locks moved released
      exact (canArrive_of_free k (job_after_of_ne hw ne) stage free).of_go (.inr rfl)
        (goes_of_step hv moved)
    · have c' := c.goes hv moved
      have hv' : (s.after k v turn).jobs[k]? = some (v.enter s.books turn.stage) :=
        job_after_self hv
      have hw' : (s.after k v turn).jobs[j]? = some w := job_after_of_ne hw ne
      obtain ⟨turn', moved', released⟩ := next (s.after k v turn).arena
        ((s.after k v turn).settings v.thread)
      have free := c'.unlocked_after hv' still moved' released
      exact ((canArrive_of_free k (job_after_of_ne hw' ne) stage free).of_go (.inr rfl)
        (goes_of_step hv' moved')).of_go (.inr rfl) (goes_of_step hv moved)

theorem canArrive_of_enter (c : Custody s) (hw : s.jobs[j]? = some w)
    (stage : w.stage = .inside b .enter) : ∃ k, CanArrive mayFail b j k s := by
  have moved : w.stage.step s.arena w.handle (s.settings w.thread) {} none = some
      ⟨s.arena.setBarrier b (s.arena.barrier b), s.settings w.thread, .inside b .lock, [], []⟩ := by
    rw [stage]
    rfl
  obtain ⟨k, rest⟩ : ∃ k, CanArrive mayFail b j k _ :=
    (c.goes hw moved).canArrive_of_lock (job_after_self hw) rfl
  exact ⟨k, rest.of_go (.inl rfl) (goes_of_step hw moved)⟩

theorem canArrive_of_look (c : Custody s) (hw : s.jobs[j]? = some w) (stage : w.stage = .look .wait)
    (live : s.arena.slot w.handle = .live b) : ∃ k, CanArrive mayFail b j k s := by
  have moved : w.stage.step s.arena w.handle (s.settings w.thread) {} none =
      some ⟨s.arena, s.settings w.thread, .inside b .enter, [], []⟩ := by
    simp [stage, Operation.step, live, Inquiry.look]
  obtain ⟨k, rest⟩ : ∃ k, CanArrive mayFail b j k _ :=
    (c.goes hw moved).canArrive_of_enter (job_after_self hw) rfl
  exact ⟨k, rest.of_go (.inl rfl) (goes_of_step hw moved)⟩

/-- Whoever comes to wait at a barrier that somebody is in can get as far as being counted. -/
theorem canArrive_of_inside (c : Custody s) (hv : v ∈ s.jobs) {x : Wait}
    (inside : v.stage = .inside b x) (hw : s.jobs[j]? = some w) (same : w.handle = v.handle)
    (coming : w.stage = .knock .wait ∨ w.stage = .look .wait ∨ w.stage = .inside b .enter ∨
      w.stage = .inside b .lock ∨ w.stage = .inside b .arrive) :
    ∃ k, CanArrive mayFail b j k s := by
  have live := c.slot_of_inside hv inside
  have may := c.mayShare_of_inside hv inside
  rw [← same] at live may
  rcases coming with stage | stage | stage | stage | stage
  · have moved : w.stage.step s.arena w.handle (s.settings w.thread) {} none = some
        ⟨s.arena.setHolds w.handle (s.arena.holds w.handle).share, s.settings w.thread,
          .look .wait, [], []⟩ := by
      simp [stage, Operation.step, may]
    have live' : (s.arena.setHolds w.handle (s.arena.holds w.handle).share).slot w.handle = .live b :=
      (Arena.slot_setHolds ..).trans live
    obtain ⟨k, rest⟩ : ∃ k, CanArrive mayFail b j k _ :=
      (c.goes hw moved).canArrive_of_look (job_after_self hw) rfl live'
    exact ⟨k, rest.of_go (.inl rfl) (goes_of_step hw moved)⟩
  · exact c.canArrive_of_look hw stage live
  · exact c.canArrive_of_enter hw stage
  · exact c.canArrive_of_lock hw stage
  · exact ⟨j, canArrive_of_arrive j hw stage⟩

end Custody

/-! ## All of it -/

/-- Slots and the process-wide lock never keep anybody waiting for ever. Whoever waits there waits
for a holder, who may wait for another, and the chain ends at a call that can go on: the
process-wide lock is taken before a slot is reserved and never after, and whoever has more than a
share of a slot waits at most for sharers that are about to leave (`Custody.unwinds_of_parked`).
Nobody on the chain is in a barrier, because calls wait to write only where there is no barrier to
be inside of; so a barrier that lacks arrivals can still get them. -/
theorem no_deadlock {handles : List (Option UInt32)} {settings : Nat → Cancellation}
    (run : Schedule.Reaches (step mayFail) (start handles settings) s) :
    -- from whoever waits at a slot or at the process-wide lock, the waits for what others hold lead
    -- to a call that can go on
    (∀ i, Parked s i → ∃ j, Relation.TransGen (Awaits s) i j ∧ Free mayFail s j) ∧
      -- nobody waits there for anybody who is in a barrier
      (∀ i j w, Relation.TransGen (Awaits s) i j → s.jobs[j]? = some w → w.stage.within = false) ∧
      -- while somebody is in a barrier nobody is kept from coming in through the handle, and whoever
      -- comes can get as far as being counted, with nobody's help but that of the lock's holder
      ∀ v ∈ s.jobs, ∀ b x, v.stage = .inside b x →
        (s.arena.holds v.handle).mayShare = true ∧
        ∀ j w, s.jobs[j]? = some w → w.handle = v.handle →
          (w.stage = .knock .wait ∨ w.stage = .look .wait ∨ w.stage = .inside b .enter ∨
            w.stage = .inside b .lock ∨ w.stage = .inside b .arrive) →
            ∃ k, CanArrive mayFail b j k s := by
  have c := Custody.of_reaches run
  refine ⟨fun i parked => ?_, fun i j w waits hw => ?_, fun v hv b x inside =>
    ⟨c.mayShare_of_inside hv inside, fun j w hw same coming =>
      c.canArrive_of_inside hv inside hw same coming⟩⟩
  · obtain ⟨j, waits, free⟩ : Unwinds mayFail s i := c.unwinds_of_parked parked
    rcases Relation.reflTransGen_iff_eq_or_transGen.mp waits with rfl | waits
    · -- whoever is kept waiting cannot go on
      obtain ⟨v, hv, -, still⟩ := parked
      have goes := free.1
      simp [step, hv, permits, still] at goes
    · exact ⟨j, waits, free⟩
  · cases waits with
    | single awaits => exact c.outside_of_awaits awaits hw
    | tail _ awaits => exact c.outside_of_awaits awaits hw

/-- One thread waits in the barrier of handle 1. Then another one builds the barrier of handle 0 and
has announced it, but somebody is still looking at the slot; a third one, which also found the
handle unused, waits for its turn to build; and a fourth one comes to handle 1. -/
def chain : List Move :=
  .begin 0 1 (.inquire .wait) :: Move.goes 0 24 ++
    [.begin 1 0 (.inquire .wait), .begin 2 0 (.inquire .status), .begin 3 0 (.inquire .wait)] ++
    Move.goes 1 4 ++ Move.goes 2 1 ++ Move.goes 3 3 ++ Move.goes 1 8 ++
    [.begin 4 1 (.inquire .wait)]

def chained : Traffic :=
  (Schedule.run (step anything) (start [some 2, some 2] fun _ => {}) chain).get (by decide)

theorem no_deadlock_chain :
    Schedule.Reaches (step anything) (start [some 2, some 2] fun _ => {}) chained ∧
      Parked chained 3 ∧ Parked chained 1 ∧
      (∃ j, Relation.TransGen (Awaits chained) 3 j ∧ Free anything chained j) ∧
      ∃ k, CanArrive anything 0 4 k chained := by
  have reached := Schedule.reaches_get (show (Schedule.run (step anything)
    (start [some 2, some 2] fun _ => {}) chain).isSome by decide)
  have building : Parked chained 1 := ⟨_, rfl, rfl, fun _ _ => rfl⟩
  have queueing : Parked chained 3 := ⟨_, rfl, rfl, fun _ _ => rfl⟩
  obtain ⟨unwinds, -, arrives⟩ := no_deadlock reached
  refine ⟨reached, queueing, building, unwinds 3 queueing, ?_⟩
  exact (arrives _ (List.mem_of_getElem? (i := 0) rfl) 0 _ rfl).2 4 _ rfl rfl (.inl rfl)

end Traffic

end Rendezvous
