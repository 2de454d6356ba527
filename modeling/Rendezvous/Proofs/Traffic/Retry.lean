import Rendezvous.Proofs.Traffic.Deadlock
import Rendezvous.Proofs.Traffic.Innocence
import Rendezvous.Script.Begin

/-!
# Trying again

A handle that waits for its first use goes on waiting when a construction fails, and the next wait
tries again. How many have failed before is written nowhere: a wait that finds the handle unused
begins a construction of its own, for as many parties as the handle says, and if the handle is still
unused when the wait is over, it is because this one construction failed (`Operation.Tries`).

From the other end: a wait whose construction has succeeded has reserved the slot, and so the barrier
it has in hand is the one that the slot will own (`installs_of_hasBuilt`). It may have to wait for
those who are still looking at the slot, but never for somebody who cannot go on.
-/

set_option autoImplicit false

namespace Rendezvous

open Barrier

namespace Handle

/-! ## One wait at an unused handle -/

/-- A wait is about to begin a construction for so many parties. -/
def Operation.triesFor (n : UInt32) : Operation → Bool
  | build .resolve (.check parties shared) => decide (parties = n) && !shared
  | _ => false

/-- Where a wait may stand, at a handle that waits to be built for so many, when it has begun so many
constructions. -/
def Operation.Tries (n : UInt32) (tries : Nat) : Operation → Prop
  | knock _ | look _ | leave .resolve | guard _ | reserve _ | inspect _ => tries = 0
  | build _ (.check parties shared) => parties = n ∧ shared = false ∧ tries = 0
  | build .. | announce .. | store .. => tries = 1
  | giveUp _ m | unguard m => tries = 1 ∧ ∃ e, m = .answer (.error e)
  | finished r => tries = 1 ∧ ∃ e, r = .error e
  | _ => False

/-- A wait that has built a barrier and has not written it into the slot yet. -/
def Operation.hasBuilt : Operation → Bool
  | build .resolve (.finished (.ok _)) | announce .resolve (.live _) | store .resolve (.live _) =>
      true
  | _ => false

end Handle

/-- A construction begins once. -/
theorem Barrier.Construction.ne_check_of_step {s : Construction} {supply : Supply}
    {fault : Option PrimitiveError} {turn : Construction.Turn}
    (move : s.step supply fault = some turn) (n : UInt32) (shared : Bool) :
    turn.stage ≠ .check n shared := by
  cases s with
  | check m sh =>
    simp only [step] at move
    split at move
    · obtain rfl := Option.some.inj move
      rintro ⟨⟩
    · split at move
      · obtain rfl := Option.some.inj move
        rintro ⟨⟩
      · split at move <;> obtain rfl := Option.some.inj move <;> rintro ⟨⟩
  | makeLock m sh => cases fault <;> obtain rfl := Option.some.inj move <;> rintro ⟨⟩
  | makeEven m sh | makeOdd m sh gate =>
    simp only [step] at move
    split at move <;> obtain rfl := Option.some.inj move <;> rintro ⟨⟩
  | undoEven gate e | undoLock e =>
    obtain rfl := Option.some.inj move
    rintro ⟨⟩
  | finished r => cases move

namespace Handle.Operation

variable {a : Arena} {h tries : Nat} {n : UInt32} {c : Cancellation} {supply : Supply}
  {fault : Option PrimitiveError} {op : Operation} {turn : Turn}

theorem tries_build {e : Errand} {s : Construction} (begun : ∀ m sh, s ≠ .check m sh) :
    (build e s).Tries n tries ↔ tries = 1 := by
  cases s with
  | check m sh => exact absurd rfl (begun m sh)
  | _ => exact Iff.rfl

/-- The construction that a wait begins is for as many as the handle says. -/
theorem Tries.triesFor (serves : op.Serves (.inquire .wait)) (hop : op.Tries n tries) :
    op.triesFor n = op.begins := by
  cases op with
  | build e s =>
    cases e with
    | init | discard => cases serves
    | resolve =>
      cases s with
      | check m sh =>
        obtain ⟨rfl, rfl, -⟩ := hop
        simp [Operation.triesFor, begins]
      | _ => rfl
  | _ => rfl

/-- As long as the handle stays unused, a wait begins one construction and ends with its failure. -/
theorem Tries.step (known : h < a.handles.size) (serves : op.Serves (.inquire .wait))
    (fits : op.Fits a h) (hop : op.Tries n tries) (unused : a.slot h = .unbuilt n)
    (still : turn.arena.slot h = .unbuilt n) (move : op.step a h c supply fault = some turn) :
    turn.stage.Tries n (tries + op.begins.toNat) := by
  cases stride_of_step move with
  | knock may => exact hop
  | @look q =>
    cases serves
    rw [unused]
    exact hop
  | @leave m =>
    cases m with
    | resolve => exact hop
    | _ => exact hop.elim
  | guard | reserve | announce => exact hop
  | @inspect e =>
    cases e with
    | init | discard => cases serves
    | resolve =>
      rw [unused]
      exact ⟨rfl, rfl, hop⟩
  | @build e s t stepped =>
    refine (tries_build (Construction.ne_check_of_step stepped)).mpr ?_
    cases s with
    | check => exact congrArg Nat.succ hop.2.2
    | _ => exact hop
  | built => exact hop
  | failed => exact ⟨hop, _, rfl⟩
  | @store e new alone =>
    -- what an errand of a wait writes is a barrier
    cases e with
    | init | discard => cases serves
    | resolve =>
      rw [show (a.setSlot h new).slot h = new from Arena.slot_setSlot_self _ known] at still
      subst still
      exact fits.elim
  | @giveUp e m =>
    cases e with
    | init | discard => cases serves.1
    | resolve => exact hop
  | @unguard m =>
    obtain ⟨once, e, rfl⟩ := hop
    exact ⟨once, e, rfl⟩
  | _ => exact hop.elim

/-- Who has built for a wait has it from the handle how many it is for. -/
theorem unused_of_hasBuilt (built : op.hasBuilt = true) (fits : op.Fits a h) :
    ∃ n, a.slot h = .unbuilt n := by
  cases op with
  | build e s =>
    cases e with
    | init | discard => cases built
    | resolve =>
      obtain ⟨n, slot, -⟩ := fits
      exact ⟨n, slot⟩
  | announce e new | store e new =>
    cases e with
    | init | discard => cases built
    | resolve =>
      cases new with
      | live b => exact ⟨_, fits⟩
      | _ => cases built
  | _ => cases built

theorem holds_of_hasBuilt (built : op.hasBuilt = true) :
    op.hands.grip = .reserved ∨ op.hands.grip = .exclusive := by
  cases op with
  | build | announce => exact .inl rfl
  | store => exact .inr rfl
  | _ => cases built

/-- It goes on to the slot, and writes there what it has built. -/
theorem hasBuilt_step (known : h < a.handles.size) (built : op.hasBuilt = true)
    (fits : op.Fits a h) (unused : a.slot h = .unbuilt n)
    (move : op.step a h c supply fault = some turn) :
    turn.stage.hasBuilt = true ∨
      ∃ b, turn.arena.slot h = .live b ∧ (turn.arena.barrier b).parties = n := by
  cases stride_of_step move with
  | @build e s t stepped =>
    cases s with
    | finished r => cases stepped
    | _ => cases e <;> cases built
  | @built e x =>
    cases e with
    | init | discard => cases built
    | resolve => exact .inl rfl
  | @failed e => cases e <;> cases built
  | @announce e new =>
    cases e with
    | init | discard => cases built
    | resolve =>
      cases new with
      | live b => exact .inl rfl
      | _ => cases built
  | @store e new alone =>
    cases e with
    | init | discard => cases built
    | resolve =>
      cases new with
      | live b =>
        have said : a.slot h = .unbuilt (a.barrier b).parties := fits
        exact .inr ⟨b, Arena.slot_setSlot_self _ known, Slot.unbuilt.inj (said.symm.trans unused)⟩
      | _ => cases built
  | _ => cases built

end Handle.Operation

namespace Traffic

open Handle

variable {mayFail : Ask → Bool} {s t : Traffic} {m : Move} {moves late : List Move} {h i : Nat}
  {v : Job} {n : UInt32} {handles : List (Option UInt32)} {settings : Nat → Cancellation}

/-! ## All waits at a handle that is still unused -/

/-- After every run, every wait at a handle that is still unused stands where the number of
constructions says that it has begun, and they were for as many as the handle says. -/
theorem tries_of_run (run : Schedule.run (step mayFail) (start handles settings) moves = some s)
    (hv : s.jobs[i]? = some v) (waits : v.purpose = .inquire .wait)
    (unused : s.arena.slot v.handle = .unbuilt n) :
    v.stage.Tries n
        (Schedule.tally (step mayFail) (turnAt i Operation.begins) (start handles settings) moves) ∧
      Schedule.tally (step mayFail) (turnAt i (Operation.triesFor n)) (start handles settings) moves =
        Schedule.tally (step mayFail) (turnAt i Operation.begins) (start handles settings) moves := by
  refine course_induction (P := fun moves s v => v.purpose = .inquire .wait →
    s.arena.slot v.handle = .unbuilt n → v.stage.Tries n
        (Schedule.tally (step mayFail) (turnAt i Operation.begins) (start handles settings) moves) ∧
      Schedule.tally (step mayFail) (turnAt i (Operation.triesFor n)) (start handles settings) moves =
        Schedule.tally (step mayFail) (turnAt i Operation.begins) (start handles settings) moves)
    ?born ?other ?own run hv waits unused
  case born =>
    intro moves s v _ turnless _ stage waits _
    rw [tally_turnAt_of_turnless turnless, tally_turnAt_of_turnless turnless, stage, waits]
    exact ⟨rfl, rfl⟩
  case other =>
    intro moves s m t v reach move apart _ before waits unused
    have c := Custody.of_reaches (Schedule.reaches_run reach)
    rw [tally_turnAt_of_ne reach move apart, tally_turnAt_of_ne reach move apart]
    exact before waits (unbuilt_of_step c move unused)
  case own =>
    intro moves s supply fault v turn reach move hv moved before waits unused
    have c := Custody.of_reaches (Schedule.reaches_run reach)
    have mem := List.mem_of_getElem? hv
    have serves := c.serves v mem
    rw [show v.purpose = _ from waits] at serves
    have was := unbuilt_of_step c move unused
    obtain ⟨stands, same⟩ := before waits was
    rw [tally_turnAt_own reach move hv, tally_turnAt_own reach move hv, same,
      stands.triesFor serves]
    exact ⟨stands.step (c.known v mem) serves (c.fits v mem) was unused moved, rfl⟩

/-- A wait that is over at a handle that is still unused has tried once, for as many as the handle
says, and has failed. -/
theorem tried_of_isOver
    (run : Schedule.run (step mayFail) (start handles settings) moves = some s)
    (hv : s.jobs[i]? = some v) (waits : v.purpose = .inquire .wait)
    (unused : s.arena.slot v.handle = .unbuilt n) (ended : v.stage.isOver = true) :
    Schedule.tally (step mayFail) (turnAt i Operation.begins) (start handles settings) moves = 1 ∧
      Schedule.tally (step mayFail) (turnAt i (Operation.triesFor n)) (start handles settings)
        moves = 1 ∧
      ∃ e, v.stage = .finished (.error e) := by
  obtain ⟨stands, same⟩ := tries_of_run run hv waits unused
  cases stage : v.stage with
  | finished r =>
    rw [stage] at stands
    obtain ⟨once, e, rfl⟩ := stands
    exact ⟨once, same.trans once, e, rfl⟩
  | _ =>
    rw [stage] at ended
    cases ended

/-! ## The first construction that succeeds -/

/-- With the move call `i` writes a barrier for so many into the unused handle `h`. -/
def Installs (i h : Nat) (n : UInt32) (s : Traffic) (m : Move) (t : Traffic) : Prop :=
  m.job? = some i ∧ s.arena.slot h = .unbuilt n ∧
    ∃ b, t.arena.slot h = .live b ∧ (t.arena.barrier b).parties = n

/-- From then on the wait has written its barrier, or is about to and somebody can go on. -/
theorem installs_of_hasBuilt (c : Custody s) (hv : s.jobs[i]? = some v)
    (built : v.stage.hasBuilt = true) (unused : s.arena.slot v.handle = .unbuilt n)
    (more : Schedule.run (step mayFail) s late = some t) :
    Schedule.Passes (step mayFail) s late (Installs i v.handle n) ∨
      t.arena.slot v.handle = .unbuilt n ∧ ∃ k, (t.step mayFail (.go k)).isSome = true := by
  have kept := Schedule.run_induction (P := fun late t =>
    Custody t ∧ (Schedule.Passes (step mayFail) s late (Installs i v.handle n) ∨
      ∃ w, t.jobs[i]? = some w ∧ w.handle = v.handle ∧ w.stage.hasBuilt = true ∧
        t.arena.slot w.handle = .unbuilt n))
    ⟨c, .inr ⟨v, hv, rfl, built, unused⟩⟩ ?_ more
  · obtain ⟨ct, passes | ⟨w, hw, here, building, slot⟩⟩ := kept
    · exact .inl passes
    · obtain ⟨k, -, goes, -⟩ := ct.unwinds_of_holding hw (Operation.holds_of_hasBuilt building)
      exact .inr ⟨here ▸ slot, k, goes⟩
  · intro late m t u reach move ⟨ct, before⟩
    have cu := ct.step move
    refine ⟨cu, ?_⟩
    rcases before with passes | ⟨w, hw, here, building, slot⟩
    · exact .inl (passes.concat m)
    · obtain ⟨w', hw', handle, -, ⟨rfl, -⟩ | turned⟩ := job_step move hw
      · have mem' := List.mem_of_getElem? hw'
        obtain ⟨n', still⟩ := Operation.unused_of_hasBuilt building (cu.fits _ mem')
        have was := unbuilt_of_step ct move still
        obtain rfl : n = n' := Slot.unbuilt.inj (slot.symm.trans was)
        exact .inr ⟨w', hw', here, building, still⟩
      · have mem := List.mem_of_getElem? hw
        have mem' := List.mem_of_getElem? hw'
        cases turned with
        | @took supply fault turn moved =>
          rcases Operation.hasBuilt_step (ct.known w mem) building (ct.fits w mem) slot moved with
            going | ⟨b, live, parties⟩
          · obtain ⟨n', still⟩ := Operation.unused_of_hasBuilt going (cu.fits _ mem')
            have was := unbuilt_of_step ct move still
            obtain rfl : n = n' := Slot.unbuilt.inj (slot.symm.trans was)
            exact .inr ⟨_, hw', here, going, still⟩
          · refine .inl (.last reach move ⟨rfl, here ▸ slot, b, ?_, parties⟩)
            rw [← here]
            exact live

/-! ## What the handle owns meanwhile -/

/-- No init and no destroy of the handle has succeeded. -/
def LeftAlone (h : Nat) (s : Traffic) : Prop :=
  ∀ v ∈ s.jobs, v.handle = h → v.purpose.writes = true → v.stage.answer? ≠ some (.ok .done)

/-- The handle waits to be built for so many, or has been. -/
def IsFor (a : Arena) (h : Nat) (n : UInt32) : Prop :=
  a.slot h = .unbuilt n ∨ ∃ b, a.slot h = .live b ∧ (a.barrier b).parties = n

theorem leftAlone_of_step (move : s.step mayFail m = some t) (left : LeftAlone h t) :
    LeftAlone h s := by
  intro v hv here writes settled
  obtain ⟨i, hi⟩ := List.mem_iff_getElem?.mp hv
  obtain ⟨w, hw, handle, purpose, -⟩ := job_step move hi
  obtain ⟨w', hw', still⟩ := answer?_of_step move hi settled
  obtain rfl := Option.some.inj (hw.symm.trans hw')
  exact left w (List.mem_of_getElem? hw) (handle.trans here) (purpose ▸ writes) still

theorem isFor_of_step (c : Custody s) (move : s.step mayFail m = some t) (left : LeftAlone h t)
    (before : IsFor s.arena h n) : IsFor t.arena h n := by
  rcases c.change move h with still | ⟨i, v, w, -, hv, hw, here, change, settled⟩
  · refine before.imp still.trans fun ⟨b, live, parties⟩ => ⟨b, still.trans live, ?_⟩
    have hb : b < s.arena.barriers.size :=
      c.lt_of_owned (Nat.add_pos_right _ (Arena.owning_pos live))
    rw [← parties]
    cases step_effect move with
    | begins | sets => rfl
    | goes hu _ moved => exact (c.deed (List.mem_of_getElem? hu) moved).parties hb
  · obtain ⟨w', hw', handle, purpose, -⟩ := job_step move hv
    obtain rfl := Option.some.inj (hw.symm.trans hw')
    -- an init or a destroy that changed the slot would have succeeded
    have wait : v.purpose.writes = true → v.purpose = .inquire .wait := fun writes => by
      by_contra other
      exact left w (List.mem_of_getElem? hw) (handle.trans here) (purpose ▸ writes) (settled other)
    unfold IsFor at before ⊢
    generalize v.purpose = p at change wait
    generalize s.arena.slot h = old at change before
    generalize t.arena.slot h = new at change ⊢
    cases change with
    | firstUse parties =>
      rcases before with slot | ⟨b, live, -⟩
      · exact .inr ⟨_, rfl, parties.trans (Slot.unbuilt.inj slot)⟩
      · cases live
    | init | discard | destroy => cases wait rfl

/-- A handle that nobody has built explicitly or destroyed is unused, or owns a barrier for as many
as it was declared for. -/
theorem isFor_of_run (run : Schedule.run (step mayFail) (start handles settings) moves = some s)
    (declared : handles[h]? = some (some n)) (left : LeftAlone h s) : IsFor s.arena h n := by
  refine (Schedule.run_induction (P := fun _ s => Custody s ∧ (LeftAlone h s → IsFor s.arena h n))
    ⟨Custody.start handles settings, fun _ => .inl ?_⟩ ?_ run).2 left
  · show (Arena.declared handles).slot h = _
    rw [Arena.slot, Arena.handle_declared, declared]
    rfl
  · rintro moves m t u - move ⟨c, before⟩
    exact ⟨c.step move, fun left =>
      isFor_of_step c move left (before (leftAlone_of_step move left))⟩

/-! ## All of it -/

/-- A call that fails leaves everything as it was before, and can be tried again. An init or a
destroy writes to the slot only when nothing can fail any more, and a wait that builds on first use
writes only a barrier that it has got; so a failure of any of them comes before the first write.
Nothing records failures either. An unused handle is therefore as good for the next wait as it was
for the first, which makes one construction of its own and installs it if that succeeds. -/
theorem failed_calls_change_nothing
    (run : Schedule.run (step mayFail) (start handles settings) moves = some s) :
    -- an init or a destroy that has failed has changed no slot, no barrier and no other call
    (∀ i v e, s.jobs[i]? = some v → v.purpose.writes = true → v.stage = .finished (.error e) →
      ¬ Schedule.Passes (step mayFail) (start handles settings) moves (Alters i)) ∧
      -- nor has a wait whose try to have the barrier built comes back with a failure, nor will it
      -- until it is over, with this failure
      (∀ i v e, s.jobs[i]? = some v → v.purpose = .inquire .wait →
        v.stage = .unguard (.answer (.error e)) → Settles mayFail s i (.error e) ∧
          ∀ late t, Schedule.run (step mayFail) s late = some t →
            ¬ Schedule.Passes (step mayFail) (start handles settings) (moves ++ late) (Alters i)) ∧
      -- a function that is called without a handle refuses at once and touches nothing; with one it
      -- is the operation on this handle
      (∀ (w : Script.World) thread o h parties attributes,
        w.begin thread (.posixInit none parties attributes) =
            (w, .reply (.failed (.invalidArgument .nullHandle))) ∧
          w.begin thread (.posixDestroy none) =
            (w, .reply (.failed (.invalidArgument .nullHandle))) ∧
          (w.content? o = some (.handle h) →
            w.begin thread (.posixInit (some o) parties attributes) =
                (w, .handle o h (.init parties (w.sharedBy attributes))) ∧
              w.begin thread (.posixDestroy (some o)) = (w, .handle o h .destroy))) ∧
      ∀ h n, handles[h]? = some (some n) →
        -- as long as no init and no destroy of it succeeds, a handle is unused, and every wait that
        -- is over has tried for itself and failed; or it owns a barrier for its own number
        (LeftAlone h s →
          (s.arena.slot h = .unbuilt n ∧
            ∀ i v, s.jobs[i]? = some v → v.handle = h → v.purpose = .inquire .wait →
              v.stage.isOver = true →
              Schedule.tally (step mayFail) (turnAt i Operation.begins) (start handles settings)
                  moves = 1 ∧
                Schedule.tally (step mayFail) (turnAt i (Operation.triesFor n))
                  (start handles settings) moves = 1 ∧
                ∃ e, v.stage = .finished (.error e)) ∨
            ∃ b, s.arena.slot h = .live b ∧ (s.arena.barrier b).parties = n) ∧
          -- the wait whose construction succeeds finds the handle unused still, and installs what
          -- it has built, for which it never waits for somebody who cannot go on
          ∀ i v, s.jobs[i]? = some v → v.handle = h → v.stage.hasBuilt = true →
            s.arena.slot h = .unbuilt n ∧
              ∀ late t, Schedule.run (step mayFail) s late = some t →
                Schedule.Passes (step mayFail) s late (Installs i h n) ∨
                  t.arena.slot h = .unbuilt n ∧ ∃ k, (t.step mayFail (.go k)).isSome = true := by
  have c := Custody.of_reaches (Schedule.reaches_run run)
  refine ⟨fun i v e hv writes stage => innocent_of_run run hv ?_,
    fun i v e hv waits stage => ⟨settles_of_answer? hv (by rw [stage]; rfl), fun late t more =>
      never_alters_of_settled run hv (by rw [stage]; rfl) ?_ more⟩,
    fun w thread o h parties attributes => ⟨rfl, rfl, fun there => ?_⟩,
    fun h n declared => ⟨fun left => ?_, fun i v hv here built => ?_⟩⟩
  · rw [stage]
    exact ⟨trivial, writes⟩
  · rw [stage]
    trivial
  · simp [Script.World.begin, Script.World.onPosixHandle, Script.World.onHandle, required, there]
  · refine (isFor_of_run run declared left).imp_left fun unused => ⟨unused, ?_⟩
    rintro i v hv rfl waits ended
    exact tried_of_isOver run hv waits unused ended
  · subst here
    obtain ⟨n', unused⟩ := Operation.unused_of_hasBuilt built (c.fits v (List.mem_of_getElem? hv))
    have said := Arena.slot_declared_unbuilt
      (unbuilt_of_reaches (Custody.start handles settings) (Schedule.reaches_run run) unused)
    obtain rfl : n' = n := by simpa using said.symm.trans declared
    exact ⟨unused, fun late t more => installs_of_hasBuilt c hv built unused more⟩

/-- A thread waits at a handle for two, and there is no memory for its barrier. -/
def outOfMemory : List Move :=
  .begin 0 0 (.inquire .wait) :: Move.goes 0 6 ++ [.go 0 { memory := false }] ++ Move.goes 0 2

/-- Then another one tries to build explicitly and cannot make a lock, and the first one waits again
and cannot make a gate. With the third wait a barrier gets built; the other thread comes to destroy it
and to build over it, and is turned away both times. -/
def triedAgain : List Move :=
  .go 0 :: .begin 1 0 (.init 2 false) :: Move.goes 1 3 ++ [.go 1 {} (some .canceled)] ++
    Move.goes 1 2 ++
    .begin 0 0 (.inquire .wait) :: Move.goes 2 9 ++ [.go 2 {} (some .canceled)] ++ Move.goes 2 5 ++
    .begin 0 0 (.inquire .wait) :: Move.goes 3 20 ++
    .begin 1 0 (.inquire .destroy) :: Move.goes 4 4 ++ .begin 1 0 (.init 2 false) :: Move.goes 5 3

def refused : Traffic :=
  (Schedule.run (step anything) (start [some 2] fun _ => {}) outOfMemory).get (by decide)

def built : Traffic :=
  (Schedule.run (step anything) (start [some 2] fun _ => {}) (outOfMemory ++ triedAgain)).get
    (by decide)

theorem failed_calls_change_nothing_outOfMemory :
    Schedule.run (step anything) (start [some 2] fun _ => {}) (outOfMemory ++ triedAgain) =
        some built ∧
      (∀ i, i = 0 ∨ i = 1 ∨ i = 4 ∨ i = 5 →
        ¬ Schedule.Passes (step anything) (start [some 2] fun _ => {}) (outOfMemory ++ triedAgain)
          (Alters i)) ∧
      refused.arena.slot 0 = .unbuilt 2 ∧
      ∃ b, built.arena.slot 0 = .live b ∧ (built.arena.barrier b).parties = 2 := by
  have early : Schedule.run (step anything) (start [some 2] fun _ => {}) outOfMemory =
      some refused := (Option.some_get (by decide)).symm
  have run : Schedule.run (step anything) (start [some 2] fun _ => {}) (outOfMemory ++ triedAgain) =
      some built := (Option.some_get (by decide)).symm
  have late : Schedule.run (step anything) refused triedAgain = some built := by
    rw [← run, Schedule.run_append, early, Option.bind_some]
  obtain ⟨-, resolved, -, -⟩ := failed_calls_change_nothing early
  obtain ⟨failed, -, -, left⟩ := failed_calls_change_nothing run
  have there {i : Nat} (hi : i < built.jobs.length) := List.getElem?_eq_getElem hi
  refine ⟨run, ?_, by decide, ?_⟩
  · rintro i (rfl | rfl | rfl | rfl)
    · exact (resolved 0 _ _ (List.getElem?_eq_getElem (by decide)) rfl rfl).2 _ _ late
    · exact failed 1 _ _ (there (by decide)) rfl rfl
    · exact failed 4 _ _ (there (by decide)) rfl rfl
    · exact failed 5 _ _ (there (by decide)) rfl rfl
  · rcases (left 0 2 rfl).1 (by unfold LeftAlone; decide) with ⟨unused, -⟩ | owns
    · exact absurd unused (by decide)
    · exact owns

end Traffic

end Rendezvous
