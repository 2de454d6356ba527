import Rendezvous.Proofs.Traffic.Deed

/-!
# Who holds what

What a slot says of its holders is what its holders hold: in every state that traffic reaches, a
slot is shared, reserved and held by as many calls as it says (`Custody.holds`), and the same is
true of the process-wide lock and of the lock of each barrier. A barrier is in one place only, in a
slot or in the hands of one call (`Custody.owned`). And every call knows of its slot what it has
reason to know, whatever the others have done meanwhile (`Custody.fits`).

A move begins a call, takes a call one stage further or touches nothing but settings (`Effect`), and
a turn of a call does a `Deed`; so there is one case for each move, and in it one line for each
thing that is held.
-/

set_option autoImplicit false

namespace Rendezvous

open Barrier Handle

/-! ## Before anything has happened -/

theorem Arena.handle_declared (handles : List (Option UInt32)) (h : Nat) :
    (Arena.declared handles).handle h = handles[h]?.join.elim {} Handle.lazy := by
  simp only [handle, declared, Array.getD_eq_getD_getElem?, List.getElem?_toArray,
    List.getElem?_map]
  cases handles[h]? <;> rfl

/-- Nothing has been built. -/
theorem Arena.slot_declared_ne_live (handles : List (Option UInt32)) (h b : Nat) :
    (Arena.declared handles).slot h ≠ .live b := by
  rw [slot, handle_declared]
  cases handles[h]?.join <;> intro live <;> cases live

theorem Arena.slot_declared_unbuilt {handles : List (Option UInt32)} {h : Nat} {n : UInt32}
    (unused : (Arena.declared handles).slot h = .unbuilt n) : handles[h]? = some (some n) := by
  rw [slot, handle_declared] at unused
  cases declared : handles[h]? with
  | none =>
    rw [declared] at unused
    cases unused
  | some parties =>
    rw [declared] at unused
    cases parties with
    | none => cases unused
    | some k => rw [show k = n from Slot.unbuilt.inj unused]

theorem Arena.owning_declared (handles : List (Option UInt32)) (b : Nat) :
    (Arena.declared handles).owning b = 0 := by
  refine List.countP_eq_zero.mpr fun x hx => ?_
  obtain ⟨parties, -, rfl⟩ := List.mem_map.mp hx
  cases parties <;> simp [Slot.barrier?, Handle.lazy]

namespace Handle

/-! ## Calls and what they hold -/

def Job.grips (h : Nat) (g : Grip) (v : Job) : Bool :=
  decide (v.handle = h) && v.stage.grips g

theorem Job.grips_of_hands {h : Nat} {g : Grip} {v : Job} (here : v.handle = h) (ne : g ≠ .none)
    (grip : v.stage.hands.grip = g) : v.grips h g = true := by
  simp [grips, Operation.grips, here, ne, grip]

def Job.guards (v : Job) : Bool := v.stage.hands.guards

def Job.owns (b : Nat) (v : Job) : Bool := v.stage.owns b

def Job.locks (b : Nat) (v : Job) : Bool := v.stage.locks b

@[simp] theorem Purpose.hands_first (p : Purpose) : p.first.hands = {} := by cases p <;> rfl

theorem Purpose.fits_first (p : Purpose) (a : Arena) (h : Nat) : p.first.Fits a h := by
  cases p <;> trivial

/-- Whoever works at a barrier found it in its slot, or has it in hand. -/
theorem Operation.Fits.place {a : Arena} {h b : Nat} {op : Operation} (fits : op.Fits a h)
    (uses : op.uses = some b) : a.slot h = .live b ∨ op.hands.owns = some b := by
  cases op with
  | inside c w | probe c gauge p =>
    obtain rfl := Option.some.inj uses
    exact .inl fits
  | seize c | clear c =>
    obtain rfl := Option.some.inj uses
    exact .inl fits.1
  | detach c | tearDown c t => exact .inr uses
  | _ => cases uses

/-- Whoever holds the lock of a barrier works at it. -/
theorem Operation.uses_of_locks {b : Nat} {op : Operation} (locks : op.hands.locks = some b) :
    op.uses = some b := by
  cases op with
  | inside c w | probe c gauge p | tearDown c t =>
    simp only [hands] at locks
    split at locks
    · exact locks
    · cases locks
  | clear c | detach c => exact locks
  | _ => cases locks

end Handle

namespace Traffic

variable {mayFail : Ask → Bool} {s t : Traffic} {m : Move}

/-! ## Moves -/

/-- Everything that a move can do. -/
inductive Effect (mayFail : Ask → Bool) (s : Traffic) : Move → Traffic → Prop where
  | begins {thread handle : Nat} {purpose : Purpose} : s.isOutside thread = true →
      handle < s.arena.handles.size →
      Effect mayFail s (.begin thread handle purpose)
        { s with jobs := s.jobs ++ [{ thread, handle, purpose, stage := purpose.first }] }
  | goes {i : Nat} {supply : Supply} {fault : Option PrimitiveError} {v : Job}
      {turn : Operation.Turn} : s.jobs[i]? = some v → permits mayFail v.stage fault = true →
      v.stage.step s.arena v.handle (s.settings v.thread) supply fault = some turn →
      Effect mayFail s (.go i supply fault) (s.after i v turn)
  | sets {m : Move} {settings : Nat → Cancellation} : m.job? = none → m.calls? = none →
      Effect mayFail s m { s with settings }

theorem step_effect (move : s.step mayFail m = some t) : Effect mayFail s m t := by
  cases m with
  | begin thread handle purpose =>
    simp only [step] at move
    split at move
    · next may =>
      obtain rfl := Option.some.inj move
      simp only [Bool.and_eq_true, decide_eq_true_eq] at may
      exact .begins may.1 may.2
    · cases move
  | go i supply fault =>
    obtain ⟨v, hv, move⟩ := Option.bind_eq_some_iff.mp move
    split at move
    · next may =>
      obtain ⟨turn, moved, rfl⟩ := Option.map_eq_some_iff.mp move
      exact .goes hv may moved
    · cases move
  | request thread =>
    obtain rfl := Option.some.inj move
    exact .sets rfl rfl
  | adjust thread type state =>
    simp only [step] at move
    split at move
    · obtain rfl := Option.some.inj move
      exact .sets rfl rfl
    · cases move

theorem jobs_of_begin {thread handle : Nat} {purpose : Purpose}
    (move : s.step mayFail (.begin thread handle purpose) = some t) :
    t.arena = s.arena ∧
      t.jobs = s.jobs ++ [{ thread, handle, purpose, stage := purpose.first }] := by
  cases step_effect move with
  | begins => exact ⟨rfl, rfl⟩
  | sets _ quiet => cases quiet

theorem job_after {i j : Nat} {v w : Job} {turn : Operation.Turn}
    (hw : (s.after i v turn).jobs[j]? = some w) :
    (j = i ∧ w = v.enter s.books turn.stage) ∨ (j ≠ i ∧ s.jobs[j]? = some w) :=
  getElem?_set_cases hw

/-- The call has had the turn that the move is, and this is what became of it. -/
inductive Job.Turned (s : Traffic) (i : Nat) (v : Job) : Move → Traffic → Job → Prop where
  | took {supply : Supply} {fault : Option PrimitiveError} {turn : Operation.Turn} :
      v.stage.step s.arena v.handle (s.settings v.thread) supply fault = some turn →
      Job.Turned s i v (.go i supply fault) (s.after i v turn) (v.enter s.books turn.stage)

/-- A call stays on the list, is as it was after everybody else's moves, and goes on in its own. -/
theorem job_step {i : Nat} {v : Job} (move : s.step mayFail m = some t) (hv : s.jobs[i]? = some v) :
    ∃ w, t.jobs[i]? = some w ∧ w.handle = v.handle ∧ w.purpose = v.purpose ∧
      (w = v ∧ m.job? ≠ some i ∨ Job.Turned s i v m t w) := by
  cases step_effect move with
  | begins =>
    have there := (List.getElem?_eq_some_iff.mp hv).1
    exact ⟨v, (List.getElem?_append_left there).trans hv, rfl, rfl, .inl ⟨rfl, nofun⟩⟩
  | sets quiet => exact ⟨v, hv, rfl, rfl, .inl ⟨rfl, by rw [quiet]; nofun⟩⟩
  | @goes j _ _ u turn hu _ moved =>
    by_cases here : j = i
    · subst here
      obtain rfl := Option.some.inj (hu.symm.trans hv)
      have there := (List.getElem?_eq_some_iff.mp hv).1
      exact ⟨_, List.getElem?_set_self there, rfl, rfl, .inr (.took moved)⟩
    · exact ⟨v, (List.getElem?_set_ne here).trans hv, rfl, rfl,
        .inl ⟨rfl, fun same => here (Option.some.inj same)⟩⟩

/-- Whoever is on the list after a move was there before, or has just begun. -/
theorem job_of_step {i : Nat} {w : Job} (move : s.step mayFail m = some t)
    (hw : t.jobs[i]? = some w) :
    (∃ v, s.jobs[i]? = some v ∧ w.handle = v.handle ∧ w.purpose = v.purpose ∧
      (w = v ∧ m.job? ≠ some i ∨ Job.Turned s i v m t w)) ∨
      i = s.jobs.length ∧ m = .begin w.thread w.handle w.purpose ∧ w.stage = w.purpose.first := by
  cases hv : s.jobs[i]? with
  | some v =>
    obtain ⟨w', hw', handle, purpose, became⟩ := job_step move hv
    obtain rfl := Option.some.inj (hw.symm.trans hw')
    exact .inl ⟨v, rfl, handle, purpose, became⟩
  | none =>
    have beyond : s.jobs.length ≤ i := List.getElem?_eq_none_iff.mp hv
    refine .inr ?_
    cases step_effect move with
    | sets => cases hv.symm.trans hw
    | begins =>
      rcases getElem?_concat_cases hw with old | ⟨new, rfl⟩
      · cases hv.symm.trans old
      · exact ⟨new, rfl, rfl⟩
    | goes hu =>
      have there := (List.getElem?_eq_some_iff.mp hw).1
      rw [show (s.after _ _ _).jobs.length = s.jobs.length from List.length_set] at there
      exact absurd there (Nat.not_lt_of_le beyond)

theorem permits_of_step {i : Nat} {v : Job} {supply : Supply} {fault : Option PrimitiveError}
    (move : s.step mayFail (.go i supply fault) = some t) (hv : s.jobs[i]? = some v) :
    permits mayFail v.stage fault = true := by
  cases step_effect move with
  | goes hu may _ =>
    obtain rfl := Option.some.inj (hu.symm.trans hv)
    exact may
  | sets quiet => cases quiet

/-! ## Custody -/

structure Custody (s : Traffic) : Prop where
  known : ∀ v ∈ s.jobs, v.handle < s.arena.handles.size
  serves : ∀ v ∈ s.jobs, v.stage.Serves v.purpose
  fits : ∀ v ∈ s.jobs, v.stage.Fits s.arena v.handle
  holds : ∀ h g, s.jobs.countP (Job.grips h g) = (s.arena.holds h).count g
  apart : ∀ h, (s.arena.holds h).reserved = true → (s.arena.holds h).exclusive = false
  guarded : s.jobs.countP Job.guards = s.arena.guarded.toNat
  /-- A barrier is in one slot or in one hand, and a number that is not taken in none. -/
  owned : ∀ b, s.jobs.countP (Job.owns b) + s.arena.owning b ≤
    (decide (b < s.arena.barriers.size)).toNat
  locked : ∀ b, s.jobs.countP (Job.locks b) = (s.arena.barrier b).locked.toNat

namespace Custody

/-! ### What follows of two calls -/

variable {v w : Job} {b h i j : Nat}

theorem count_pos (c : Custody s) (hv : v ∈ s.jobs) (here : v.handle = h) {g : Grip}
    (grip : v.stage.hands.grip = g) (held : g ≠ .none) : 0 < (s.arena.holds h).count g := by
  rw [← c.holds]
  exact List.countP_pos_iff.mpr ⟨v, hv, Job.grips_of_hands here held grip⟩

theorem guarded_of_guards (c : Custody s) (hv : v ∈ s.jobs) (guards : v.stage.hands.guards = true) :
    s.arena.guarded = true := by
  have pos : 0 < s.jobs.countP Job.guards := List.countP_pos_iff.mpr ⟨v, hv, guards⟩
  rw [c.guarded] at pos
  simpa [Nat.pos_iff_ne_zero] using pos

theorem locked_of_locks (c : Custody s) (hv : v ∈ s.jobs) (locks : v.stage.hands.locks = some b) :
    (s.arena.barrier b).locked = true := by
  have pos : 0 < s.jobs.countP (Job.locks b) :=
    List.countP_pos_iff.mpr ⟨v, hv, decide_eq_true locks⟩
  rw [c.locked] at pos
  simpa [Nat.pos_iff_ne_zero] using pos

theorem lt_of_owned (c : Custody s) (here : 0 < s.jobs.countP (Job.owns b) + s.arena.owning b) :
    b < s.arena.barriers.size := by
  have bound := c.owned b
  by_cases hb : b < s.arena.barriers.size
  · exact hb
  · simp only [hb, decide_false, Bool.toNat_false] at bound
    omega

theorem owns_pos (hv : v ∈ s.jobs) (owns : v.stage.hands.owns = some b) :
    0 < s.jobs.countP (Job.owns b) :=
  List.countP_pos_iff.mpr ⟨v, hv, decide_eq_true owns⟩

/-- A barrier that somebody works at has been built. -/
theorem uses_lt (c : Custody s) (hv : v ∈ s.jobs) (uses : v.stage.uses = some b) :
    b < s.arena.barriers.size := by
  refine c.lt_of_owned ?_
  rcases (c.fits v hv).place uses with slot | owns
  · exact Nat.add_pos_right _ (Arena.owning_pos slot)
  · exact Nat.add_pos_left (owns_pos hv owns) _

/-- Of one slot there is one exclusive hold, and with it no reservation. -/
theorem exclusive_alone (c : Custody s) (hv : s.jobs[i]? = some v) (hw : s.jobs[j]? = some w)
    (same : w.handle = v.handle) (holds : v.stage.hands.grip = .exclusive) :
    i = j ∨ w.stage.hands.grip = .none ∨ w.stage.hands.grip = .shared := by
  have mem := List.mem_of_getElem? hv
  have taken := Holds.exclusive_of_count (c.count_pos mem rfl holds (by decide))
  cases grip : w.stage.hands.grip with
  | none => exact .inr (.inl rfl)
  | shared => exact .inr (.inr rfl)
  | reserved =>
    have reserved := c.count_pos (List.mem_of_getElem? hw) same grip (by decide)
    cases (c.apart _ (Holds.reserved_of_count reserved)).symm.trans taken
  | exclusive =>
    have one : s.jobs.countP (Job.grips v.handle .exclusive) ≤ 1 := by
      rw [c.holds]
      exact Bool.toNat_le _
    exact .inl (eq_of_countP_le_one one hv hw (Job.grips_of_hands rfl (by decide) holds)
      (Job.grips_of_hands same (by decide) grip))

/-- Beside a call that has its slot for itself and finds no sharers, nobody holds the slot. -/
theorem others_idle (c : Custody s) (hv : s.jobs[i]? = some v) (hw : s.jobs[j]? = some w)
    (same : w.handle = v.handle) (holds : v.stage.hands.grip = .exclusive)
    (alone : (s.arena.holds v.handle).sharers = 0) (ne : j ≠ i) : w.stage.hands.grip = .none := by
  rcases c.exclusive_alone hv hw same holds with rfl | idle | shared
  · exact absurd rfl ne
  · exact idle
  · have sharing := c.count_pos (List.mem_of_getElem? hw) same shared (by decide)
    exact absurd alone (Nat.ne_of_gt sharing)

/-- The slot that an errand is about to write owns no barrier. -/
theorem slot_of_store (c : Custody s) (hv : v ∈ s.jobs) {e : Errand} {new : Slot}
    (stage : v.stage = .store e new) (b : Nat) : s.arena.slot v.handle ≠ .live b := by
  intro live
  have fits := c.fits v hv
  rw [stage] at fits
  have fits : e.Plans s.arena (s.arena.slot v.handle) new := fits
  rw [live] at fits
  cases new with
  | live _ =>
    cases e with
    | init => cases fits.2
    | resolve => cases fits
    | discard => exact fits
  | empty =>
    obtain ⟨-, n, unused⟩ := fits
    cases unused
  | unbuilt _ => exact fits.elim

/-! ### Turns -/

variable {turn : Operation.Turn}

theorem deed (c : Custody s) {supply : Supply} {fault : Option PrimitiveError} (hv : v ∈ s.jobs)
    (move : v.stage.step s.arena v.handle (s.settings v.thread) supply fault = some turn) :
    Deed s.arena v.handle v.stage turn.arena turn.stage := by
  refine Operation.step_deed (fun e stage => ?_) move
  have serves := c.serves v hv
  rw [stage] at serves
  exact serves.1

/-- What another call knows survives the turn. -/
theorem fits_of_ne (c : Custody s) (hv : s.jobs[i]? = some v) (hw : s.jobs[j]? = some w)
    (ne : j ≠ i) (d : Deed s.arena v.handle v.stage turn.arena turn.stage) :
    w.stage.Fits turn.arena w.handle := by
  have memv := List.mem_of_getElem? hv
  have memw := List.mem_of_getElem? hw
  have hh := c.known v memv
  refine (c.fits w memw).congr (fun grip => ?_) (fun holds alone => ?_) fun b owns => ?_
  · by_cases same : w.handle = v.handle
    · -- the slot is written only by a call beside which nobody holds it
      have idle (holds : v.stage.hands.grip = .exclusive)
          (alone : (s.arena.holds v.handle).sharers = 0) :
          turn.arena.slot w.handle = s.arena.slot w.handle :=
        absurd (c.others_idle hv hw same holds alone ne) grip
      rcases d.slot hh with still | ⟨e, new, stage, alone, -, -⟩ | ⟨b, stage, -, -⟩
      · rw [same]
        exact still
      · exact idle (by rw [stage]; rfl) alone
      · have fits := c.fits v memv
        rw [stage] at fits
        exact idle (by rw [stage]; rfl) fits.2
    · exact d.slot_of_ne same
  · by_cases same : w.handle = v.handle
    · have taken := c.count_pos memw same holds (by decide)
      rw [same] at alone ⊢
      exact d.unshared hh (Holds.exclusive_of_count taken) alone
    · rw [d.holds_of_ne same]
      exact alone
  · exact d.parties (c.lt_of_owned (Nat.add_pos_left (owns_pos memw owns) _))

/-! ### Moves keep custody -/

theorem goes (c : Custody s) {supply : Supply} {fault : Option PrimitiveError}
    (hv : s.jobs[i]? = some v)
    (move : v.stage.step s.arena v.handle (s.settings v.thread) supply fault = some turn) :
    Custody (s.after i v turn) := by
  have mem := List.mem_of_getElem? hv
  have hh := c.known v mem
  have fits := c.fits v mem
  have d := c.deed mem move
  refine ⟨?known, ?serves, ?fits, ?holds, ?apart, ?guarded, ?owned, ?locked⟩
  case known =>
    intro w hw
    rw [show (s.after i v turn).arena.handles.size = _ from d.size]
    obtain ⟨j, hj⟩ := List.mem_iff_getElem?.mp hw
    rcases job_after hj with ⟨-, rfl⟩ | ⟨-, hj⟩
    · exact hh
    · exact c.known w (List.mem_of_getElem? hj)
  case serves =>
    intro w hw
    obtain ⟨j, hj⟩ := List.mem_iff_getElem?.mp hw
    rcases job_after hj with ⟨-, rfl⟩ | ⟨-, hj⟩
    · exact (c.serves v mem).step move
    · exact c.serves w (List.mem_of_getElem? hj)
  case fits =>
    intro w hw
    obtain ⟨j, hj⟩ := List.mem_iff_getElem?.mp hw
    rcases job_after hj with ⟨-, rfl⟩ | ⟨ne, hj⟩
    · exact fits.step hh move
    · exact c.fits_of_ne hv hj ne d
  case holds =>
    intro h g
    have jobs := countP_set_add (Job.grips h g) (v.enter s.books turn.stage) hv
    have before := c.holds h g
    show (s.jobs.set i _).countP _ = (turn.arena.holds h).count g
    by_cases here : v.handle = h
    · subst here
      have counted := d.count_holds hh (c.count_pos mem rfl rfl) (c.apart v.handle) g
      simp only [Job.grips, Job.enter, decide_true, Bool.true_and] at jobs before ⊢
      omega
    · rw [d.holds_of_ne (Ne.symm here), ← before]
      simpa [Job.grips, Job.enter, here] using jobs
  case apart =>
    intro h
    by_cases here : h = v.handle
    · subst here
      exact d.apart hh (c.apart v.handle)
    · rw [show (s.after i v turn).arena.holds h = _ from d.holds_of_ne here]
      exact c.apart h
  case guarded =>
    have jobs := countP_set_add Job.guards (v.enter s.books turn.stage) hv
    have counted := d.guarded (c.guarded_of_guards mem)
    have before := c.guarded
    show (s.jobs.set i _).countP _ = turn.arena.guarded.toNat
    simp only [Job.guards, Job.enter] at jobs before ⊢
    omega
  case owned =>
    intro b
    have jobs := countP_set_add (Job.owns b) (v.enter s.books turn.stage) hv
    have counted := d.owning hh fits b
    have before := c.owned b
    show (s.jobs.set i _).countP _ + turn.arena.owning b ≤
      (decide (b < turn.arena.barriers.size)).toNat
    simp only [Job.owns, Job.enter] at jobs before ⊢
    omega
  case locked =>
    intro b
    have jobs := countP_set_add (Job.locks b) (v.enter s.books turn.stage) hv
    have counted := d.locked fits (fun b => c.uses_lt mem) (fun b => c.locked_of_locks mem) b
    have before := c.locked b
    show (s.jobs.set i _).countP _ = (turn.arena.barrier b).locked.toNat
    simp only [Job.locks, Job.enter] at jobs before ⊢
    omega

theorem begins (c : Custody s) {thread handle : Nat} {purpose : Purpose}
    (hh : handle < s.arena.handles.size) :
    Custody { s with jobs := s.jobs ++ [{ thread, handle, purpose, stage := purpose.first }] } := by
  have arrives {P : Job → Prop} (hs : ∀ v ∈ s.jobs, P v)
      (hn : P { thread, handle, purpose, stage := purpose.first }) :
      ∀ v ∈ s.jobs ++ [{ thread, handle, purpose, stage := purpose.first }], P v := by
    simpa [or_imp, forall_and] using And.intro hs hn
  refine ⟨arrives c.known hh, arrives c.serves purpose.serves_first,
    arrives c.fits (purpose.fits_first ..), ?_, c.apart, ?_, ?_, ?_⟩
  · intro h g
    rw [← c.holds h g]
    cases g <;> simp [Job.grips, Operation.grips]
  · rw [← c.guarded]
    simp [Job.guards]
  · intro b
    refine Nat.le_trans (Nat.le_of_eq ?_) (c.owned b)
    simp [Job.owns, Operation.owns]
  · intro b
    rw [← c.locked b]
    simp [Job.locks, Operation.locks]

theorem start (handles : List (Option UInt32)) (settings : Nat → Cancellation) :
    Custody (start handles settings) := by
  have holds (h : Nat) : (Arena.declared handles).holds h = {} := by
    rw [Arena.holds, Arena.handle_declared]
    cases handles[h]?.join <;> rfl
  refine ⟨fun v hv => absurd hv List.not_mem_nil, fun v hv => absurd hv List.not_mem_nil,
    fun v hv => absurd hv List.not_mem_nil, ?_, ?_, rfl, ?_, ?_⟩
  · intro h g
    show 0 = ((Arena.declared handles).holds h).count g
    rw [holds]
    cases g <;> rfl
  · intro h
    show ((Arena.declared handles).holds h).reserved = true → _
    rw [holds]
    exact nofun
  · intro b
    show 0 + (Arena.declared handles).owning b ≤ _
    rw [Arena.owning_declared]
    exact Nat.zero_le _
  · intro b
    rfl

theorem step (c : Custody s) (move : s.step mayFail m = some t) : Custody t := by
  cases step_effect move with
  | begins _ hh => exact c.begins hh
  | goes hv _ moved => exact c.goes hv moved
  | sets =>
    exact ⟨c.known, c.serves, c.fits, c.holds, c.apart, c.guarded, c.owned, c.locked⟩

theorem of_reaches {handles : List (Option UInt32)} {settings : Nat → Cancellation}
    (run : Schedule.Reaches (Traffic.step mayFail) (Traffic.start handles settings) s) :
    Custody s :=
  run.keeps step (start handles settings)

end Custody

end Traffic

end Rendezvous
