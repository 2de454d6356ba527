import Rendezvous.Proofs.Mark
import Rendezvous.Proofs.Traffic.Countdown

/-!
# Marks in traffic

Many calls build barriers, each with the mark that it was told; a call that finds its handle unused
and builds the barrier on the way was told nothing and builds for one process (`Purpose.mark`). What
a call has under construction bears its mark, a barrier that is there bears the mark of some call
(`Marks`), and keeps it, whoever works at it.
-/

set_option autoImplicit false

namespace Rendezvous

open Barrier Handle

/-- Who writes a barrier and leaves its mark on it leaves all marks. -/
theorem Arena.marked_setBarrier {a : Arena} {b c : Nat} {x : Barrier} {shared : Bool}
    (hb : b < a.barriers.size) (m : (a.barrier b).Marked shared)
    (kept : (a.barrier c).Marked shared → x.Marked shared) :
    ((a.setBarrier c x).barrier b).Marked shared := by
  by_cases here : b = c
  · subst here
    rw [barrier_setBarrier_self x hb]
    exact kept m
  · rw [barrier_setBarrier_of_ne x here]
    exact m

namespace Handle

/-- Whether the barrier that a call for this purpose builds is to be shared. -/
def Purpose.mark : Purpose → Bool
  | init _ shared => shared
  | inquire _ => false

/-- If the operation is at a construction, the construction is like this. -/
def Operation.Builds (P : Construction → Prop) : Operation → Prop
  | build _ s => P s
  | _ => True

/-- The operation is about to hand over a barrier that it has built. -/
def Operation.handsOver : Operation → Bool
  | build _ (.finished (.ok _)) => true
  | _ => false

variable {a : Arena} {h b : Nat} {c : Cancellation} {supply : Supply}
  {fault : Option PrimitiveError} {op : Operation} {turn : Operation.Turn} {p : Purpose}
  {P : Construction → Prop} {shared : Bool}

theorem Operation.handsOver_iff :
    op.handsOver = true ↔ ∃ e x, op = .build e (.finished (.ok x)) := by
  refine ⟨fun hands => ?_, ?_⟩
  · unfold handsOver at hands
    split at hands
    · exact ⟨_, _, rfl⟩
    · cases hands
  · rintro ⟨e, x, rfl⟩
    rfl

theorem Purpose.builds_first (p : Purpose) : p.first.Builds P := by cases p <;> trivial

theorem Next.builds_stage (n : Next) : n.stage.Builds P := by cases n <;> trivial

theorem Errand.builds_afterSlot (e : Errand) (n : Next) : (e.afterSlot n).Builds P := by
  unfold afterSlot
  split
  · trivial
  · exact n.builds_stage

theorem Inquiry.builds_look (q : Inquiry) (s : Slot) : (q.look a s).Builds P := by
  cases q <;> cases s <;> trivial

/-- An errand begins a construction with the mark of its purpose. -/
theorem Errand.builds_inspect {e : Errand} (serves : e.Serves p) (s : Slot)
    (check : ∀ n, P (.check n p.mark)) : (e.inspect s).Builds P := by
  cases e with
  | init n shared =>
    cases serves
    cases s <;> first | trivial | exact check n
  | resolve =>
    cases serves
    cases s <;> first | trivial | exact check _
  | discard => cases s <;> trivial

/-- What holds of constructions when they begin, and is kept by their stages, holds of whatever the
operation is at. -/
theorem Operation.Builds.step (builds : op.Builds P) (serves : op.Serves p)
    (check : ∀ n, P (.check n p.mark))
    (kept : ∀ e s t, op = .build e s → Construction.Stride supply fault s t → P s → P t)
    (move : op.step a h c supply fault = some turn) : turn.stage.Builds P := by
  cases stride_of_step move with
  | look => exact Inquiry.builds_look ..
  | leave | unguard | abandon => exact Next.builds_stage _
  | inspect => exact Errand.builds_inspect serves _ check
  | release | giveUp => exact Errand.builds_afterSlot ..
  | build stepped => exact kept _ _ _ rfl (Construction.stride_of_step stepped) builds
  | _ => trivial

theorem Operation.marked_of_step (hb : b < a.barriers.size) (m : (a.barrier b).Marked shared)
    (move : op.step a h c supply fault = some turn) : (turn.arena.barrier b).Marked shared := by
  cases stride_of_step move with
  | inside stepped => exact Arena.marked_setBarrier hb m fun m => m.wait_step stepped
  | probe stepped => exact Arena.marked_setBarrier hb m fun m => m.probe_step stepped
  | tearDown stepped => exact Arena.marked_setBarrier hb m fun m => m.teardown_step stepped
  | seize => exact Arena.marked_setBarrier hb m fun m => m.count ..
  | built =>
    rw [Arena.barrier_adopt_of_lt _ hb]
    exact m
  | _ => exact m

end Handle

namespace Traffic

variable {mayFail : Ask → Bool} {s t : Traffic} {m : Move} {b i : Nat} {v : Job} {shared : Bool}

/-- A barrier bears its mark for good. -/
theorem marked_of_step (hb : b < s.arena.barriers.size) (marked : (s.arena.barrier b).Marked shared)
    (move : s.step mayFail m = some t) : (t.arena.barrier b).Marked shared := by
  cases step_effect move with
  | begins | sets => exact marked
  | goes _ _ moved => exact Operation.marked_of_step hb marked moved

/-- A call that has built its barrier hands it over to the others. -/
theorem adopted_of_step {supply : Supply} {fault : Option PrimitiveError} {e : Errand} {x : Barrier}
    (hv : s.jobs[i]? = some v) (stage : v.stage = .build e (.finished (.ok x)))
    (move : s.step mayFail (.go i supply fault) = some t) : t.arena = (s.arena.adopt x).1 := by
  cases step_effect move with
  | goes hu _ moved =>
    obtain rfl := Option.some.inj (hu.symm.trans hv)
    rw [stage] at moved
    obtain rfl := Option.some.inj moved
    rfl
  | sets quiet => cases quiet

theorem job_of_begin {thread handle : Nat} {purpose : Purpose}
    (move : s.step mayFail (.begin thread handle purpose) = some t) :
    t.jobs[s.jobs.length]? = some { thread, handle, purpose, stage := purpose.first } := by
  rw [(jobs_of_begin move).2]
  exact List.getElem?_concat_length

/-- What is known of constructions by the purpose of their calls, move by move. -/
theorem builds_of_step {P : Purpose → Construction → Prop} (c : Custody s)
    (check : ∀ p n, P p (.check n p.mark))
    (kept : ∀ i supply fault v e x y, m = .go i supply fault → s.jobs[i]? = some v →
      v.stage = .build e x → Construction.Stride supply fault x y → P v.purpose x → P v.purpose y)
    (builds : ∀ v ∈ s.jobs, v.stage.Builds (P v.purpose)) (move : s.step mayFail m = some t) :
    ∀ w ∈ t.jobs, w.stage.Builds (P w.purpose) := by
  intro w hw
  obtain ⟨i, hi⟩ := List.mem_iff_getElem?.mp hw
  rcases job_of_step move hi with ⟨v, hv, -, same, became⟩ | ⟨-, -, first⟩
  · have mem := List.mem_of_getElem? hv
    rcases became with ⟨rfl, -⟩ | turned
    · exact builds w mem
    · cases turned with
      | took moved =>
        exact (builds v mem).step (c.serves v mem) (check v.purpose)
          (fun e x y stage => kept _ _ _ v e x y rfl hv stage) moved
  · rw [first]
    exact w.purpose.builds_first

/-- Whatever is built and whatever stands bears the mark that some call was told. -/
structure Marks (s : Traffic) : Prop where
  builds : ∀ v ∈ s.jobs, v.stage.Builds (·.Marked v.purpose.mark)
  stands : ∀ b < s.arena.barriers.size, ∃ v ∈ s.jobs, (s.arena.barrier b).Marked v.purpose.mark

theorem Marks.step (marks : Marks s) (c : Custody s) (move : s.step mayFail m = some t) :
    Marks t := by
  refine ⟨builds_of_step (P := fun p x => x.Marked p.mark) c (fun _ _ => rfl)
    (fun _ _ _ _ _ _ _ _ _ _ stride => stride.marked) marks.builds move, fun b hb => ?_⟩
  have remains {v : Job} (hv : v ∈ s.jobs) : ∃ w ∈ t.jobs, w.purpose = v.purpose := by
    obtain ⟨i, hi⟩ := List.mem_iff_getElem?.mp hv
    obtain ⟨w, hw, -, same, -⟩ := job_step move hi
    exact ⟨w, List.mem_of_getElem? hw, same⟩
  by_cases old : b < s.arena.barriers.size
  · obtain ⟨v, hv, marked⟩ := marks.stands b old
    obtain ⟨w, hw, same⟩ := remains hv
    exact ⟨w, hw, same ▸ marked_of_step old marked move⟩
  · cases step_effect move with
    | begins | sets => exact absurd hb old
    | goes hv _ moved =>
      have mem := List.mem_of_getElem? hv
      obtain ⟨w, hw, same⟩ := remains mem
      obtain ⟨-, ⟨e, stage⟩, -⟩ := Operation.built_of_step (Nat.le_of_not_lt old) hb moved
      have built := marks.builds _ mem
      rw [stage] at built
      exact ⟨w, hw, same ▸ built⟩

theorem Marks.start (handles : List (Option UInt32)) (settings : Nat → Cancellation) :
    Marks (start handles settings) :=
  ⟨fun _ hv => absurd hv List.not_mem_nil, fun b hb => absurd hb (Nat.not_lt_zero b)⟩

end Traffic

end Rendezvous
