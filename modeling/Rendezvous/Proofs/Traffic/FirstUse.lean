import Rendezvous.Proofs.Traffic.Enactment
import Rendezvous.Proofs.Traffic.Refusal

/-!
# Building on first use and building first

A handle that was made for so many parties builds its barrier when it is first waited on; an empty
handle can be given the same barrier by an `init` before anybody uses it. Those who then wait at the
handle, read its counts and ask for its parties cannot tell the two apart: whatever they can hear of
the one they can hear of the other, and the same if nobody can go on after that. Both are what can be
heard of the barrier with nothing around it.

If the `init` fails, it leaves its handle empty, every wait on the other handle is told the same
failure, and that handle stays as it was.
-/

set_option autoImplicit false

namespace Rendezvous

open Barrier Handle
open Run (shelter)

namespace Traffic

variable {supply : Supply} {n : UInt32} {b : Barrier} {err : BarrierError} {s t : Traffic}
  {p : Plain} {v : Job} {a : Arena} {x : Operation} {settings : Nat → Cancellation} {thread : Nat}
  {told : List Saying}

/-! ## Seen and heard -/

/-- Callers that find this arena, and have not called yet. -/
def around (arena : Arena) (settings : Nat → Cancellation) : Traffic := { arena, settings }

/-- With nothing failing, this can be seen and heard of the handle. -/
def Shows (supply : Supply) (s : Traffic) (told : List Saying) : Prop :=
  ∃ t, Schedule.Tells (act supply) (sayings supply) s told t

/-- And after that nobody can go on. -/
def Rests (supply : Supply) (s : Traffic) (told : List Saying) : Prop :=
  ∃ t, Schedule.Tells (act supply) (sayings supply) s told t ∧ Still supply t

/-- If the handle and a barrier match each other turn by turn, they show the same. -/
theorem shows_iff (l : Looks supply n b s p) (fresh : Untouched n b) (kept : p.Kept)
    {R : Plain → Traffic → Prop} (related : R p s)
    (matched : ∀ {p q : Plain} {s : Traffic} {x : Act}, R p s → p.Kept → p.step x = some q →
      ∃ t, Schedule.Tells (act supply) (sayings supply) s (p.sayings x) t ∧ R q t)
    (rests : ∀ {p : Plain} {s : Traffic}, R p s → p.Kept → p.Still → Still supply s) :
    (Shows supply s told ↔ ∃ q, Schedule.Tells Plain.step Plain.sayings p told q) ∧
      (Rests supply s told ↔ ∃ q, Schedule.Tells Plain.step Plain.sayings p told q ∧ q.Still) := by
  have sees {t : Traffic} (h : Schedule.Tells (act supply) (sayings supply) s told t) :
      ∃ q, Schedule.Tells Plain.step Plain.sayings p told q ∧ Looks supply n b t q :=
    h.matched (R := Looks supply n b) (fun l move => l.step fresh.parties fresh.free fresh.nought move) l
  have acts {q : Plain} (h : Schedule.Tells Plain.step Plain.sayings p told q) :
      ∃ t, Schedule.Tells (act supply) (sayings supply) s told t ∧ R q t ∧ q.Kept :=
    h.matched (R := fun p s => R p s ∧ p.Kept) (fun both move =>
      have ⟨t, told, related⟩ := matched both.1 both.2 move
      ⟨t, told, related, both.2.step move⟩) ⟨related, kept⟩
  refine ⟨⟨fun ⟨t, h⟩ => ?_, fun ⟨q, h⟩ => ?_⟩, ⟨fun ⟨t, h, still⟩ => ?_, fun ⟨q, h, still⟩ => ?_⟩⟩
  · obtain ⟨q, h, -⟩ := sees h
    exact ⟨q, h⟩
  · obtain ⟨t, h, -⟩ := acts h
    exact ⟨t, h⟩
  · obtain ⟨q, h, l⟩ := sees h
    exact ⟨q, h, l.still still⟩
  · obtain ⟨t, h, related, kept⟩ := acts h
    exact ⟨t, h, rests related kept still⟩

theorem kept_start (fresh : Untouched n b) : (Plain.start b settings).Kept := by
  show 0 = b.locked.toNat
  rw [fresh.free]
  rfl

/-- A handle that builds its barrier on first use shows what the barrier shows. -/
theorem shows_start_iff (verdict : Construction.verdict supply n = .ok b) (fresh : Untouched n b) :
    (Shows supply (start [some n] settings) told ↔
      ∃ q, Schedule.Tells Plain.step Plain.sayings (.start b settings) told q) ∧
    (Rests supply (start [some n] settings) told ↔
      ∃ q, Schedule.Tells Plain.step Plain.sayings (.start b settings) told q ∧ q.Still) := by
  have use : InUse supply n (.ok b) (start [some n] settings) := verdict ▸ InUse.start supply n settings
  have looks : Looks supply n b (start [some n] settings) (.start b settings) := ⟨use, rfl, rfl, rfl⟩
  have lags : Lags supply n b (.start b settings) (start [some n] settings) :=
    ⟨use, rfl, rfl, rfl, .nil⟩
  refine shows_iff looks fresh (kept_start fresh)
    (R := fun p s => Lags supply n b p s ∨ Enacts supply n b p s) (.inl lags) ?_ ?_
  · rintro p q s x (lags | enacts) kept move
    · exact lags.step fresh kept move
    · obtain ⟨t, told, enacts⟩ := enacts.step move
      exact ⟨t, told, .inr enacts⟩
  · rintro p s (lags | enacts) kept still
    · exact lags.still kept still
    · exact enacts.still kept still

/-- So does a handle that owns the barrier. -/
theorem shows_around_iff (verdict : Construction.verdict supply n = .ok b) (fresh : Untouched n b)
    (c : Custody (around (shelter b 0) settings)) :
    (Shows supply (around (shelter b 0) settings) told ↔
      ∃ q, Schedule.Tells Plain.step Plain.sayings (.start b settings) told q) ∧
    (Rests supply (around (shelter b 0) settings) told ↔
      ∃ q, Schedule.Tells Plain.step Plain.sayings (.start b settings) told q ∧ q.Still) := by
  have use : InUse supply n (.ok b) (around (shelter b 0) settings) :=
    ⟨c, verdict ▸ Construction.yields_verdict supply n, rfl, fun _ hv => absurd hv List.not_mem_nil,
      fun _ hv => absurd hv List.not_mem_nil, .live rfl rfl rfl⟩
  have looks : Looks supply n b (around (shelter b 0) settings) (.start b settings) :=
    ⟨use, rfl, rfl, rfl⟩
  have enacts : Enacts supply n b (.start b settings) (around (shelter b 0) settings) :=
    ⟨use, ⟨0, rfl⟩, rfl, rfl⟩
  exact shows_iff looks fresh (kept_start fresh) enacts (fun e _ move => e.step move)
    (fun e kept still => e.still kept still)

/-! ## An `init` before anybody else -/

/-- What a call leaves behind that has returned it leaves for others to find. -/
theorem Custody.around (c : Custody s) (ended : ∀ v ∈ s.jobs, v.stage.isOver = true)
    (settings : Nat → Cancellation) : Custody (around s.arena settings) := by
  have idle : ∀ v ∈ s.jobs, v.stage.hands = {} := by
    intro v hv
    have ended := ended v hv
    cases stage : v.stage with
    | finished => rfl
    | _ =>
      rw [stage] at ended
      cases ended
  refine ⟨fun _ hv => absurd hv List.not_mem_nil, fun _ hv => absurd hv List.not_mem_nil,
    fun _ hv => absurd hv List.not_mem_nil, fun h g => ?_, c.apart, ?_, fun b => ?_, fun b => ?_⟩
  · refine Eq.trans ?_ (c.holds h g)
    exact (List.countP_eq_zero.mpr fun v hv => by
      simpa [Job.grips, Operation.grips, idle v hv] using fun _ => Ne.symm).symm
  · refine Eq.trans ?_ c.guarded
    exact (List.countP_eq_zero.mpr fun v hv => by simp [Job.guards, idle v hv]).symm
  · refine Nat.le_trans ?_ (c.owned b)
    exact Nat.add_le_add_right (Nat.zero_le _) _
  · refine Eq.trans ?_ (c.locked b)
    exact (List.countP_eq_zero.mpr fun v hv => by simp [Job.locks, Operation.locks, idle v hv]).symm

/-- Whoever is alone takes turns one after the other. -/
theorem run_of_goes (alone : s.jobs = [v]) (here : v.handle = 0)
    (goes : v.stage.Goes supply (s.settings v.thread) s.arena a x) :
    ∃ turns t w, Schedule.run (step nothing) s (List.replicate turns (.go 0 supply)) = some t ∧
      t.jobs = [w] ∧ w.handle = 0 ∧ w.stage = x ∧ t.arena = a ∧
      t.settings w.thread = s.settings v.thread := by
  induction goes with
  | refl => exact ⟨0, s, v, rfl, alone, here, rfl, rfl, rfl⟩
  | @tail a' a'' x y events notices _ move _ ih =>
    obtain ⟨turns, t, w, run, jobs, handle, rfl, rfl, settings⟩ := ih
    rw [← settings, ← handle] at move
    have next : t.step nothing (.go 0 supply) =
        some (t.after 0 w ⟨a'', t.settings w.thread, y, events, notices⟩) := by
      simp [step, jobs, permits, move]
    refine ⟨turns + 1, t.after 0 w ⟨a'', t.settings w.thread, y, events, notices⟩, w.enter t.books y,
      ?_, ?_, handle, rfl, rfl, ?_⟩
    · rw [List.replicate_succ', Schedule.run_append, run]
      simp [Schedule.run, next]
    · simp [after, jobs]
    · rw [← settings]
      simp [after, setSettings, Job.enter]

/-- By itself an `init` on an empty handle comes to what its construction comes to, and leaves either
the barrier in the slot or nothing. -/
theorem init_alone (supply : Supply) (n : UInt32) (settings : Nat → Cancellation) (thread : Nat) :
    ∃ turns t w, Schedule.run (step nothing) (start [none] settings)
        (.begin thread 0 (.init n false) :: List.replicate turns (.go 0 supply)) = some t ∧
      t.jobs = [w] ∧ w.stage = .finished ((Construction.verdict supply n).map fun _ => .done) ∧
      t.arena = match Construction.verdict supply n with
        | .ok b => shelter b 0
        | .error _ => .declared [none] := by
  have begins : (Operation.init n false).Goes supply (settings thread) (.declared [none])
      { handles := #[⟨.empty, { reserved := true }⟩] } (.build (.init n false) (.check n false)) :=
    (Operation.Goes.refl.tail (y := .inspect (.init n false)) rfl rfl).tail rfl rfl
  have yields := Construction.yields_verdict supply n
  have called : (start [none] settings).step nothing (.begin thread 0 (.init n false)) =
      some { start [none] settings with jobs := [⟨thread, 0, .init n false, .init n false, 0⟩] } := rfl
  -- up to the last turn, and the last turn
  obtain ⟨a, x, a', goes, last, arena⟩ : ∃ a x a', (Operation.init n false).Goes supply
      (settings thread) (.declared [none]) a x ∧
      x.step a 0 (settings thread) supply none = some ⟨a', settings thread,
        .finished ((Construction.verdict supply n).map fun _ => .done), [], []⟩ ∧
      a' = match Construction.verdict supply n with
        | .ok b => shelter b 0
        | .error _ => .declared [none] := by
    cases came : Construction.verdict supply n with
    | ok b =>
      rw [came] at yields
      exact ⟨_, _, _, begins.trans (goes_installing .empty false (settings thread) yields), rfl, rfl⟩
    | error err =>
      rw [came] at yields
      have fails := begins.trans (Operation.goes_of_yields yields)
      exact ⟨_, _, _, fails.tail (y := .giveUp (.init n false) (.answer (.error err))) rfl rfl, rfl,
        rfl⟩
  obtain ⟨turns, t, w, run, jobs, handle, stage, rfl, here⟩ := run_of_goes
    (s := { start [none] settings with jobs := [⟨thread, 0, .init n false, .init n false, 0⟩] })
    rfl rfl goes
  have here : t.settings w.thread = settings thread := here
  let turn : Operation.Turn := ⟨a', settings thread,
    .finished ((Construction.verdict supply n).map fun _ => .done), [], []⟩
  have next : t.step nothing (.go 0 supply) = some (t.after 0 w turn) := by
    simp [step, jobs, permits, handle, stage, here, last, turn]
  refine ⟨turns + 1, t.after 0 w turn, w.enter t.books turn.stage, ?_, ?_, rfl, arena⟩
  · rw [List.replicate_succ', Schedule.run, called]
    show Schedule.run _ _ (_ ++ _) = _
    rw [Schedule.run_append, run]
    simp [Schedule.run, next]
  · simp [after, jobs]

/-! ## All of it -/

theorem untouched_of_verdict (verdict : Construction.verdict supply n = .ok b) : Untouched n b := by
  have made : b = fresh n false supply.gate supply.gate := by
    unfold Construction.verdict at verdict
    split at verdict
    · cases verdict
    · split at verdict
      · cases verdict
      · split at verdict
        · cases verdict
          rfl
        · cases verdict
  subst made
  refine ⟨rfl, rfl, fun g => ?_⟩
  cases g with
  | waiting => simp [Barrier.read, Barrier.waiting, fresh]
  | generation => rfl

/-- Building on first use and building first come to the same. What callers can hear of either
handle, and whether nobody can go on after it, is what can be heard of the bare barrier
(`shows_start_iff`, `shows_around_iff`): all that a wait does to have its barrier built is silent.
Where the `init` fails, every wait on the other handle fails with the same error, because both
constructions are the same one. It holds for any number of parties and threads and all calls,
requests and schedules, with nothing failing from outside. -/
theorem first_use_eq_init (supply : Supply) (n : UInt32) (settings : Nat → Cancellation)
    (thread : Nat) :
    -- an `init` on an empty handle returns, and what it answers and leaves is this
    ∃ turns e answer, Schedule.run (step nothing) (start [none] settings)
        (.begin thread 0 (.init n false) :: List.replicate turns (.go 0 supply)) = some e ∧
      e.jobs.map Job.stage = [.finished answer] ∧
      -- if it succeeds, callers see and hear of its handle what they see and hear of one that builds
      -- its barrier on first use, whether or not somebody can still go on
      ((answer = .ok .done ∧ ∀ told,
          (Shows supply (start [some n] settings) told ↔ Shows supply (around e.arena settings) told) ∧
          (Rests supply (start [some n] settings) told ↔ Rests supply (around e.arena settings) told)) ∨
        -- if it fails, the other handle stays as it was, every wait is told the same failure, no
        -- call takes more than fifteen turns, and none is stuck when nobody can go on
        ∃ err, answer = .error err ∧ e.arena.slot 0 = .empty ∧
          ∀ acts s, Schedule.run (act supply) (start [some n] settings) acts = some s →
            s.arena.slot 0 = .unbuilt n ∧
            (∀ v ∈ s.jobs, v.purpose = .inquire .wait → ∀ told, v.stage = .finished told →
              told = .error err) ∧
            (∀ i < s.jobs.length, Move.turnsOf i (acts.map (Act.move supply)) ≤ 15) ∧
            (Still supply s → ∀ v ∈ s.jobs, v.stage.isOver = true)) := by
  obtain ⟨turns, e, w, run, jobs, stage, arena⟩ := init_alone supply n settings thread
  refine ⟨turns, e, _, run, by rw [jobs, ← stage]; rfl, ?_⟩
  have c := (Custody.of_reaches (Schedule.reaches_run run)).around
    (fun v hv => by rw [jobs, List.mem_singleton] at hv; rw [hv, stage]; rfl) settings
  cases verdict : Construction.verdict supply n with
  | ok b =>
    rw [verdict] at arena
    have arena : e.arena = shelter b 0 := arena
    rw [arena] at c ⊢
    have fresh := untouched_of_verdict verdict
    refine .inl ⟨rfl, fun told => ?_⟩
    exact ⟨(shows_start_iff verdict fresh).1.trans (shows_around_iff verdict fresh c).1.symm,
      (shows_start_iff verdict fresh).2.trans (shows_around_iff verdict fresh c).2.symm⟩
  | error err =>
    rw [verdict] at arena
    have arena : e.arena = .declared [none] := arena
    refine .inr ⟨err, rfl, by rw [arena]; rfl, fun acts s run => ?_⟩
    have spent := Refused.Spent.of_run verdict run
    refine ⟨spent.refused.slot, fun v hv aim told stage => ?_, fun i hi => ?_,
      fun still v hv => spent.refused.over_of_still still hv⟩
    · have denied := spent.refused.denied v hv .wait aim
      rw [stage] at denied
      exact denied rfl
    · exact Nat.le_trans (Nat.le_add_right _ _)
        (spent.bound i _ (List.getElem?_eq_getElem hi))

end Traffic

end Rendezvous
