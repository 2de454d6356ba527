import Rendezvous.Proofs.Crowd.Ledger
import Rendezvous.Proofs.Runs
import Rendezvous.Proofs.Traffic.Custody

/-!
# The countdown stays in range

A barrier counts its arrivals down from the number of its parties and up again when one is taken
back. A thread may come to take its arrival back long after it was counted, others may have left
theirs behind by a failure, and all that keeps a thread from taking back what was never counted in
this generation is that it compares the generation before (`Wait.judge`).

So the arrivals that may yet be taken back in the open generation are what has to be counted: a call
stakes the generation it was counted in (`Wait.stake`) until it has its unit, has failed or has taken
the arrival back, and what is missing together with the stakes in the open generation is never more
than the number of parties (`InRange.room`). Nobody has staked a generation that is yet to come
(`InRange.past`), so that a new one begins with no stakes in it, as long as the generations have not
gone once around all their numbers.
-/

set_option autoImplicit false

namespace Rendezvous

open Barrier Handle

namespace Barrier

/-- The generation that the thread was counted in, while it may yet take its arrival back. -/
def Wait.stake : Wait → Option UInt64
  | counted g | pause g | blocked g _ _ | turnBack g | relock g | judge g => some g
  | _ => none

/-- What a turn of a wait does to the count of a barrier. -/
inductive Account (b : Barrier) (stake : Option UInt64) : Barrier → Option UInt64 → Prop where
  | keeps {x : Barrier} {stake' : Option UInt64} : x.missing = b.missing →
      x.generation = b.generation → (stake' = none ∨ stake' = stake) → Account b stake x stake'
  | counts : stake = none → b.countIn.missing ≠ 0 →
      Account b stake b.countIn (some b.generation)
  | trips : stake = none → b.countIn.missing = 0 → Account b stake b.countIn.trip none
  | retracts : stake = some b.generation → Account b stake b.countOut none

/-- What an account does to the numbers of a barrier. `held` and `held'` say how many stakes there
are in each generation, before and after. -/
theorem Account.numbers {b x : Barrier} {stake stake' : Option UInt64} {k : Nat}
    {held held' : UInt64 → Nat} (account : Account b stake x stake')
    (number : b.generation.toNat = k) (pos : 0 < b.missing.toNat)
    (room : b.missing.toNat + held b.generation ≤ b.parties.toNat)
    (few : k + (x.generation != b.generation).toNat < UInt64.size)
    (change : ∀ g, held' g + (decide (stake = some g)).toNat =
      held g + (decide (stake' = some g)).toNat)
    (beyond : ∀ g : UInt64, k < g.toNat → held g = 0)
    (past : ∀ g, stake = some g → g.toNat ≤ k) :
    x.generation.toNat = k + (x.generation != b.generation).toNat ∧ 0 < x.missing.toNat ∧
      x.missing.toNat + held' x.generation ≤ b.parties.toNat ∧
      ∀ g, stake' = some g → g.toNat ≤ k + (x.generation != b.generation).toNat := by
  cases account with
  | keeps missing generation staked =>
    have change := change b.generation
    rw [generation, missing, bne_self_eq_false]
    refine ⟨number, pos, ?_, fun g same => ?_⟩
    · rcases staked with rfl | rfl
      · simp only [reduceCtorEq, decide_false, Bool.toNat_false] at change
        omega
      · omega
    · rcases staked with rfl | rfl
      · cases same
      · exact past g same
  | counts idle incomplete =>
    have change := change b.generation
    have fewer := countIn_missing pos
    have still : b.countIn.missing.toNat ≠ 0 :=
      fun zero => incomplete (UInt32.toNat_inj.mp zero)
    have same : b.countIn.generation = b.generation := rfl
    simp only [idle, reduceCtorEq, decide_false, decide_true, Bool.toNat_false, Bool.toNat_true]
      at change
    rw [same, bne_self_eq_false]
    refine ⟨number, Nat.pos_of_ne_zero still, by omega, fun g own => ?_⟩
    obtain rfl := Option.some.inj own
    exact Nat.le_of_eq number
  | trips idle complete =>
    have next : b.countIn.trip.generation = b.generation + 1 := rfl
    have other : b.generation + 1 ≠ b.generation := by simp
    rw [next, bne_iff_ne.mpr other, Bool.toNat_true] at few ⊢
    have number' : (b.generation + 1).toNat = k + 1 := by
      rw [UInt64.toNat_add, number]
      exact Nat.mod_eq_of_lt few
    have nobody : held' (b.generation + 1) = 0 := by
      have change := change (b.generation + 1)
      rw [idle, beyond _ (number' ▸ Nat.lt_succ_self k)] at change
      exact change
    refine ⟨number', ?_, Nat.le_of_eq (congrArg (_ + ·) nobody), nofun⟩
    show 0 < b.parties.toNat
    omega
  | retracts staked =>
    have change := change b.generation
    simp only [staked, reduceCtorEq, decide_false, decide_true, Bool.toNat_false, Bool.toNat_true]
      at change
    have less : b.missing.toNat < b.parties.toNat := by omega
    have more := countOut_missing less
    have same : b.countOut.generation = b.generation := rfl
    rw [same, bne_self_eq_false]
    exact ⟨number, by omega, by omega, nofun⟩

theorem Wait.stake_afterGate (g : UInt64) (r : Except PrimitiveError Unit) :
    (afterGate g r).stake = none ∨ (afterGate g r).stake = some g := by
  rcases r with (_ | _) | _ <;> first | exact .inl rfl | exact .inr rfl

theorem Wait.stake_afterClaim (r : Except PrimitiveError Unit) : (afterClaim r).stake = none := by
  cases r <;> rfl

theorem Wait.step_account {b : Barrier} {c : Cancellation} {fault : Option PrimitiveError}
    {w : Wait} {turn : Wait.Turn} (move : w.step b c fault = some turn) :
    Account b w.stake turn.barrier turn.stage.stake := by
  cases w with
  | enter => cases fault <;> obtain rfl := Option.some.inj move <;> exact .keeps rfl rfl (.inl rfl)
  | lock =>
    simp only [step] at move
    split at move
    · cases move
    · obtain rfl := Option.some.inj move
      exact .keeps rfl rfl (.inl rfl)
  | arrive =>
    simp only [step] at move
    split at move
    · next complete =>
      obtain rfl := Option.some.inj move
      exact .trips rfl complete
    · next incomplete =>
      obtain rfl := Option.some.inj move
      exact .counts rfl incomplete
  | trip g | retracted g | overtaken g =>
    obtain rfl := Option.some.inj move
    exact .keeps rfl rfl (.inl rfl)
  | post g =>
    cases fault with
    | some e =>
      obtain rfl := Option.some.inj move
      exact .keeps rfl rfl (.inl rfl)
    | none =>
      simp only [step] at move
      split at move <;> obtain rfl := Option.some.inj move
      · exact .keeps (missing_setGate ..) (generation_setGate ..) (.inl rfl)
      · exact .keeps rfl rfl (.inl rfl)
  | counted g =>
    obtain rfl := Option.some.inj move
    exact .keeps rfl rfl (.inr rfl)
  | pause g =>
    cases fault with
    | some e =>
      obtain rfl := Option.some.inj move
      exact .keeps rfl rfl (stake_afterGate g (.error e))
    | none =>
      obtain rfl := Option.some.inj move
      exact .keeps rfl rfl (.inr rfl)
  | blocked g shield w =>
    rcases AtGate.blocked.cases move with ⟨r, rfl⟩ | ⟨_, _, _, -, -, rfl⟩
    · obtain rfl := Option.some.inj move
      exact .keeps rfl rfl (stake_afterGate g r)
    · exact .keeps (missing_setGate ..) (generation_setGate ..) (.inr rfl)
  | turnBack g =>
    cases fault <;> obtain rfl := Option.some.inj move
    · exact .keeps rfl rfl (.inr rfl)
    · exact .keeps rfl rfl (.inl rfl)
  | relock g =>
    simp only [step] at move
    split at move
    · cases move
    · obtain rfl := Option.some.inj move
      exact .keeps rfl rfl (.inr rfl)
  | judge g =>
    simp only [step] at move
    split at move
    · next same =>
      obtain rfl := Option.some.inj move
      exact .retracts (congrArg some same.symm)
    · obtain rfl := Option.some.inj move
      exact .keeps rfl rfl (.inl rfl)
  | claim g =>
    cases fault with
    | none =>
      obtain rfl := Option.some.inj move
      exact .keeps rfl rfl (.inl rfl)
    | some e =>
      obtain rfl := Option.some.inj move
      exact .keeps rfl rfl (.inl (stake_afterClaim (.error e)))
  | claiming g shield w =>
    rcases AtGate.claiming.cases move with ⟨r, rfl⟩ | ⟨_, _, _, -, -, rfl⟩
    · obtain rfl := Option.some.inj move
      exact .keeps rfl rfl (.inl (stake_afterClaim r))
    · exact .keeps (missing_setGate ..) (generation_setGate ..) (.inl rfl)
  | finished r => cases move

/-! ## Reading the count -/

/-- The number of waiting threads that a probe has read. -/
def Probe.reading : Gauge → Probe → Option Nat
  | .waiting, leave n | .waiting, finished (.ok n) => some n
  | _, _ => none

theorem Probe.step_reading {b : Barrier} {gauge : Gauge} {fault : Option PrimitiveError}
    {p : Probe} {turn : Probe.Turn} (move : p.step b gauge fault = some turn) :
    turn.barrier.missing = b.missing ∧ turn.barrier.generation = b.generation ∧
      ∀ n, turn.stage.reading gauge = some n → p.reading gauge = some n ∨ n = b.waiting.toNat := by
  cases p with
  | enter =>
    cases fault <;> obtain rfl := Option.some.inj move <;> refine ⟨rfl, rfl, ?_⟩ <;> cases gauge <;>
      rintro _ ⟨⟩
  | lock =>
    simp only [step] at move
    split at move
    · cases move
    · obtain rfl := Option.some.inj move
      refine ⟨rfl, rfl, ?_⟩
      cases gauge <;> rintro _ ⟨⟩
  | read =>
    obtain rfl := Option.some.inj move
    cases gauge with
    | waiting => exact ⟨rfl, rfl, fun n same => .inr (Option.some.inj same).symm⟩
    | generation => exact ⟨rfl, rfl, by rintro _ ⟨⟩⟩
  | leave value =>
    obtain rfl := Option.some.inj move
    exact ⟨rfl, rfl, fun n same => .inl (by cases gauge <;> exact same)⟩
  | finished r => cases move

theorem Teardown.step_count {b : Barrier} {fault : Option PrimitiveError} {t : Teardown}
    {turn : Teardown.Turn} (move : t.step b fault = some turn) :
    turn.barrier.missing = b.missing ∧ turn.barrier.generation = b.generation := by
  cases t with
  | finished => cases move
  | _ =>
    obtain rfl := Option.some.inj move
    exact ⟨rfl, rfl⟩

/-! ## A barrier as it is built -/

/-- A barrier that nobody has come to, for as many parties as a barrier may have. -/
structure Unused (x : Barrier) : Prop where
  parties_pos : 0 < x.parties.toNat
  parties_le : x.parties.toNat ≤ Semaphore.maxValue.toNat
  missing : x.missing = x.parties
  generation : x.generation = 0

/-- The construction goes on with no other number of parties than a barrier may have. -/
def Construction.Sized : Construction → Prop
  | makeLock n _ | makeEven n _ | makeOdd n _ _ =>
      0 < n.toNat ∧ n.toNat ≤ Semaphore.maxValue.toNat
  | finished (.ok x) => Unused x
  | check .. | undoEven .. | undoLock _ | finished (.error _) => True

theorem Construction.Sized.step {s : Construction} {supply : Supply}
    {fault : Option PrimitiveError} {turn : Construction.Turn} (sized : s.Sized)
    (move : s.step supply fault = some turn) : turn.stage.Sized := by
  have leads := leads_of_step move
  generalize turn.stage = t at leads ⊢
  cases leads with
  | check positive few =>
    exact ⟨Nat.pos_of_ne_zero fun zero => positive (UInt32.toNat_inj.mp zero),
      Nat.le_of_not_lt few⟩
  | makeLock | makeEven => exact sized
  | makeOdd => exact ⟨sized.1, sized.2, rfl, rfl⟩
  | undoEven | undoLock | fails => trivial

end Barrier

namespace Handle

/-! ## Operations -/

/-- The generation that the operation was counted in at barrier `b`, while it may yet take its
arrival back. -/
def Operation.stake (b : Nat) : Operation → Option UInt64
  | inside c w => if c = b then w.stake else none
  | _ => none

/-- The number of waiting threads that the operation has read at barrier `b`. -/
def Operation.reading (b : Nat) : Operation → Option Nat
  | probe c gauge p => if c = b then p.reading gauge else none
  | _ => none

def Operation.Sized : Operation → Prop
  | build _ s => s.Sized
  | _ => True

/-- The operation has nothing to do with the count of any barrier yet, or any more. -/
structure Operation.Aloof (op : Operation) : Prop where
  stake : ∀ b, op.stake b = none
  reading : ∀ b, op.reading b = none
  sized : op.Sized

theorem Operation.Aloof.of_uses {op : Operation} (uses : op.uses = none) (sized : op.Sized) :
    op.Aloof := by
  refine ⟨fun b => ?_, fun b => ?_, sized⟩ <;> cases op <;> first | rfl | cases uses

theorem Next.aloof_stage (n : Next) : n.stage.Aloof := by
  cases n <;> exact .of_uses rfl trivial

theorem Errand.aloof_afterSlot (e : Errand) (n : Next) : (e.afterSlot n).Aloof := by
  unfold afterSlot
  split
  · exact .of_uses rfl trivial
  · exact n.aloof_stage

theorem Errand.aloof_inspect (e : Errand) (s : Slot) : (e.inspect s).Aloof := by
  cases e <;> cases s <;> exact .of_uses rfl trivial

theorem Purpose.aloof_first (p : Purpose) : p.first.Aloof := by
  cases p <;> exact .of_uses rfl trivial

theorem Inquiry.aloof_look (q : Inquiry) (a : Arena) (s : Slot) : (q.look a s).Aloof := by
  cases q <;> cases s <;>
    first
      | exact .of_uses rfl trivial
      | exact ⟨fun b => ite_self none, fun _ => rfl, trivial⟩
      | exact ⟨fun _ => rfl, fun b => by simp [look, Operation.reading, Probe.reading], trivial⟩

variable {a : Arena} {h b : Nat} {d : Cancellation} {supply : Supply}
  {fault : Option PrimitiveError} {op : Operation} {turn : Operation.Turn}

theorem Operation.Sized.step (sized : op.Sized) (move : op.step a h d supply fault = some turn) :
    turn.stage.Sized := by
  cases stride_of_step move with
  | look => exact (Inquiry.aloof_look ..).sized
  | leave | unguard | abandon => exact (Next.aloof_stage _).sized
  | inspect => exact (Errand.aloof_inspect ..).sized
  | release | giveUp => exact (Errand.aloof_afterSlot ..).sized
  | build stepped => exact Construction.Sized.step sized stepped
  | _ => trivial

/-- What a turn does to the count of a barrier, and where a number comes from that it has read. -/
theorem Operation.step_account (hb : b < a.barriers.size)
    (move : op.step a h d supply fault = some turn) :
    Account (a.barrier b) (op.stake b) (turn.arena.barrier b) (turn.stage.stake b) ∧
      ∀ n, turn.stage.reading b = some n →
        op.reading b = some n ∨ n = (a.barrier b).waiting.toNat := by
  have aloof {x : Barrier} {op' : Operation} (missing : x.missing = (a.barrier b).missing)
      (generation : x.generation = (a.barrier b).generation) (calm : op'.Aloof) :
      Account (a.barrier b) (op.stake b) x (op'.stake b) ∧
        ∀ n, op'.reading b = some n →
          op.reading b = some n ∨ n = (a.barrier b).waiting.toNat :=
    ⟨.keeps missing generation (.inl (calm.stake b)), fun n same => by
      cases (calm.reading b).symm.trans same⟩
  cases stride_of_step move with
  | look => exact aloof rfl rfl (Inquiry.aloof_look ..)
  | @inside c w t stepped =>
    by_cases here : c = b
    · subst here
      simp only [stake, reading, if_true, Arena.barrier_setBarrier_self _ hb]
      exact ⟨Wait.step_account stepped, nofun⟩
    · simp only [stake, reading, if_neg here, Arena.barrier_setBarrier_of_ne _ (Ne.symm here)]
      exact ⟨.keeps rfl rfl (.inl rfl), nofun⟩
  | @probe c gauge p t stepped =>
    by_cases here : c = b
    · subst here
      simp only [stake, reading, if_true, Arena.barrier_setBarrier_self _ hb]
      obtain ⟨missing, generation, read⟩ := Probe.step_reading stepped
      exact ⟨.keeps missing generation (.inl rfl), read⟩
    · simp only [stake, reading, if_neg here, Arena.barrier_setBarrier_of_ne _ (Ne.symm here)]
      exact ⟨.keeps rfl rfl (.inl rfl), nofun⟩
  | leave | unguard | abandon => exact aloof rfl rfl (Next.aloof_stage _)
  | inspect => exact aloof rfl rfl (Errand.aloof_inspect ..)
  | release | giveUp => exact aloof rfl rfl (Errand.aloof_afterSlot ..)
  | built =>
    rw [Arena.barrier_adopt_of_lt _ hb]
    exact ⟨.keeps rfl rfl (.inl rfl), nofun⟩
  | @seize c =>
    refine ⟨?_, nofun⟩
    by_cases here : c = b
    · subst here
      rw [Arena.barrier_setBarrier_self _ hb]
      exact .keeps rfl rfl (.inl rfl)
    · rw [Arena.barrier_setBarrier_of_ne _ (Ne.symm here)]
      exact .keeps rfl rfl (.inl rfl)
  | @tearDown c t u stepped =>
    refine ⟨?_, nofun⟩
    by_cases here : c = b
    · subst here
      rw [Arena.barrier_setBarrier_self _ hb]
      obtain ⟨missing, generation⟩ := Teardown.step_count stepped
      exact .keeps missing generation (.inl rfl)
    · rw [Arena.barrier_setBarrier_of_ne _ (Ne.symm here)]
      exact .keeps rfl rfl (.inl rfl)
  | _ => exact ⟨.keeps rfl rfl (.inl rfl), nofun⟩

/-- A barrier that comes to be there is the one that the operation has built, and is not about to
use. -/
theorem Operation.built_of_step (new : a.barriers.size ≤ b) (there : b < turn.arena.barriers.size)
    (move : op.step a h d supply fault = some turn) :
    b = a.barriers.size ∧ (∃ e, op = .build e (.finished (.ok (turn.arena.barrier b)))) ∧
      turn.stage.uses = none := by
  have absent {x : Arena} (same : x.barriers.size = a.barriers.size) :
      ¬ b < x.barriers.size := fun there => Nat.not_lt_of_le new (same ▸ there)
  cases stride_of_step move with
  | @built e x =>
    have size : (a.adopt x).1.barriers.size = a.barriers.size + 1 := Array.size_push x
    obtain rfl : b = a.barriers.size := by
      have there : b < (a.adopt x).1.barriers.size := there
      omega
    rw [Arena.barrier_adopt_self]
    exact ⟨rfl, ⟨e, rfl⟩, rfl⟩
  | inside | probe | seize | tearDown => exact absurd there (absent (Arena.size_setBarrier ..))
  | _ => exact absurd there (absent rfl)

theorem Operation.unused_of_step (sized : op.Sized) (new : a.barriers.size ≤ b)
    (move : op.step a h d supply fault = some turn) (there : b < turn.arena.barriers.size) :
    Unused (turn.arena.barrier b) ∧ turn.stage.uses = none := by
  obtain ⟨-, ⟨e, rfl⟩, uses⟩ := Operation.built_of_step new there move
  exact ⟨sized, uses⟩

end Handle

namespace Traffic

variable {mayFail : Ask → Bool} {s t : Traffic} {m : Move} {moves : List Move} {b i k : Nat}
  {v : Job} {handles : List (Option UInt32)} {settings : Nat → Cancellation}

/-- Call by call, who has staked this generation at barrier `b`. -/
def stakes (s : Traffic) (b : Nat) (g : UInt64) : Nat :=
  s.jobs.countP fun v => decide (v.stage.stake b = some g)

/-- The move ends a generation of barrier `b`. -/
def endsGeneration (b : Nat) (s : Traffic) (_ : Move) (t : Traffic) : Bool :=
  (t.arena.barrier b).generation != (s.arena.barrier b).generation

/-- Barrier `b` is in its generation number `k`, and its count where it may be. -/
structure InRange (b k : Nat) (s : Traffic) : Prop where
  parties_le : (s.arena.barrier b).parties.toNat ≤ Semaphore.maxValue.toNat
  generation : (s.arena.barrier b).generation.toNat = k
  missing_pos : 0 < (s.arena.barrier b).missing.toNat
  /-- What is missing and what may be taken back is no more than there are parties. -/
  room : (s.arena.barrier b).missing.toNat + s.stakes b (s.arena.barrier b).generation ≤
    (s.arena.barrier b).parties.toNat
  /-- Nobody was counted in a generation that is yet to come. -/
  past : ∀ v ∈ s.jobs, ∀ g, v.stage.stake b = some g → g.toNat ≤ k
  read : ∀ v ∈ s.jobs, ∀ n, v.stage.reading b = some n → n < (s.arena.barrier b).parties.toNat

namespace InRange

theorem missing_le (r : InRange b k s) :
    (s.arena.barrier b).missing.toNat ≤ (s.arena.barrier b).parties.toNat :=
  Nat.le_trans (Nat.le_add_right ..) r.room

theorem waiting (r : InRange b k s) :
    (s.arena.barrier b).waiting.toNat + (s.arena.barrier b).missing.toNat =
      (s.arena.barrier b).parties.toNat := by
  have le := r.missing_le
  rw [Barrier.waiting, UInt32.toNat_sub_of_le _ _ (UInt32.le_iff_toNat_le.mpr le)]
  omega

theorem waiting_lt (r : InRange b k s) :
    (s.arena.barrier b).waiting.toNat < (s.arena.barrier b).parties.toNat := by
  have whole := r.waiting
  have pos := r.missing_pos
  omega

/-- A barrier that has just been built. -/
theorem of_unused (c : Custody s) (new : s.arena.barriers.size ≤ b) {turn : Operation.Turn}
    (u : Unused (turn.arena.barrier b)) (elsewhere : turn.stage.uses ≠ some b) :
    InRange b 0 (s.after i v turn) := by
  -- nobody has been in it
  have nobody : ∀ w ∈ (s.after i v turn).jobs,
      w.stage.stake b = none ∧ w.stage.reading b = none := by
    intro w hw
    have apart : w.stage.uses ≠ some b := by
      obtain ⟨j, hj⟩ := List.mem_iff_getElem?.mp hw
      rcases job_after hj with ⟨-, rfl⟩ | ⟨-, hj⟩
      · exact elsewhere
      · exact fun uses => Nat.not_lt_of_le new (c.uses_lt (List.mem_of_getElem? hj) uses)
    cases stage : w.stage with
    | inside d w =>
      rw [stage] at apart
      exact ⟨if_neg fun here => apart (congrArg some here), rfl⟩
    | probe d gauge p =>
      rw [stage] at apart
      exact ⟨rfl, if_neg fun here => apart (congrArg some here)⟩
    | _ => exact ⟨rfl, rfl⟩
  have unstaked : (s.after i v turn).stakes b (turn.arena.barrier b).generation = 0 := by
    refine List.countP_eq_zero.mpr fun w hw staked => ?_
    rw [(nobody w hw).1] at staked
    cases of_decide_eq_true staked
  have first : ((s.after i v turn).arena.barrier b).generation = 0 := u.generation
  refine ⟨u.parties_le, congrArg UInt64.toNat first, ?_, ?_, fun w hw g staked => ?_,
    fun w hw n read => ?_⟩
  · rw [show ((s.after i v turn).arena.barrier b).missing = _ from u.missing]
    exact u.parties_pos
  · exact Nat.le_of_eq (by
      rw [show ((s.after i v turn).arena.barrier b).missing = _ from u.missing]
      exact congrArg (_ + ·) unstaked)
  · cases (nobody w hw).1.symm.trans staked
  · cases (nobody w hw).2.symm.trans read

/-- How many stakes there are in a generation after a turn, and how many there were before. -/
theorem stakes_after (hv : s.jobs[i]? = some v) (turn : Operation.Turn) (g : UInt64) :
    (s.after i v turn).stakes b g + (decide (v.stage.stake b = some g)).toNat =
      s.stakes b g + (decide (turn.stage.stake b = some g)).toNat :=
  countP_set_add (fun v : Job => decide (v.stage.stake b = some g))
    (v.enter s.books turn.stage) hv

/-- A turn keeps the count in its range if it keeps the numbers of the barrier in theirs. -/
theorem after (r : InRange b k s) (c : Custody s) (hb : b < s.arena.barriers.size)
    (hv : s.jobs[i]? = some v) {supply : Supply} {fault : Option PrimitiveError}
    {turn : Operation.Turn}
    (moved : v.stage.step s.arena v.handle (s.settings v.thread) supply fault = some turn) {l : Nat}
    (later : k ≤ l)
    (numbers : (turn.arena.barrier b).generation.toNat = l ∧
      0 < (turn.arena.barrier b).missing.toNat ∧
      (turn.arena.barrier b).missing.toNat +
        (s.after i v turn).stakes b (turn.arena.barrier b).generation ≤
          (s.arena.barrier b).parties.toNat ∧
      ∀ g, turn.stage.stake b = some g → g.toNat ≤ l) : InRange b l (s.after i v turn) := by
  obtain ⟨generation, missing_pos, room, own⟩ := numbers
  have mem := List.mem_of_getElem? hv
  have parties : ((s.after i v turn).arena.barrier b).parties = (s.arena.barrier b).parties :=
    (c.deed mem moved).parties hb
  have reading := (Operation.step_account hb moved).2
  constructor
  case parties_le =>
    rw [parties]
    exact r.parties_le
  case generation => exact generation
  case missing_pos => exact missing_pos
  case room =>
    rw [parties]
    exact room
  case past =>
    intro w hw g staked
    obtain ⟨j, hj⟩ := List.mem_iff_getElem?.mp hw
    rcases job_after hj with ⟨-, rfl⟩ | ⟨-, hj⟩
    · exact own g staked
    · exact Nat.le_trans (r.past w (List.mem_of_getElem? hj) g staked) later
  case read =>
    intro w hw n same
    rw [parties]
    obtain ⟨j, hj⟩ := List.mem_iff_getElem?.mp hw
    rcases job_after hj with ⟨-, rfl⟩ | ⟨-, hj⟩
    · rcases reading n same with before | rfl
      · exact r.read v mem n before
      · exact r.waiting_lt
    · exact r.read w (List.mem_of_getElem? hj) n same

/-- Nobody has a stake in a generation that is yet to come. -/
theorem stakes_of_lt (r : InRange b k s) {g : UInt64} (lt : k < g.toNat) : s.stakes b g = 0 := by
  apply List.countP_eq_zero.mpr
  intro w hw staked
  exact Nat.not_le.mpr lt (r.past w hw g (of_decide_eq_true staked))

/-- A turn of a call keeps the count in its range, as long as there is a number for the next
generation. -/
theorem goes (r : InRange b k s) (c : Custody s) (hb : b < s.arena.barriers.size)
    (hv : s.jobs[i]? = some v) {supply : Supply} {fault : Option PrimitiveError}
    {turn : Operation.Turn}
    (moved : v.stage.step s.arena v.handle (s.settings v.thread) supply fault = some turn)
    (few : k + (endsGeneration b s m (s.after i v turn)).toNat < UInt64.size) :
    InRange b (k + (endsGeneration b s m (s.after i v turn)).toNat) (s.after i v turn) := by
  apply r.after c hb hv moved (Nat.le_add_right ..)
  apply (Operation.step_account hb moved).1.numbers r.generation r.missing_pos r.room few
  · exact fun g => stakes_after hv turn g
  · exact fun g lt => r.stakes_of_lt lt
  · exact r.past v (List.mem_of_getElem? hv)

theorem begins (r : InRange b k s) (thread handle : Nat) (purpose : Purpose) :
    InRange b k
      { s with jobs := s.jobs ++ [{ thread, handle, purpose, stage := purpose.first }] } := by
  have idle := purpose.aloof_first
  refine ⟨r.parties_le, r.generation, r.missing_pos, ?_, fun w hw g staked => ?_,
    fun w hw n same => ?_⟩
  · have unstaked : ¬ purpose.first.stake b = some (s.arena.barrier b).generation := by
      rw [idle.stake]
      nofun
    rw [stakes, List.countP_append, List.countP_singleton, if_neg (by simpa using unstaked)]
    exact r.room
  · rcases List.mem_append.mp hw with old | new
    · exact r.past w old g staked
    · obtain rfl := List.mem_singleton.mp new
      cases (idle.stake b).symm.trans staked
  · rcases List.mem_append.mp hw with old | new
    · exact r.read w old n same
    · obtain rfl := List.mem_singleton.mp new
      cases (idle.reading b).symm.trans same

theorem step (r : InRange b k s) (c : Custody s) (hb : b < s.arena.barriers.size)
    (move : s.step mayFail m = some t)
    (few : k + (endsGeneration b s m t).toNat < UInt64.size) :
    InRange b (k + (endsGeneration b s m t).toNat) t := by
  cases step_effect move with
  | begins =>
    simp only [endsGeneration, bne_self_eq_false, Bool.toNat_false, Nat.add_zero]
    exact r.begins ..
  | sets =>
    simp only [endsGeneration, bne_self_eq_false, Bool.toNat_false, Nat.add_zero]
    exact ⟨r.parties_le, r.generation, r.missing_pos, r.room, r.past, r.read⟩
  | goes hv _ moved => exact r.goes c hb hv moved few

end InRange

/-! ## Runs -/

/-- Whatever is being built is for as many parties as a barrier may have. -/
theorem sized_of_reaches
    (run : Schedule.Reaches (step mayFail) (start handles settings) s) :
    ∀ v ∈ s.jobs, v.stage.Sized := by
  refine run.keeps (P := fun s => ∀ v ∈ s.jobs, v.stage.Sized) (fun {s t m} sized move w hw => ?_)
    fun v hv => absurd hv List.not_mem_nil
  obtain ⟨i, hi⟩ := List.mem_iff_getElem?.mp hw
  rcases job_of_step move hi with ⟨v, hv, -, -, ⟨rfl, -⟩ | turned⟩ | ⟨-, -, first⟩
  · exact sized w (List.mem_of_getElem? hv)
  · cases turned with
    | took moved => exact (sized v (List.mem_of_getElem? hv)).step moved
  · rw [first]
    exact w.purpose.aloof_first.sized

theorem Custody.barriers_le (c : Custody s) (move : s.step mayFail m = some t) :
    s.arena.barriers.size ≤ t.arena.barriers.size := by
  cases step_effect move with
  | begins | sets => exact Nat.le_refl _
  | goes hv _ moved => exact (c.deed (List.mem_of_getElem? hv) moved).barriers_le

/-- A barrier that is not there yet is unused when it comes to be there, and ends no generation
until then. -/
theorem unused_of_step (c : Custody s) (sized : ∀ v ∈ s.jobs, v.stage.Sized)
    (absent : s.arena.barriers.size ≤ b) (move : s.step mayFail m = some t) :
    endsGeneration b s m t = false ∧ (b < t.arena.barriers.size → InRange b 0 t) := by
  have nothing : (s.arena.barrier b).generation = 0 := by
    rw [Arena.barrier_of_size_le absent]
    rfl
  cases step_effect move with
  | begins | sets => exact ⟨bne_self_eq_false _, fun there => absurd there (Nat.not_lt_of_le absent)⟩
  | @goes i supply fault v turn hv _ moved =>
    by_cases there : b < turn.arena.barriers.size
    · obtain ⟨unused, idle⟩ :=
        Operation.unused_of_step (sized v (List.mem_of_getElem? hv)) absent moved there
      refine ⟨?_, fun _ => InRange.of_unused c absent unused (by rw [idle]; nofun)⟩
      rw [endsGeneration, nothing, show (s.after i v turn).arena = turn.arena from rfl,
        unused.generation]
      rfl
    · refine ⟨?_, fun there' => absurd there' there⟩
      rw [endsGeneration, nothing, show (s.after i v turn).arena = turn.arena from rfl,
        Arena.barrier_of_size_le (Nat.le_of_not_lt there)]
      rfl

/-- The generations that have ended at barrier `b`. -/
def endings (mayFail : Ask → Bool) (b : Nat) : Traffic → List Move → Nat :=
  Schedule.tally (step mayFail) (endsGeneration b)

/-- As long as there are numbers for its generations, a barrier is in range. -/
theorem inRange_of_run (run : Schedule.run (step mayFail) (start handles settings) moves = some s)
    (few : endings mayFail b (start handles settings) moves < UInt64.size) :
    (b < s.arena.barriers.size →
        InRange b (endings mayFail b (start handles settings) moves) s) ∧
      (s.arena.barriers.size ≤ b → endings mayFail b (start handles settings) moves = 0) := by
  have kept := Schedule.run_induction (P := fun moves s =>
    endings mayFail b (start handles settings) moves < UInt64.size →
      (b < s.arena.barriers.size →
        InRange b (endings mayFail b (start handles settings) moves) s) ∧
      (s.arena.barriers.size ≤ b → endings mayFail b (start handles settings) moves = 0)) ?_ ?_ run
  · exact kept few
  · exact fun _ => ⟨fun there => absurd there (Nat.not_lt_zero b), fun _ => rfl⟩
  intro moves m t u reach move ih few
  have reached := Schedule.reaches_run reach
  have custody := Custody.of_reaches reached
  have ended : endings mayFail b (start handles settings) (moves ++ [m]) =
      endings mayFail b (start handles settings) moves + (endsGeneration b t m u).toNat :=
    Schedule.tally_concat reach move
  rw [ended] at few ⊢
  obtain ⟨inRange, beyond⟩ := ih (Nat.lt_of_le_of_lt (Nat.le_add_right ..) few)
  rcases Nat.lt_or_ge b t.arena.barriers.size with there | absent
  · refine ⟨fun _ => (inRange there).step custody there move few, fun gone => ?_⟩
    have kept := custody.barriers_le move
    omega
  · obtain ⟨quiet, unused⟩ := unused_of_step custody (sized_of_reaches reached) absent move
    rw [beyond absent, quiet]
    exact ⟨unused, fun _ => rfl⟩

/-! ## All of it -/

/-- The count of a barrier neither wraps nor leaves its range, even when arrivals are taken back or
left behind by failures. What is missing and the arrivals that may yet be taken back in the open
generation make up no more than the number of parties (`InRange.room`): counting in moves one from
the first to the second, and counting out moves it back. A new generation has none of the second,
as nobody can have staked it before. For that its number must not have been used before, and
therefore the barrier must have ended fewer generations than there are numbers for them. Any number
of threads may call on any handles and be asked to stop, and anything may fail. -/
theorem countdown_in_range
    (run : Schedule.run (step mayFail) (start handles settings) moves = some s)
    (built : b < s.arena.barriers.size)
    (few : endings mayFail b (start handles settings) moves < UInt64.size) :
    -- it is for a number of parties that a barrier may have, and misses at least one of them and at
    -- most all, whether its lock is free or not
    (1 ≤ (s.arena.barrier b).parties.toNat ∧
      (s.arena.barrier b).parties.toNat ≤ Semaphore.maxValue.toNat) ∧
      (1 ≤ (s.arena.barrier b).missing.toNat ∧
        (s.arena.barrier b).missing.toNat ≤ (s.arena.barrier b).parties.toNat) ∧
      -- whoever counts itself in counts one down
      (s.arena.barrier b).countIn.missing.toNat + 1 = (s.arena.barrier b).missing.toNat ∧
      -- whoever takes its arrival back counts one up, and not above the number of parties
      (∀ v ∈ s.jobs, ∀ g, v.stage = .inside b (.judge g) → (s.arena.barrier b).generation = g →
        (s.arena.barrier b).countOut.missing.toNat = (s.arena.barrier b).missing.toNat + 1 ∧
          (s.arena.barrier b).countOut.missing.toNat ≤ (s.arena.barrier b).parties.toNat) ∧
      -- whoever asks how many are waiting reads how many are missing less than all
      (s.arena.barrier b).waiting.toNat + (s.arena.barrier b).missing.toNat =
        (s.arena.barrier b).parties.toNat ∧
      -- and is told a number below that of the parties
      ∀ v ∈ s.jobs, ∀ n, v.stage = .probe b .waiting (.finished (.ok n)) →
        n ≤ (s.arena.barrier b).parties.toNat - 1 := by
  have r := (inRange_of_run run few).1 built
  have pos := r.missing_pos
  have le := r.missing_le
  have down := countIn_missing pos
  refine ⟨⟨Nat.le_trans pos le, r.parties_le⟩, ⟨pos, le⟩, by omega, fun v hv g stage same => ?_,
    r.waiting, fun v hv n stage => ?_⟩
  · -- its own stake is one of those there is room for
    have staked : 0 < s.stakes b (s.arena.barrier b).generation :=
      List.countP_pos_iff.mpr ⟨v, hv, by simp [stage, Operation.stake, Wait.stake, same]⟩
    have room := r.room
    have up := countOut_missing (show (s.arena.barrier b).missing.toNat <
      (s.arena.barrier b).parties.toNat by omega)
    omega
  · have read := r.read v hv n (by simp [stage, Operation.reading, Probe.reading])
    omega

/-- A thread waits for another one, somebody asks how many are waiting, and the thread is asked to
stop. -/
def countedAndAsked : List Move :=
  .begin 0 0 (.inquire .wait) :: Move.goes 0 24 ++
    .begin 1 0 (.inquire (.gauge .waiting)) :: Move.goes 1 6 ++ [.request 0] ++ Move.goes 0 5

/-- It is about to take its arrival back. -/
def aboutToJudge : Traffic :=
  (Schedule.run (step anything) (start [some 2] fun _ => { type := .asynchronous })
    countedAndAsked).get (by decide)

theorem countdown_in_range_aboutToJudge :
    0 < aboutToJudge.arena.barriers.size ∧
      endings anything 0 (start [some 2] fun _ => { type := .asynchronous }) countedAndAsked <
        UInt64.size ∧
      (aboutToJudge.arena.barrier 0).missing.toNat = 1 ∧
      (aboutToJudge.arena.barrier 0).countOut.missing.toNat =
        (aboutToJudge.arena.barrier 0).missing.toNat + 1 ∧
      1 ≤ (aboutToJudge.arena.barrier 0).parties.toNat - 1 := by
  have built : 0 < aboutToJudge.arena.barriers.size := by decide
  have few : endings anything 0 (start [some 2] fun _ => { type := .asynchronous })
      countedAndAsked < UInt64.size := by decide
  have first := List.getElem?_eq_getElem (show 0 < aboutToJudge.jobs.length by decide)
  have second := List.getElem?_eq_getElem (show 1 < aboutToJudge.jobs.length by decide)
  obtain ⟨-, -, -, takesBack, -, told⟩ :=
    countdown_in_range (Option.some_get (by decide)).symm built few
  exact ⟨built, few, by decide, (takesBack _ (List.mem_of_getElem? first) 0 rfl (by decide)).1,
    told _ (List.mem_of_getElem? second) 1 rfl⟩

end Traffic

end Rendezvous
