import Rendezvous.Proofs.Crowd.Ledger

/-!
# Units of a semaphore

A `Pool` is a semaphore with any number of threads that wait for its units and post new ones. As
elsewhere, its moves are the smallest things a schedule can tell apart, and calls that are over stay
on the list; so the units can be accounted for from the list (`Pool.Sound`): what is there is what
was there at first and what the posts have brought, less one for every wait that has succeeded.

A turn of a call leaves the semaphore alone, takes the unit that a wait succeeds with, or brings what
a post succeeds with (`Stage.Change`). Nothing else has to be looked at, neither for the accounts nor
for what a call that fails leaves behind.

A wait is blocked for good only where there is no unit for it and no request. It need not be told:
whatever was posted or asked while it was asleep is there when it looks again
(`Pool.ends_of_reason`). That it does look again is the rule of `Wait.step` for parked waits, which
stands for notifications and for the timed re-check alike. The schedule says when a sleeper that has
something to find gets its turn; a wake-up that finds nothing has no turn at all, and how long `poll`
is makes no difference to any run.
-/

set_option autoImplicit false

namespace Rendezvous

open Semaphore

namespace Pool

/-! ## Calls -/

/-- Where a call on a semaphore stands. -/
inductive Stage where
  | waiting (w : Wait)
  /-- About to post so many units. -/
  | posting (count : UInt32)
  | posted (count : UInt32) (result : Except PrimitiveError Unit)
  deriving Repr

namespace Stage

/-- One stage of a call by a thread with settings `c`; `none` if the thread is blocked or done. -/
def step (s : Semaphore) (c : Cancellation) : Stage → Option (Semaphore × Cancellation × Stage)
  | waiting w => (w.step s c).map fun (s, c, w) => (s, c, waiting w)
  | posting count =>
      match s.post count with
      | .ok t => some (t, c, posted count (.ok ()))
      | .error e => some (s, c, posted count (.error e))
  | posted .. => none

def isOver : Stage → Bool
  | waiting (.finished _) | posted .. => true
  | _ => false

/-- A wait that has succeeded. -/
def took : Stage → Bool
  | waiting (.finished (.ok _)) => true
  | _ => false

/-- The units of a post that has succeeded. -/
def brought : Stage → Nat
  | posted count (.ok _) => count.toNat
  | _ => 0

/-- A wait is under the rule that looks for requests while it blocks. -/
def Listens : Stage → Prop
  | waiting w => w.Listens
  | _ => True

end Stage

structure Call where
  thread : Nat
  stage : Stage
  deriving Repr

end Pool

structure Pool where
  semaphore : Semaphore
  /-- Each thread's settings. -/
  settings : Nat → Cancellation
  /-- All calls so far, in the order in which they began. -/
  calls : List Pool.Call := []

namespace Pool

inductive Move where
  /-- A thread that is in no call begins to wait. -/
  | wait (thread : Nat)
  /-- A thread that is in no call begins to post. -/
  | post (thread : Nat) (count : UInt32)
  /-- A call, named by its place on the list, goes on by one stage. -/
  | go (call : Nat)
  /-- Somebody asks a thread to stop. -/
  | request (thread : Nat)
  /-- A thread that is in no call changes its own settings. -/
  | adjust (thread : Nat) (type : CancelType) (state : CancelState)
  deriving Repr

def isOutside (p : Pool) (thread : Nat) : Bool :=
  p.calls.all fun v => v.thread != thread || v.stage.isOver

def setSettings (p : Pool) (thread : Nat) (c : Cancellation) : Pool :=
  { p with settings := fun t => if t = thread then c else p.settings t }

def begin (p : Pool) (thread : Nat) (stage : Stage) : Option Pool :=
  if p.isOutside thread then some { p with calls := p.calls ++ [⟨thread, stage⟩] } else none

/-- What is there when call `i` has come to a stage. -/
def after (p : Pool) (i : Nat) (v : Call) (s : Semaphore) (c : Cancellation) (stage : Stage) : Pool :=
  { p.setSettings v.thread c with semaphore := s, calls := p.calls.set i { v with stage } }

/-- Makes a move; `none` if it cannot be made now. -/
def step (p : Pool) : Move → Option Pool
  | .wait thread => p.begin thread (.waiting (.start p.semaphore.rule))
  | .post thread count => p.begin thread (.posting count)
  | .go i =>
      (p.calls[i]?).bind fun v =>
        (v.stage.step p.semaphore (p.settings v.thread)).map fun (s, c, stage) =>
          p.after i v s c stage
  | .request thread => some (p.setSettings thread (p.settings thread).request)
  | .adjust thread type state =>
      if p.isOutside thread then some (p.setSettings thread { p.settings thread with type, state })
      else none

/-- Nobody has called yet. -/
def start (s : Semaphore) (settings : Nat → Cancellation) : Pool := { semaphore := s, settings }

/-! ## What a turn does -/

section

variable {s t : Semaphore} {c d : Cancellation} {x y : Stage}

/-- What one turn of a call does to the semaphore. -/
inductive Stage.Change (s : Semaphore) (c : Cancellation) : Stage → Semaphore → Stage → Prop where
  /-- A wait goes on, or fails. -/
  | waits {w w' : Wait} : (∀ u, w' ≠ .finished (.ok u)) →
      (∀ e, w' = .finished (.error e) → e = .canceled ∧ c.pending = true) →
      Stage.Change s c (.waiting w) s (.waiting w')
  | takes {w : Wait} : 0 < s.value →
      Stage.Change s c (.waiting w) { s with value := s.value - 1 } (.waiting (.finished (.ok ())))
  | brings {count : UInt32} {t : Semaphore} : s.post count = .ok t →
      Stage.Change s c (.posting count) t (.posted count (.ok ()))
  | refuses {count : UInt32} {e : PrimitiveError} : s.post count = .error e →
      Stage.Change s c (.posting count) s (.posted count (.error e))

theorem Stage.going_of_step (h : x.step s c = some (t, d, y)) : x.isOver = false := by
  cases x with
  | waiting w =>
    cases w with
    | finished r => cases h
    | _ => rfl
  | posting => rfl
  | posted => cases h

theorem Stage.change_of_step (listens : x.Listens) (h : x.step s c = some (t, d, y)) :
    d = c ∧ y.Listens ∧ Stage.Change s c x t y := by
  cases x with
  | waiting w =>
    obtain ⟨⟨t', d', w'⟩, moved, same⟩ := Option.map_eq_some_iff.mp h
    cases same
    obtain ⟨rfl, listens', ⟨rfl, unfulfilled, failed⟩ | ⟨unit, rfl, rfl⟩⟩ :=
      Wait.step_listens listens moved
    · refine ⟨rfl, listens', .waits unfulfilled fun e same => ⟨?_, failed e same⟩⟩
      subst same
      exact listens'
    · exact ⟨rfl, listens', .takes unit⟩
  | posting count =>
    simp only [step] at h
    split at h
    · next fits =>
      cases h
      exact ⟨rfl, trivial, .brings fits⟩
    · next full =>
      cases h
      exact ⟨rfl, trivial, .refuses full⟩
  | posted => cases h

theorem Stage.open_of_going (going : x.isOver = false) : x.took = false ∧ x.brought = 0 := by
  cases x with
  | waiting w =>
    cases w with
    | finished r => cases going
    | _ => exact ⟨rfl, rfl⟩
  | posting => exact ⟨rfl, rfl⟩
  | posted => cases going

/-- What is there after a turn, and what the call has taken or brought with it. -/
theorem Stage.Change.balance (h : Stage.Change s c x t y) :
    t.value.toNat + y.took.toNat = s.value.toNat + y.brought := by
  cases h with
  | @waits w w' unfulfilled =>
    cases w' with
    | finished r =>
      cases r with
      | ok u => exact absurd rfl (unfulfilled u)
      | error => rfl
    | _ => rfl
  | takes unit =>
    have pos : 0 < s.value.toNat := unit
    show (s.value - 1).toNat + 1 = s.value.toNat
    rw [Barrier.toNat_sub_one unit]
    omega
  | brings fits => exact post_toNat fits
  | refuses => rfl

theorem Stage.Change.rule (h : Stage.Change s c x t y) : t.rule = s.rule := by
  cases h with
  | waits | takes | refuses => rfl
  | brings fits => exact post_rule fits

theorem Stage.Change.le (h : Stage.Change s c x t y) (most : s.value.toNat ≤ maxValue.toNat) :
    t.value.toNat ≤ maxValue.toNat := by
  cases h with
  | waits | refuses => exact most
  | takes unit =>
    show (s.value - 1).toNat ≤ _
    rw [Barrier.toNat_sub_one unit]
    omega
  | brings fits => exact post_le fits most

end

/-! ## Accounts -/

variable {p q : Pool} {m : Move} {i : Nat} {v : Call}

/-- What is known of a pool that had so many units at first. -/
structure Sound (initial : UInt32) (p : Pool) : Prop where
  rule : p.semaphore.rule = .whileBlocked
  most : p.semaphore.value.toNat ≤ maxValue.toNat
  listens : ∀ v ∈ p.calls, v.stage.Listens
  balance : p.semaphore.value.toNat + p.calls.countP (·.stage.took) =
    initial.toNat + (p.calls.map (·.stage.brought)).sum

theorem eq_of_create {initial : UInt32} {shared supported : Bool} {poll : Duration}
    {rule : CancelRule} {s : Semaphore} (made : create initial shared supported poll rule = .ok s) :
    s = { value := initial, shared, poll, rule } ∧ initial.toNat ≤ maxValue.toNat := by
  unfold create at made
  split at made
  · cases made
  · split at made
    · cases made
    · next few =>
      cases made
      exact ⟨rfl, Nat.le_of_not_lt few⟩

theorem Sound.start {initial : UInt32} {shared supported : Bool} {poll : Duration} {s : Semaphore}
    (made : create initial shared supported poll .whileBlocked = .ok s)
    (settings : Nat → Cancellation) : Sound initial (start s settings) := by
  obtain ⟨rfl, few⟩ := eq_of_create made
  exact ⟨rfl, few, nofun, rfl⟩

theorem Sound.begins {initial : UInt32} (sound : Sound initial p) {thread : Nat} {stage : Stage}
    (listens : stage.Listens) (fresh : stage.isOver = false)
    (move : p.begin thread stage = some q) : Sound initial q := by
  obtain ⟨took, brought⟩ := Stage.open_of_going fresh
  unfold begin at move
  split at move
  · cases move
    refine ⟨sound.rule, sound.most, ?_, ?_⟩
    · intro v hv
      rcases List.mem_append.mp hv with hv | hv
      · exact sound.listens v hv
      · obtain rfl := List.mem_singleton.mp hv
        exact listens
    · simpa [took, brought] using sound.balance
  · cases move

theorem Sound.goes {initial : UInt32} (sound : Sound initial p) (hv : p.calls[i]? = some v)
    {t : Semaphore} {d : Cancellation} {y : Stage}
    (moved : v.stage.step p.semaphore (p.settings v.thread) = some (t, d, y)) :
    Sound initial (p.after i v t d y) := by
  obtain ⟨-, listens, change⟩ :=
    Stage.change_of_step (sound.listens v (List.mem_of_getElem? hv)) moved
  refine ⟨change.rule.trans sound.rule, change.le sound.most, ?_, ?_⟩
  · intro w hw
    rcases List.mem_or_eq_of_mem_set hw with hw | rfl
    · exact sound.listens w hw
    · exact listens
  · have took := countP_set_add (fun v : Call => v.stage.took) { v with stage := y } hv
    have brought := sum_map_set_add (fun v : Call => v.stage.brought) { v with stage := y } hv
    have before := sound.balance
    have turn := change.balance
    obtain ⟨took', brought'⟩ := Stage.open_of_going (Stage.going_of_step moved)
    show t.value.toNat + (p.calls.set i { v with stage := y }).countP _ =
      initial.toNat + ((p.calls.set i { v with stage := y }).map _).sum
    simp only [took', brought', Bool.toNat_false] at took brought
    omega

theorem turn_of_step (move : p.step (.go i) = some q) :
    ∃ v t d y, p.calls[i]? = some v ∧
      v.stage.step p.semaphore (p.settings v.thread) = some (t, d, y) ∧ q = p.after i v t d y := by
  obtain ⟨v, hv, move⟩ := Option.bind_eq_some_iff.mp move
  obtain ⟨⟨t, d, y⟩, moved, rfl⟩ := Option.map_eq_some_iff.mp move
  exact ⟨v, t, d, y, hv, moved, rfl⟩

theorem Sound.step {initial : UInt32} (sound : Sound initial p) (move : p.step m = some q) :
    Sound initial q := by
  cases m with
  | wait thread =>
    change p.begin thread (.waiting (.start p.semaphore.rule)) = some q at move
    refine sound.begins ?_ ?_ move
    · rw [sound.rule]
      trivial
    · rw [sound.rule]
      rfl
  | post thread count =>
    change p.begin thread (.posting count) = some q at move
    refine sound.begins ?_ ?_ move
    · trivial
    · rfl
  | go i =>
    obtain ⟨v, t, d, y, hv, moved, rfl⟩ := turn_of_step move
    exact sound.goes hv moved
  | request thread =>
    cases move
    exact ⟨sound.rule, sound.most, sound.listens, sound.balance⟩
  | adjust thread type state =>
    simp only [Pool.step] at move
    split at move
    · cases move
      exact ⟨sound.rule, sound.most, sound.listens, sound.balance⟩
    · cases move

theorem Sound.of_reaches {initial : UInt32} {shared supported : Bool} {poll : Duration}
    {s : Semaphore} {settings : Nat → Cancellation}
    (made : create initial shared supported poll .whileBlocked = .ok s)
    (run : Schedule.Reaches Pool.step (Pool.start s settings) p) : Sound initial p :=
  run.keeps Sound.step (Sound.start made settings)

/-! ## Posts -/

theorem post_eq_error_iff {s : Semaphore} {count : UInt32} {e : PrimitiveError} :
    s.post count = .error e ↔
      (0 < count.toNat ∧ maxValue.toNat < s.value.toNat + count.toNat) ∧
        e = .overflow s.value count maxValue := by
  have zero : count = 0 ↔ count.toNat = 0 := UInt32.toNat_inj.symm
  unfold post
  split
  · next fits =>
    refine ⟨nofun, fun ⟨full, _⟩ => ?_⟩
    rw [zero] at fits
    omega
  · next full =>
    rw [zero, not_or] at full
    constructor
    · rintro ⟨⟩
      exact ⟨by omega, rfl⟩
    · rintro ⟨-, rfl⟩
      rfl

/-- A post that fits adds to the value, and does nothing else. -/
theorem post_eq_ok {s t : Semaphore} {count : UInt32} (h : s.post count = .ok t) :
    t = { s with value := s.value + count } := by
  unfold post at h
  split at h
  · exact (Except.ok.inj h).symm
  · cases h

/-! ## Waits that have reason to go on -/

/-- There is a unit for it, or a request to act on. -/
def Reason (s : Semaphore) (c : Cancellation) : Prop := 0 < s.value ∨ c.pending = true

/-- How many turns a wait needs at most that has reason to go on. -/
def ahead (s : Semaphore) (c : Cancellation) : Wait → Nat
  | .test => if c.pending then 1 else 2
  | .take => if 0 < s.value then 1 else 3
  | .parked => if c.pending then 2 else 3
  | _ => 0

theorem ahead_le (s : Semaphore) (c : Cancellation) (w : Wait) : ahead s c w ≤ 3 := by
  cases w <;> simp only [ahead] <;> (try split) <;> omega

theorem step_of_reason {s : Semaphore} {c : Cancellation} {w : Wait} (listens : w.Listens)
    (reason : Reason s c) (going : ∀ r, w ≠ .finished r) :
    (∃ t r, w.step s c = some (t, c, .finished r) ∧ 0 < ahead s c w) ∨
      ∃ w', w.step s c = some (s, c, w') ∧ ahead s c w' < ahead s c w := by
  cases w with
  | finished r => exact absurd rfl (going r)
  | test =>
    cases asked : c.pending with
    | true => exact .inl ⟨s, .error .canceled, by simp [Wait.step, asked], by simp [ahead, asked]⟩
    | false =>
      have unit : 0 < s.value := by simpa [Reason, asked] using reason
      exact .inr ⟨.take, by simp [Wait.step, asked], by simp [ahead, asked, unit]⟩
  | take =>
    by_cases unit : 0 < s.value
    · exact .inl ⟨_, _, if_pos unit, by simp [ahead, unit]⟩
    · have asked : c.pending = true := reason.resolve_left unit
      exact .inr ⟨.parked, if_neg unit, by simp [ahead, unit, asked]⟩
  | parked =>
    refine .inr ⟨.test, if_pos reason, ?_⟩
    simp only [ahead]
    split <;> omega
  | muffle | deafTake | deafParked | taken => exact listens.elim

theorem goes_of_step {t : Semaphore} {d : Cancellation} {y : Stage} (hv : p.calls[i]? = some v)
    (moved : v.stage.step p.semaphore (p.settings v.thread) = some (t, d, y)) :
    p.step (.go i) = some (p.after i v t d y) := by
  simp [step, hv, moved]

/-- A turn that leaves its thread's settings alone leaves all settings alone. -/
theorem after_self (s : Semaphore) (stage : Stage) :
    p.after i v s (p.settings v.thread) stage =
      { p with semaphore := s, calls := p.calls.set i { v with stage } } := by
  have settings : (fun t => if t = v.thread then p.settings v.thread else p.settings t) =
      p.settings :=
    funext fun t => ite_eq_right_iff.mpr fun same => by rw [same]
  simp only [after, setSettings, settings]

theorem call_after {s : Semaphore} {c : Cancellation} {stage : Stage} (hv : p.calls[i]? = some v) :
    (p.after i v s c stage).calls[i]? = some { v with stage } :=
  List.getElem?_set_self (List.getElem?_eq_some_iff.mp hv).1

/-- A wait that has reason to go on comes to its end by turns of its own. -/
theorem ends_of_reason {w : Wait} (hv : p.calls[i]? = some v) (stage : v.stage = .waiting w)
    (listens : w.Listens) (reason : Reason p.semaphore (p.settings v.thread)) :
    ∃ n q r, n ≤ ahead p.semaphore (p.settings v.thread) w ∧
      Schedule.run step p (List.replicate n (.go i)) = some q ∧
      q.calls[i]? = some { v with stage := .waiting (.finished r) } := by
  generalize far : ahead p.semaphore (p.settings v.thread) w = n
  induction n using Nat.strongRecOn generalizing p v w with
  | ind n ih =>
    by_cases ended : ∃ r, w = .finished r
    · obtain ⟨r, rfl⟩ := ended
      exact ⟨0, p, r, Nat.zero_le _, rfl, by rw [hv, ← stage]⟩
    have goes {t : Semaphore} {w' : Wait}
        (moved : w.step p.semaphore (p.settings v.thread) = some (t, p.settings v.thread, w')) :
        p.step (.go i) = some (p.after i v t (p.settings v.thread) (.waiting w')) :=
      goes_of_step hv (by rw [stage, Stage.step, moved]; rfl)
    rcases step_of_reason listens reason fun r hr => ended ⟨r, hr⟩ with
      ⟨t, r, moved, answered⟩ | ⟨w', moved, nearer⟩
    · exact ⟨1, _, r, far ▸ answered, by simp [Schedule.run, goes moved]; rfl, call_after hv⟩
    · -- nothing has changed but the stage
      obtain ⟨-, listens', -⟩ := Wait.step_listens listens moved
      have same : (p.after i v p.semaphore (p.settings v.thread) (.waiting w')).settings v.thread =
          p.settings v.thread := if_pos rfl
      obtain ⟨k, q, r, le, run, there⟩ := ih _ (far ▸ nearer) (call_after hv) rfl listens'
        (by rw [same]; exact reason) (by rw [same]; rfl)
      refine ⟨k + 1, q, r, by omega, ?_, there⟩
      simp [List.replicate_succ, Schedule.run, goes moved, run]

/-! ## All of it -/

/-- Units are neither lost nor made up. A turn takes a unit exactly if with it a wait succeeds and
adds units exactly if with it a post does (`Stage.Change`), so the account over all calls is kept
turn by turn. A post adds all of its units or fails and adds none; a wait fails only by a request,
without a unit; and one with something to find comes to its end by turns of its own, because no
stage between waking and taking is blocked. Any number of threads call, with any settings and under
any schedule. -/
theorem posts_conserved {initial : UInt32} {shared supported : Bool} {poll : Duration}
    {s : Semaphore} {settings : Nat → Cancellation}
    (made : create initial shared supported poll .whileBlocked = .ok s)
    (run : Schedule.Reaches step (start s settings) p) :
    -- the units there are the first ones and those of the posts that succeeded, less one for every
    -- wait that succeeded, and never more than the largest value
    (p.semaphore.value.toNat + p.calls.countP (·.stage.took) =
        initial.toNat + (p.calls.map (·.stage.brought)).sum ∧
      p.semaphore.value.toNat ≤ maxValue.toNat) ∧
      -- a post of some units fails exactly if there would be too many, which is told with the value
      -- and the count, and then only the call has gone on; it adds all its units otherwise
      (∀ i thread count, p.calls[i]? = some ⟨thread, .posting count⟩ →
        if 0 < count.toNat ∧ maxValue.toNat < p.semaphore.value.toNat + count.toNat then
          p.step (.go i) = some { p with
            calls := p.calls.set i
              ⟨thread, .posted count (.error (.overflow p.semaphore.value count maxValue))⟩ }
        else ∃ value, value.toNat = p.semaphore.value.toNat + count.toNat ∧
          p.step (.go i) = some { p with
            semaphore := { p.semaphore with value }
            calls := p.calls.set i ⟨thread, .posted count (.ok ())⟩ }) ∧
      -- a wait takes a unit with the turn with which it succeeds; with every other turn only the call
      -- goes on, and if the wait fails it does so because its thread was asked and listens
      (∀ i thread w q, p.calls[i]? = some ⟨thread, .waiting w⟩ → p.step (.go i) = some q →
        ∃ w', q.calls = p.calls.set i ⟨thread, .waiting w'⟩ ∧ q.settings = p.settings ∧
          (0 < p.semaphore.value ∧ w' = .finished (.ok ()) ∧
              q.semaphore = { p.semaphore with value := p.semaphore.value - 1 } ∨
            q.semaphore = p.semaphore ∧ (∀ u, w' ≠ .finished (.ok u)) ∧
              ∀ e, w' = .finished (.error e) → e = .canceled ∧
                (p.settings thread).state = .enabled ∧ (p.settings thread).requested = true)) ∧
      -- a wait that cannot go on is over, or is asleep with no unit there and no request to act on;
      -- with one or the other it comes to its end by at most three turns of its own
      ∀ i thread w, p.calls[i]? = some ⟨thread, .waiting w⟩ →
        (p.step (.go i) = none → (∃ r, w = .finished r) ∨
          w = .parked ∧ p.semaphore.value = 0 ∧ (p.settings thread).pending = false) ∧
        (0 < p.semaphore.value ∨ (p.settings thread).pending = true →
          ∃ n q r, n ≤ 3 ∧ Schedule.run step p (List.replicate n (.go i)) = some q ∧
            q.calls[i]? = some ⟨thread, .waiting (.finished r)⟩) := by
  have sound := Sound.of_reaches made run
  refine ⟨⟨sound.balance, sound.most⟩, fun i thread count hv => ?_, fun i thread w q hv move => ?_,
    fun i thread w hv => ⟨fun stuck => ?_, fun reason => ?_⟩⟩
  · split
    · next full =>
      have refused := post_eq_error_iff.mpr ⟨full, rfl⟩
      rw [goes_of_step hv (by simp only [Stage.step, refused]; rfl), after_self]
    · next fits =>
      cases posted : p.semaphore.post count with
      | error e => exact absurd (post_eq_error_iff.mp posted).1 fits
      | ok t =>
        refine ⟨p.semaphore.value + count, ?_, ?_⟩
        · rw [← post_toNat posted, post_eq_ok posted]
        · rw [goes_of_step hv (by simp only [Stage.step, posted]; rfl), after_self, post_eq_ok posted]
  · obtain ⟨v, t, d, y, hv', moved, rfl⟩ := turn_of_step move
    obtain rfl := Option.some.inj (hv.symm.trans hv')
    obtain ⟨rfl, -, change⟩ :=
      Stage.change_of_step (sound.listens _ (List.mem_of_getElem? hv)) moved
    rw [after_self]
    cases change with
    | @waits _ w' unfulfilled failed =>
      refine ⟨w', rfl, rfl, .inr ⟨rfl, unfulfilled, fun e same => ?_⟩⟩
      obtain ⟨canceled, asked⟩ := failed e same
      exact ⟨canceled, by simpa [Cancellation.pending] using asked⟩
    | takes unit => exact ⟨_, rfl, rfl, .inl ⟨unit, rfl, rfl⟩⟩
  · have still : w.step p.semaphore (p.settings thread) = none := by
      simpa [step, hv, Stage.step] using stuck
    cases w with
    | finished r => exact .inl ⟨r, rfl⟩
    | parked =>
      simp only [Wait.step] at still
      split at still
      · cases still
      · next nothing =>
        rw [not_or, Bool.not_eq_true] at nothing
        exact .inr ⟨rfl, UInt32.le_zero_iff.mp (UInt32.not_lt.mp nothing.1), nothing.2⟩
    | test => cases still
    | take =>
      simp only [Wait.step] at still
      split at still <;> cases still
    | muffle | deafTake | deafParked | taken =>
      exact (sound.listens _ (List.mem_of_getElem? hv)).elim
  · obtain ⟨n, q, r, le, run, there⟩ := ends_of_reason hv rfl
      (sound.listens _ (List.mem_of_getElem? hv)) reason
    exact ⟨n, q, r, Nat.le_trans le (ahead_le _ _ _), run, there⟩

/-- Of two threads that wait for one unit, one takes it; the other one is asleep when somebody asks it
to stop. A third thread fills the semaphore up, and a fourth one is about to post one more unit. -/
def filled : Pool :=
  (Schedule.run step (start { value := 1 } fun _ => {})
    [.wait 0, .wait 1, .go 0, .go 0, .go 1, .go 1, .request 1, .post 2 maxValue, .go 2,
      .post 3 1]).get (by decide)

theorem posts_conserved_filled :
    create 1 false false Tuning.standard.pollInterval .whileBlocked = .ok { value := 1 } ∧
      Schedule.Reaches step (start { value := 1 } fun _ => {}) filled ∧
      filled.semaphore.value.toNat + 1 = 1 + maxValue.toNat ∧
      filled.step (.go 3) = some { filled with
        calls := filled.calls.set 3 ⟨3, .posted 1 (.error (.overflow maxValue 1 maxValue))⟩ } ∧
      ∃ n q r, n ≤ 3 ∧ Schedule.run step filled (List.replicate n (.go 1)) = some q ∧
        q.calls[1]? = some ⟨1, .waiting (.finished r)⟩ := by
  have made : create 1 false false Tuning.standard.pollInterval .whileBlocked =
    .ok { value := 1 } := rfl
  have reached : Schedule.Reaches step (start { value := 1 } fun _ => {}) filled :=
    Schedule.reaches_get (by decide)
  obtain ⟨⟨balance, -⟩, posts, -, waits⟩ := posts_conserved made reached
  refine ⟨made, reached, balance, ?_, ?_⟩
  · have refused := posts 3 3 1 rfl
    rw [if_pos (by decide)] at refused
    exact refused
  · exact (waits 1 1 .parked rfl).2 (.inr (by decide))

end Pool

end Rendezvous
