import Rendezvous.Proofs.Crowd.Rest
import Rendezvous.Proofs.Crowd.Users
import Rendezvous.Proofs.Group.Calls

/-!
# An abort drains the barrier

A `Muster` is a crowd whose users share a group. A user waits only after it has enlisted, and is
otherwise free to wait, to enlist again and to abort; threads that do not use the barrier may call
on the group as well. What calls on the group do to threads shows in the crowd's settings, and this
is all that the two have to do with each other. So the crowd of a muster is a crowd like any other
(`Mustered.reached`), in which there is room for every user, and its calls are an assembly like any
other (`Mustered.orderly`).

From the assembly comes that, once somebody has aborted and all calls are over, every user that has
enlisted is asked to stop; from the crowd, that whoever is still there when nobody can go on is
asleep in the open generation. A thread that listens does not sleep on a request, so nobody is there
(`Mustered.nobody_inside`).
-/

set_option autoImplicit false

namespace Rendezvous

open Barrier CancelGroup Crowd

/-- What an effect of a call on the group does to a crowd. -/
def Crowd.feel (s : Crowd) (e : Effect) : Crowd :=
  s.setSettings e.thread (e.apply (s.settings e.thread))

/-- Threads around a barrier that share a group. -/
structure Muster where
  crowd : Crowd
  assembly : Assembly := {}

namespace Muster

inductive Move where
  /-- A thread that is in no call begins one on the group. -/
  | summon (thread : Nat) (aim : Aim)
  /-- A call on the group, named by its place on the list, goes on by one stage. -/
  | proceed (call : Nat)
  /-- A user that is in no call and has enlisted begins to wait. -/
  | begin (thread : Nat)
  /-- A visit, named by its place on the list, goes on by one stage. -/
  | go (visit : Nat)
  /-- Somebody asks a thread to stop. -/
  | request (thread : Nat)
  deriving Repr

/-- The thread is in no call. -/
def isFree (s : Muster) (thread : Nat) : Bool :=
  s.crowd.isOutside thread && s.assembly.calls.all fun c =>
    c.thread != thread || c.stage = .finished

/-- The thread has come back from a call that enlisted it. -/
def hasEnlisted (s : Muster) (thread : Nat) : Bool :=
  s.assembly.calls.any fun c => c.thread = thread && c.aim = .enlist && c.stage = .finished

/-- Makes a move; `none` if it cannot be made now. Only the users may wait. -/
def step (users : List Nat) (s : Muster) : Move → Option Muster
  | .summon thread aim =>
      if s.isFree thread then some { s with assembly := s.assembly.summon thread aim } else none
  | .proceed call => (s.assembly.step call).map fun (assembly, effects) =>
      ⟨effects.foldl Crowd.feel s.crowd, assembly⟩
  | .begin thread =>
      if thread ∈ users ∧ s.isFree thread = true ∧ s.hasEnlisted thread = true then
        (s.crowd.step {} (.begin thread)).map fun crowd => { s with crowd }
      else none
  | .go visit => (s.crowd.step {} (.go visit)).map fun crowd => { s with crowd }
  | .request thread => (s.crowd.step {} (.request thread)).map fun crowd => { s with crowd }

/-- Nobody has come yet, and nobody has called on the group. -/
def around (b : Barrier) (settings : Nat → Cancellation) : Muster := ⟨.around b settings, {}⟩

end Muster

namespace Crowd

variable {s t : Crowd}

/-- In a convoy at rest nobody sleeps on a request that it would listen to. -/
theorem Rest.requested_eq_false {rules : Rules} {parties : UInt32} {b : Barrier}
    {settings : Nat → Cancellation} (h : Rest s) (convoy : Convoy s) (new : Pristine parties b)
    (run : Schedule.Reaches (Crowd.step rules) (around b settings) s) {v : Visit}
    (hv : v ∈ s.visits) (inside : v.inside = true)
    (heeds : v.stage.Heeds .asynchronous .enabled (s.settings v.thread)) :
    (s.settings v.thread).requested = false := by
  have counted := h.counted_open convoy hv inside
  obtain ⟨n, asleep⟩ := h.asleep v hv inside
  obtain ⟨shield, stage | stage⟩ := asleep.parked
  · have under := heeds.under
    rw [stage] at under
    have own : s.settings v.thread = ⟨.asynchronous, .enabled, (s.settings v.thread).requested⟩ :=
      congrArg Prod.snd under
    have unasked := asleep.unasked
    rw [own] at unasked
    exact unasked
  · -- whoever came too late to turn back belongs to a generation that has ended
    obtain ⟨n, counted', ended⟩ := ended_of_late new run v hv (by rw [stage]; rfl)
    cases counted.symm.trans counted'
    exact absurd ended (Nat.lt_irrefl _)

/-- Whoever is back from a wait has got one of the two outcomes, or has turned back. -/
theorem Convoy.result_of_over (h : Convoy s) {v : Visit} (hv : v ∈ s.visits)
    (ended : v.inside = false) :
    v.stage = .finished (.ok .serial) ∨ v.stage = .finished (.ok .released) ∨
      v.stage = .finished (.error (.primitive .canceled)) := by
  cases stage : v.stage with
  | finished r =>
    rcases r with e | (_ | _)
    · rcases h.excused v hv e stage with ⟨rfl, -⟩ | ⟨n, last⟩
      · exact .inr (.inr rfl)
      · have fit := h.fit v hv
        simp [Visit.refused, last, stage] at fit
    · exact .inl rfl
    · exact .inr (.inl rfl)
  | _ => simp [Visit.inside, Wait.isOver, stage] at ended

/-! ## What calls on the group do to a crowd -/

@[simp] theorem visits_feels (effects : List Effect) :
    (effects.foldl feel s).visits = s.visits := by
  induction effects generalizing s with
  | nil => rfl
  | cons e rest ih => exact ih

theorem requested_feel {e : Effect} {thread : Nat} :
    ((s.feel e).settings thread).requested = true ↔
      (s.settings thread).requested = true ∨ .request thread = e := by
  cases e with
  | becomeAsynchronous other =>
    show (if thread = other then _ else s.settings thread).requested = true ↔ _
    by_cases same : thread = other
    · subst same
      rw [if_pos rfl]
      exact ⟨.inl, fun asked => asked.resolve_right nofun⟩
    · rw [if_neg same]
      exact ⟨.inl, fun asked => asked.resolve_right nofun⟩
  | request other =>
    show (if thread = other then _ else s.settings thread).requested = true ↔ _
    by_cases same : thread = other
    · subst same
      rw [if_pos rfl]
      exact ⟨fun _ => .inr rfl, fun _ => rfl⟩
    · rw [if_neg same]
      refine ⟨.inl, fun asked => asked.resolve_right fun told => same ?_⟩
      cases told
      rfl

/-- Whoever is asked to stop was asked before, or is asked by one of the effects. -/
theorem requested_feels (effects : List Effect) {thread : Nat} :
    ((effects.foldl feel s).settings thread).requested = true ↔
      (s.settings thread).requested = true ∨ .request thread ∈ effects := by
  induction effects generalizing s with
  | nil => simp
  | cons e rest ih =>
    rw [List.foldl_cons, ih, requested_feel, List.mem_cons, or_assoc]

/-- Effects are moves, if they make nobody asynchronous who is inside. -/
theorem reaches_feels {rules : Rules} (effects : List Effect)
    (outside : ∀ thread, .becomeAsynchronous thread ∈ effects → s.isOutside thread = true) :
    Schedule.Reaches (Crowd.step rules) s (effects.foldl feel s) := by
  induction effects generalizing s with
  | nil => exact .refl s
  | cons e rest ih =>
    have first : Schedule.Reaches (Crowd.step rules) s (s.feel e) := by
      cases e with
      | becomeAsynchronous thread =>
        have move : s.step rules (.adjust thread .asynchronous (s.settings thread).state) =
            some (s.feel (.becomeAsynchronous thread)) :=
          if_pos (outside thread List.mem_cons_self)
        exact .single move
      | request thread => exact .single (show s.step rules (.request thread) = _ from rfl)
    apply first.trans
    apply ih
    intro thread later
    exact outside thread (List.mem_cons_of_mem e later)

theorem Disposed.feel {thread : Nat} {type : CancelType} {state : CancelState}
    (h : Disposed thread type state s) {e : Effect}
    (outside : e = .becomeAsynchronous thread → s.isOutside thread = true) :
    ∃ type', Disposed thread type' state (s.feel e) ∧
      (type = .asynchronous ∨ .becomeAsynchronous thread = e → type' = .asynchronous) := by
  cases e with
  | becomeAsynchronous other =>
    by_cases same : thread = other
    · subst same
      have free := outside rfl
      refine ⟨.asynchronous, .of_isOutside free ?_, fun _ => rfl⟩
      have now : (s.feel (.becomeAsynchronous thread)).settings thread =
          (s.settings thread).setType .asynchronous := if_pos rfl
      rw [now, h.outside free]
      rfl
    · refine ⟨type, h.setSettings_of_ne _ same, fun becomes => becomes.resolve_right ?_⟩
      rintro ⟨⟩
      exact same rfl
  | request other =>
    exact ⟨type, h.request other, fun becomes => becomes.resolve_right nofun⟩

/-- What a thread is changes only by its becoming asynchronous. -/
theorem Disposed.feels {thread : Nat} {type : CancelType} {state : CancelState}
    (h : Disposed thread type state s) (effects : List Effect)
    (outside : .becomeAsynchronous thread ∈ effects → s.isOutside thread = true) :
    ∃ type', Disposed thread type' state (effects.foldl Crowd.feel s) ∧
      (type = .asynchronous ∨ .becomeAsynchronous thread ∈ effects →
        type' = .asynchronous) := by
  induction effects generalizing s type with
  | nil => exact ⟨type, h, fun becomes => becomes.resolve_right List.not_mem_nil⟩
  | cons e rest ih =>
    obtain ⟨between, first, becomes⟩ :=
      h.feel fun same => outside (same ▸ List.mem_cons_self)
    obtain ⟨type', later, becomes'⟩ :=
      ih first fun member => outside (List.mem_cons_of_mem e member)
    refine ⟨type', later, ?_⟩
    rintro (asynchronous | member)
    · exact becomes' (.inl (becomes (.inl asynchronous)))
    · rcases List.mem_cons.mp member with here | there
      · exact becomes' (.inl (becomes (.inr here)))
      · exact becomes' (.inr there)

end Crowd

namespace Muster

variable {users : List Nat} {parties : UInt32} {b : Barrier} {settings : Nat → Cancellation}
  {s t : Muster}

/-! ## Every move keeps a muster -/

/-- The thread has been asked to stop. -/
def asked (s : Muster) (thread : Nat) : Prop := (s.crowd.settings thread).requested = true

theorem hasEnlisted_iff {thread : Nat} : s.hasEnlisted thread = true ↔
    ∃ c ∈ s.assembly.calls, c.thread = thread ∧ c.aim = .enlist ∧ c.stage = .finished := by
  simp [hasEnlisted, and_assoc]

theorem isFree_iff {thread : Nat} : s.isFree thread = true ↔
    s.crowd.isOutside thread = true ∧
      ∀ c ∈ s.assembly.calls, c.thread = thread → c.stage = .finished := by
  simp [isFree, Decidable.imp_iff_not_or]

/-- What holds of a muster whose users are no more than make up a generation. -/
structure Mustered (users : List Nat) (parties : UInt32) (b : Barrier)
    (settings : Nat → Cancellation) (s : Muster) : Prop where
  /-- The crowd is one for which there is room. -/
  reached : Schedule.Reaches (Crowd.step (.upTo parties.toNat)) (.around b settings) s.crowd
  orderly : s.assembly.Orderly s.asked
  /-- Only users wait, and only after they have enlisted. -/
  enlisted : ∀ v ∈ s.crowd.visits, v.thread ∈ users ∧ s.hasEnlisted v.thread = true
  /-- Nobody is in a call on the group while it waits. -/
  apart : ∀ c ∈ s.assembly.calls, c.stage ≠ .finished → s.crowd.isOutside c.thread = true
  /-- Users are ready for requests, and at any time if they have begun to enlist. -/
  ready : ∀ thread ∈ users, ∃ type, s.crowd.Disposed thread type .enabled ∧
    ∀ c ∈ s.assembly.calls, c.thread = thread → c.aim = .enlist → c.stage ≠ .retype →
      type = .asynchronous

namespace Mustered

theorem around (enabled : ∀ thread ∈ users, (settings thread).state = .enabled) :
    Mustered users parties b settings (.around b settings) where
  reached := .refl _
  orderly := ⟨fun _ hc => (List.not_mem_nil hc).elim, rfl⟩
  enlisted _ hv := (List.not_mem_nil hv).elim
  apart _ hc := (List.not_mem_nil hc).elim
  ready := by
    intro thread user
    refine ⟨(settings thread).type, .of_isOutside rfl ?_, fun _ hc => (List.not_mem_nil hc).elim⟩
    rw [← enabled thread user]
    rfl

theorem summon (h : Mustered users parties b settings s) {thread : Nat} (aim : Aim)
    (free : s.isFree thread = true) :
    Mustered users parties b settings { s with assembly := s.assembly.summon thread aim } where
  reached := h.reached
  orderly := h.orderly.summon thread aim
  enlisted := by
    intro v hv
    obtain ⟨user, enlisted⟩ := h.enlisted v hv
    obtain ⟨c, hc, done⟩ := hasEnlisted_iff.mp enlisted
    exact ⟨user, hasEnlisted_iff.mpr ⟨c, List.mem_append_left _ hc, done⟩⟩
  apart := by
    intro c hc going
    rcases List.mem_append.mp hc with old | new
    · exact h.apart c old going
    · rw [List.mem_singleton.mp new]
      exact (isFree_iff.mp free).1
  ready := by
    intro other user
    obtain ⟨type, disposed, retyped⟩ := h.ready other user
    refine ⟨type, disposed, fun c hc own enlists begun => ?_⟩
    rcases List.mem_append.mp hc with old | new
    · exact retyped c old own enlists begun
    · -- a call that has just begun to enlist has not retyped its thread yet
      obtain rfl := List.mem_singleton.mp new
      obtain rfl : aim = .enlist := enlists
      exact absurd rfl begun

/-- A turn of a call on the group, and what it does to the crowd. -/
theorem proceed (h : Mustered users parties b settings s) {i : Nat} {assembly : Assembly}
    {effects : List Effect} (move : s.assembly.step i = some (assembly, effects)) :
    Mustered users parties b settings ⟨effects.foldl Crowd.feel s.crowd, assembly⟩ := by
  obtain ⟨c, g, stage, hc, turn, rfl⟩ := Assembly.step_cases move
  have member := List.mem_of_getElem? hc
  have going := CancelGroup.ne_finished_of_step turn
  have outside : ∀ thread, .becomeAsynchronous thread ∈ effects →
      s.crowd.isOutside thread = true := by
    intro thread becomes
    obtain ⟨-, rfl⟩ := (step_retypes turn).mp becomes
    exact h.apart c member going
  constructor
  case reached => exact h.reached.trans (Crowd.reaches_feels effects outside)
  case orderly =>
    apply (h.orderly.step move).mono
    intro thread asks
    exact (Crowd.requested_feels effects).mpr asks
  case enlisted =>
    intro v hv
    rw [Crowd.visits_feels] at hv
    obtain ⟨user, done⟩ := h.enlisted v hv
    obtain ⟨d, hd, own, enlists, ended⟩ := hasEnlisted_iff.mp done
    have stays := Assembly.finished_stays move hd ended
    exact ⟨user, hasEnlisted_iff.mpr ⟨d, stays, own, enlists, ended⟩⟩
  case apart =>
    intro d hd busy
    show Crowd.isOutside _ d.thread = true
    rw [Crowd.isOutside, Crowd.visits_feels]
    rcases List.mem_or_eq_of_mem_set hd with old | rfl
    · exact h.apart d old busy
    · exact h.apart c member going
  case ready =>
    intro thread user
    obtain ⟨type, disposed, begun⟩ := h.ready thread user
    obtain ⟨type', disposed', becomes⟩ := disposed.feels effects (outside thread)
    refine ⟨type', disposed', fun d hd own enlists later => becomes ?_⟩
    rcases List.mem_or_eq_of_mem_set hd with old | rfl
    · exact .inl (begun d old own enlists later)
    · by_cases first : c.stage = .retype
      · exact .inr ((step_retypes turn).mpr ⟨first, own.symm⟩)
      · exact .inl (begun c member own enlists first)

/-- Somebody who has enlisted comes to wait. -/
theorem begin (h : Mustered users parties b settings s) (new : Pristine parties b)
    (few : users.length ≤ parties.toNat) {thread : Nat} {crowd : Crowd} (user : thread ∈ users)
    (free : s.isFree thread = true) (enlisted : s.hasEnlisted thread = true)
    (move : s.crowd.step {} (.begin thread) = some crowd) :
    Mustered users parties b settings { s with crowd } := by
  have register := Register.of_reaches new h.reached
  have allowed := register.begins_upTo (fun v hv => (h.enlisted v hv).1) user few move
  obtain ⟨outside, idle⟩ := isFree_iff.mp free
  simp only [Crowd.step] at move
  split at move
  · obtain rfl := Option.some.inj move
    constructor
    case reached => exact h.reached.tail _ allowed
    case orderly => exact h.orderly
    case enlisted =>
      intro v hv
      rcases List.mem_append.mp hv with old | new
      · exact h.enlisted v old
      · rw [List.mem_singleton.mp new]
        exact ⟨user, enlisted⟩
    case apart =>
      intro c hc busy
      refine Crowd.isOutside_iff.mpr fun v hv own => ?_
      rcases List.mem_append.mp hv with old | new
      · exact Crowd.isOutside_iff.mp (h.apart c hc busy) v old own
      · obtain rfl := List.mem_singleton.mp new
        exact absurd (idle c hc own.symm) busy
    case ready =>
      intro other member
      obtain ⟨type, disposed, begun⟩ := h.ready other member
      exact ⟨type, disposed.begin outside, begun⟩
  · cases move

/-- A turn of a wait. -/
theorem go (h : Mustered users parties b settings s) (new : Pristine parties b) {i : Nat}
    {crowd : Crowd} (move : s.crowd.step {} (.go i) = some crowd) :
    Mustered users parties b settings { s with crowd } := by
  have register := Register.of_reaches new h.reached
  have allowed : s.crowd.step (.upTo parties.toNat) (.go i) = some crowd := move
  obtain ⟨v, turn, hv, -, hturn, rfl⟩ := Crowd.step_go move
  have member := List.mem_of_getElem? hv
  constructor
  case reached => exact h.reached.tail (.go i) allowed
  case orderly =>
    apply h.orderly.mono
    intro thread asked
    show (if thread = v.thread then turn.cancel else s.crowd.settings thread).requested = true
    split
    · next own =>
      rw [Wait.requested_step hturn, ← own]
      exact asked
    · exact asked
  case enlisted =>
    intro w hw
    rcases List.mem_or_eq_of_mem_set hw with old | rfl
    · exact h.enlisted w old
    · exact h.enlisted v member
  case apart =>
    intro c hc busy
    have outside := Crowd.isOutside_iff.mp (h.apart c hc busy)
    refine Crowd.isOutside_iff.mpr fun w hw own => ?_
    rcases List.mem_or_eq_of_mem_set hw with old | rfl
    · exact outside w old own
    · cases (outside v member own).symm.trans (Crowd.inside_of_step hturn)
  case ready =>
    intro thread user
    obtain ⟨type, disposed, begun⟩ := h.ready thread user
    exact ⟨type, disposed.after register hv hturn, begun⟩

theorem request (h : Mustered users parties b settings s) (thread : Nat) :
    Mustered users parties b settings { s with crowd := s.crowd.feel (.request thread) } where
  reached := h.reached.tail (.request thread) rfl
  orderly := h.orderly.mono fun _ asked => Crowd.requested_feel.mpr (.inl asked)
  enlisted := h.enlisted
  apart := h.apart
  ready := by
    intro other user
    obtain ⟨type, disposed, begun⟩ := h.ready other user
    exact ⟨type, disposed.request thread, begun⟩

theorem step (h : Mustered users parties b settings s) (new : Pristine parties b)
    (few : users.length ≤ parties.toNat) {m : Move} (move : s.step users m = some t) :
    Mustered users parties b settings t := by
  cases m with
  | summon thread aim =>
    simp only [Muster.step] at move
    split at move
    · next free =>
      obtain rfl := Option.some.inj move
      exact h.summon aim free
    · cases move
  | proceed call =>
    obtain ⟨⟨assembly, effects⟩, turn, rfl⟩ := Option.map_eq_some_iff.mp move
    exact h.proceed turn
  | begin thread =>
    simp only [Muster.step] at move
    split at move
    · next may =>
      obtain ⟨crowd, begins, rfl⟩ := Option.map_eq_some_iff.mp move
      exact h.begin new few may.1 may.2.1 may.2.2 begins
    · cases move
  | go visit =>
    obtain ⟨crowd, turn, rfl⟩ := Option.map_eq_some_iff.mp move
    exact h.go new turn
  | request thread =>
    obtain rfl := Option.some.inj move
    exact h.request thread

theorem of_reaches (new : Pristine parties b) (few : users.length ≤ parties.toNat)
    (enabled : ∀ thread ∈ users, (settings thread).state = .enabled)
    (run : Schedule.Reaches (Muster.step users) (.around b settings) s) :
    Mustered users parties b settings s :=
  run.keeps (fun h move => h.step new few move) (around enabled)

/-! ## At rest -/

/-- Once somebody has aborted and all calls are over, every user that waits is asked to stop, is
ready for it, and so does not sleep. -/
theorem nobody_inside (h : Mustered users parties b settings s) (new : Pristine parties b)
    (convoy : Convoy s.crowd) (rest : Rest s.crowd)
    (aborted : ∃ c ∈ s.assembly.calls, c.aim = .abort ∧ c.stage = .finished) :
    ∀ v ∈ s.crowd.visits, v.inside = false := by
  intro v hv
  apply Bool.eq_false_iff.mpr
  intro inside
  obtain ⟨user, done⟩ := h.enlisted v hv
  obtain ⟨c, hc, aborts, swept⟩ := aborted
  obtain ⟨d, hd, own, enlists, signed⟩ := hasEnlisted_iff.mp done
  have asked : s.asked v.thread :=
    own ▸ h.orderly.asked_of_finished hc aborts swept hd enlists signed
  obtain ⟨type, disposed, begun⟩ := h.ready v.thread user
  obtain rfl := begun d hd own enlists (by rw [signed]; nofun)
  have unasked := rest.requested_eq_false convoy new h.reached hv inside
    (disposed.inside v hv rfl inside)
  exact Bool.false_ne_true (unasked.symm.trans asked)

end Mustered

/-- Let up to as many threads as make up a generation be the only users of a barrier, all ready for
requests, and let each enlist in one group before it waits for the first time. They wait as often as
they like, they and others abort as often as they like, and nothing is made to fail. Where nobody in
a call can go on after some abort is over, nobody is inside; nothing is left at the barrier, no
arrival and no unit; the lock is free; all calls on the group are over; and every wait has ended
with one of the two outcomes or with the request. -/
theorem drained_of_abort {supply : Supply} (delivered : Delivered supply parties b)
    (listening : supply.rule = .whileBlocked) (few : users.length ≤ parties.toNat)
    (enabled : ∀ thread ∈ users, (settings thread).state = .enabled)
    (run : Schedule.Reaches (Muster.step users) (.around b settings) s)
    (aborted : ∃ c ∈ s.assembly.calls, c.aim = .abort ∧ c.stage = .finished)
    (still : ∀ i, s.step users (.go i) = none ∧ s.step users (.proceed i) = none) :
    s.crowd.inside = 0 ∧ s.crowd.barrier.waiting = 0 ∧ s.crowd.barrier.units = [0, 0] ∧
      s.crowd.barrier.locked = false ∧
      (∀ c ∈ s.assembly.calls, c.stage = .finished) ∧
      ∀ v ∈ s.crowd.visits,
        v.stage = .finished (.ok .serial) ∨ v.stage = .finished (.ok .released) ∨
          v.stage = .finished (.error (.primitive .canceled)) := by
  have new := delivered.pristine listening
  have mustered := Mustered.of_reaches new few enabled run
  have convoy := Convoy.of_reaches new (fun _ => rfl)
    (Crowd.Rules.confines_upTo (Nat.le_refl parties.toNat)) mustered.reached
  have stuck : ∀ i, s.crowd.step {} (.go i) = none := by
    intro i
    exact Option.map_eq_none_iff.mp (still i).1
  have rest := ((Crowd.still_iff {}).mpr stuck).rest convoy.register
    (Guarded.of_reaches new mustered.reached) convoy.ledger convoy.excused convoy.fit
  have ended := mustered.nobody_inside new convoy rest aborted
  have awaits : ∀ side, s.crowd.visits.countP (Visit.awaits side) = 0 := by
    intro side
    apply List.countP_eq_zero.mpr
    intro v hv awaits
    cases (ended v hv).symm.trans (Crowd.inside_of_awaits (convoy.excused v hv) awaits)
  obtain ⟨waiting, units⟩ := convoy.ledger.settled awaits
  refine ⟨?_, waiting, units, rest.free, ?_, ?_⟩
  · apply List.countP_eq_zero.mpr
    intro v hv inside
    cases (ended v hv).symm.trans inside
  · apply mustered.orderly.finished
    intro i
    exact Option.map_eq_none_iff.mp (still i).2
  · intro v hv
    exact convoy.result_of_over hv (ended v hv)

/-- Nobody has come yet to a barrier for two, and nobody has enlisted. -/
def pair : Muster := .around (fresh 2 false ({} : Supply).gate ({} : Supply).gate) fun _ => {}

/-- A call on the group goes on by so many stages. -/
def Move.proceeds (call stages : Nat) : List Move := List.replicate stages (.proceed call)

/-- A visit goes on by so many stages. -/
def Move.goes (visit stages : Nat) : List Move := List.replicate stages (.go visit)

/-- Two users enlist and meet, and one of them comes again and falls asleep. Then a third thread
aborts, and the sleeper turns back. -/
def calledOff : List Move :=
  [.summon 0 .enlist, .summon 1 .enlist] ++ Move.proceeds 0 4 ++ Move.proceeds 1 4 ++
    [.begin 0] ++ Move.goes 0 7 ++ [.begin 1] ++ Move.goes 1 5 ++ Move.goes 0 4 ++
    [.begin 0] ++ Move.goes 2 7 ++ [.summon 2 .abort] ++ Move.proceeds 2 6 ++ Move.goes 2 7

theorem drained_of_abort_calledOff :
    ∃ s, Schedule.Reaches (Muster.step [0, 1]) pair s ∧ s.crowd.trips = 1 ∧
      s.crowd.visits.map (fun v => v.stage.isOver) = [true, true, true] ∧
      s.crowd.inside = 0 ∧ s.crowd.barrier.waiting = 0 ∧ s.crowd.barrier.units = [0, 0] := by
  have run := Schedule.reaches_get
    (show (Schedule.run (Muster.step [0, 1]) pair calledOff).isSome by decide)
  have new : Delivered {} 2 pair.crowd.barrier := delivered_fresh (by decide) (by decide) rfl
  have still := (still_iff {}).mp
    (show ((Schedule.run (Muster.step [0, 1]) pair calledOff).get (by decide)).crowd.Still
      by decide)
  have ended : ∀ c ∈ ((Schedule.run (Muster.step [0, 1]) pair calledOff).get
      (by decide)).assembly.calls, c.stage = .finished := by decide
  obtain ⟨inside, waiting, units, -⟩ := drained_of_abort new rfl (by decide) (fun _ _ => rfl) run
    (by decide) fun i => ⟨Option.map_eq_none_iff.mpr (still i),
      Option.map_eq_none_iff.mpr (Assembly.step_of_finished ended i)⟩
  exact ⟨_, run, by decide, by decide, inside, waiting, units⟩

end Muster

end Rendezvous
