import Rendezvous.Proofs.Traffic.Deed

/-!
# Locks and gates on their way

A lock and two gates are made when a barrier is built, go into a slot with the barrier, come out
again with it and are torn down. Which of them an operation has in its hands can be read off its
stage (`Operation.parts`). A turn makes a part and has it, or tears a part down that it had, or
brings a whole barrier to the slot or takes it from there. `Haul` lists these, and `step_haul` says
that a turn does nothing else with parts.

A construction that fails tears down all that it has made, newest first, and reports what stopped it
(`Construction.failed_of_trail`).
-/

set_option autoImplicit false

namespace Rendezvous

open Barrier Handle

/-- The parts of a whole barrier. -/
def Part.all : List Part := [.lock, .gate 0, .gate 1]

def Event.madeIn (events : List Event) : List Part := events.filterMap Event.made

def Event.tornIn (events : List Event) : List Part := events.filterMap Event.tornDown

namespace Barrier

/-! ## Building -/

/-- What a construction has made and not torn down. -/
def Construction.parts : Construction → List Part
  | check .. | makeLock .. | finished (.error _) => []
  | makeEven .. | undoLock _ => [.lock]
  | makeOdd .. | undoEven .. => [.lock, .gate 0]
  | finished (.ok _) => Part.all

/-- What a construction may have made by now. -/
def Construction.past : Construction → List Part
  | check .. | makeLock .. => []
  | makeEven .. => [.lock]
  | makeOdd .. | undoEven .. | undoLock _ => [.lock, .gate 0]
  | finished _ => Part.all

@[simp] theorem tornIn_teardownEvents_lock (fault : Option PrimitiveError) :
    Event.tornIn (teardownEvents .lockDestroy fault) = [.lock] := by cases fault <;> rfl

@[simp] theorem tornIn_teardownEvents_gate (index : Nat) (value : UInt32)
    (fault : Option PrimitiveError) :
    Event.tornIn (teardownEvents (.semDestroy index value) fault) = [.gate index] := by
  cases fault <;> rfl

@[simp] theorem madeIn_teardownEvents_lock (fault : Option PrimitiveError) :
    Event.madeIn (teardownEvents .lockDestroy fault) = [] := by cases fault <;> rfl

@[simp] theorem madeIn_teardownEvents_gate (index : Nat) (value : UInt32)
    (fault : Option PrimitiveError) :
    Event.madeIn (teardownEvents (.semDestroy index value) fault) = [] := by
  cases fault <;> rfl

/-- A gate is made, or the failure is told as it is. -/
theorem Construction.makeGate_cases (supply : Supply) (index : Nat) (shared : Bool)
    (fault : Option PrimitiveError) :
    (∃ gate, makeGate supply index shared fault = (.ok gate, ⟨.semInit index 0 shared, .done⟩)) ∨
      ∃ e r, (r = .injected e ∨ r = .failed e) ∧
        makeGate supply index shared fault = (.error e, ⟨.semInit index 0 shared, r⟩) := by
  unfold makeGate
  cases fault with
  | some e => exact .inr ⟨e, _, .inl rfl, rfl⟩
  | none =>
    simp only
    cases Semaphore.create 0 shared supply.sharing supply.poll supply.rule with
    | ok gate => exact .inl ⟨gate, rfl⟩
    | error e => exact .inr ⟨e, _, .inr rfl, rfl⟩

/-- What a turn of a construction does: what was there and what is made is what is there then and
what is torn down, and it makes at most one part, which it has not made before. -/
structure Construction.Works (s t : Construction) (made torn : List Part) : Prop where
  begun : ∀ e, (Operation.build e t).begins = false
  balance : s.parts ++ made = t.parts ++ torn
  single : made.length ≤ 1
  fresh : ∀ q ∈ made, q ∉ s.past
  kept : ∀ q, q ∈ s.past ∨ q ∈ made → q ∈ t.past

theorem Construction.Works.nothing {s t : Construction}
    (begun : ∀ e, (Operation.build e t).begins = false) (balance : s.parts = t.parts)
    (kept : ∀ q ∈ s.past, q ∈ t.past) : s.Works t [] [] :=
  ⟨begun, congrArg (· ++ []) balance, Nat.zero_le 1, List.forall_mem_nil _,
    fun q h => kept q (h.resolve_right List.not_mem_nil)⟩

theorem Construction.Works.makes {s t : Construction} {q : Part}
    (begun : ∀ e, (Operation.build e t).begins = false) (balance : s.parts ++ [q] = t.parts)
    (fresh : q ∉ s.past) (kept : ∀ p, p ∈ s.past ∨ p = q → p ∈ t.past) : s.Works t [q] [] :=
  ⟨begun, by rw [balance, List.append_nil], Nat.le_refl 1,
    fun p hp => by rw [List.mem_singleton.mp hp]; exact fresh,
    fun p h => kept p (h.imp_right List.mem_singleton.mp)⟩

theorem Construction.Works.undoes {s t : Construction} {q : Part}
    (begun : ∀ e, (Operation.build e t).begins = false) (balance : s.parts = t.parts ++ [q])
    (kept : ∀ p ∈ s.past, p ∈ t.past) : s.Works t [] [q] :=
  ⟨begun, by rw [List.append_nil, balance], Nat.zero_le 1, List.forall_mem_nil _,
    fun p h => kept p (h.resolve_right List.not_mem_nil)⟩

theorem Construction.step_works {s : Construction} {supply : Supply}
    {fault : Option PrimitiveError} {turn : Construction.Turn}
    (move : s.step supply fault = some turn) :
    s.Works turn.stage (Event.madeIn turn.events) (Event.tornIn turn.events) := by
  cases s with
  | check n shared =>
    simp only [step] at move
    split at move
    · obtain rfl := Option.some.inj move
      exact .nothing (fun _ => rfl) rfl (List.forall_mem_nil _)
    · split at move
      · obtain rfl := Option.some.inj move
        exact .nothing (fun _ => rfl) rfl (List.forall_mem_nil _)
      · split at move <;> obtain rfl := Option.some.inj move <;>
          exact .nothing (fun _ => rfl) rfl (List.forall_mem_nil _)
  | makeLock n shared =>
    cases fault <;> obtain rfl := Option.some.inj move
    · exact .makes (fun _ => rfl) rfl List.not_mem_nil (by simp [past])
    · exact .nothing (fun _ => rfl) rfl (List.forall_mem_nil _)
  | makeEven n shared =>
    obtain ⟨gate, made⟩ | ⟨e, r, refused, made⟩ :=
      makeGate_cases supply Side.even.index shared fault <;>
      simp only [step, made] at move <;> obtain rfl := Option.some.inj move
    · exact .makes (fun _ => rfl) rfl (by simp [past, Side.index]) (by simp [past, Side.index])
    · rcases refused with rfl | rfl <;> exact .nothing (fun _ => rfl) rfl (by simp [past])
  | makeOdd n shared evenGate =>
    obtain ⟨gate, made⟩ | ⟨e, r, refused, made⟩ :=
      makeGate_cases supply Side.odd.index shared fault <;>
      simp only [step, made] at move <;> obtain rfl := Option.some.inj move
    · exact .makes (fun _ => rfl) rfl (by simp [past, Side.index])
        (by simp [past, Part.all, Side.index, or_assoc])
    · rcases refused with rfl | rfl <;> exact .nothing (fun _ => rfl) rfl (by simp [past])
  | undoEven evenGate e =>
    obtain rfl := Option.some.inj move
    simp only [madeIn_teardownEvents_gate, tornIn_teardownEvents_gate]
    exact .undoes (fun _ => rfl) rfl (by simp [past])
  | undoLock e =>
    obtain rfl := Option.some.inj move
    simp only [madeIn_teardownEvents_lock, tornIn_teardownEvents_lock]
    exact .undoes (fun _ => rfl) rfl (by simp [past, Part.all])
  | finished r => cases move

/-! ## Constructions that fail -/

/-- Where a construction gets to with so many turns, given what it draws on and what fails at each,
and all that it tells on the way. -/
def Construction.trail : Construction → List (Supply × Option PrimitiveError) →
    Construction × List Event
  | s, [] => (s, [])
  | s, (supply, fault) :: rest =>
      match s.step supply fault with
      | none => (s, [])
      | some turn => ((turn.stage.trail rest).1, turn.events ++ (turn.stage.trail rest).2)

/-- How a construction fails: all that it tells, and what it reports. -/
inductive Construction.Failure (parties : UInt32) (shared : Bool) :
    List Event → BarrierError → Prop where
  | count {cause : Misuse} : parties = 0 ∨ Semaphore.maxValue < parties →
      Failure parties shared [] (.invalidArgument cause)
  | memory : Failure parties shared [] (.resourceExhausted "memory for a barrier")
  | lock {e : PrimitiveError} :
      Failure parties shared [⟨.lockInit, .injected e⟩] (.primitive e)
  | even {e : PrimitiveError} {r : CallResult} {fault : Option PrimitiveError} :
      r = .injected e ∨ r = .failed e →
      Failure parties shared
        ([⟨.lockInit, .done⟩, ⟨.semInit 0 0 shared, r⟩] ++ teardownEvents .lockDestroy fault)
        (.primitive e)
  | odd {e : PrimitiveError} {r : CallResult} {value : UInt32}
      {fault fault' : Option PrimitiveError} : r = .injected e ∨ r = .failed e →
      Failure parties shared
        ([⟨.lockInit, .done⟩, ⟨.semInit 0 0 shared, .done⟩, ⟨.semInit 1 0 shared, r⟩] ++
          teardownEvents (.semDestroy 0 value) fault ++ teardownEvents .lockDestroy fault')
        (.primitive e)

/-- What it has made it has torn down, newest first. -/
theorem Construction.Failure.torn_eq {parties : UInt32} {shared : Bool} {events : List Event}
    {err : BarrierError} (f : Failure parties shared events err) :
    Event.tornIn events = (Event.madeIn events).reverse := by
  cases f with
  | count | memory | lock => rfl
  | even refused =>
    rcases refused with rfl | rfl <;> rename_i fault <;> cases fault <;> rfl
  | odd refused =>
    rcases refused with rfl | rfl <;> rename_i fault fault' <;> cases fault <;> cases fault' <;> rfl

section Trail

variable {parties : UInt32} {shared : Bool} {inputs : List (Supply × Option PrimitiveError)}
  {err : BarrierError}

namespace Construction

theorem trail_finished (r : Except BarrierError Barrier) :
    (finished r).trail inputs = (finished r, []) := by
  cases inputs <;> rfl

theorem trail_undoLock {e : PrimitiveError}
    (h : ((undoLock e).trail inputs).1 = finished (.error err)) :
    err = .primitive e ∧
      ∃ fault, ((undoLock e).trail inputs).2 = teardownEvents .lockDestroy fault := by
  cases inputs with
  | nil => cases h
  | cons input rest =>
    simp only [trail, step, trail_finished, finished.injEq, Except.error.injEq] at h
    exact ⟨h.symm, input.2, by simp only [trail, step, trail_finished, List.append_nil]⟩

theorem trail_undoEven {gate : Semaphore} {e : PrimitiveError}
    (h : ((undoEven gate e).trail inputs).1 = finished (.error err)) :
    err = .primitive e ∧ ∃ fault fault', ((undoEven gate e).trail inputs).2 =
      teardownEvents (.semDestroy 0 gate.value) fault ++ teardownEvents .lockDestroy fault' := by
  cases inputs with
  | nil => cases h
  | cons input rest =>
    have h : ((undoLock e).trail rest).1 = finished (.error err) := h
    obtain ⟨same, fault', told⟩ := trail_undoLock h
    exact ⟨same, input.2, fault', congrArg (_ ++ ·) told⟩

theorem trail_makeOdd {gate : Semaphore}
    (h : ((makeOdd parties shared gate).trail inputs).1 = finished (.error err)) :
    ∃ e r fault fault', (r = .injected e ∨ r = .failed e) ∧ err = .primitive e ∧
      ((makeOdd parties shared gate).trail inputs).2 = ⟨.semInit 1 0 shared, r⟩ ::
        (teardownEvents (.semDestroy 0 gate.value) fault ++ teardownEvents .lockDestroy fault') := by
  cases inputs with
  | nil => cases h
  | cons input rest =>
    obtain ⟨odd, made⟩ | ⟨e, r, refused, made⟩ :=
      makeGate_cases input.1 Side.odd.index shared input.2 <;>
      simp only [trail, step, made] at h ⊢
    · rw [trail_finished] at h
      cases h
    · obtain ⟨same, fault, fault', told⟩ := trail_undoEven h
      exact ⟨e, r, fault, fault', refused, same, congrArg (_ :: ·) told⟩

theorem trail_makeEven (h : ((makeEven parties shared).trail inputs).1 = finished (.error err)) :
    Failure parties shared (⟨.lockInit, .done⟩ :: ((makeEven parties shared).trail inputs).2)
      err := by
  cases inputs with
  | nil => cases h
  | cons input rest =>
    obtain ⟨even, made⟩ | ⟨e, r, refused, made⟩ :=
      makeGate_cases input.1 Side.even.index shared input.2 <;>
      simp only [trail, step, made] at h ⊢
    · obtain ⟨e, r, fault, fault', refused, rfl, told⟩ := trail_makeOdd h
      rw [told]
      exact .odd refused
    · obtain ⟨rfl, fault, told⟩ := trail_undoLock h
      rw [told]
      exact .even refused

theorem trail_makeLock (h : ((makeLock parties shared).trail inputs).1 = finished (.error err)) :
    Failure parties shared ((makeLock parties shared).trail inputs).2 err := by
  cases inputs with
  | nil => cases h
  | cons input rest =>
    obtain ⟨supply, fault⟩ := input
    cases fault with
    | some e =>
      simp only [trail, step, trail_finished, finished.injEq, Except.error.injEq] at h ⊢
      rw [← h]
      exact .lock
    | none =>
      have h : ((makeEven parties shared).trail rest).1 = finished (.error err) := h
      exact trail_makeEven h

/-- Whatever a construction draws on and whatever fails, it fails in one of these ways. -/
theorem failed_of_trail
    (h : ((check parties shared).trail inputs).1 = finished (.error err)) :
    Failure parties shared ((check parties shared).trail inputs).2 err := by
  cases inputs with
  | nil => cases h
  | cons input rest =>
    have ends {cause : BarrierError}
        (f : Failure parties shared [] cause)
        (h : ((finished (.error cause)).trail rest).1 = finished (.error err)) :
        Failure parties shared ([] ++ ((finished (.error cause)).trail rest).2) err := by
      simp only [trail_finished, finished.injEq, Except.error.injEq] at h ⊢
      rw [← h]
      exact f
    by_cases zero : parties = 0
    · subst zero
      simp only [trail, step, if_true] at h ⊢
      exact ends (.count (.inl rfl)) h
    · by_cases many : Semaphore.maxValue < parties
      · simp only [trail, step, zero, many, if_true, if_false] at h ⊢
        exact ends (.count (.inr many)) h
      · cases memory : input.1.memory with
        | true =>
          simp only [trail, step, zero, many, memory, if_true, if_false] at h ⊢
          exact trail_makeLock h
        | false =>
          simp only [trail, step, zero, many, memory, if_false] at h ⊢
          exact ends .memory h

end Construction

end Trail

/-! ## Tearing down -/

/-- What a teardown has not torn down yet. -/
def Teardown.parts : Teardown → List Part
  | evenGate => Part.all
  | oddGate => [.lock, .gate 1]
  | unlock | lock => [.lock]
  | finished => []

theorem Teardown.step_parts {b : Barrier} {t : Teardown} {fault : Option PrimitiveError}
    {turn : Teardown.Turn} (move : t.step b fault = some turn) :
    Event.madeIn turn.events = [] ∧ t.parts.Perm (turn.stage.parts ++ Event.tornIn turn.events) := by
  cases t with
  | evenGate =>
    obtain rfl := Option.some.inj move
    simp only [madeIn_teardownEvents_gate, tornIn_teardownEvents_gate]
    exact ⟨trivial, .cons _ (.swap ..)⟩
  | oddGate =>
    obtain rfl := Option.some.inj move
    simp only [madeIn_teardownEvents_gate, tornIn_teardownEvents_gate]
    exact ⟨trivial, .refl _⟩
  | unlock =>
    obtain rfl := Option.some.inj move
    exact ⟨rfl, .refl _⟩
  | lock =>
    obtain rfl := Option.some.inj move
    simp only [lockEvents]
    split
    · cases fault <;> exact ⟨rfl, .refl _⟩
    · simp only [madeIn_teardownEvents_lock, tornIn_teardownEvents_lock]
      exact ⟨trivial, .refl _⟩
  | finished => cases move

/-! ## Everything else -/

theorem Wait.step_idle {b : Barrier} {c : Cancellation} {fault : Option PrimitiveError} {w : Wait}
    {turn : Wait.Turn} (move : w.step b c fault = some turn) :
    Event.madeIn turn.events = [] ∧ Event.tornIn turn.events = [] := by
  cases w with
  | enter | turnBack g | pause g | claim g =>
    cases fault <;> obtain rfl := Option.some.inj move <;> exact ⟨rfl, rfl⟩
  | lock | relock g =>
    simp only [step] at move
    split at move
    · cases move
    · obtain rfl := Option.some.inj move
      exact ⟨rfl, rfl⟩
  | arrive | judge g =>
    simp only [step] at move
    split at move <;> obtain rfl := Option.some.inj move <;> exact ⟨rfl, rfl⟩
  | trip g | counted g | retracted g | overtaken g =>
    obtain rfl := Option.some.inj move
    exact ⟨rfl, rfl⟩
  | post g =>
    cases fault with
    | some e =>
      obtain rfl := Option.some.inj move
      exact ⟨rfl, rfl⟩
    | none =>
      simp only [step] at move
      split at move <;> obtain rfl := Option.some.inj move <;> exact ⟨rfl, rfl⟩
  | blocked g shield w =>
    rcases AtGate.blocked.cases move with ⟨r, rfl⟩ | ⟨_, _, _, -, -, rfl⟩
    · obtain rfl := Option.some.inj move
      cases r <;> exact ⟨rfl, rfl⟩
    · exact ⟨rfl, rfl⟩
  | claiming g shield w =>
    rcases AtGate.claiming.cases move with ⟨r, rfl⟩ | ⟨_, _, _, -, -, rfl⟩
    · obtain rfl := Option.some.inj move
      cases r <;> exact ⟨rfl, rfl⟩
    · exact ⟨rfl, rfl⟩
  | finished r => cases move

theorem Probe.step_idle {b : Barrier} {gauge : Gauge} {fault : Option PrimitiveError} {p : Probe}
    {turn : Probe.Turn} (move : p.step b gauge fault = some turn) :
    Event.madeIn turn.events = [] ∧ Event.tornIn turn.events = [] := by
  cases p with
  | enter => cases fault <;> obtain rfl := Option.some.inj move <;> exact ⟨rfl, rfl⟩
  | lock =>
    simp only [step] at move
    split at move
    · cases move
    · obtain rfl := Option.some.inj move
      exact ⟨rfl, rfl⟩
  | read | leave value =>
    obtain rfl := Option.some.inj move
    exact ⟨rfl, rfl⟩
  | finished r => cases move

end Barrier

namespace Handle

/-! ## Operations -/

/-- The parts that an operation has in its hands. -/
def Operation.parts : Operation → List Part
  | build _ s => s.parts
  | announce _ (.live _) | store _ (.live _) | detach _ => Part.all
  | tearDown _ t => t.parts
  | _ => []

/-- The errand is to build a barrier of this kind. -/
def Errand.Orders : Errand → UInt32 → Bool → Prop
  | init n s, parties, shared => parties = n ∧ shared = s
  | resolve, _, shared => shared = false
  | discard, _, _ => False

/-- The operation has no parts in its hands, and if it builds it is about to begin with it. -/
def Operation.Idle (op : Operation) : Prop :=
  op.parts = [] ∧
    match op with
    | build e (.check parties shared) => e.Orders parties shared
    | build .. => False
    | _ => True

/-- The next stage brings a barrier to the slot or takes it from there. -/
def Operation.trades : Operation → Bool
  | store _ (.live _) | clear _ => true
  | _ => false

/-- What a turn does with parts: the stages before and after, what it makes and what it tears
down. -/
inductive Haul : Operation → Operation → List Part → List Part → Prop where
  | idle {op op' : Operation} : op.parts = [] → op.trades = false → op'.Idle → Haul op op' [] []
  | builds {e : Errand} {s t : Construction} {made torn : List Part} : s.Works t made torn →
      Haul (.build e s) (.build e t) made torn
  | adopts {e : Errand} {x : Barrier} {b : Nat} :
      Haul (.build e (.finished (.ok x))) (.announce e (.live b)) [] []
  /-- Goes on with the whole barrier. -/
  | carries {op op' : Operation} {b : Nat} : op.hands.owns = some b → op.trades = false →
      op'.hands.owns = some b → op'.parts = op.parts → Haul op op' [] []
  | delivers {e : Errand} {b : Nat} {n : Next} : Haul (.store e (.live b)) (.release e n) [] []
  | collects {b : Nat} : Haul (.clear b) (.detach b) [] []
  | dismantles {b : Nat} {t u : Teardown} {torn : List Part} : t.parts.Perm (u.parts ++ torn) →
      Haul (.tearDown b t) (.tearDown b u) [] torn

theorem Next.idle_stage (n : Next) : n.stage.Idle := by cases n <;> exact ⟨rfl, trivial⟩

theorem Errand.idle_afterSlot (e : Errand) (n : Next) : (e.afterSlot n).Idle := by
  unfold afterSlot
  split
  · exact ⟨rfl, trivial⟩
  · exact Next.idle_stage n

theorem Errand.idle_inspect (e : Errand) (s : Slot) : (e.inspect s).Idle := by
  cases e <;> cases s <;> first | exact ⟨rfl, trivial⟩ | exact ⟨rfl, rfl⟩ | exact ⟨rfl, rfl, rfl⟩

theorem Inquiry.idle_look (q : Inquiry) (a : Arena) (s : Slot) : (q.look a s).Idle := by
  cases q <;> cases s <;> exact ⟨rfl, trivial⟩

variable {a : Arena} {h : Nat} {c : Cancellation} {supply : Supply} {fault : Option PrimitiveError}

/-- Every turn does one of these things. -/
theorem Operation.step_haul {op : Operation} {turn : Operation.Turn}
    (move : op.step a h c supply fault = some turn) :
    Haul op turn.stage (Event.madeIn turn.events) (Event.tornIn turn.events) := by
  cases stride_of_step move with
  | look => exact .idle rfl rfl (Inquiry.idle_look ..)
  | inside stepped =>
    obtain ⟨made, torn⟩ := Wait.step_idle stepped
    rw [made, torn]
    exact .idle rfl rfl ⟨rfl, trivial⟩
  | probe stepped =>
    obtain ⟨made, torn⟩ := Probe.step_idle stepped
    rw [made, torn]
    exact .idle rfl rfl ⟨rfl, trivial⟩
  | leave | unguard | abandon => exact .idle rfl rfl (Next.idle_stage _)
  | inspect => exact .idle rfl rfl (Errand.idle_inspect ..)
  | build stepped => exact .builds (Construction.step_works stepped)
  | built => exact .adopts
  | @announce e new =>
    cases new with
    | live b => exact .carries (b := b) rfl rfl rfl rfl
    | _ => exact .idle rfl rfl ⟨rfl, trivial⟩
  | @store e new =>
    cases new with
    | live b => exact .delivers
    | _ => exact .idle rfl rfl ⟨rfl, trivial⟩
  | release | giveUp => exact .idle rfl rfl (Errand.idle_afterSlot ..)
  | clear => exact .collects
  | @detach b => exact .carries (b := b) rfl rfl rfl rfl
  | tearDown stepped =>
    obtain ⟨made, parts⟩ := Teardown.step_parts stepped
    rw [made]
    exact .dismantles parts
  | _ => exact .idle rfl rfl ⟨rfl, trivial⟩

end Handle

end Rendezvous
