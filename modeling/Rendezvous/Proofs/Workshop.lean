import Rendezvous.Proofs.Runs
import Rendezvous.Proofs.Traffic.Marks
import Rendezvous.Script.Begin

/-!
# From attributes to barriers

A process keeps attributes in slots, changes and destroys them, and builds barriers with them, on
handles and without, while other barriers are in use. Whether a barrier is to be shared is read off
the attributes when the call begins, and passed on from stage to stage to both gates. A caller lends
its attributes for as long as the call lasts; here they may change meanwhile all the same, and what
counts is what they said at the beginning. Two parts of the library have to agree on whether anything
can be shared at all: attributes refuse the mode where they do not support it, and gates refuse the
mark.

So there are two things to follow. A mark has a licence: where attributes do not support the shared
mode nobody is ever told to build a shared barrier (`Licensed`), and where they do, no gate refuses
it (`Smooth`). And a mark is faithful: what a call was told ends up on its barrier and stays there,
whatever happens to the attributes afterwards (`bears_of_passes`, `site_of_run`).
-/

set_option autoImplicit false

namespace Rendezvous

open Barrier Handle

/-! ## Attributes -/

namespace Attributes.Cell

/-- Whether a barrier built with these attributes is to be shared; one built with none is not. -/
def isShared : Cell → Bool
  | some a => a.sharing.isShared
  | none => false

theorem isShared_iff {cell : Cell} : cell.isShared = true ↔ cell.getShared = .ok .shared := by
  rcases cell with _ | ⟨_ | _⟩ <;> simp [isShared, getShared, Sharing.isShared]

/-- What is done to the attributes in a cell. -/
inductive Order where
  | init
  | destroy
  | get
  | set (mode : Sharing)
  deriving DecidableEq, Repr

/-- What an order leaves in the cell. -/
def after (cell : Cell) (supported : Bool) : Order → Cell
  | .init => cell.init.2
  | .destroy => cell.destroy.2
  | .get => cell
  | .set mode => (cell.setShared supported mode).2

/-- The shared mode comes about only where it is supported. -/
theorem supported_of_after {cell : Cell} {supported : Bool} {order : Order}
    (before : cell.isShared = true → supported = true)
    (h : (cell.after supported order).isShared = true) : supported = true := by
  cases order with
  | init => cases h
  | destroy => cases cell <;> cases h
  | get => exact before h
  | set mode =>
    cases cell with
    | none => cases h
    | some a =>
      cases mode with
      | single => cases supported <;> cases h
      | shared =>
        cases supported with
        | true => rfl
        | false => cases h

end Attributes.Cell

theorem Script.World.sharedBy_eq (w : Script.World) (o : Option Nat) :
    w.sharedBy o = (w.attributesOf o).isShared := by
  unfold sharedBy Attributes.Cell.isShared
  split <;> simp_all

/-! ## The system -/

/-- What a build of the library supports. -/
structure Features where
  /-- Attributes may say that a barrier is to be shared. -/
  attributes : Bool
  /-- Semaphores may be shared between processes. -/
  semaphores : Bool
  /-- Nobody supports the first without the second. -/
  agree : attributes = true → semaphores = true

structure Workshop where
  /-- The attributes, by their slots. -/
  cells : Nat → Attributes.Cell
  /-- The handles and all calls on them. -/
  traffic : Traffic
  /-- The barriers that are built without a handle, in the order in which they were begun. -/
  sites : List Construction := []

namespace Workshop

inductive Move where
  /-- Something is done to the attributes in a slot. -/
  | order (slot : Nat) (order : Attributes.Cell.Order)
  /-- A thread has a barrier built on a handle, with the attributes in a slot or without any. -/
  | init (thread handle : Nat) (parties : UInt32) (attributes : Option Nat)
  /-- Any other move of the traffic on handles. -/
  | call (m : Traffic.Move)
  /-- Somebody begins to build a barrier without a handle. -/
  | lay (parties : UInt32) (attributes : Option Nat)
  /-- A barrier without a handle is built on by one stage. -/
  | raise (site : Nat) (supply : Supply) (fault : Option PrimitiveError)
  /-- Somebody in a wait at a barrier without a handle, at whatever stage, goes on by one. -/
  | wait (site : Nat) (c : Cancellation) (fault : Option PrimitiveError) (w : Wait)
  /-- Somebody who asks such a barrier for its count goes on by one stage. -/
  | probe (site : Nat) (gauge : Gauge) (fault : Option PrimitiveError) (p : Probe)

/-- The call on a handle whose turn it is. -/
def Move.job? : Move → Option Nat
  | .call m => m.job?
  | _ => none

/-- The move goes with these features, and begins no call for which attributes are given. -/
def fits (features : Features) : Traffic.Move → Bool
  | .begin _ _ (.init ..) => false
  | .go _ supply _ => supply.sharing == features.semaphores
  | _ => true

/-- The attributes that are given to a call, if there are any. -/
def lent (s : Workshop) (attributes : Option Nat) : Attributes.Cell := attributes.bind s.cells

def setSite (s : Workshop) (site : Nat) (x : Construction) : Workshop :=
  { s with sites := s.sites.set site x }

/-- The barrier that stands at a site. -/
def barrier? (s : Workshop) (site : Nat) : Option Barrier :=
  match s.sites[site]? with
  | some (.finished (.ok b)) => some b
  | _ => none

/-- Makes a move; `none` if it cannot be made now, or if its failure may not strike. -/
def step (features : Features) (mayFail : Ask → Bool) (s : Workshop) : Move → Option Workshop
  | .order slot order =>
      let after := (s.cells slot).after features.attributes order
      some { s with cells := fun k => if k = slot then after else s.cells k }
  | .init thread handle parties attributes =>
      (s.traffic.step mayFail
        (.begin thread handle (.init parties (s.lent attributes).isShared))).map fun traffic =>
          { s with traffic }
  | .call m =>
      if fits features m then (s.traffic.step mayFail m).map fun traffic => { s with traffic }
      else none
  | .lay parties attributes =>
      some { s with sites := s.sites ++ [.check parties (s.lent attributes).isShared] }
  | .raise site supply fault =>
      (s.sites[site]?).bind fun x =>
        if supply.sharing == features.semaphores && (fault.isNone || x.asks.any mayFail) then
          (x.step supply fault).map fun turn => s.setSite site turn.stage
        else none
  | .wait site c fault w =>
      (s.barrier? site).bind fun b =>
        (w.step b c fault).map fun turn => s.setSite site (.finished (.ok turn.barrier))
  | .probe site gauge fault p =>
      (s.barrier? site).bind fun b =>
        (p.step b gauge fault).map fun turn => s.setSite site (.finished (.ok turn.barrier))

/-- There are no attributes, nobody has called and nothing is being built. -/
def start (handles : List (Option UInt32)) (settings : Nat → Cancellation) : Workshop :=
  { cells := fun _ => none, traffic := .start handles settings }

variable {features : Features} {mayFail : Ask → Bool} {handles : List (Option UInt32)}
  {settings : Nat → Cancellation} {s t u : Workshop} {m : Move} {moves : List Move} {i b : Nat}
  {shared : Bool}

theorem Move.eq_of_job? (own : m.job? = some i) :
    ∃ supply fault, m = .call (.go i supply fault) := by
  cases m with
  | call m' =>
    cases m' with
    | go j supply fault =>
      obtain rfl := Option.some.inj own
      exact ⟨supply, fault, rfl⟩
    | begin | request | adjust => cases own
  | _ => cases own

/-! ## One move -/

/-- What the move does to one construction without a handle. -/
inductive Work (features : Features) (mayFail : Ask → Bool) :
    Construction → Construction → Prop where
  | raises {supply : Supply} {fault : Option PrimitiveError} {x y : Construction} :
      supply.sharing = features.semaphores → (fault = none ∨ x.asks.any mayFail = true) →
      Construction.Stride supply fault x y → Work features mayFail x y
  /-- Somebody works at the barrier, and leaves the marks on it. -/
  | uses {b b' : Barrier} : (∀ shared, b.Marked shared → b'.Marked shared) →
      Work features mayFail (.finished (.ok b)) (.finished (.ok b'))

/-- What a move can do. -/
inductive Effect (features : Features) (mayFail : Ask → Bool) (s : Workshop) :
    Move → Workshop → Prop where
  | orders {slot : Nat} {order : Attributes.Cell.Order} :
      Effect features mayFail s (.order slot order)
        { s with cells := fun k => if k = slot then (s.cells slot).after features.attributes order
                                   else s.cells k }
  /-- The traffic moves; who is told to build a shared barrier is told so by somebody's attributes. -/
  | moves {m : Move} {m' : Traffic.Move} {traffic : Traffic} :
      s.traffic.step mayFail m' = some traffic →
      (∀ thread handle purpose, m' = .begin thread handle purpose → purpose.mark = true →
        ∃ slot, (s.cells slot).isShared = true) →
      (∀ i supply fault, m' = .go i supply fault → supply.sharing = features.semaphores) →
      Effect features mayFail s m { s with traffic }
  | lays {parties : UInt32} {attributes : Option Nat} :
      Effect features mayFail s (.lay parties attributes)
        { s with sites := s.sites ++ [.check parties (s.lent attributes).isShared] }
  | works {m : Move} {site : Nat} {x y : Construction} : s.sites[site]? = some x →
      Work features mayFail x y → Effect features mayFail s m (s.setSite site y)

theorem exists_isShared_of_lent {attributes : Option Nat}
    (h : (s.lent attributes).isShared = true) : ∃ slot, (s.cells slot).isShared = true := by
  cases attributes with
  | none => cases h
  | some slot => exact ⟨slot, h⟩

theorem sites_of_barrier? {site : Nat} {x : Barrier} (h : s.barrier? site = some x) :
    s.sites[site]? = some (.finished (.ok x)) := by
  unfold barrier? at h
  split at h
  · next there =>
    cases h
    exact there
  · cases h

theorem effect_of_step (move : s.step features mayFail m = some t) :
    Effect features mayFail s m t := by
  cases m with
  | order slot order =>
    obtain rfl := Option.some.inj move
    exact .orders
  | init thread handle parties attributes =>
    obtain ⟨traffic, moved, rfl⟩ := Option.map_eq_some_iff.mp move
    refine .moves moved (fun _ _ purpose same mark => ?_) nofun
    cases same
    exact exists_isShared_of_lent mark
  | call m =>
    simp only [step] at move
    split at move
    · next fit =>
      obtain ⟨traffic, moved, rfl⟩ := Option.map_eq_some_iff.mp move
      refine .moves moved (fun thread handle purpose same mark => ?_) fun i supply fault same => ?_
      · subst same
        cases purpose with
        | init => cases fit
        | inquire => cases mark
      · subst same
        exact eq_of_beq fit
    · cases move
  | lay parties attributes =>
    obtain rfl := Option.some.inj move
    exact .lays
  | raise site supply fault =>
    obtain ⟨x, there, move⟩ := Option.bind_eq_some_iff.mp move
    split at move
    · next fit =>
      obtain ⟨turn, stepped, rfl⟩ := Option.map_eq_some_iff.mp move
      simp only [Bool.and_eq_true, beq_iff_eq, Bool.or_eq_true, Option.isNone_iff_eq_none] at fit
      exact .works there (.raises fit.1 fit.2 (Construction.stride_of_step stepped))
    · cases move
  | wait site c fault w =>
    obtain ⟨x, stands, move⟩ := Option.bind_eq_some_iff.mp move
    obtain ⟨turn, stepped, rfl⟩ := Option.map_eq_some_iff.mp move
    exact .works (sites_of_barrier? stands) (.uses fun _ marked => marked.wait_step stepped)
  | probe site gauge fault p =>
    obtain ⟨x, stands, move⟩ := Option.bind_eq_some_iff.mp move
    obtain ⟨turn, stepped, rfl⟩ := Option.map_eq_some_iff.mp move
    exact .works (sites_of_barrier? stands) (.uses fun _ marked => marked.probe_step stepped)

theorem Work.marked {x y : Construction} (work : Work features mayFail x y)
    (marked : x.Marked shared) : y.Marked shared := by
  cases work with
  | raises _ _ stride => exact stride.marked marked
  | uses kept => exact kept shared marked

/-- The traffic moves as it does on its own, or not at all. -/
theorem Effect.traffic (effect : Effect features mayFail s m t) :
    t.traffic = s.traffic ∨ ∃ m', s.traffic.step mayFail m' = some t.traffic := by
  cases effect with
  | moves moved => exact .inr ⟨_, moved⟩
  | orders | lays | works => exact .inl rfl

/-! ## Licences -/

/-- What is known at any time. Nobody is told to build a shared barrier where attributes do not
support it. -/
structure Licensed (features : Features) (s : Workshop) : Prop where
  custody : Traffic.Custody s.traffic
  marks : Traffic.Marks s.traffic
  cells : ∀ slot, (s.cells slot).isShared = true → features.attributes = true
  calls : ∀ v ∈ s.traffic.jobs, v.purpose.mark = true → features.attributes = true
  sites : ∀ x ∈ s.sites, ∃ shared, x.Marked shared ∧ (shared = true → features.attributes = true)

namespace Licensed

theorem start (handles : List (Option UInt32)) (settings : Nat → Cancellation) :
    Licensed features (start handles settings) :=
  ⟨.start handles settings, .start handles settings, nofun,
    fun _ hv => absurd hv List.not_mem_nil, fun _ hx => absurd hx List.not_mem_nil⟩

theorem step (l : Licensed features s) (move : s.step features mayFail m = some t) :
    Licensed features t := by
  cases effect_of_step move with
  | @orders slot order =>
    refine ⟨l.custody, l.marks, fun k => ?_, l.calls, l.sites⟩
    by_cases here : k = slot
    · simp only [here, if_true]
      exact Attributes.Cell.supported_of_after (l.cells slot)
    · simp only [here, if_false]
      exact l.cells k
  | moves moved told =>
    refine ⟨l.custody.step moved, l.marks.step l.custody moved, l.cells, fun w hw mark => ?_,
      l.sites⟩
    obtain ⟨i, hi⟩ := List.mem_iff_getElem?.mp hw
    rcases Traffic.job_of_step moved hi with ⟨v, hv, -, same, -⟩ | ⟨-, began, -⟩
    · exact l.calls v (List.mem_of_getElem? hv) (same ▸ mark)
    · obtain ⟨slot, shared⟩ := told _ _ _ began mark
      exact l.cells slot shared
  | @lays parties attributes =>
    refine ⟨l.custody, l.marks, l.cells, l.calls, fun x hx => ?_⟩
    rcases List.mem_append.mp hx with old | new
    · exact l.sites x old
    · obtain rfl := List.mem_singleton.mp new
      refine ⟨_, rfl, fun told => ?_⟩
      obtain ⟨slot, shared⟩ := exists_isShared_of_lent told
      exact l.cells slot shared
  | works there work =>
    refine ⟨l.custody, l.marks, l.cells, l.calls, fun z hz => ?_⟩
    rcases List.mem_or_eq_of_mem_set hz with old | rfl
    · exact l.sites z old
    · obtain ⟨shared, marked, licence⟩ := l.sites _ (List.mem_of_getElem? there)
      exact ⟨shared, work.marked marked, licence⟩

theorem of_run (run : Schedule.run (Workshop.step features mayFail) (.start handles settings) moves =
    some s) : Licensed features s :=
  (Schedule.reaches_run run).keeps step (start handles settings)

/-- Where attributes do not support the shared mode, a mark that is licensed is none. -/
theorem mark_eq_false (without : features.attributes = false)
    (licence : shared = true → features.attributes = true) : shared = false := by
  cases shared with
  | false => rfl
  | true => cases without.symm.trans (licence rfl)

end Licensed

/-! ## Nothing is refused -/

/-- No primitive has failed a construction. -/
structure Smooth (s : Workshop) : Prop where
  calls : ∀ v ∈ s.traffic.jobs, v.stage.Builds Construction.Untroubled
  sites : ∀ x ∈ s.sites, x.Untroubled

theorem fault_eq_none {x : Construction} {fault : Option PrimitiveError} (u : x.Untroubled)
    (locks : mayFail .lockInit = false) (gates : mayFail .semInit = false)
    (may : fault = none ∨ x.asks.any mayFail = true) : fault = none := by
  refine may.resolve_right fun struck => ?_
  cases x with
  | makeLock => exact Bool.false_ne_true (locks.symm.trans struck)
  | makeEven | makeOdd => exact Bool.false_ne_true (gates.symm.trans struck)
  | undoEven | undoLock => exact u
  | check | finished => cases struck

theorem Smooth.step (smooth : Smooth s) (l : Licensed features s)
    (locks : mayFail .lockInit = false) (gates : mayFail .semInit = false)
    (move : s.step features mayFail m = some t) : Smooth t := by
  have able {shared : Bool} {supply : Supply} (fit : supply.sharing = features.semaphores)
      (licence : shared = true → features.attributes = true) (told : shared = true) :
      supply.sharing = true := fit.trans (features.agree (licence told))
  cases effect_of_step move with
  | orders => exact ⟨smooth.calls, smooth.sites⟩
  | @moves _ _ _ moved _ fit =>
    refine ⟨?_, smooth.sites⟩
    refine Traffic.builds_of_step (P := fun _ x => x.Untroubled) l.custody (fun _ _ => trivial) ?_
      smooth.calls moved
    rintro i supply fault v e x y rfl hv stage stride untroubled
    have mem := List.mem_of_getElem? hv
    have marked := l.marks.builds v mem
    have may := Traffic.permits_of_step moved hv
    rw [stage] at marked may
    have lucky : fault = none := by
      refine fault_eq_none untroubled locks gates ?_
      cases fault with
      | none => exact .inl rfl
      | some _ => exact .inr may
    subst lucky
    exact stride.untroubled marked (able (fit _ _ _ rfl) (l.calls v mem)) untroubled
  | lays =>
    refine ⟨smooth.calls, fun x hx => ?_⟩
    rcases List.mem_append.mp hx with old | new
    · exact smooth.sites x old
    · obtain rfl := List.mem_singleton.mp new
      trivial
  | works there work =>
    refine ⟨smooth.calls, fun z hz => ?_⟩
    rcases List.mem_or_eq_of_mem_set hz with old | rfl
    · exact smooth.sites z old
    · cases work with
      | raises fit may stride =>
        have mem := List.mem_of_getElem? there
        obtain ⟨shared, marked, licence⟩ := l.sites _ mem
        obtain rfl := fault_eq_none (smooth.sites _ mem) locks gates may
        exact stride.untroubled marked (able fit licence) (smooth.sites _ mem)
      | uses => trivial

theorem Smooth.of_run
    (run : Schedule.run (Workshop.step features mayFail) (start handles settings) moves = some s)
    (locks : mayFail .lockInit = false) (gates : mayFail .semInit = false) : Smooth s := by
  refine (Schedule.run_induction (P := fun _ s => Licensed features s ∧ Smooth s) ?_ ?_ run).2
  · exact ⟨.start handles settings, fun _ hv => absurd hv List.not_mem_nil,
      fun _ hx => absurd hx List.not_mem_nil⟩
  · rintro moves m t u - move ⟨l, smooth⟩
    exact ⟨l.step move, smooth.step l locks gates move⟩

/-! ## From the call to the barrier -/

/-- With this move call `i` hands over the barrier that it has built; the barrier gets number `b`. -/
def Adopts (i b : Nat) (s : Workshop) (m : Move) (_ : Workshop) : Prop :=
  m.job? = some i ∧ (s.traffic.jobs[i]?).any (·.stage.handsOver) = true ∧
    b = s.traffic.arena.barriers.size

/-- The barrier is there, and bears the mark. -/
def Bears (s : Workshop) (b : Nat) (shared : Bool) : Prop :=
  b < s.traffic.arena.barriers.size ∧ (s.traffic.arena.barrier b).Marked shared

theorem Bears.step (bears : s.Bears b shared) (l : Licensed features s)
    (move : s.step features mayFail m = some t) : t.Bears b shared := by
  rcases (effect_of_step move).traffic with same | ⟨m', moved⟩
  · unfold Bears
    rw [same]
    exact bears
  · exact ⟨Nat.lt_of_lt_of_le bears.1 (l.custody.barriers_le moved),
      Traffic.marked_of_step bears.1 bears.2 moved⟩

theorem Adopts.bears {v : Job} (adopts : Adopts i b s m t) (l : Licensed features s)
    (hv : s.traffic.jobs[i]? = some v) (move : s.step features mayFail m = some t) :
    t.Bears b v.purpose.mark := by
  obtain ⟨own, hands, rfl⟩ := adopts
  rw [hv] at hands
  obtain ⟨e, x, stage⟩ := Operation.handsOver_iff.mp hands
  have marked := l.marks.builds v (List.mem_of_getElem? hv)
  rw [stage] at marked
  obtain ⟨supply, fault, rfl⟩ := Move.eq_of_job? own
  simp only [Workshop.step] at move
  split at move
  · obtain ⟨traffic, moved, rfl⟩ := Option.map_eq_some_iff.mp move
    show _ < traffic.arena.barriers.size ∧ (traffic.arena.barrier _).Marked _
    rw [Traffic.adopted_of_step hv stage moved, Arena.barrier_adopt_self]
    exact ⟨by simp [Arena.adopt], marked⟩
  · cases move

/-- Whatever happens, a barrier that call `i` hands over bears the mark of the call's purpose. -/
theorem bears_of_passes {v : Job} (l : Licensed features s) (hv : s.traffic.jobs[i]? = some v)
    (run : Schedule.run (step features mayFail) s moves = some t)
    (passes : Schedule.Passes (step features mayFail) s moves (Adopts i b)) :
    t.Bears b v.purpose.mark := by
  refine (Schedule.run_induction (P := fun moves t => Licensed features t ∧
    (∃ w, t.traffic.jobs[i]? = some w ∧ w.purpose = v.purpose) ∧
      (Schedule.Passes (step features mayFail) s moves (Adopts i b) → t.Bears b v.purpose.mark))
    ⟨l, ⟨v, hv, rfl⟩, ?_⟩ ?_ run).2.2 passes
  · rintro ⟨early, m, late, -, -, split, -⟩
    cases early <;> cases split
  · rintro moves m t u reach move ⟨l, ⟨w, hw, same⟩, before⟩
    refine ⟨l.step move, ?_, fun passes => ?_⟩
    · rcases (effect_of_step move).traffic with still | ⟨m', moved⟩
      · exact ⟨w, still ▸ hw, same⟩
      · obtain ⟨w', hw', -, same', -⟩ := Traffic.job_step moved hw
        exact ⟨w', hw', same'.trans same⟩
    · rcases passes.of_concat reach move with old | adopts
      · exact (before old).step l move
      · exact same ▸ adopts.bears l hw move

/-- What has been begun without a handle stays at its site and keeps its mark. -/
theorem site_of_run {k : Nat} {x : Construction} (hx : s.sites[k]? = some x)
    (marked : x.Marked shared) (run : Schedule.run (step features mayFail) s moves = some t) :
    ∃ y, t.sites[k]? = some y ∧ y.Marked shared := by
  refine (Schedule.reaches_run run).keeps
    (P := fun t => ∃ y, t.sites[k]? = some y ∧ y.Marked shared) ?_ ⟨x, hx, marked⟩
  rintro t u m ⟨y, hy, marked⟩ move
  cases effect_of_step move with
  | orders | moves => exact ⟨y, hy, marked⟩
  | lays => exact ⟨y, (List.getElem?_append_left (List.getElem?_eq_some_iff.mp hy).1).trans hy, marked⟩
  | @works _ site x z there work =>
    by_cases here : site = k
    · subst here
      obtain rfl := Option.some.inj (there.symm.trans hy)
      exact ⟨z, List.getElem?_set_self (List.getElem?_eq_some_iff.mp hy).1, work.marked marked⟩
    · exact ⟨y, (List.getElem?_set_ne here).trans hy, marked⟩

/-- Attributes change by orders for their slot only. -/
theorem cell_of_run {slot : Nat} (run : Schedule.run (step features mayFail) s moves = some t)
    (apart : ∀ order, Move.order slot order ∉ moves) : t.cells slot = s.cells slot := by
  refine Schedule.run_induction (P := fun moves t => (∀ order, Move.order slot order ∉ moves) →
    t.cells slot = s.cells slot) (fun _ => rfl) ?_ run apart
  intro moves m t u _ move ih apart
  have before := ih fun order there => apart order (List.mem_append_left _ there)
  cases effect_of_step move with
  | @orders slot' order =>
    have other : slot ≠ slot' := by
      rintro rfl
      exact apart order (by simp)
    simp only [other, if_false]
    exact before
  | moves | lays | works => exact before

/-! ## All of it -/

/-- A barrier is shared between processes exactly if it was asked to be, as far as the build
supports this. Where it does not, attributes refuse the mode, so nobody can ask for it
(`Licensed`); where it does, no lock and no gate refuses the mark, and what a call was told when it
began arrives on its barrier and on both gates and stays there, whatever is done to the attributes
later (`bears_of_passes`). Attributes are changed, and barriers built with them or without and
used, by anybody and in any order. -/
theorem shared_faithful
    (run : Schedule.run (step features mayFail) (start handles settings) moves = some s) :
    -- where attributes do not support the shared mode, they refuse it and never say it, and no
    -- barrier bears it, nor any gate of one that is being built
    (features.attributes = false →
      (∀ slot, (s.cells slot).getShared ≠ .ok .shared) ∧
        (∀ slot a, s.cells slot = some a →
          (s.cells slot).setShared features.attributes .shared =
            (.error (.notSupported "process-shared barriers"), some { sharing := .single })) ∧
        (∀ b < s.traffic.arena.barriers.size, (s.traffic.arena.barrier b).Marked false) ∧
        (∀ v ∈ s.traffic.jobs, v.stage.Builds (·.Marked false)) ∧
        ∀ x ∈ s.sites, x.Marked false) ∧
      -- no construction fails because of its lock or of a gate, as long as nothing fails from outside
      (mayFail .lockInit = false → mayFail .semInit = false →
        (∀ v ∈ s.traffic.jobs, ∀ e p, v.stage ≠ .build e (.finished (.error (.primitive p)))) ∧
          ∀ x ∈ s.sites, ∀ p, x ≠ .finished (.error (.primitive p))) ∧
      -- the barrier that a call builds with given attributes, and both its gates, are as these said
      -- when it was called, and remain so
      (∀ thread handle parties attributes t more u b,
        s.step features mayFail (.init thread handle parties attributes) = some t →
        Schedule.run (step features mayFail) t more = some u →
        Schedule.Passes (step features mayFail) t more (Adopts s.traffic.jobs.length b) →
          (u.traffic.arena.barrier b).Marked (s.lent attributes).isShared) ∧
      -- so is a barrier that is built without a handle
      (∀ parties attributes t more u x,
        s.step features mayFail (.lay parties attributes) = some t →
        Schedule.run (step features mayFail) t more = some u →
        u.barrier? s.sites.length = some x → x.Marked (s.lent attributes).isShared) ∧
      -- a barrier that some other call builds on its way is for one process
      (∀ thread handle q t more u b,
        s.step features mayFail (.call (.begin thread handle (.inquire q))) = some t →
        Schedule.run (step features mayFail) t more = some u →
        Schedule.Passes (step features mayFail) t more (Adopts s.traffic.jobs.length b) →
          (u.traffic.arena.barrier b).Marked false) ∧
      -- what attributes said at the call, they say until something is done to them
      (∀ slot more u, Schedule.run (step features mayFail) s more = some u →
        (∀ order, .order slot order ∉ more) → u.cells slot = s.cells slot) ∧
      -- and a script's calls are told in the same way
      ∀ (w : Script.World) o, w.sharedBy o = (w.attributesOf o).isShared := by
  have l := Licensed.of_run run
  refine ⟨fun without => ⟨fun slot reads => ?_, fun slot a there => ?_, fun b hb => ?_,
    fun v hv => ?_, fun x hx => ?_⟩, fun locks gates => ?_, ?_, ?_, ?_,
    fun slot more u run apart => cell_of_run run apart, Script.World.sharedBy_eq⟩
  · exact Bool.false_ne_true
      (without.symm.trans (l.cells slot (Attributes.Cell.isShared_iff.mpr reads)))
  · rw [there, without]
    rfl
  · obtain ⟨v, hv, marked⟩ := l.marks.stands b hb
    exact Licensed.mark_eq_false without (l.calls v hv) ▸ marked
  · exact Licensed.mark_eq_false without (l.calls v hv) ▸ l.marks.builds v hv
  · obtain ⟨shared, marked, licence⟩ := l.sites x hx
    exact Licensed.mark_eq_false without licence ▸ marked
  · have smooth := Smooth.of_run run locks gates
    refine ⟨fun v hv e p stage => ?_, fun x hx p stage => ?_⟩
    · have untroubled := smooth.calls v hv
      rw [stage] at untroubled
      exact untroubled
    · have untroubled := smooth.sites x hx
      rw [stage] at untroubled
      exact untroubled
  · intro thread handle parties attributes t more u b called after passes
    obtain ⟨traffic, began, rfl⟩ := Option.map_eq_some_iff.mp called
    exact (bears_of_passes (l.step called) (Traffic.job_of_begin began) after passes).2
  · intro parties attributes t more u x laid after stands
    obtain rfl := Option.some.inj laid
    have told : (Construction.check parties (s.lent attributes).isShared).Marked
        (s.lent attributes).isShared := rfl
    obtain ⟨y, there, marked⟩ := site_of_run List.getElem?_concat_length told after
    obtain rfl := Option.some.inj ((sites_of_barrier? stands).symm.trans there)
    exact marked
  · intro thread handle q t more u b called after passes
    obtain ⟨traffic, began, rfl⟩ := Option.map_eq_some_iff.mp called
    exact (bears_of_passes (l.step called) (Traffic.job_of_begin began) after passes).2

/-! A barrier is built with attributes in the shared mode, and one where they refuse it. -/

def supported : Features := ⟨true, true, fun _ => rfl⟩

def unsupported : Features := ⟨false, false, nofun⟩

/-- A call goes on by so many stages, where semaphores can be shared. -/
def goes (job stages : Nat) : List Move :=
  List.replicate stages (.call (.go job { sharing := true }))

/-- There are attributes, and somebody wants them in the shared mode. -/
def preparing : List Move := [.order 0 .init, .order 0 (.set .shared)]

/-- While a call is building with them, they are set back and destroyed. -/
def changingMinds : List Move :=
  goes 0 3 ++ [.order 0 (.set .single), .order 0 .destroy] ++ goes 0 3

/-- The call ends, and another thread waits at the barrier. -/
def carryingOn : List Move := goes 0 3 ++ .call (.begin 1 0 (.inquire .wait)) :: goes 1 9

/-- A barrier is built with them, without a handle. -/
def makingDo : List Move := .lay 1 (some 0) :: List.replicate 4 (.raise 0 {} none)

def prepared : Workshop :=
  (Schedule.run (step supported Traffic.anything) (start [none] fun _ => {}) preparing).get
    (by decide)

def calling : Workshop :=
  (step supported Traffic.anything prepared (.init 0 0 1 (some 0))).get (by decide)

def handingOver : Workshop :=
  (Schedule.run (step supported Traffic.anything) calling changingMinds).get (by decide)

def handedOver : Workshop :=
  (step supported Traffic.anything handingOver (.call (.go 0 { sharing := true }))).get (by decide)

def carriedOn : Workshop :=
  (Schedule.run (step supported Traffic.anything) handedOver carryingOn).get (by decide)

def madeDo : Workshop :=
  (Schedule.run (step unsupported Traffic.anything) (start [none] fun _ => {})
    (preparing ++ makingDo)).get (by decide)

theorem shared_faithful_changingMinds :
    (carriedOn.cells 0 = none ∧ (carriedOn.traffic.arena.barrier 0).Marked true) ∧
      (madeDo.cells 0).getShared ≠ .ok .shared ∧ ∃ b, madeDo.sites = [.finished (.ok b)] ∧
        b.Marked false := by
  have early : Schedule.run (step supported Traffic.anything) (start [none] fun _ => {})
      preparing = some prepared := (Option.some_get (by decide)).symm
  have called : step supported Traffic.anything prepared (.init 0 0 1 (some 0)) = some calling :=
    (Option.some_get (by decide)).symm
  have changed : Schedule.run (step supported Traffic.anything) calling changingMinds =
      some handingOver := (Option.some_get (by decide)).symm
  have handed : step supported Traffic.anything handingOver (.call (.go 0 { sharing := true })) =
      some handedOver := (Option.some_get (by decide)).symm
  have carried : Schedule.run (step supported Traffic.anything) handedOver carryingOn =
      some carriedOn := (Option.some_get (by decide)).symm
  have after : Schedule.run (step supported Traffic.anything) calling
      (changingMinds ++ .call (.go 0 { sharing := true }) :: carryingOn) = some carriedOn :=
    Schedule.run_trans changed (Schedule.run_cons handed carried)
  have made : Schedule.run (step unsupported Traffic.anything) (start [none] fun _ => {})
      (preparing ++ makingDo) = some madeDo := (Option.some_get (by decide)).symm
  obtain ⟨-, -, built, -⟩ := shared_faithful early
  obtain ⟨without, -⟩ := shared_faithful made
  obtain ⟨refused, -, -, -, plain⟩ := without rfl
  have sites : madeDo.sites =
      [.finished (.ok (Barrier.fresh 1 false { value := 0 } { value := 0 }))] := rfl
  refine ⟨⟨by decide, built 0 0 1 (some 0) calling _ carriedOn 0 called after ?_⟩, refused 0,
    _, sites, plain (.finished (.ok _)) (sites ▸ List.mem_singleton_self _)⟩
  exact ⟨changingMinds, _, carryingOn, handingOver, handedOver, rfl, changed, handed, rfl,
    by decide, by decide⟩

end Workshop

end Rendezvous
