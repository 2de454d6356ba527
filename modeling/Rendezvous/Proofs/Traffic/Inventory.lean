import Mathlib.Data.List.Count
import Mathlib.Data.List.Nodup
import Rendezvous.Proofs.Traffic.Ledger
import Rendezvous.Proofs.Traffic.Lifecycle

/-!
# Nothing is lost and nothing is torn down twice

What was made and not torn down is in the hands of one call, which is building or tearing down, or
in the slot of its handle. The books are balanced in this sense for every single piece
(`Inventory.balance`), before and after every turn, because a turn does a `Haul`: whatever it makes
or takes from the slot it has in hand then or has torn down or brought there (`turn_balance`). And
every piece is made once (`Inventory.once`), because constructions have numbers of their own and one
construction makes each of its parts once.

So no piece is torn down more often than it was made; and when nobody is in a call on a handle, what
was made for it and not torn down is what its slot holds, a lock and two gates for a barrier and
nothing otherwise (`inventory_exact`).
-/

set_option autoImplicit false

namespace Rendezvous

open Barrier Handle

theorem toNat_contains {α : Type} [DecidableEq α] {l : List α} (nodup : l.Nodup) (q : α) :
    (l.contains q).toNat = l.count q := by
  by_cases there : q ∈ l
  · rw [List.count_eq_one_of_mem nodup there, List.contains_iff_mem.mpr there]
    rfl
  · rw [List.count_eq_zero.mpr there, Bool.eq_false_iff.mpr (mt List.contains_iff_mem.mp there)]
    rfl

theorem Barrier.Construction.nodup_parts (s : Construction) : s.parts.Nodup := by
  cases s with
  | finished r =>
    cases r with
    | error => exact List.nodup_nil
    | ok => exact show Part.all.Nodup by decide
  | _ => simp [parts]

theorem Barrier.Teardown.nodup_parts (t : Teardown) : t.parts.Nodup := by cases t <;> decide

namespace Handle

theorem Operation.nodup_parts (op : Operation) : op.parts.Nodup := by
  cases op with
  | build e c => exact c.nodup_parts
  | tearDown b t => exact t.nodup_parts
  | announce e new | store e new =>
    cases new with
    | live b => exact show Part.all.Nodup by decide
    | _ => exact List.nodup_nil
  | detach b => exact show Part.all.Nodup by decide
  | _ => exact List.nodup_nil

/-! ## What is in hand and what is in stock -/

/-- The construction that the parts come from which the call has in its hands. -/
def Job.origin (v : Job) (books : Books) : Nat :=
  match v.stage.hands.owns with
  | some b => books.origins.getD b 0
  | none => v.build

def Job.pieces (v : Job) (books : Books) : List Piece :=
  v.stage.parts.map (.mk v.handle (v.origin books))

/-- The call has this piece in its hands. -/
def Job.has (books : Books) (p : Piece) (v : Job) : Bool := (v.pieces books).contains p

theorem Job.toNat_has (v : Job) (books : Books) (p : Piece) :
    (v.has books p).toNat = (v.pieces books).count p :=
  toNat_contains (v.stage.nodup_parts.map fun _ _ same => (Piece.mk.inj same).2.2) p

theorem Job.pieces_of_owns {v : Job} {books : Books} {b : Nat}
    (owns : v.stage.hands.owns = some b) :
    v.pieces books = v.stage.parts.map (.mk v.handle (books.origins.getD b 0)) := by
  rw [pieces, origin, owns]

end Handle

namespace Traffic

variable {mayFail : Ask → Bool} {s t : Traffic} {m : Move} {h i j b : Nat} {v w : Job}
  {turn : Operation.Turn} {supply : Supply} {fault : Option PrimitiveError}

/-- What the barrier in the slot consists of. -/
def stock (s : Traffic) (h : Nat) : List Piece :=
  match s.arena.slot h with
  | .live b => Part.all.map (.mk h (s.books.origins.getD b 0))
  | _ => []

theorem stock_of_live (slot : s.arena.slot h = .live b) :
    s.stock h = Part.all.map (.mk h (s.books.origins.getD b 0)) := by
  rw [stock, slot]

theorem stock_of_ne (slot : ∀ b, s.arena.slot h ≠ .live b) : s.stock h = [] := by
  unfold stock
  split
  · next b live => exact absurd live (slot b)
  · rfl

theorem count_stock_of_ne {p : Piece} (ne : p.handle ≠ h) : (s.stock h).count p = 0 := by
  refine List.count_eq_zero.mpr fun there => ne ?_
  unfold stock at there
  split at there
  · obtain ⟨q, -, rfl⟩ := List.mem_map.mp there
    rfl
  · cases there

/-! ## What a turn leaves alone -/

/-- The number of a barrier's construction stays what it is. -/
theorem origin_after (num : Numbered s) (hb : b < s.arena.barriers.size) :
    (s.after i v turn).books.origins.getD b 0 = s.books.origins.getD b 0 := by
  have short : b < s.books.origins.length := by rw [num.origins]; exact hb
  show (if s.arena.barriers.size < turn.arena.barriers.size then s.books.origins ++ [v.build]
    else s.books.origins).getD b 0 = _
  split
  · simp [List.getD_eq_getElem?_getD, List.getElem?_append_left short]
  · rfl

theorem pieces_after (num : Numbered s) (c : Custody s) (hw : w ∈ s.jobs) :
    w.pieces (s.after i v turn).books = w.pieces s.books := by
  have same : w.origin (s.after i v turn).books = w.origin s.books := by
    unfold Job.origin
    cases owns : w.stage.hands.owns with
    | none => rfl
    | some b =>
      exact origin_after num (c.lt_of_owned (Nat.add_pos_left (Custody.owns_pos hw owns) _))
  simp only [Job.pieces, same]

/-- Where the slot stays as it is or owns no barrier, it holds what it held. -/
theorem stock_after (num : Numbered s) (c : Custody s)
    (still : turn.arena.slot h = s.arena.slot h ∨
      ∀ b, turn.arena.slot h ≠ .live b ∧ s.arena.slot h ≠ .live b) :
    (s.after i v turn).stock h = s.stock h := by
  have slot : (s.after i v turn).arena.slot h = turn.arena.slot h := rfl
  rcases still with still | empty
  · unfold stock
    rw [slot, still]
    cases live : s.arena.slot h with
    | live b =>
      have hb := c.lt_of_owned (Nat.add_pos_right _ (Arena.owning_pos live))
      simp only [origin_after num hb]
    | _ => rfl
  · rw [stock_of_ne fun b => (empty b).2, stock_of_ne fun b => slot ▸ (empty b).1]

/-- Whoever brings no barrier to its slot and takes none from there leaves it what it holds. -/
theorem stock_after_self (num : Numbered s) (c : Custody s) (hv : v ∈ s.jobs)
    (d : Deed s.arena v.handle v.stage turn.arena turn.stage) (aside : v.stage.trades = false) :
    (s.after i v turn).stock v.handle = s.stock v.handle := by
  refine stock_after num c ?_
  rcases d.slot (c.known v hv) with still | ⟨e, new, stage, -, slot, -⟩ | ⟨b, stage, -, -⟩
  · exact .inl still
  · refine .inr fun b => ⟨fun live => ?_, c.slot_of_store hv stage b⟩
    rw [stage, ← slot, live] at aside
    cases aside
  · rw [stage] at aside
    cases aside

/-! ## What a turn moves -/

/-- A barrier that has come to be has the number of its construction. -/
theorem origin_of_adopted (num : Numbered s) {e : Errand} {x : Barrier}
    (move : v.stage.step s.arena v.handle (s.settings v.thread) supply fault = some turn)
    (stage : v.stage = .build e (.finished (.ok x))) (stage' : turn.stage = .announce e (.live b)) :
    (s.after i v turn).books.origins.getD b 0 = v.build := by
  rw [stage] at move
  obtain rfl := Option.some.inj move
  obtain rfl : s.arena.barriers.size = b := Slot.live.inj (Operation.announce.inj stage').2
  show (if s.arena.barriers.size < (s.arena.barriers.push x).size then
    s.books.origins ++ [v.build] else s.books.origins).getD s.arena.barriers.size 0 = v.build
  simp [← num.origins]

theorem stock_of_delivery (c : Custody s) (hv : v ∈ s.jobs) {e : Errand}
    (move : v.stage.step s.arena v.handle (s.settings v.thread) supply fault = some turn)
    (stage : v.stage = .store e (.live b)) :
    s.stock v.handle = [] ∧ (s.after i v turn).stock v.handle =
      Part.all.map (.mk v.handle ((s.after i v turn).books.origins.getD b 0)) := by
  refine ⟨stock_of_ne (c.slot_of_store hv stage), stock_of_live ?_⟩
  rw [stage] at move
  cases Operation.stride_of_step move with
  | store => exact Arena.slot_setSlot_self _ (c.known v hv)

theorem stock_of_collection (num : Numbered s) (c : Custody s) (hv : v ∈ s.jobs)
    (move : v.stage.step s.arena v.handle (s.settings v.thread) supply fault = some turn)
    (stage : v.stage = .clear b) :
    s.stock v.handle =
        Part.all.map (.mk v.handle ((s.after i v turn).books.origins.getD b 0)) ∧
      (s.after i v turn).stock v.handle = [] := by
  have fits := c.fits v hv
  rw [stage] at fits move
  have live : s.arena.slot v.handle = .live b := fits.1
  refine ⟨?_, stock_of_ne fun b' => ?_⟩
  · rw [stock_of_live live,
      origin_after num (c.lt_of_owned (Nat.add_pos_right _ (Arena.owning_pos live)))]
  · obtain rfl := Option.some.inj move
    have empty : (s.arena.setSlot v.handle .empty).slot v.handle = .empty :=
      Arena.slot_setSlot_self _ (c.known v hv)
    intro live
    cases empty.symm.trans live

/-- What a turn makes, with what was in stock and in hand before, is what it tears down, with what
is in stock and in hand after. -/
theorem turn_balance (num : Numbered s) (c : Custody s) (hv : v ∈ s.jobs)
    (move : v.stage.step s.arena v.handle (s.settings v.thread) supply fault = some turn) :
    ((Event.madeIn turn.events).map (Piece.mk v.handle (v.source s.books)) ++
        (s.stock v.handle ++ v.pieces s.books)).Perm
      ((Event.tornIn turn.events).map (Piece.mk v.handle (v.source s.books)) ++
        ((s.after i v turn).stock v.handle ++
          (v.enter s.books turn.stage).pieces (s.after i v turn).books)) := by
  have still := stock_after_self (i := i) num c hv (c.deed hv move)
  have origin (b : Nat) (owns : v.stage.hands.owns = some b) :
      (s.after i v turn).books.origins.getD b 0 = s.books.origins.getD b 0 :=
    origin_after num (c.lt_of_owned (Nat.add_pos_left (Custody.owns_pos hv owns) _))
  have holding (b : Nat) (owns : turn.stage.hands.owns = some b) :
      (v.enter s.books turn.stage).pieces (s.after i v turn).books =
        turn.stage.parts.map (.mk v.handle ((s.after i v turn).books.origins.getD b 0)) :=
    Job.pieces_of_owns owns
  have haul := Operation.step_haul move
  generalize Event.madeIn turn.events = made at haul ⊢
  generalize Event.tornIn turn.events = torn at haul ⊢
  obtain ⟨op, stage⟩ : ∃ op, v.stage = op := ⟨_, rfl⟩
  obtain ⟨op', stage'⟩ : ∃ op', turn.stage = op' := ⟨_, rfl⟩
  rw [stage, stage'] at haul
  rw [stage] at still
  cases haul with
  | idle none aside idle =>
    rw [still aside]
    simp [Job.pieces, Job.enter, stage, stage', none, idle.1]
  | @builds e k k' made torn works =>
    rw [still rfl]
    simp only [Job.pieces, Job.enter, Job.origin, Job.source, Operation.hands, Operation.parts,
      stage, stage', works.begun e, Bool.false_eq_true, if_false]
    refine List.perm_iff_count.mpr fun p => ?_
    have counted := congrArg (fun l => (l.map (Piece.mk v.handle v.build)).count p) works.balance
    simp only [List.map_append, List.count_append] at counted ⊢
    omega
  | @adopts e x b =>
    rw [still rfl, holding b (by rw [stage']; rfl), origin_of_adopted num move stage stage']
    simp [Job.pieces, Job.origin, Operation.hands, Operation.parts, stage, stage',
      Construction.parts]
  | @carries _ _ b owns aside owns' same =>
    rw [← stage] at owns
    rw [still aside, Job.pieces_of_owns owns, holding b (stage' ▸ owns'), origin b owns, stage,
      stage', same]
  | @delivers e b n =>
    have owns : v.stage.hands.owns = some b := by rw [stage]; rfl
    obtain ⟨before, after⟩ := stock_of_delivery (i := i) c hv move stage
    rw [before, after, Job.pieces_of_owns owns, origin b owns]
    simp [stage, stage', Job.pieces, Job.enter, Operation.parts]
  | @collects b =>
    obtain ⟨before, after⟩ := stock_of_collection (i := i) num c hv move stage
    rw [before, after, holding b (by rw [stage']; rfl)]
    simp [stage, stage', Job.pieces, Operation.parts]
  | @dismantles b k k' torn perm =>
    have owns : v.stage.hands.owns = some b := by rw [stage]; rfl
    rw [still rfl, Job.pieces_of_owns owns, holding b (by rw [stage']; rfl), origin b owns]
    simp only [Job.source, Operation.parts, stage, stage']
    refine List.perm_iff_count.mpr fun p => ?_
    have counted := (perm.map (Piece.mk v.handle (s.books.origins.getD b 0))).count_eq p
    simp only [List.map_append, List.count_append, List.map_nil, List.count_nil] at counted ⊢
    omega

/-! ## The inventory -/

structure Inventory (s : Traffic) : Prop where
  balance : ∀ p, s.books.made.count p =
    s.books.tornDown.count p + s.jobs.countP (Job.has s.books p) + (s.stock p.handle).count p
  once : ∀ p, s.books.made.count p ≤ 1

namespace Inventory

theorem goes (inv : Inventory s) (rec : Recorded s) (num : Numbered s) (c : Custody s)
    (hv : s.jobs[i]? = some v)
    (move : v.stage.step s.arena v.handle (s.settings v.thread) supply fault = some turn) :
    Inventory (s.after i v turn) := by
  have mem := List.mem_of_getElem? hv
  refine ⟨fun p => ?balance, fun p => ?once⟩
  case balance =>
    have jobs := countP_set_add (Job.has (s.after i v turn).books p) (v.enter s.books turn.stage) hv
    have others : s.jobs.countP (Job.has (s.after i v turn).books p) =
        s.jobs.countP (Job.has s.books p) :=
      List.countP_congr fun w hw => by rw [Job.has, Job.has, pieces_after num c hw]
    rw [others, Job.toNat_has, Job.toNat_has, pieces_after num c mem] at jobs
    have before := inv.balance p
    have turned := (turn_balance (i := i) num c mem move).count_eq p
    have stocks : (s.stock p.handle).count p + ((s.after i v turn).stock v.handle).count p =
        ((s.after i v turn).stock p.handle).count p + (s.stock v.handle).count p := by
      by_cases here : p.handle = v.handle
      · rw [here]
        omega
      · rw [count_stock_of_ne here, count_stock_of_ne here,
          stock_after num c (.inl ((c.deed mem move).slot_of_ne here))]
    rw [made_after, tornDown_after]
    show _ = _ + (s.jobs.set i (v.enter s.books turn.stage)).countP _ + _
    simp only [List.count_append] at turned ⊢
    omega
  case once =>
    rw [made_after, List.count_append]
    by_cases there : p ∈ (Event.madeIn turn.events).map (.mk v.handle (v.source s.books))
    · obtain ⟨q, made, rfl⟩ := List.mem_map.mp there
      obtain ⟨e, k, k', stage, -, works⟩ := (Operation.step_haul move).builds_of_mem made
      obtain ⟨parties, shared, inputs, -, rfl, told, -⟩ := rec.building v mem e k stage
      -- what was made under this number before cannot be made again
      have unmade : Piece.mk v.handle (v.source s.books) q ∉ s.books.made := fun old => by
        have filed : q ∈ partsOf s.books.made (v.source s.books) := mem_partsOf old
        simp only [Job.source, stage, told] at filed
        exact works.fresh q made (Construction.past_of_trail (.inr filed))
      rw [List.count_eq_zero.mpr unmade, Nat.zero_add]
      refine Nat.le_trans List.count_le_length ?_
      rw [List.length_map]
      exact works.single
    · rw [List.count_eq_zero.mpr there]
      exact inv.once p

theorem begins (inv : Inventory s) (thread handle : Nat) (purpose : Purpose) :
    Inventory { s with jobs := s.jobs ++ [{ thread, handle, purpose, stage := purpose.first }] } := by
  refine ⟨fun p => ?_, inv.once⟩
  rw [inv.balance p]
  have nothing : Job.has s.books p { thread, handle, purpose, stage := purpose.first } = false := by
    cases purpose <;> rfl
  simp [nothing, stock]

theorem start (handles : List (Option UInt32)) (settings : Nat → Cancellation) :
    Inventory (start handles settings) := by
  refine ⟨fun p => ?_, fun p => Nat.zero_le 1⟩
  rw [stock_of_ne (s := Traffic.start handles settings)
    (Arena.slot_declared_ne_live handles p.handle)]
  rfl

theorem step (inv : Inventory s) (rec : Recorded s) (num : Numbered s) (c : Custody s)
    (move : s.step mayFail m = some t) : Inventory t := by
  cases step_effect move with
  | begins => exact inv.begins ..
  | goes hv _ moved => exact inv.goes rec num c hv moved
  | sets => exact ⟨inv.balance, inv.once⟩

theorem of_reaches {handles : List (Option UInt32)} {settings : Nat → Cancellation}
    (run : Schedule.Reaches (Traffic.step mayFail) (Traffic.start handles settings) s) :
    Recorded s ∧ Inventory s := by
  have kept := run.keeps (P := fun s => Custody s ∧ Numbered s ∧ Recorded s ∧ Inventory s)
    (fun ⟨c, num, rec, inv⟩ move =>
      ⟨c.step move, num.step c move, rec.step num c move, inv.step rec num c move⟩)
    ⟨.start handles settings, .start handles settings, .start handles settings,
      start handles settings⟩
  exact kept.2.2

end Inventory

/-! ## When nobody is in a call -/

/-- How many locks of a handle's barriers are on the list. -/
def locksOf (h : Nat) (pieces : List Piece) : Nat :=
  (pieces.filter fun p => p.handle == h).countP fun p => p.part == .lock

/-- How many gates of a handle's barriers are on the list. -/
def gatesOf (h : Nat) (pieces : List Piece) : Nat :=
  (pieces.filter fun p => p.handle == h).countP fun p => p.part != .lock

/-- Nobody is in a call on the handle. -/
def Quiet (s : Traffic) (h : Nat) : Prop := ∀ v ∈ s.jobs, v.handle = h → v.stage.isOver = true

theorem Inventory.settled (inv : Inventory s) (quiet : s.Quiet h) :
    (s.books.made.filter fun p => p.handle == h).Perm
      ((s.books.tornDown.filter fun p => p.handle == h) ++ s.stock h) := by
  refine List.perm_iff_count.mpr fun p => ?_
  rw [List.count_append]
  by_cases here : p.handle = h
  · have idle : s.jobs.countP (Job.has s.books p) = 0 := by
      refine List.countP_eq_zero.mpr fun v hv has => ?_
      have there : p ∈ v.pieces s.books := List.contains_iff_mem.mp has
      obtain ⟨q, parts, rfl⟩ := List.mem_map.mp there
      have ended := quiet v hv here
      cases stage : v.stage with
      | finished r =>
        rw [stage] at parts
        cases parts
      | _ =>
        rw [stage] at ended
        cases ended
    have kept (l : List Piece) : (l.filter fun p => p.handle == h).count p = l.count p :=
      List.count_filter (beq_iff_eq.mpr here)
    rw [kept, kept, inv.balance p, idle, here]
    rfl
  · have none (l : List Piece) : (l.filter fun p => p.handle == h).count p = 0 :=
      List.count_eq_zero.mpr fun there => here (by simpa using (List.mem_filter.mp there).2)
    rw [none, none, count_stock_of_ne here]

/-- How many pieces of a kind are made and not torn down. -/
theorem Inventory.left (inv : Inventory s) (quiet : s.Quiet h) (kind : Part → Bool) :
    (s.books.made.filter fun p => p.handle == h).countP (fun p => kind p.part) =
      (s.books.tornDown.filter fun p => p.handle == h).countP (fun p => kind p.part) +
        if (s.arena.slot h).status = .live then Part.all.countP kind else 0 := by
  rw [(inv.settled quiet).countP_eq, List.countP_append]
  congr 1
  cases slot : s.arena.slot h with
  | live b =>
    rw [stock_of_live slot, List.countP_map]
    rfl
  | _ =>
    rw [stock_of_ne (by rw [slot]; nofun)]
    rfl

/-! ## All of it -/

/-- Whatever fails, no piece of a barrier is leaked and none is torn down twice. At any time a
piece that was made is torn down, in the hands of one call, or in its slot (`Inventory.balance`);
where nobody is in a call on a handle, only the slot is left, which is what the counts say. A
construction that fails has torn down what it made, newest first, whatever it was that stopped it
(`Construction.Failure`). -/
theorem inventory_exact {handles : List (Option UInt32)} {settings : Nat → Cancellation}
    (run : Schedule.Reaches (step mayFail) (start handles settings) s) :
    -- every lock and every gate is made once and torn down at most once, after it was made
    (∀ p, s.books.tornDown.count p ≤ s.books.made.count p ∧ s.books.made.count p ≤ 1) ∧
      -- when nobody is in a call on a handle, it has one lock and two gates if its slot owns a
      -- barrier, and none otherwise
      (∀ h, s.Quiet h →
        locksOf h s.books.made = locksOf h s.books.tornDown +
            (if (s.arena.slot h).status = .live then 1 else 0) ∧
          gatesOf h s.books.made = gatesOf h s.books.tornDown +
            if (s.arena.slot h).status = .live then 2 else 0) ∧
      -- a construction that has failed on behalf of a call has torn down what it made, newest
      -- first, and the call answers what stopped it
      (∀ (i : Nat) v e err, s.jobs[i]? = some v → v.stage = .build e (.finished (.error err)) →
        Settles mayFail s i (.error err) ∧ ∃ parties shared events, e.Orders parties shared ∧
          Construction.Failure parties shared events err ∧ Told s.books v.build events ∧
          Event.tornIn events = (Event.madeIn events).reverse) ∧
      -- and so does every construction, whoever asks for it
      ∀ parties shared inputs err,
        ((Construction.check parties shared).trail inputs).1 = .finished (.error err) →
          Construction.Failure parties shared ((Construction.check parties shared).trail inputs).2
              err ∧
            Event.tornIn ((Construction.check parties shared).trail inputs).2 =
              (Event.madeIn ((Construction.check parties shared).trail inputs).2).reverse := by
  obtain ⟨rec, inv⟩ := Inventory.of_reaches run
  refine ⟨fun p => ⟨?_, inv.once p⟩, fun h quiet => ⟨?_, ?_⟩, fun i v e err hv stage => ⟨?_, ?_⟩,
    fun parties shared inputs err failed => ?_⟩
  · have balance := inv.balance p
    omega
  · exact inv.left quiet fun q => q == .lock
  · exact inv.left quiet fun q => q != .lock
  · exact settles_of_answer? hv (by rw [stage]; rfl)
  · obtain ⟨parties, shared, inputs, orders, failed, told⟩ :=
      rec.building v (List.mem_of_getElem? hv) e _ stage
    have failure := Construction.failed_of_trail failed
    exact ⟨parties, shared, _, orders, failure, told, failure.torn_eq⟩
  · have failure := Construction.failed_of_trail failed
    exact ⟨failure, failure.torn_eq⟩

/-- A thread waits at a handle for one that was never used, and the second gate of its barrier
cannot be made. -/
def firstTry : List Move :=
  .begin 0 0 (.inquire .wait) :: Move.goes 0 9 ++ [.go 0 {} (some (.system "sem_init" 28))] ++
    Move.goes 0 2

def failedOnce : Traffic :=
  (Schedule.run (step anything) (start [some 1] fun _ => {}) firstTry).get (by decide)

/-- It is told so, tries once more, and this time it gets its barrier and passes it. -/
def secondTry : List Move :=
  firstTry ++ Move.goes 0 3 ++ [.begin 0 0 (.inquire .wait)] ++ Move.goes 1 24

def builtAtLast : Traffic :=
  (Schedule.run (step anything) (start [some 1] fun _ => {}) secondTry).get (by decide)

theorem inventory_exact_secondTry :
    Schedule.Reaches (step anything) (start [some 1] fun _ => {}) failedOnce ∧
      Settles anything failedOnce 0 (.error (.primitive (.system "sem_init" 28))) ∧
      Schedule.Reaches (step anything) (start [some 1] fun _ => {}) builtAtLast ∧
      builtAtLast.Quiet 0 ∧
      locksOf 0 builtAtLast.books.made = 2 ∧ gatesOf 0 builtAtLast.books.made = 3 ∧
      (∀ p, builtAtLast.books.made.count p ≤ 1) := by
  have failing := Schedule.reaches_get (show (Schedule.run (step anything)
    (start [some 1] fun _ => {}) firstTry).isSome by decide)
  have built := Schedule.reaches_get (show (Schedule.run (step anything)
    (start [some 1] fun _ => {}) secondTry).isSome by decide)
  have quiet : builtAtLast.Quiet 0 := by
    have ended : builtAtLast.jobs.all fun v => v.stage.isOver := by decide
    exact fun v hv _ => List.all_eq_true.mp ended v hv
  obtain ⟨-, -, fails, -⟩ := inventory_exact failing
  obtain ⟨once, settled, -⟩ := inventory_exact built
  obtain ⟨locks, gates⟩ := settled 0 quiet
  refine ⟨failing, (fails 0 _ _ _ rfl rfl).1, built, quiet, ?_, ?_, fun p => (once p).2⟩
  · exact locks.trans (by decide)
  · exact gates.trans (by decide)

end Traffic

end Rendezvous
