import Mathlib.Data.List.Nodup
import Rendezvous.Proofs.Runs
import Rendezvous.Script.Begin

/-!
# Tidying up once

Whoever registers a cleanup routine owns the registration, and the routine lies in it until it is
taken out. Every owner goes in the end, and on its way out runs what still lies there. A pop takes
the routine out first, and runs it or not; its owner goes afterwards like any other. So once-only
rests on the cell that is empty from the first taking on, and a `Book` keeps all cells that there
ever were, under their numbers.

The book is not told what the thread still has on its stack, nor the stack what lies in the cells.
That the two agree, action by action, is one half of what is shown here (`Kept.comes`); the other
half is that every number is at any time in one place only, among the owners, among the routines
that have run, or among the dismissed (`Kept.parted`). Between its actions anything may happen to
the world, and the routines themselves change it, but neither touches a thread's stack.
-/

set_option autoImplicit false

namespace Rendezvous.Tidying

open Script

/-! ## The book of registrations -/

variable {ρ : Type}

structure Book (ρ : Type) where
  /-- What was registered, in order. -/
  made : List ρ := []
  /-- A registration's routine, until it is taken out. -/
  cells : List (Option ρ) := []
  /-- The registrations that still have an owner, newest first. -/
  owners : List Nat := []
  /-- The registrations whose routines have run, in order. -/
  ran : List Nat := []
  /-- Those whose routines were taken out and not run. -/
  dismissed : List Nat := []
  deriving DecidableEq, Repr

namespace Book

/-- Takes the routine out of a registration, if it is still there. -/
def take (b : Book ρ) (k : Nat) : Option ρ × Book ρ :=
  (b.cells[k]?.join, { b with cells := b.cells.set k none })

/-- An owner goes, and runs what it still has. -/
def leave (b : Book ρ) (k : Nat) : Book ρ :=
  match b.take k with
  | (some _, b) => { b with ran := b.ran ++ [k] }
  | (none, b) => b

/-- A registration is popped, and then its owner goes. -/
def pop (b : Book ρ) (k : Nat) (execute : Bool) : Book ρ :=
  match b.take k with
  | (some _, b) =>
      if execute then { b with ran := b.ran ++ [k] }.leave k
      else { b with dismissed := b.dismissed ++ [k] }.leave k
  | (none, b) => b.leave k

def act (b : Book ρ) : Cleanup.Action ρ → Option (Book ρ)
  | .push routine =>
      some { b with
        made := b.made ++ [routine]
        cells := b.cells ++ [some routine]
        owners := b.made.length :: b.owners }
  | .pop execute =>
      match b.owners with
      | [] => none
      | newest :: rest => some ({ b with owners := rest }.pop newest execute)
  | .drop =>
      match b.owners with
      | [] => none
      | newest :: rest => some ({ b with owners := rest }.leave newest)
  | .unwind => some (b.owners.foldl leave { b with owners := [] })

/-- The routines that were registered under these numbers. -/
def routines (b : Book ρ) (ks : List Nat) : List ρ := ks.filterMap (b.made[·]?)

/-- What an action has to run, in order. -/
def due (b : Book ρ) : Cleanup.Action ρ → List Nat
  | .push _ | .pop false => []
  | .pop true | .drop => b.owners.take 1
  | .unwind => b.owners

/-- What an action lets go without running it. -/
def spared (b : Book ρ) : Cleanup.Action ρ → List Nat
  | .pop false => b.owners.take 1
  | _ => []

/-- Every registration is in one place, and its routine lies there as long as it has an owner. -/
structure Kept (b : Book ρ) : Prop where
  length_cells : b.cells.length = b.made.length
  cell (k : Nat) : b.cells[k]?.join = if k ∈ b.owners then b.made[k]? else none
  parted : (b.owners ++ (b.ran ++ b.dismissed)).Perm (List.range b.made.length)
  newest : b.owners.Pairwise (· > ·)

/-- Empties these cells. -/
def clear (cells : List (Option ρ)) (ks : List Nat) : List (Option ρ) :=
  ks.foldl (fun cells k => cells.set k none) cells

/-- Some registrations come to an end, some by running and some not; the rest keeps its owners. -/
def settle (b : Book ρ) (runs lets rest : List Nat) : Book ρ :=
  { b with
    cells := clear b.cells (runs ++ lets)
    owners := rest
    ran := b.ran ++ runs
    dismissed := b.dismissed ++ lets }

variable {b b' : Book ρ} {cells : List (Option ρ)} {k : Nat} {ks runs lets rest : List Nat} {r : ρ}
  {a : Cleanup.Action ρ}

/-! ### Cells -/

theorem length_clear (cells : List (Option ρ)) (ks : List Nat) :
    (clear cells ks).length = cells.length := by
  induction ks generalizing cells with
  | nil => rfl
  | cons k rest ih => exact (ih _).trans List.length_set

theorem join_getElem?_set (cells : List (Option ρ)) (i j : Nat) :
    (cells.set i none)[j]?.join = if j = i then none else cells[j]?.join := by
  rw [List.getElem?_set]
  by_cases same : i = j
  · subst same
    rw [if_pos rfl, if_pos rfl]
    split <;> rfl
  · rw [if_neg same, if_neg (Ne.symm same)]

theorem join_getElem?_clear (cells : List (Option ρ)) (ks : List Nat) (j : Nat) :
    (clear cells ks)[j]?.join = if j ∈ ks then none else cells[j]?.join := by
  induction ks generalizing cells with
  | nil => rfl
  | cons k rest ih =>
    rw [clear, List.foldl_cons, ← clear, ih, join_getElem?_set]
    by_cases same : j = k
    · simp [same]
    · simp [same]

/-- What is empty stays as it is. -/
theorem set_none_of_empty (empty : cells[k]?.join = none) : cells.set k none = cells := by
  apply List.ext_getElem?
  intro j
  rw [List.getElem?_set]
  split
  · next same =>
    subst same
    split
    · next there =>
      rw [List.getElem?_eq_getElem there] at empty ⊢
      exact congrArg some (show none = cells[k] from empty.symm)
    · next out => exact (List.getElem?_eq_none (Nat.le_of_not_lt out)).symm
  · rfl

/-! ### Owners that go -/

theorem leave_of_full (full : b.cells[k]?.join = some r) :
    b.leave k = { b with cells := b.cells.set k none, ran := b.ran ++ [k] } := by
  simp only [leave, take, full]

/-- Where nothing is left the owner goes without a sound. -/
theorem leave_of_empty (empty : b.cells[k]?.join = none) : b.leave k = b := by
  simp only [leave, take, empty, set_none_of_empty empty]

theorem leave_of_taken (cells : List (Option ρ)) (same : b.cells = cells.set k none) :
    b.leave k = b := by
  apply leave_of_empty
  rw [same, join_getElem?_set, if_pos rfl]

theorem pop_of_full (full : b.cells[k]?.join = some r) (execute : Bool) :
    b.pop k execute =
      { b with
        cells := b.cells.set k none
        ran := if execute then b.ran ++ [k] else b.ran
        dismissed := if execute then b.dismissed else b.dismissed ++ [k] } := by
  simp only [pop, take, full]
  cases execute with
  | true => exact leave_of_taken b.cells rfl
  | false => exact leave_of_taken b.cells rfl

/-- Several owners go one after the other, each with its routine. -/
theorem foldl_leave (once : ks.Nodup) (full : ∀ k ∈ ks, (b.cells[k]?.join).isSome) :
    ks.foldl leave b = { b with cells := clear b.cells ks, ran := b.ran ++ ks } := by
  induction ks generalizing b with
  | nil => simp [clear]
  | cons k rest ih =>
    obtain ⟨r, here⟩ := Option.isSome_iff_exists.mp (full k List.mem_cons_self)
    obtain ⟨out, once⟩ := List.nodup_cons.mp once
    rw [List.foldl_cons, leave_of_full here, ih once]
    · simp [clear]
    · intro j hj
      have other : j ≠ k := fun same => out (same ▸ hj)
      rw [join_getElem?_set, if_neg other]
      exact full j (List.mem_cons_of_mem _ hj)

/-! ### The invariant -/

theorem kept_empty : Kept ({} : Book ρ) := ⟨rfl, fun _ => rfl, .nil, .nil⟩

namespace Kept

theorem lt (h : b.Kept) (owned : k ∈ b.owners) : k < b.made.length :=
  List.mem_range.mp (h.parted.subset (List.mem_append_left _ owned))

theorem nodup_owners (h : b.Kept) : b.owners.Nodup := h.newest.imp Nat.ne_of_gt

theorem full (h : b.Kept) (owned : k ∈ b.owners) :
    ∃ r, b.made[k]? = some r ∧ b.cells[k]?.join = some r := by
  obtain ⟨r, made⟩ : ∃ r, b.made[k]? = some r := ⟨_, List.getElem?_eq_getElem (h.lt owned)⟩
  exact ⟨r, made, by rw [h.cell, if_pos owned, made]⟩

/-- A registration is added, and is the newest. -/
theorem push (h : b.Kept) (routine : ρ) : Kept
    { b with
      made := b.made ++ [routine]
      cells := b.cells ++ [some routine]
      owners := b.made.length :: b.owners } where
  length_cells := by simp [h.length_cells]
  cell j := by
    show (b.cells ++ [some routine])[j]?.join = if j ∈ b.made.length :: b.owners then _ else _
    rcases Nat.lt_trichotomy j b.made.length with low | rfl | high
    · have old : j ∈ b.made.length :: b.owners ↔ j ∈ b.owners := by
        simp [Nat.ne_of_lt low]
      rw [List.getElem?_append_left (h.length_cells ▸ low), List.getElem?_append_left low, h.cell]
      simp only [old]
    · rw [← h.length_cells, List.getElem?_concat_length, h.length_cells,
        if_pos List.mem_cons_self, List.getElem?_concat_length]
      rfl
    · have out : (b.made ++ [routine])[j]? = none :=
        List.getElem?_eq_none (by simpa using Nat.succ_le_of_lt high)
      have out' : (b.cells ++ [some routine])[j]? = none :=
        List.getElem?_eq_none (by simpa [h.length_cells] using Nat.succ_le_of_lt high)
      rw [out, out', ite_self]
      rfl
  parted := by
    rw [List.length_append, List.length_singleton, List.range_succ]
    exact (List.Perm.cons _ h.parted).trans (List.perm_append_singleton _ _).symm
  newest := List.pairwise_cons.mpr ⟨fun _ owned => h.lt owned, h.newest⟩

/-- The newest registrations come to an end. -/
theorem settle (h : b.Kept) (split : b.owners = runs ++ lets ++ rest) :
    (b.settle runs lets rest).Kept where
  length_cells := (length_clear ..).trans h.length_cells
  cell j := by
    show (clear b.cells (runs ++ lets))[j]?.join = if j ∈ rest then b.made[j]? else none
    have apart := List.disjoint_of_nodup_append (split ▸ h.nodup_owners)
    rw [join_getElem?_clear, h.cell, split]
    by_cases gone : j ∈ runs ++ lets
    · rw [if_pos gone, if_neg (apart gone)]
    · have still : j ∈ runs ++ lets ++ rest ↔ j ∈ rest := by rw [List.mem_append, or_iff_right gone]
      rw [if_neg gone]
      simp only [still]
  parted := by
    refine .trans (List.perm_iff_count.mpr fun j => ?_) h.parted
    simp only [Book.settle, split, List.count_append]
    omega
  newest := (List.pairwise_append.mp (split ▸ h.newest)).2.1

/-! ### What actions do -/

theorem act_pop (h : b.Kept) (split : b.owners = k :: rest) (execute : Bool) :
    b.act (.pop execute) =
      some (b.settle (if execute then [k] else []) (if execute then [] else [k]) rest) := by
  obtain ⟨r, -, full⟩ := h.full (split ▸ List.mem_cons_self)
  simp only [act, split]
  rw [pop_of_full (b := { b with owners := rest }) full]
  cases execute <;> simp [Book.settle, clear]

theorem act_drop (h : b.Kept) (split : b.owners = k :: rest) :
    b.act .drop = some (b.settle [k] [] rest) := by
  obtain ⟨r, -, full⟩ := h.full (split ▸ List.mem_cons_self)
  simp only [act, split]
  rw [leave_of_full (b := { b with owners := rest }) full]
  simp [Book.settle, clear]

theorem act_unwind (h : b.Kept) : b.act .unwind = some (b.settle b.owners [] []) := by
  simp only [act]
  rw [foldl_leave (b := { b with owners := [] }) h.nodup_owners]
  · simp [Book.settle]
  · intro k owned
    obtain ⟨r, -, full⟩ := h.full owned
    exact Option.isSome_of_eq_some full

end Kept

theorem routines_cons (here : b.made[k]? = some r) (ks : List Nat) :
    b.routines (k :: ks) = r :: b.routines ks := by
  rw [routines, List.filterMap_cons, here, routines]

/-- What an action comes to: what has run, what was let go, and that the stack has lost and kept the
same routines as the book. -/
structure Comes (b : Book ρ) (a : Cleanup.Action ρ) (b' : Book ρ) : Prop where
  kept : b'.Kept
  ran : b'.ran = b.ran ++ b.due a
  dismissed : b'.dismissed = b.dismissed ++ b.spared a
  stack : Cleanup.step (b.routines b.owners) a =
    some ⟨b.routines (b.due a), b'.routines b'.owners⟩

namespace Kept

theorem comes (h : b.Kept) (acted : b.act a = some b') : Comes b a b' := by
  cases a with
  | push routine =>
    obtain rfl := Option.some.inj acted
    refine ⟨h.push routine, by simp [due], by simp [spared], ?_⟩
    have new : (b.made ++ [routine])[b.made.length]? = some routine := List.getElem?_concat_length
    have old : b.owners.filterMap ((b.made ++ [routine])[·]?) = b.owners.filterMap (b.made[·]?) :=
      List.filterMap_congr fun k owned => List.getElem?_append_left (h.lt owned)
    simp only [Cleanup.step, due, routines, List.filterMap_nil, List.filterMap_cons, new, old]
  | pop execute =>
    cases split : b.owners with
    | nil => simp [act, split] at acted
    | cons k rest =>
      obtain ⟨r, here, -⟩ := h.full (split ▸ List.mem_cons_self)
      obtain rfl := Option.some.inj ((h.act_pop split execute).symm.trans acted)
      have one : b.owners.take 1 = [k] := by rw [split]; rfl
      refine ⟨h.settle (by cases execute <;> exact split), ?_, ?_, ?_⟩
      · cases execute <;> simp [due, one, Book.settle]
      · cases execute <;> simp [spared, one, Book.settle]
      · rw [split, routines_cons here]
        cases execute with
        | true =>
          rw [due, one, routines_cons here]
          rfl
        | false => rfl
  | drop =>
    cases split : b.owners with
    | nil => simp [act, split] at acted
    | cons k rest =>
      obtain ⟨r, here, -⟩ := h.full (split ▸ List.mem_cons_self)
      obtain rfl := Option.some.inj ((h.act_drop split).symm.trans acted)
      have one : b.owners.take 1 = [k] := by rw [split]; rfl
      refine ⟨h.settle split, by rw [due, one]; rfl, by simp [spared, Book.settle], ?_⟩
      rw [split, routines_cons here, due, one, routines_cons here]
      rfl
  | unwind =>
    obtain rfl := Option.some.inj (h.act_unwind.symm.trans acted)
    exact ⟨h.settle (by simp), rfl, by simp [spared, Book.settle], rfl⟩

/-- The book lets an action pass just if the stack does. -/
theorem act_eq_none_iff (h : b.Kept) :
    b.act a = none ↔ Cleanup.step (b.routines b.owners) a = none := by
  refine ⟨fun stuck => ?_, fun stuck => ?_⟩
  · have bare : b.owners = [] ∧ ∀ stack : List ρ, stack = [] → Cleanup.step stack a = none := by
      cases a with
      | push routine => cases stuck
      | unwind => cases stuck
      | pop execute =>
        refine ⟨?_, by rintro _ rfl; rfl⟩
        cases split : b.owners with
        | nil => rfl
        | cons k rest => cases (h.act_pop split execute).symm.trans stuck
      | drop =>
        refine ⟨?_, by rintro _ rfl; rfl⟩
        cases split : b.owners with
        | nil => rfl
        | cons k rest => cases (h.act_drop split).symm.trans stuck
    exact bare.2 _ (by rw [bare.1]; rfl)
  · cases acted : b.act a with
    | none => rfl
    | some b' => cases (h.comes acted).stack.symm.trans stuck

theorem count_ran (h : b.Kept) (k : Nat) : b.ran.count k ≤ 1 := by
  have all := h.parted.count_eq k
  have once := List.nodup_iff_count_le_one.mp (List.nodup_range (n := b.made.length)) k
  rw [List.count_append, List.count_append] at all
  omega

/-- What has run was not dismissed. -/
theorem not_ran_of_dismissed (h : b.Kept) (let_go : k ∈ b.dismissed) : k ∉ b.ran := by
  intro ran
  have all := h.parted.count_eq k
  have once := List.nodup_iff_count_le_one.mp (List.nodup_range (n := b.made.length)) k
  have := List.count_pos_iff.mpr ran
  have := List.count_pos_iff.mpr let_go
  rw [List.count_append, List.count_append] at all
  omega

end Kept

end Book

/-! ## The thread and its world -/

/-- A world, and the book of one of its threads. -/
structure Scene where
  world : World
  book : Book Routine := {}

inductive Move where
  /-- The thread does something about its own registrations. -/
  | own (action : Cleanup.Action Routine)
  /-- Something else happens, and the world is this afterwards. -/
  | other (w : World)

/-- Threads neither come nor go, and a thread's registrations are nobody else's business. -/
def Keeps (t : Nat) (w w' : World) : Prop :=
  w'.threads.size = w.threads.size ∧ (w'.thread t).cleanups = (w.thread t).cleanups

instance (t : Nat) (w w' : World) : Decidable (Keeps t w w') :=
  inferInstanceAs (Decidable (_ ∧ _))

def step (t : Nat) (s : Scene) : Move → Option Scene
  | .own a => (s.book.act a).map fun book => ⟨(s.world.cleanUp t a).1, book⟩
  | .other w => if Keeps t s.world w then some { s with world := w } else none

variable {t : Nat} {w w' : World} {s u v : Scene} {m : Move} {moves later : List Move}
  {a : Cleanup.Action Routine} {k : Nat}

theorem Keeps.refl (t : Nat) (w : World) : Keeps t w w := ⟨rfl, rfl⟩

theorem Keeps.trans {w'' : World} (h : Keeps t w w') (h' : Keeps t w' w'') : Keeps t w w'' :=
  ⟨h'.1.trans h.1, h'.2.trans h.2⟩

theorem keeps_setCancel (w : World) (t : Nat) (c : Cancellation) : Keeps t w (w.setCancel t c) := by
  refine ⟨Array.size_setIfInBounds, ?_⟩
  by_cases there : t < w.threads.size
  · simp [World.setCancel, World.setThread, World.thread, there]
  · simp [World.setCancel, World.setThread, World.thread, there]

/-- A routine changes a lock and its own thread's settings, and nothing that lies on a stack. -/
theorem keeps_runRoutine (w : World) (t : Nat) (r : Routine) : Keeps t w (w.runRoutine t r) := by
  have unlocked (w' : World) (h : Keeps t w w') :
      Keeps t w (if r.cancels then w'.setCancel t (w'.thread t).cancel.request else w') := by
    split
    · exact h.trans (keeps_setCancel ..)
    · exact h
  apply unlocked
  split
  · split <;> exact .refl ..
  · exact .refl ..

theorem keeps_foldl (w : World) (t : Nat) (rs : List Routine) :
    Keeps t w (rs.foldl (World.runRoutine · t ·) w) := by
  induction rs generalizing w with
  | nil => exact .refl t w
  | cons r rest ih => exact (keeps_runRoutine w t r).trans (ih _)

/-- The world after an action that ran these routines and left those on the stack. -/
def afterwards (w : World) (t : Nat) (ran rest : List Routine) (notices : List Notice) : World :=
  (ran.foldl (World.runRoutine · t ·)
    (w.setThread t { w.thread t with cleanups := rest })).log t 0 [] notices

theorem cleanups_afterwards (there : t < w.threads.size) (ran rest : List Routine)
    (notices : List Notice) :
    (afterwards w t ran rest notices).threads.size = w.threads.size ∧
      ((afterwards w t ran rest notices).thread t).cleanups = rest := by
  obtain ⟨size, same⟩ := keeps_foldl (w.setThread t { w.thread t with cleanups := rest }) t ran
  refine ⟨size.trans Array.size_setIfInBounds, same.trans ?_⟩
  simp [World.setThread, World.thread, there]

theorem cleanUp_of_step {effect : Cleanup.Effect Routine}
    (h : Cleanup.step (w.thread t).cleanups a = some effect) :
    (w.cleanUp t a).2 = some effect.ran ∧
      ∃ notices, (w.cleanUp t a).1 = afterwards w t effect.ran effect.rest notices := by
  unfold World.cleanUp
  rw [h]
  exact ⟨rfl, _, rfl⟩

theorem cleanUp_of_stuck (h : Cleanup.step (w.thread t).cleanups a = none) :
    (w.cleanUp t a).2 = none := by
  unfold World.cleanUp
  rw [h]

/-- The thread's stack is what the book says. -/
structure Faithful (t : Nat) (s : Scene) : Prop where
  there : t < s.world.threads.size
  kept : s.book.Kept
  stack : (s.world.thread t).cleanups = s.book.routines s.book.owners

/-- What an action of the thread does to the world. -/
theorem Faithful.cleanUp (h : Faithful t s) {book : Book Routine}
    (acted : s.book.act a = some book) :
    (s.world.cleanUp t a).2 = some (s.book.routines (s.book.due a)) ∧
      ∃ notices, (s.world.cleanUp t a).1 = afterwards s.world t
        (s.book.routines (s.book.due a)) (book.routines book.owners) notices :=
  cleanUp_of_step (h.stack ▸ (h.kept.comes acted).stack)

theorem Faithful.step (h : Faithful t s) (move : step t s m = some u) : Faithful t u := by
  cases m with
  | own a =>
    obtain ⟨book, acted, rfl⟩ := Option.map_eq_some_iff.mp move
    obtain ⟨-, notices, world⟩ := h.cleanUp acted
    obtain ⟨size, stack⟩ := cleanups_afterwards h.there (s.book.routines (s.book.due a))
      (book.routines book.owners) notices
    rw [← world] at size stack
    exact ⟨size ▸ h.there, (h.kept.comes acted).kept, stack⟩
  | other w =>
    simp only [Tidying.step] at move
    split at move
    · next keeps =>
      cases move
      exact ⟨keeps.1 ▸ h.there, h.kept, keeps.2.trans h.stack⟩
    · cases move

theorem Faithful.run (h : Faithful t s) (run : Schedule.run (Tidying.step t) s moves = some u) :
    Faithful t u :=
  Schedule.Reaches.keeps Faithful.step (Schedule.reaches_run run) h

/-- What is written in the book under one of its last headings stays there. -/
theorem grows_of_run (h : Faithful t s) (run : Schedule.run (Tidying.step t) s moves = some u) :
    s.book.ran <+: u.book.ran ∧ s.book.dismissed <+: u.book.dismissed := by
  refine Schedule.run_induction (P := fun _ u => s.book.ran <+: u.book.ran ∧
    s.book.dismissed <+: u.book.dismissed) ⟨List.prefix_rfl, List.prefix_rfl⟩ ?_ run
  intro moves m u v reach move ih
  cases m with
  | own a =>
    obtain ⟨book, acted, rfl⟩ := Option.map_eq_some_iff.mp move
    have comes := (h.run reach).kept.comes acted
    exact ⟨ih.1.trans (comes.ran ▸ List.prefix_append ..),
      ih.2.trans (comes.dismissed ▸ List.prefix_append ..)⟩
  | other w =>
    simp only [Tidying.step] at move
    split at move
    · cases move
      exact ih
    · cases move

/-- No cleanup routine runs twice, and none runs that was dismissed. Taking a routine out of its
registration leaves the registration empty, so what runs it, a pop or the end of its owner, finds
it there only the first time; in the book this is that each number is in one place (`Kept.parted`).
The thread, which had nothing registered at first, does what it likes with its routines, these may
release locks and ask it to stop, and whatever else happens meanwhile. -/
theorem routines_run_once (there : t < w.threads.size) (bare : (w.thread t).cleanups = [])
    (run : Schedule.run (step t) ⟨w, {}⟩ moves = some s) :
    -- each registration has its owner, has run, or was dismissed: one of these, and once
    (s.book.owners ++ (s.book.ran ++ s.book.dismissed)).Perm (List.range s.book.made.length) ∧
    (∀ k, s.book.ran.count k ≤ 1) ∧
    -- those that have owners are the thread's stack, newest first
    s.book.owners.Pairwise (· > ·) ∧
    (s.world.thread t).cleanups = s.book.routines s.book.owners ∧
    ∀ a : Cleanup.Action Routine,
      -- the thread can do next what the book lets it do
      (step t s (.own a) = none ↔ (s.world.cleanUp t a).2 = none) ∧
      ∀ u, step t s (.own a) = some u →
        -- and then runs what is due, in order, and nothing else, and lets go what is spared
        (s.world.cleanUp t a).2 = some (s.book.routines (s.book.due a)) ∧
        (∃ notices, u.world = afterwards s.world t (s.book.routines (s.book.due a))
          (u.book.routines u.book.owners) notices) ∧
        u.book.ran = s.book.ran ++ s.book.due a ∧
        u.book.dismissed = s.book.dismissed ++ s.book.spared a ∧
        -- whatever comes later, what was due has run once, and what was spared never runs
        ∀ later v, Schedule.run (step t) u later = some v →
          (∀ k ∈ s.book.due a, v.book.ran.count k = 1) ∧
          ∀ k ∈ s.book.spared a, k ∉ v.book.ran := by
  have start : Faithful t ⟨w, {}⟩ := ⟨there, Book.kept_empty, bare⟩
  have h := start.run run
  refine ⟨h.kept.parted, h.kept.count_ran, h.kept.newest, h.stack, fun a => ⟨?_, fun u move => ?_⟩⟩
  · rw [Tidying.step, Option.map_eq_none_iff]
    refine ⟨fun stuck => cleanUp_of_stuck (h.stack ▸ h.kept.act_eq_none_iff.mp stuck),
      fun silent => ?_⟩
    cases acted : s.book.act a with
    | none => rfl
    | some book => cases (h.cleanUp acted).1.symm.trans silent
  · obtain ⟨book, acted, rfl⟩ := Option.map_eq_some_iff.mp move
    have comes := h.kept.comes acted
    obtain ⟨told, world⟩ := h.cleanUp acted
    refine ⟨told, world, comes.ran, comes.dismissed, fun later v more => ?_⟩
    have next := h.step move
    have last := next.run more
    obtain ⟨ran, dismissed⟩ := grows_of_run next more
    constructor
    · intro k due
      have in_ran : k ∈ v.book.ran := ran.subset (comes.ran ▸ List.mem_append_right _ due)
      have := List.count_pos_iff.mpr in_ran
      have := last.kept.count_ran k
      omega
    · intro k spared
      exact last.kept.not_ran_of_dismissed
        (dismissed.subset (comes.dismissed ▸ List.mem_append_right _ spared))

/-- A world with one lock, which is held, and one thread. -/
def held : World :=
  { locks := #[true], objects := #[{ content := .lock (some 0) }], threads := #[{}] }

/-- Five routines: the first and the last release the lock, the second and the third ask the thread
to stop. The second is popped and runs, the third is popped and does not, the fifth runs when it is
dropped, and after that somebody takes the lock again. -/
def busy : List Move :=
  [.own (.push ⟨"first", some 0, false⟩), .own (.push ⟨"second", none, true⟩), .own (.pop true),
    .own (.push ⟨"third", none, true⟩), .own (.pop false), .own (.push ⟨"fourth", none, false⟩),
    .own (.push ⟨"fifth", some 0, false⟩), .own .drop]

def dropped : Scene := (Schedule.run (step 0) ⟨held, {}⟩ busy).get (by decide)

def retaken : Scene := { dropped with world := dropped.world.setLocked 0 true }

/-- What is left runs in an unwinding, the first routine last, and releases the lock that was taken
meanwhile. Popping and unwinding after that runs nothing of it again. -/
theorem routines_run_once_busy :
    ∃ u, step 0 retaken (.own .unwind) = some u ∧
      (retaken.world.cleanUp 0 .unwind).2 =
        some [⟨"fourth", none, false⟩, ⟨"first", some 0, false⟩] ∧
      retaken.world.locked 0 = true ∧ u.world.locked 0 = false ∧
      u.book.ran = [1, 4, 3, 0] ∧ u.book.dismissed = [2] ∧
      ∀ later v, Schedule.run (step 0) u later = some v → v.book.ran.count 0 = 1 := by
  have before : Schedule.run (step 0) ⟨held, {}⟩ busy = some dropped :=
    (Option.some_get (by decide)).symm
  have taken : step 0 dropped (.other (dropped.world.setLocked 0 true)) = some retaken := by
    have keeps : Keeps 0 dropped.world (dropped.world.setLocked 0 true) := by decide
    rw [step, if_pos keeps]
    rfl
  have run : Schedule.run (step 0) ⟨held, {}⟩
      (busy ++ [.other (dropped.world.setLocked 0 true)]) = some retaken :=
    Schedule.run_trans before (Schedule.run_cons taken rfl)
  obtain ⟨-, -, -, -, next⟩ := routines_run_once (by decide) rfl run
  have unwound : (step 0 retaken (.own .unwind)).isSome := by decide
  obtain ⟨u, unwound⟩ := Option.isSome_iff_exists.mp unwound
  obtain ⟨told, ⟨notices, world⟩, ran, dismissed, after⟩ := (next .unwind).2 u unwound
  refine ⟨u, unwound, told.trans (by decide), by decide, ?_, ran.trans (by decide),
    dismissed.trans (by decide), fun later v more => (after later v more).1 0 (by decide)⟩
  have free : ((step 0 retaken (.own .unwind)).map (·.world.locked 0)) = some false := by decide
  rw [unwound] at free
  exact Option.some.inj free

end Rendezvous.Tidying
