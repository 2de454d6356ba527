import Rendezvous.Proofs.Traffic.Parts
import Rendezvous.Proofs.Traffic.Custody

/-!
# Constructions and what the books say of them

Every construction has a number of its own: a number that no other construction has which is going
on, nor one whose barrier is there (`Numbered`). So what the books say under the number of a
construction is what that construction has told, in the order in which it has told it, no matter
what other calls do meanwhile (`Recorded`).
-/

set_option autoImplicit false

namespace Rendezvous

open Barrier Handle

/-- What a list of pieces says of the construction with this number. -/
def partsOf (pieces : List Piece) (n : Nat) : List Part :=
  (pieces.filter fun p => decide (p.build = n)).map Piece.part

theorem mem_partsOf {pieces : List Piece} {p : Piece} (hp : p ∈ pieces) :
    p.part ∈ partsOf pieces p.build :=
  List.mem_map_of_mem (List.mem_filter.mpr ⟨hp, decide_eq_true rfl⟩)

theorem partsOf_append (pieces : List Piece) (parts : List Part) (h k n : Nat) :
    partsOf (pieces ++ parts.map (.mk h k)) n =
      partsOf pieces n ++ if k = n then parts else [] := by
  rw [partsOf, List.filter_append, List.map_append, partsOf, List.filter_map, List.map_map]
  split
  · next same => simp [Function.comp_def, same]
  · next other => simp [Function.comp_def, other]

namespace Barrier.Construction

variable {s : Construction} {supply : Supply} {fault : Option PrimitiveError}

theorem trail_append {inputs : List (Supply × Option PrimitiveError)} {turn : Construction.Turn}
    (move : (s.trail inputs).1.step supply fault = some turn) :
    s.trail (inputs ++ [(supply, fault)]) = (turn.stage, (s.trail inputs).2 ++ turn.events) := by
  induction inputs generalizing s with
  | nil =>
    have move : s.step supply fault = some turn := move
    simp [trail, move]
  | cons input rest ih =>
    obtain ⟨supply', fault'⟩ := input
    simp only [trail, List.cons_append] at move ⊢
    cases first : s.step supply' fault' with
    | none =>
      obtain ⟨r, rfl⟩ := finished_of_stuck first
      cases move
    | some turn' =>
      rw [first] at move
      simp only [ih move, List.append_assoc]

/-- What a construction has made on the way it may have made. -/
theorem past_of_trail {q : Part} {inputs : List (Supply × Option PrimitiveError)}
    (made : q ∈ s.past ∨ q ∈ Event.madeIn (s.trail inputs).2) : q ∈ (s.trail inputs).1.past := by
  induction inputs generalizing s with
  | nil => exact made.resolve_right List.not_mem_nil
  | cons input rest ih =>
    obtain ⟨supply, fault⟩ := input
    simp only [trail] at made ⊢
    cases first : s.step supply fault with
    | none =>
      rw [first] at made
      exact made.resolve_right List.not_mem_nil
    | some turn =>
      rw [first] at made
      have works := step_works first
      simp only [Event.madeIn, List.filterMap_append, List.mem_append] at made
      refine ih ?_
      rcases made with before | now | later
      · exact .inl (works.kept q (.inl before))
      · exact .inl (works.kept q (.inr now))
      · exact .inr later

end Barrier.Construction

namespace Handle

def Operation.builds : Operation → Bool
  | build .. => true
  | _ => false

/-- Only constructions make parts. -/
theorem Haul.builds_of_mem {op op' : Operation} {made torn : List Part} {q : Part}
    (haul : Haul op op' made torn) (hq : q ∈ made) :
    ∃ e k k', op = .build e k ∧ op' = .build e k' ∧ k.Works k' made torn := by
  cases haul with
  | builds works => exact ⟨_, _, _, rfl, rfl, works⟩
  | _ => cases hq

/-- What is being built is about to be begun as ordered, or was being built before. -/
theorem Haul.of_build {op : Operation} {e : Errand} {k : Construction} {made torn : List Part}
    (haul : Haul op (.build e k) made torn) :
    (∃ parties shared, k = .check parties shared ∧ e.Orders parties shared ∧ made = [] ∧ torn = []) ∨
      ∃ k₀, op = .build e k₀ ∧ k₀.Works k made torn := by
  cases haul with
  | idle _ _ idle =>
    cases k with
    | check parties shared => exact .inl ⟨parties, shared, rfl, idle.2, rfl, rfl⟩
    | _ => exact idle.2.elim
  | builds works => exact .inr ⟨_, rfl, works⟩
  | carries _ _ owns => cases owns

theorem Operation.step_of_build {a : Arena} {h : Nat} {c : Cancellation} {supply : Supply}
    {fault : Option PrimitiveError} {e : Errand} {k k' : Construction} {turn : Operation.Turn}
    (move : (build e k).step a h c supply fault = some turn) (stage : turn.stage = .build e k') :
    ∃ u, k.step supply fault = some u ∧ k' = u.stage ∧ turn.events = u.events := by
  cases stride_of_step move with
  | @build _ _ u stepped => exact ⟨u, stepped, (build.inj stage).2.symm, rfl⟩
  | built | failed => cases stage

end Handle

namespace Traffic

variable {mayFail : Ask → Bool} {s t : Traffic} {m : Move} {h i j n : Nat} {v w : Job}
  {turn : Operation.Turn} {supply : Supply} {fault : Option PrimitiveError}

theorem made_after : (s.after i v turn).books.made =
    s.books.made ++ (Event.madeIn turn.events).map (.mk v.handle (v.source s.books)) := by
  rw [Event.madeIn, List.map_filterMap]
  rfl

theorem tornDown_after : (s.after i v turn).books.tornDown =
    s.books.tornDown ++ (Event.tornIn turn.events).map (.mk v.handle (v.source s.books)) := by
  rw [Event.tornIn, List.map_filterMap]
  rfl

theorem builds_le : s.books.builds ≤ (s.after i v turn).books.builds := by
  show s.books.builds ≤ if turn.stage.begins then s.books.builds + 1 else s.books.builds
  split <;> omega

/-- A barrier that is there has the number of the construction that has just ended. -/
theorem mem_origins (c : Custody s) (hv : v ∈ s.jobs)
    (move : v.stage.step s.arena v.handle (s.settings v.thread) supply fault = some turn)
    (hn : n ∈ (s.after i v turn).books.origins) :
    n ∈ s.books.origins ∨ n = v.build ∧ v.stage.builds = true ∧ turn.stage.builds = false := by
  have filed : n ∈ (if s.arena.barriers.size < turn.arena.barriers.size then
    s.books.origins ++ [v.build] else s.books.origins) := hn
  split at filed
  · next more =>
    rcases List.mem_append.mp filed with old | new
    · exact .inl old
    · refine .inr ⟨List.mem_singleton.mp new, ?_⟩
      have d := c.deed hv move
      generalize turn.arena = a' at d more
      generalize turn.stage = op' at d
      cases d with
      | adopts stage =>
        rw [stage]
        exact ⟨rfl, rfl⟩
      | works | locks | unlocks =>
        rw [Arena.size_setBarrier] at more
        exact absurd more (Nat.lt_irrefl _)
      | _ => exact absurd more (Nat.lt_irrefl _)
  · exact .inl filed

/-! ## Numbers -/

structure Numbered (s : Traffic) : Prop where
  origins : s.books.origins.length = s.arena.barriers.size
  filed : ∀ n ∈ s.books.origins, n < s.books.builds
  building : ∀ v ∈ s.jobs, v.stage.builds = true →
    v.build < s.books.builds ∧ v.build ∉ s.books.origins
  apart : ∀ (i j : Nat) (v w : Job), i ≠ j → s.jobs[i]? = some v → s.jobs[j]? = some w →
    v.stage.builds = true → w.stage.builds = true → v.build ≠ w.build

namespace Numbered

/-- A construction that goes on keeps its number, and one that begins gets the next. -/
theorem build_after (move : v.stage.step s.arena v.handle (s.settings v.thread) supply fault = some turn)
    (builds : turn.stage.builds = true) :
    (v.enter s.books turn.stage).build = s.books.builds ∧
        (s.after i v turn).books.builds = s.books.builds + 1 ∨
      (v.enter s.books turn.stage).build = v.build ∧ v.stage.builds = true := by
  have haul := Operation.step_haul move
  simp only [Job.enter, after, Books.after]
  cases stage : turn.stage with
  | build e k =>
    rw [stage] at haul
    obtain ⟨parties, shared, rfl, -⟩ | ⟨k₀, before, works⟩ := haul.of_build
    · exact .inl ⟨rfl, rfl⟩
    · refine .inr ⟨?_, by rw [before]; rfl⟩
      rw [works.begun e]
      rfl
  | _ =>
    rw [stage] at builds
    cases builds

theorem goes (num : Numbered s) (c : Custody s) (hv : s.jobs[i]? = some v)
    (move : v.stage.step s.arena v.handle (s.settings v.thread) supply fault = some turn) :
    Numbered (s.after i v turn) := by
  have mem := List.mem_of_getElem? hv
  have other {j : Nat} {w : Job} (hw : s.jobs[j]? = some w) (ne : i ≠ j)
      (now : turn.stage.builds = true) (builds : w.stage.builds = true) :
      (v.enter s.books turn.stage).build ≠ w.build := by
    rcases build_after (i := i) move now with ⟨new, -⟩ | ⟨same, before⟩
    · have older := (num.building w (List.mem_of_getElem? hw) builds).1
      omega
    · rw [same]
      exact num.apart i j v w ne hv hw before builds
  refine ⟨?origins, ?filed, ?building, ?apart⟩
  case origins =>
    have before := num.origins
    show (if s.arena.barriers.size < turn.arena.barriers.size then s.books.origins ++ [v.build]
      else s.books.origins).length = turn.arena.barriers.size
    rcases (c.deed mem move).barriers_size with same | more
    · rw [if_neg (by omega), before, same]
    · rw [if_pos (by omega), List.length_append, before, more, List.length_singleton]
  case filed =>
    intro n hn
    refine Nat.lt_of_lt_of_le ?_ builds_le
    rcases mem_origins c mem move hn with old | ⟨rfl, before, -⟩
    · exact num.filed n old
    · exact (num.building v mem before).1
  case building =>
    intro w hw builds
    obtain ⟨j, hj⟩ := List.mem_iff_getElem?.mp hw
    rcases job_after hj with ⟨-, rfl⟩ | ⟨ne, hj⟩
    · have now : turn.stage.builds = true := builds
      have unfiled (number : Nat) (fresh : number ∉ s.books.origins) :
          number ∉ (s.after i v turn).books.origins := fun hn => by
        rcases mem_origins c mem move hn with old | ⟨-, -, ended⟩
        · exact fresh old
        · cases ended.symm.trans now
      rcases build_after (i := i) move now with ⟨new, more⟩ | ⟨same, before⟩
      · rw [new]
        exact ⟨by omega, unfiled _ fun hn => Nat.lt_irrefl _ (num.filed _ hn)⟩
      · rw [same]
        obtain ⟨recent, fresh⟩ := num.building v mem before
        exact ⟨Nat.lt_of_lt_of_le recent builds_le, unfiled _ fresh⟩
    · obtain ⟨recent, fresh⟩ := num.building w (List.mem_of_getElem? hj) builds
      refine ⟨Nat.lt_of_lt_of_le recent builds_le, fun hn => ?_⟩
      rcases mem_origins c mem move hn with old | ⟨same, before, -⟩
      · exact fresh old
      · exact num.apart i j v w ne.symm hv hj before builds same.symm
  case apart =>
    intro j k u w ne hu hw builds builds'
    rcases job_after hu with ⟨rfl, rfl⟩ | ⟨-, hu'⟩ <;>
      rcases job_after hw with ⟨rfl, rfl⟩ | ⟨-, hw'⟩
    · exact absurd rfl ne
    · exact other hw' ne builds builds'
    · exact (other hu' ne.symm builds' builds).symm
    · exact num.apart j k u w ne hu' hw' builds builds'

theorem begins (num : Numbered s) (thread handle : Nat) (purpose : Purpose) :
    Numbered { s with jobs := s.jobs ++ [{ thread, handle, purpose, stage := purpose.first }] } := by
  have old {j : Nat} {w : Job}
      (hw : (s.jobs ++ [{ thread, handle, purpose, stage := purpose.first }])[j]? = some w)
      (builds : w.stage.builds = true) : s.jobs[j]? = some w := by
    rcases getElem?_concat_cases hw with old | ⟨-, rfl⟩
    · exact old
    · cases purpose <;> cases builds
  refine ⟨num.origins, num.filed, fun w hw builds => ?_, fun j k u w ne hu hw builds builds' =>
    num.apart j k u w ne (old hu builds) (old hw builds') builds builds'⟩
  obtain ⟨j, hj⟩ := List.mem_iff_getElem?.mp hw
  exact num.building w (List.mem_of_getElem? (old hj builds)) builds

theorem start (handles : List (Option UInt32)) (settings : Nat → Cancellation) :
    Numbered (start handles settings) :=
  ⟨rfl, fun _ hn => absurd hn List.not_mem_nil, fun _ hv => absurd hv List.not_mem_nil,
    fun _ _ _ _ _ hv => absurd (List.mem_of_getElem? hv) List.not_mem_nil⟩

theorem step (num : Numbered s) (c : Custody s) (move : s.step mayFail m = some t) :
    Numbered t := by
  cases step_effect move with
  | begins => exact num.begins ..
  | goes hv _ moved => exact num.goes c hv moved
  | sets => exact ⟨num.origins, num.filed, num.building, num.apart⟩

end Numbered

/-! ## What constructions have told -/

/-- The books have of a construction, under its number, what it has told. -/
def Told (books : Books) (n : Nat) (events : List Event) : Prop :=
  partsOf books.made n = Event.madeIn events ∧ partsOf books.tornDown n = Event.tornIn events

structure Recorded (s : Traffic) : Prop where
  /-- What has no number is not on the books. -/
  unnumbered : ∀ n, s.books.builds ≤ n → Told s.books n []
  building : ∀ v ∈ s.jobs, ∀ e k, v.stage = .build e k → ∃ parties shared inputs,
    e.Orders parties shared ∧ ((Construction.check parties shared).trail inputs).1 = k ∧
    Told s.books v.build ((Construction.check parties shared).trail inputs).2

/-- Whose parts a turn makes or tears down, if it does: the construction's that goes on, or those of
a barrier that is there. -/
theorem source_cases (num : Numbered s) (c : Custody s) (hv : v ∈ s.jobs)
    (move : v.stage.step s.arena v.handle (s.settings v.thread) supply fault = some turn) :
    Event.madeIn turn.events = [] ∧ Event.tornIn turn.events = [] ∨
      v.stage.builds = true ∧ v.source s.books = v.build ∨
      v.source s.books ∈ s.books.origins := by
  have haul := Operation.step_haul move
  generalize Event.madeIn turn.events = made at haul
  generalize Event.tornIn turn.events = torn at haul
  generalize turn.stage = op' at haul
  obtain ⟨op, stage⟩ : ∃ op, v.stage = op := ⟨_, rfl⟩
  rw [stage] at haul
  cases haul with
  | builds works =>
    refine .inr (.inl ?_)
    simp only [Job.source, stage]
    exact ⟨rfl, trivial⟩
  | @dismantles b t u torn perm =>
    have owns : v.stage.hands.owns = some b := by rw [stage]; rfl
    have there : b < s.books.origins.length := by
      rw [num.origins]
      exact c.lt_of_owned (Nat.add_pos_left (Custody.owns_pos hv owns) _)
    refine .inr (.inr ?_)
    simp only [Job.source, stage, List.getD_eq_getElem?_getD, List.getElem?_eq_getElem there,
      Option.getD_some]
    exact List.getElem_mem there
  | _ => exact .inl ⟨rfl, rfl⟩

theorem Told.of_ne {events : List Event} (told : Told s.books n events)
    (other : Event.madeIn turn.events = [] ∧ Event.tornIn turn.events = [] ∨
      v.source s.books ≠ n) : Told (s.after i v turn).books n events := by
  refine ⟨?_, ?_⟩
  · rw [made_after, partsOf_append, told.1]
    rcases other with ⟨nothing, -⟩ | ne
    · rw [nothing, ite_self, List.append_nil]
    · rw [if_neg ne, List.append_nil]
  · rw [tornDown_after, partsOf_append, told.2]
    rcases other with ⟨-, nothing⟩ | ne
    · rw [nothing, ite_self, List.append_nil]
    · rw [if_neg ne, List.append_nil]

theorem Told.of_source {events : List Event} (told : Told s.books n events)
    (same : v.source s.books = n) : Told (s.after i v turn).books n (events ++ turn.events) := by
  refine ⟨?_, ?_⟩
  · rw [made_after, partsOf_append, told.1, if_pos same]
    exact List.filterMap_append.symm
  · rw [tornDown_after, partsOf_append, told.2, if_pos same]
    exact List.filterMap_append.symm

namespace Recorded

theorem goes (rec : Recorded s) (num : Numbered s) (c : Custody s) (hv : s.jobs[i]? = some v)
    (move : v.stage.step s.arena v.handle (s.settings v.thread) supply fault = some turn) :
    Recorded (s.after i v turn) := by
  have mem := List.mem_of_getElem? hv
  have sources := source_cases num c mem move
  refine ⟨fun n hn => ?_, fun w hw e k stage => ?_⟩
  · have hn : s.books.builds ≤ n := Nat.le_trans builds_le hn
    refine (rec.unnumbered n hn).of_ne (sources.imp_right fun numbered same => ?_)
    rcases numbered with ⟨builds, source⟩ | filed
    · have recent := (num.building v mem builds).1
      omega
    · have recent := num.filed _ filed
      omega
  · obtain ⟨j, hj⟩ := List.mem_iff_getElem?.mp hw
    rcases job_after hj with ⟨-, rfl⟩ | ⟨ne, hj⟩
    · have stage : turn.stage = .build e k := stage
      have haul := Operation.step_haul move
      rw [stage] at haul
      rcases haul.of_build with ⟨parties, shared, rfl, orders, made, torn⟩ | ⟨k₀, before, works⟩
      · refine ⟨parties, shared, [], orders, rfl, ?_⟩
        have number : (v.enter s.books turn.stage).build = s.books.builds := by
          simp only [Job.enter, stage]
          rfl
        rw [number]
        exact (rec.unnumbered _ (Nat.le_refl _)).of_ne (.inl ⟨made, torn⟩)
      · obtain ⟨parties, shared, inputs, orders, rfl, told⟩ := rec.building v mem e k₀ before
        rw [before] at move
        obtain ⟨u, hu, rfl, events⟩ := Operation.step_of_build move stage
        refine ⟨parties, shared, inputs ++ [(supply, fault)], orders, ?_, ?_⟩
        · rw [Construction.trail_append hu]
        · have number : (v.enter s.books turn.stage).build = v.build := by
            simp only [Job.enter, stage, works.begun e, Bool.false_eq_true, if_false]
          rw [Construction.trail_append hu, number, ← events]
          refine told.of_source ?_
          simp only [Job.source, before]
    · obtain ⟨parties, shared, inputs, orders, trail, told⟩ :=
        rec.building w (List.mem_of_getElem? hj) e k stage
      refine ⟨parties, shared, inputs, orders, trail,
        told.of_ne (sources.imp_right fun numbered same => ?_)⟩
      have builds : w.stage.builds = true := by rw [stage]; rfl
      rcases numbered with ⟨before, source⟩ | filed
      · exact num.apart i j v w ne.symm hv hj before builds (source.symm.trans same)
      · exact (num.building w (List.mem_of_getElem? hj) builds).2 (same ▸ filed)

theorem begins (rec : Recorded s) (thread handle : Nat) (purpose : Purpose) :
    Recorded { s with jobs := s.jobs ++ [{ thread, handle, purpose, stage := purpose.first }] } := by
  refine ⟨rec.unnumbered, fun v hv e k stage => ?_⟩
  rcases List.mem_append.mp hv with old | new
  · exact rec.building v old e k stage
  · obtain rfl := List.mem_singleton.mp new
    cases purpose <;> cases stage

theorem start (handles : List (Option UInt32)) (settings : Nat → Cancellation) :
    Recorded (start handles settings) :=
  ⟨fun _ _ => ⟨rfl, rfl⟩, fun _ hv => absurd hv List.not_mem_nil⟩

theorem step (rec : Recorded s) (num : Numbered s) (c : Custody s)
    (move : s.step mayFail m = some t) : Recorded t := by
  cases step_effect move with
  | begins => exact rec.begins ..
  | goes hv _ moved => exact rec.goes num c hv moved
  | sets => exact ⟨rec.unnumbered, rec.building⟩

end Recorded

end Traffic

end Rendezvous
