import Rendezvous.Proofs.Plain
import Rendezvous.Proofs.Run.Standstill

/-!
# Users that wait once

As many users as make up a generation wait at a barrier, each of them once, and nobody is asked to
stop. What each of them does is told by the stages of its call (`Plain.Stage.Stands`), and every turn
of a call is a turn in a crowd that keeps step, which is kept beside it (`turned`). Where nobody can
go on and nobody has still to come, all have been let through (`InStep.outside_of_still`), and when
all have, the one generation has ended and has had its one last one (`Passed`).
-/

set_option autoImplicit false

namespace Rendezvous

open Barrier Handle

namespace Plain

/-- The call comes back as the serial one. -/
def Stage.isSerial : Stage → Bool
  | inside w => w.isSerial
  | answered (.ok (.outcome .serial)) | returned (.ok (.outcome .serial)) => true
  | _ => false

/-- The one wait of a user has got to this stage. -/
inductive Stage.Stands (c : Crowd) (i : Nat) : Stage → Prop where
  | coming : c.isOutside i = true → c.rounds i = 0 → Stage.Stands c i (.coming .wait)
  | inside {v : Visit} : v ∈ c.visits → v.thread = i → v.inside = true → c.rounds i = 0 →
      Stage.Stands c i (.inside v.stage)
  | passed (outcome : Outcome) : c.isOutside i = true → c.rounds i = 1 →
      Stage.Stands c i (.inside (.finished (.ok outcome)))
  | answered (outcome : Outcome) : c.isOutside i = true → c.rounds i = 1 →
      Stage.Stands c i (.answered (.ok (.outcome outcome)))
  | returned (outcome : Outcome) : c.isOutside i = true → c.rounds i = 1 →
      Stage.Stands c i (.returned (.ok (.outcome outcome)))

/-- What other threads do changes nothing about it. -/
theorem Stage.Stands.congr {c d : Crowd} {i : Nat} {x : Stage} (h : Stage.Stands c i x)
    (outside : c.isOutside i = true → d.isOutside i = true) (rounds : d.rounds i = c.rounds i)
    (stay : ∀ v ∈ c.visits, v.thread = i → v ∈ d.visits) : Stage.Stands d i x := by
  cases h with
  | coming free count => exact .coming (outside free) (rounds.trans count)
  | inside hv own inside count => exact .inside (stay _ hv own) own inside (rounds.trans count)
  | passed outcome free count => exact .passed outcome (outside free) (rounds.trans count)
  | answered outcome free count => exact .answered outcome (outside free) (rounds.trans count)
  | returned outcome free count => exact .returned outcome (outside free) (rounds.trans count)

end Plain

namespace Crowd

open Plain (Stage)

variable {users : List Nat} {parties : UInt32} {b b' : Barrier} {settings : Nat → Cancellation}
  {c d : Crowd} {i k : Nat} {x y : Stage} {c' : Cancellation}

/-! ## One turn -/

/-- What a turn of the call of user `i`, from stage `x` to stage `y`, does in the crowd. -/
structure Turned (users : List Nat) (parties : UInt32) (b : Barrier) (settings : Nat → Cancellation)
    (c : Crowd) (i : Nat) (x : Stage) (b' : Barrier) (c' : Cancellation) (y : Stage) (d : Crowd) :
    Prop where
  inStep : InStep users parties b settings d
  own : Stage.Stands d i y
  others : ∀ j z, j ≠ i → Stage.Stands c j z → Stage.Stands d j z
  barrier : d.barrier = b'
  settings_eq : d.settings = fun t => if t = i then c' else c.settings t
  serials : d.visits.countP (Visit.isLastOver 0) + x.isSerial.toNat =
    c.visits.countP (Visit.isLastOver 0) + y.isSerial.toNat

/-- A turn of which the barrier knows nothing. -/
theorem Turned.still (h : InStep users parties b settings c) (own : Stage.Stands c i y)
    (same : y.isSerial = x.isSerial) :
    Turned users parties b settings c i x c.barrier (c.settings i) y c := by
  refine ⟨h, own, fun _ _ _ stands => stands, rfl, ?_, by rw [same]⟩
  exact funext fun t => (ite_eq_right_iff.mpr fun here => by rw [here]).symm

/-- A turn at the barrier. -/
theorem Turned.inside (h : InStep users parties b settings c) (new : Pristine parties b)
    (all : users.length = parties.toNat) {v : Visit} {turn : Wait.Turn}
    (hv : c.visits[k]? = some v)
    (hturn : v.stage.step c.barrier (c.settings v.thread) none = some turn)
    (rounds : c.rounds v.thread = 0) :
    Turned users parties b settings c v.thread (.inside v.stage) turn.barrier turn.cancel
      (.inside turn.stage) (c.after k v turn) := by
  have inside := inside_of_step hturn
  refine ⟨h.after new all hv hturn, ?_, fun j z ne stands => ?_, rfl, rfl, ?_⟩
  · rcases h.after_cases new hv hturn with ⟨outcome, ok, outside, through⟩ | ⟨going, still⟩
    · rw [ok]
      exact .passed outcome outside (by rw [through, rounds])
    · exact .inside (v := v.enter c.trips turn.stage) (enter_mem_after hv turn) rfl going
        (still.trans rounds)
  · refine stands.congr (isOutside_after_of_ne turn ne) (rounds_after_of_ne hv inside (Ne.symm ne)) ?_
    intro w hw own
    exact mem_after_of_ne hv hw (own ▸ ne)
  · have change := countP_after (Visit.isLastOver 0) turn hv
    have before : v.isLastOver 0 = false := by simp [Visit.isLastOver, inside]
    have idle : (Stage.inside v.stage).isSerial = false := by
      unfold Visit.inside at inside
      cases stage : v.stage with
      | finished r => simp [stage, Wait.isOver] at inside
      | _ => rfl
    rw [before, h.isLastOver_enter new hv hturn, rounds] at change
    rw [idle]
    simpa [Stage.isSerial] using change

theorem Turned.trans {b'' : Barrier} {c'' : Cancellation} {z : Stage} {e : Crowd}
    (first : Turned users parties b settings c i x b' c' y d)
    (rest : Turned users parties b settings d i y b'' c'' z e) :
    Turned users parties b settings c i x b'' c'' z e := by
  refine ⟨rest.inStep, rest.own, fun j z ne stands => rest.others j z ne (first.others j z ne stands),
    rest.barrier, ?_, ?_⟩
  · rw [rest.settings_eq, first.settings_eq]
    funext t
    dsimp only
    split <;> rfl
  · have before := first.serials
    have after := rest.serials
    omega

/-- A user comes to the barrier. -/
theorem Turned.begin (h : InStep users parties b settings c) (new : Pristine parties b)
    (all : users.length = parties.toNat) (user : i ∈ users) (outside : c.isOutside i = true)
    (rounds : c.rounds i = 0) :
    Turned users parties b settings c i (.coming .wait) c.barrier (c.settings i) (.inside .enter)
      { c with visits := c.visits ++ [{ thread := i }] } := by
  refine ⟨h.begin new (Nat.le_of_eq all) user outside, ?_, fun j z ne stands => ?_, rfl, ?_, ?_⟩
  · exact .inside (v := { thread := i }) (List.mem_append_right _ List.mem_cons_self) rfl rfl
      ((rounds_begin c.visits i i).trans rounds)
  · exact stands.congr (isOutside_begin_of_ne ne) (rounds_begin c.visits i j)
      fun v hv _ => List.mem_append_left _ hv
  · exact funext fun t => (ite_eq_right_iff.mpr fun here => by rw [here]).symm
  · exact congrArg (· + 0) (countP_begin (p := Visit.isLastOver 0) rfl)

/-- A user comes to the barrier and takes its lock. -/
theorem turned_coming (h : InStep users parties b settings c) (new : Pristine parties b)
    (all : users.length = parties.toNat) (user : i ∈ users) (outside : c.isOutside i = true)
    (rounds : c.rounds i = 0) (free : c.barrier.locked = false) :
    ∃ d, Turned users parties b settings c i (.coming .wait) c.barrier.lock (c.settings i)
      (.inside .arrive) d := by
  have begins := Turned.begin h new all user outside rounds
  let begun : Crowd := { c with visits := c.visits ++ [{ thread := i }] }
  have hv : begun.visits[c.visits.length]? = some { thread := i } := by
    simp [begun]
  have asks : Wait.enter.step begun.barrier (begun.settings i) none =
      some ⟨c.barrier, c.settings i, .lock, [], []⟩ := rfl
  have enters := Turned.inside begins.inStep new all hv asks ((rounds_begin c.visits i i).trans rounds)
  let entered : Crowd := begun.after c.visits.length { thread := i }
    ⟨c.barrier, c.settings i, .lock, [], []⟩
  have hv' : entered.visits[c.visits.length]? =
      some (({ thread := i } : Visit).enter c.trips .lock) :=
    List.getElem?_set_self (List.getElem?_eq_some_iff.mp hv).1
  have own : entered.settings i = c.settings i := if_pos rfl
  have takes : Wait.lock.step entered.barrier (entered.settings i) none =
      some ⟨c.barrier.lock, c.settings i, .arrive, [⟨.lock, .done⟩], []⟩ := by
    rw [own]
    exact if_neg (Bool.eq_false_iff.mp free)
  have waits : entered.rounds i = 0 := by
    rw [rounds_after hv rfl, show Wait.lock.isOver = false from rfl, Bool.and_false]
    exact (rounds_begin c.visits i i).trans rounds
  have locks := Turned.inside enters.inStep new all hv' takes waits
  exact ⟨_, (begins.trans enters).trans locks⟩

/-- Every turn of a call is one in the crowd. -/
theorem turned (h : InStep users parties b settings c) (new : Pristine parties b)
    (all : users.length = parties.toNat) (user : i ∈ users) (stands : Stage.Stands c i x)
    (moved : x.step c.barrier (c.settings i) = some (b', c', y)) :
    ∃ d, Turned users parties b settings c i x b' c' y d := by
  cases stands with
  | coming outside rounds =>
    simp only [Stage.step] at moved
    split at moved
    · cases moved
    · next free =>
      cases moved
      exact turned_coming h new all user outside rounds (Bool.eq_false_iff.mpr free)
  | @inside v hv own inside rounds =>
    subst own
    obtain ⟨k, hk⟩ := List.mem_iff_getElem?.mp hv
    rw [Plain.Stage.step_inside fun r hr => by simp [Visit.inside, hr, Wait.isOver] at inside] at moved
    obtain ⟨turn, hturn, same⟩ := Option.map_eq_some_iff.mp moved
    cases same
    exact ⟨_, .inside h new all hk hturn rounds⟩
  | passed outcome outside rounds =>
    cases moved
    exact ⟨c, .still h (.answered outcome outside rounds) (by cases outcome <;> rfl)⟩
  | answered outcome outside rounds =>
    cases moved
    exact ⟨c, .still h (.returned outcome outside rounds) (by cases outcome <;> rfl)⟩
  | returned => cases moved

/-! ## Where all have come -/

/-- Where the calls of all users are held up, nobody can go on. -/
theorem InStep.still_of_stuck (h : InStep users parties b settings c) (new : Pristine parties b)
    (stuck : ∀ i ∈ users, ∃ x, Stage.Stands c i x ∧ x.step c.barrier (c.settings i) = none) :
    c.Still := by
  intro v hv
  rw [Option.isNone_iff_eq_none, Option.eq_none_iff_forall_ne_some]
  intro turn moved
  have inside := inside_of_step moved
  obtain ⟨x, stands, stuck⟩ := stuck v.thread (h.only v hv)
  cases stands with
  | @inside w hw own inside' =>
    obtain ⟨j, hj⟩ := List.mem_iff_getElem?.mp hv
    obtain ⟨k, hk⟩ := List.mem_iff_getElem?.mp hw
    obtain rfl := (h.unasked.convoy new).register.alone hk hj own inside' inside
    obtain rfl := Option.some.inj (hk.symm.trans hj)
    rw [Plain.Stage.step_inside fun r hr => by simp [Visit.inside, hr, Wait.isOver] at inside, moved]
      at stuck
    cases stuck
  | coming outside | passed _ outside | answered _ outside | returned _ outside =>
    cases inside.symm.trans (isOutside_iff.mp outside v hv rfl)

/-- Where nobody can go on and everybody has come, nobody is inside. -/
theorem InStep.outside_of_still (h : InStep users parties b settings c) (new : Pristine parties b)
    (apart : users.Nodup) (all : users.length = parties.toNat) (still : c.Still)
    (come : ∀ i ∈ users, ∃ x, Stage.Stands c i x ∧ x ≠ .coming .wait) :
    ∀ i ∈ users, c.isOutside i = true := by
  -- somebody is outside, and so has been let through
  have trips : c.trips = 1 := by
    obtain ⟨i, user, outside⟩ := h.exists_outside new apart all still
    obtain ⟨x, stands, came⟩ := come i user
    rw [← h.rounds_of_isOutside user outside]
    cases stands with
    | coming => exact absurd rfl came
    | inside hv own inside => cases inside.symm.trans (isOutside_iff.mp outside _ hv own)
    | passed _ _ rounds | answered _ _ rounds | returned _ _ rounds => exact rounds
  intro i user
  obtain ⟨x, stands, -⟩ := come i user
  cases stands with
  | inside hv own inside rounds =>
    have count := h.rounds_of_still new still hv inside
    rw [own, rounds, trips] at count
    cases count
  | coming outside | passed _ outside | answered _ outside | returned _ outside => exact outside

/-- Everybody has been let through. -/
structure Passed (c : Crowd) : Prop where
  free : c.barrier.locked = false
  generation : c.barrier.generation = 1
  serials : c.visits.countP (Visit.isLastOver 0) = 1

theorem InStep.passed (h : InStep users parties b settings c) (new : Pristine parties b)
    (all : users.length = parties.toNat)
    (ended : ∀ i ∈ users, c.isOutside i = true ∧ c.rounds i = 1) : Passed c := by
  have convoy := h.unasked.convoy new
  have trips : c.trips = 1 := by
    have positive : 0 < users.length := all ▸ new.parties_pos
    have user := List.getElem_mem positive
    rw [← h.rounds_of_isOutside user (ended _ user).1]
    exact (ended _ user).2
  have left : ∀ v ∈ c.visits, v.inside = false :=
    fun v hv => isOutside_iff.mp (ended _ (h.only v hv)).1 v hv rfl
  refine ⟨?_, ?_, ?_⟩
  · refine (Guarded.of_reaches new h.unasked.reached).free (List.countP_eq_zero.mpr fun v hv => ?_)
    rw [left v hv]
    exact Bool.false_ne_true
  · rw [convoy.register.generation, trips]
    rfl
  · rw [← (Led.of_reaches new h.unasked.reached).each 0 (trips ▸ Nat.one_pos)]
    refine List.countP_congr fun v hv => ?_
    simp [Visit.isLastOver, left v hv]

end Crowd

end Rendezvous
