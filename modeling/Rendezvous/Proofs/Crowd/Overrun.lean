import Rendezvous.Proofs.Crowd.Ledger

/-!
# One thread too many

With one thread more inside than make up a generation, a barrier for two or more lets somebody
through too early. The first generation leaves one of its threads behind, awake and on its way to
the gate, where its unit stays. The second generation uses the other gate and needs no help from
it. The third comes to the first gate again, and its first thread takes the unit that lies there
and is released, while all the others are still missing.

This run exists for every number of parties (`exists_overrun`), and so it is put together from
stretches that repeat: some threads come and are counted, the last one comes and posts, some threads
take their units and leave. In each stretch one visit after the other moves alone (`Solo`), and of
the crowd only some numbers matter, its `Scene`.
-/

set_option autoImplicit false

namespace Rendezvous

open Barrier

namespace Crowd

/-! ## One visit that moves alone -/

/-- What a visit works on while nobody else moves. -/
structure Solo where
  barrier : Barrier
  cancel : Cancellation
  trips : Nat
  visit : Visit

def Solo.next (x : Solo) : Option Solo :=
  (x.visit.stage.step x.barrier x.cancel none).map fun turn =>
    { barrier := turn.barrier
      cancel := turn.cancel
      trips := if turn.stage.endsGeneration then x.trips + 1 else x.trips
      visit := x.visit.enter x.trips turn.stage }

def Solo.goes : Nat → Solo → Option Solo
  | 0, x => some x
  | n + 1, x => x.next.bind (goes n)

/-- The crowd after a visit has moved alone. -/
def afterSolo (s : Crowd) (i thread : Nat) (x : Solo) : Crowd :=
  { barrier := x.barrier
    settings := (s.setSettings thread x.cancel).settings
    trips := x.trips
    visits := s.visits.set i x.visit }

theorem settings_setSettings_self (s : Crowd) (thread : Nat) :
    (s.setSettings thread (s.settings thread)).settings = s.settings := by
  funext t
  show (if t = thread then s.settings thread else s.settings t) = s.settings t
  split
  · next there => rw [there]
  · rfl

theorem after_afterSolo (s : Crowd) (i : Nat) (v : Visit) (turn : Wait.Turn) (x : Solo) :
    (s.after i v turn).afterSolo i v.thread x = s.afterSolo i v.thread x := by
  have settings : ((s.after i v turn).setSettings v.thread x.cancel).settings =
      (s.setSettings v.thread x.cancel).settings := by
    funext t
    show (if t = v.thread then _ else if t = v.thread then _ else _) = if t = v.thread then _ else _
    split <;> rfl
  have visits : (s.after i v turn).visits.set i x.visit = s.visits.set i x.visit := List.set_set ..
  unfold afterSolo
  rw [settings, visits]

/-- What a visit does alone it can do in a crowd. -/
theorem reaches_solo {rules : Rules} {n : Nat} {s : Crowd} {i : Nat} {v : Visit} {x : Solo}
    (hv : s.visits[i]? = some v)
    (h : Solo.goes n ⟨s.barrier, s.settings v.thread, s.trips, v⟩ = some x) :
    Schedule.Reaches (Crowd.step rules) s (s.afterSolo i v.thread x) := by
  induction n generalizing s v with
  | zero =>
    obtain rfl := Option.some.inj h
    obtain ⟨hi, rfl⟩ := List.getElem?_eq_some_iff.mp hv
    unfold afterSolo
    rw [settings_setSettings_self, List.set_getElem_self]
    exact .refl s
  | succ n ih =>
    obtain ⟨y, next, more⟩ := Option.bind_eq_some_iff.mp h
    obtain ⟨turn, hturn, rfl⟩ := Option.map_eq_some_iff.mp next
    have move : s.step rules (.go i) = some (s.after i v turn) := by
      simp only [Crowd.step, hv, Option.bind_some, Rules.permits, if_true]
      exact congrArg (Option.map (s.after i v)) hturn
    have there : (s.after i v turn).visits[i]? = some (v.enter s.trips turn.stage) := by
      show (s.visits.set i _)[i]? = _
      rw [List.getElem?_set_self (List.getElem?_eq_some_iff.mp hv).1]
    have settings : (s.after i v turn).settings (v.enter s.trips turn.stage).thread = turn.cancel :=
      if_pos rfl
    -- the rest is the run of the same visit in the crowd after this turn
    have run := ih there (by rw [settings]; exact more)
    rw [show (v.enter s.trips turn.stage).thread = v.thread from rfl, after_afterSolo] at run
    exact (Schedule.Reaches.single move).trans run

theorem Solo.goes_succ {n : Nat} {x y : Solo} {turn : Wait.Turn}
    (h : x.visit.stage.step x.barrier x.cancel none = some turn)
    (hy : y = ⟨turn.barrier, turn.cancel,
      if turn.stage.endsGeneration then x.trips + 1 else x.trips,
      x.visit.enter x.trips turn.stage⟩) :
    Solo.goes (n + 1) x = Solo.goes n y := by
  simp only [Solo.goes, Solo.next, h, Option.map_some, Option.bind_some, hy]

theorem lock_of_free {b : Barrier} {c : Cancellation} (free : b.locked = false) :
    Wait.step b c none .lock = some ⟨b.lock, c, .arrive, [⟨.lock, .done⟩], []⟩ :=
  if_neg (by rw [free]; exact Bool.false_ne_true)

/-- A thread comes, is counted, and gives the lock back. -/
theorem Solo.goes_come {b : Barrier} {c : Cancellation} {k thread : Nat} (free : b.locked = false)
    (more : b.countIn.missing ≠ 0) :
    Solo.goes 4 ⟨b, c, k, { thread := thread }⟩ =
      some ⟨b.countIn, c, k, ⟨thread, .pause b.generation, .counted k⟩⟩ := by
  have counted : Wait.step b.lock c none .arrive =
      some ⟨b.lock.countIn, c, .counted b.generation, [], []⟩ := if_neg more
  have unlocked : b.lock.countIn.unlock = b.countIn := by
    cases b
    subst free
    rfl
  calc Solo.goes 4 ⟨b, c, k, { thread := thread }⟩
    _ = Solo.goes 3 ⟨b, c, k, ⟨thread, .lock, .due⟩⟩ := rfl
    _ = Solo.goes 2 ⟨b.lock, c, k, ⟨thread, .arrive, .due⟩⟩ :=
      Solo.goes_succ (lock_of_free free) rfl
    _ = Solo.goes 1 ⟨b.lock.countIn, c, k, ⟨thread, .counted b.generation, .counted k⟩⟩ :=
      Solo.goes_succ counted rfl
    _ = some ⟨b.lock.countIn.unlock, c, k, ⟨thread, .pause b.generation, .counted k⟩⟩ := rfl
    _ = _ := by rw [unlocked]

/-- A thread comes, completes the generation, and posts. -/
theorem Solo.goes_complete {b : Barrier} {c : Cancellation} {k thread : Nat} {gate : Semaphore}
    (free : b.locked = false) (complete : b.countIn.missing = 0)
    (posted : (b.gate (Side.ofGeneration b.generation)).post (b.parties - 1) = .ok gate) :
    Solo.goes 5 ⟨b, c, k, { thread := thread }⟩ =
      some ⟨b.countIn.trip.setGate (Side.ofGeneration b.generation) gate, c, k + 1,
        ⟨thread, .finished (.ok .serial), .last k⟩⟩ := by
  have tripped : Wait.step b.lock c none .arrive =
      some ⟨b.lock.countIn.trip, c, .trip b.generation, [], []⟩ := if_pos complete
  have unlocked : b.lock.countIn.trip.unlock = b.countIn.trip := by
    cases b
    subst free
    rfl
  have served : ∃ events notices, Wait.step b.countIn.trip c none (.post b.generation) =
      some ⟨b.countIn.trip.setGate (Side.ofGeneration b.generation) gate, c,
        .finished (.ok .serial), events, notices⟩ := by
    have posted : (b.countIn.trip.gate (Side.ofGeneration b.generation)).post
        (b.countIn.trip.parties - 1) = .ok gate := by
      rw [gate_trip, gate_countIn]
      exact posted
    simp only [Wait.step, posted]
    exact ⟨_, _, rfl⟩
  obtain ⟨_, _, served⟩ := served
  calc Solo.goes 5 ⟨b, c, k, { thread := thread }⟩
    _ = Solo.goes 4 ⟨b, c, k, ⟨thread, .lock, .due⟩⟩ := rfl
    _ = Solo.goes 3 ⟨b.lock, c, k, ⟨thread, .arrive, .due⟩⟩ :=
      Solo.goes_succ (lock_of_free free) rfl
    _ = Solo.goes 2 ⟨b.lock.countIn.trip, c, k + 1, ⟨thread, .trip b.generation, .last k⟩⟩ :=
      Solo.goes_succ tripped rfl
    _ = Solo.goes 1 ⟨b.lock.countIn.trip.unlock, c, k + 1,
          ⟨thread, .post b.generation, .last k⟩⟩ := rfl
    _ = Solo.goes 1 ⟨b.countIn.trip, c, k + 1, ⟨thread, .post b.generation, .last k⟩⟩ := by
      rw [unlocked]
    _ = _ := Solo.goes_succ served rfl

/-- A thread on its way to the gate finds a unit there and leaves. -/
theorem Solo.goes_take {b : Barrier} {c : Cancellation} {k n thread : Nat} {g : UInt64}
    (calm : c.requested = false) (listens : (b.gate (Side.ofGeneration g)).rule = .whileBlocked)
    (unit : 0 < (b.gate (Side.ofGeneration g)).value) :
    Solo.goes 4 ⟨b, c, k, ⟨thread, .pause g, .counted n⟩⟩ =
      some ⟨b.setGate (Side.ofGeneration g)
          { b.gate (Side.ofGeneration g) with value := (b.gate (Side.ofGeneration g)).value - 1 },
        c, k, ⟨thread, .finished (.ok .released), .counted n⟩⟩ := by
  -- whatever the shield does, nobody has asked this thread to stop
  have deaf : c.shieldDeferred.2.pending = false := by
    unfold Cancellation.shieldDeferred
    split <;> simp [Cancellation.shield, Cancellation.pending, Cancellation.setState, calm]
  have starts : Wait.step b c none (.pause g) =
      some ⟨b, c.shieldDeferred.2, .blocked g c.shieldDeferred.1 .test, [], []⟩ := by
    simp only [Wait.step, listens, Semaphore.Wait.start]
  have tests : Wait.step b c.shieldDeferred.2 none (.blocked g c.shieldDeferred.1 .test) =
      some ⟨b, c.shieldDeferred.2, .blocked g c.shieldDeferred.1 .take, [], []⟩ := by
    rw [Wait.AtGate.blocked.step (w := .test) fun _ ended => by cases ended]
    simp [Semaphore.Wait.step, deaf]
  have takes : Wait.step b c.shieldDeferred.2 none (.blocked g c.shieldDeferred.1 .take) =
      some ⟨b.setGate (Side.ofGeneration g)
          { b.gate (Side.ofGeneration g) with value := (b.gate (Side.ofGeneration g)).value - 1 },
        c.shieldDeferred.2, .blocked g c.shieldDeferred.1 (.finished (.ok ())), [], []⟩ := by
    rw [Wait.AtGate.blocked.step (w := .take) fun _ ended => by cases ended]
    simp only [Semaphore.Wait.step, if_pos unit, Option.map_some]
  have leaves : ∀ b', Wait.step b' c.shieldDeferred.2 none
      (.blocked g c.shieldDeferred.1 (.finished (.ok ()))) =
        some ⟨b', c, .finished (.ok .released), [Wait.waited g (.ok ())], []⟩ := by
    intro b'
    simp only [Wait.step, Cancellation.unshield_shieldDeferred, Wait.afterGate]
  exact (Solo.goes_succ starts rfl).trans <| (Solo.goes_succ tests rfl).trans <|
    (Solo.goes_succ takes rfl).trans (Solo.goes_succ (leaves _) rfl)

/-! ## The crowd from afar -/

/-- What matters of a crowd when nobody holds the lock. -/
structure Scene where
  trips : Nat
  missing : Nat
  units : Side → Nat
  inside : Nat
  /-- Those counted in a generation and on their way to its gate. -/
  dawdling : Nat → Nat

def dawdles (n : Nat) (v : Visit) : Bool :=
  match v.stage with
  | .pause _ => v.countedIn n
  | _ => false

def scene (s : Crowd) : Scene where
  trips := s.trips
  missing := s.barrier.missing.toNat
  units side := (s.barrier.gate side).value.toNat
  inside := s.inside
  dawdling n := s.visits.countP (dawdles n)

namespace Scene

/-- So many have come and been counted. -/
def gather (x : Scene) (j : Nat) : Scene :=
  { x with
    missing := x.missing - j
    inside := x.inside + j
    dawdling := fun n => if n = x.trips then x.dawdling n + j else x.dawdling n }

/-- The last one has come and gone. -/
def complete (x : Scene) (parties : Nat) : Scene :=
  { x with
    trips := x.trips + 1
    missing := parties
    units := fun side =>
      if side = Side.ofNumber x.trips then x.units side + (parties - 1) else x.units side }

/-- So many of generation `n` have taken a unit and gone. -/
def release (x : Scene) (n j : Nat) : Scene :=
  { x with
    units := fun side => if side = Side.ofNumber n then x.units side - j else x.units side
    inside := x.inside - j
    dawdling := fun m => if m = n then x.dawdling m - j else x.dawdling m }

theorem gather_zero (x : Scene) : x.gather 0 = x := by
  simp [gather]

theorem gather_gather (x : Scene) (j : Nat) : (x.gather 1).gather j = x.gather (j + 1) := by
  refine mk.injEq .. ▸ ⟨rfl, ?_, rfl, ?_, funext fun n => ?_⟩
  · show x.missing - 1 - j = x.missing - (j + 1)
    omega
  · show x.inside + 1 + j = x.inside + (j + 1)
    omega
  · show (if n = x.trips then (if n = x.trips then x.dawdling n + 1 else _) + j
      else if n = x.trips then _ else x.dawdling n) =
        if n = x.trips then x.dawdling n + (j + 1) else _
    split <;> omega

theorem release_zero (x : Scene) (n : Nat) : x.release n 0 = x := by
  simp [release]

theorem release_release (x : Scene) (n j : Nat) :
    (x.release n 1).release n j = x.release n (j + 1) := by
  refine mk.injEq .. ▸ ⟨rfl, rfl, funext fun side => ?_, ?_, funext fun m => ?_⟩
  · show (if side = Side.ofNumber n then
        (if side = Side.ofNumber n then x.units side - 1 else _) - j
      else if side = Side.ofNumber n then _ else x.units side) =
        if side = Side.ofNumber n then x.units side - (j + 1) else _
    split <;> omega
  · show x.inside - 1 - j = x.inside - (j + 1)
    omega
  · show (if m = n then (if m = n then x.dawdling m - 1 else _) - j
      else if m = n then _ else x.dawdling m) = if m = n then x.dawdling m - (j + 1) else _
    split <;> omega

end Scene

/-- A crowd in which nobody holds the lock and nobody has been asked to stop. -/
structure Quiet (parties : UInt32) (s : Crowd) : Prop where
  register : Register s
  parties_eq : s.barrier.parties = parties
  free : s.barrier.locked = false
  calm : ∀ thread, (s.settings thread).requested = false

variable {parties : UInt32} {s : Crowd}

theorem exists_outside (s : Crowd) : ∃ thread, s.isOutside thread = true := by
  have bound : ∀ visits : List Visit, ∃ n, ∀ v ∈ visits, v.thread < n := by
    intro visits
    induction visits with
    | nil => exact ⟨0, fun _ hv => (List.not_mem_nil hv).elim⟩
    | cons v rest ih =>
      obtain ⟨n, below⟩ := ih
      refine ⟨max n (v.thread + 1), fun w hw => ?_⟩
      rcases List.mem_cons.mp hw with rfl | hw
      · exact Nat.lt_of_lt_of_le (Nat.lt_succ_self _) (Nat.le_max_right _ _)
      · exact Nat.lt_of_lt_of_le (below w hw) (Nat.le_max_left _ _)
  obtain ⟨n, below⟩ := bound s.visits
  refine ⟨n, List.all_eq_true.mpr fun v hv => ?_⟩
  simp [Nat.ne_of_lt (below v hv)]

/-- Whoever gets its settings back leaves those of all as they were. -/
theorem reaches_insider {rules : Rules} {n k i : Nat} {v w : Visit} {b : Barrier}
    (hv : s.visits[i]? = some v)
    (h : Solo.goes n ⟨s.barrier, s.settings v.thread, s.trips, v⟩ =
      some ⟨b, s.settings v.thread, k, w⟩) :
    Schedule.Reaches (Crowd.step rules) s
      { s with barrier := b, trips := k, visits := s.visits.set i w } := by
  have run : Schedule.Reaches (Crowd.step rules) s _ := reaches_solo hv h
  unfold afterSolo at run
  rwa [settings_setSettings_self] at run

/-- A newcomer may do whatever it could do alone. -/
theorem reaches_newcomer {room n k thread : Nat} {b : Barrier} {v : Visit}
    (outside : s.isOutside thread = true) (few : s.inside < room)
    (h : Solo.goes n ⟨s.barrier, s.settings thread, s.trips, { thread := thread }⟩ =
      some ⟨b, s.settings thread, k, v⟩) :
    Schedule.Reaches (Crowd.step (.upTo room)) s
      { s with barrier := b, trips := k, visits := s.visits ++ [v] } := by
  have move : s.step (.upTo room) (.begin thread) =
      some { s with visits := s.visits ++ [{ thread := thread }] } := by
    simp [Crowd.step, outside, Rules.admits, Rules.upTo, few]
  have there : (s.visits ++ [({ thread := thread } : Visit)])[s.visits.length]? =
      some { thread := thread } := by simp
  have run : Schedule.Reaches (Crowd.step (.upTo room))
      { s with visits := s.visits ++ [{ thread := thread }] } _ := reaches_insider there h
  have last : (s.visits ++ [({ thread := thread } : Visit)]).set s.visits.length v =
      s.visits ++ [v] := by simp
  rw [last] at run
  exact (Schedule.Reaches.single move).trans run

theorem Quiet.come (q : Quiet parties s) (room : Nat) (few : s.inside < room)
    (more : 1 < s.barrier.missing.toNat) :
    ∃ t, Schedule.Reaches (Crowd.step (.upTo room)) s t ∧ Quiet parties t ∧
      t.scene = s.scene.gather 1 := by
  obtain ⟨thread, outside⟩ := exists_outside s
  have missing : s.barrier.countIn.missing.toNat = s.barrier.missing.toNat - 1 :=
    countIn_missing (Nat.lt_of_succ_lt more)
  have incomplete : s.barrier.countIn.missing ≠ 0 := fun complete => by
    rw [complete, UInt32.toNat_zero] at missing
    omega
  have run := reaches_newcomer outside few (Solo.goes_come q.free incomplete)
  refine ⟨_, run, ⟨q.register.keeps run, q.parties_eq, q.free, q.calm⟩, ?_⟩
  refine Scene.mk.injEq .. ▸ ⟨rfl, missing, funext fun side => ?_, ?_, funext fun n => ?_⟩
  · exact congrArg (fun gate => gate.value.toNat) (gate_countIn _ _)
  · exact List.countP_append
  · show (s.visits ++ [(⟨thread, .pause s.barrier.generation, .counted s.trips⟩ : Visit)]).countP
      (dawdles n) = if n = s.trips then _ else _
    have one : dawdles n ⟨thread, .pause s.barrier.generation, .counted s.trips⟩ =
        decide (s.trips = n) := rfl
    rw [List.countP_append, List.countP_singleton, one]
    by_cases same : n = s.trips
    · simp [same]
      rfl
    · simp [same, Ne.symm same]
      rfl

theorem Quiet.complete (q : Quiet parties s) (room : Nat) (few : s.inside < room)
    (one : s.barrier.missing.toNat = 1) (positive : 0 < parties.toNat)
    (fits : (s.barrier.gate (Side.ofNumber s.trips)).value.toNat + (parties.toNat - 1) ≤
      Semaphore.maxValue.toNat) :
    ∃ t, Schedule.Reaches (Crowd.step (.upTo room)) s t ∧ Quiet parties t ∧
      t.scene = s.scene.complete parties.toNat := by
  obtain ⟨thread, outside⟩ := exists_outside s
  have complete : s.barrier.countIn.missing = 0 := by
    refine UInt32.toNat_inj.mp ((countIn_missing (by omega)).trans ?_)
    rw [one]
    rfl
  have others : (s.barrier.parties - 1).toNat = parties.toNat - 1 := by
    rw [q.parties_eq, toNat_sub_one positive]
  have side : Side.ofGeneration s.barrier.generation = Side.ofNumber s.trips :=
    congrArg Side.ofGeneration q.register.generation
  obtain ⟨gate, posted⟩ : ∃ gate, (s.barrier.gate (Side.ofNumber s.trips)).post
      (s.barrier.parties - 1) = .ok gate := ⟨_, if_pos (.inl (by rw [others]; exact fits))⟩
  have value := Semaphore.post_toNat posted
  rw [others] at value
  rw [← side] at posted
  have run := reaches_newcomer outside few (Solo.goes_complete q.free complete posted)
  rw [side] at run
  have register := q.register.keeps run
  refine ⟨_, run, ⟨register, ?_, ?_, q.calm⟩, ?_⟩
  · rw [← q.parties_eq]
    exact parties_setGate _ _ _
  · exact (locked_setGate _ _ _).trans q.free
  refine Scene.mk.injEq .. ▸ ⟨rfl, ?_, funext fun side' => ?_, ?_, funext fun n => ?_⟩
  · rw [← q.parties_eq]
    exact congrArg UInt32.toNat (missing_setGate _ _ _)
  · show ((s.barrier.countIn.trip.setGate _ gate).gate side').value.toNat =
      if side' = Side.ofNumber s.trips then
        (s.barrier.gate side').value.toNat + (parties.toNat - 1)
      else (s.barrier.gate side').value.toNat
    rw [value_setGate]
    by_cases here : side' = Side.ofNumber s.trips
    · subst here
      rw [if_pos rfl, if_pos rfl]
      exact value
    · rw [if_neg (Ne.symm here), if_neg here]
      cases side' <;> rfl
  · exact List.countP_append
  · exact List.countP_append

/-- One thread on its way to a gate takes a unit that lies there. -/
theorem Quiet.release (q : Quiet parties s) (room n : Nat) (lagging : 0 < s.visits.countP (dawdles n))
    (unit : 0 < (s.barrier.gate (Side.ofNumber n)).value) :
    ∃ t, Schedule.Reaches (Crowd.step (.upTo room)) s t ∧ Quiet parties t ∧
      t.scene = s.scene.release n 1 ∧
        ∃ v ∈ t.visits, v.arrival = .counted n ∧ v.stage = .finished (.ok .released) := by
  obtain ⟨⟨thread, stage, arrival⟩, member, dawdles⟩ := List.countP_pos_iff.mp lagging
  obtain ⟨i, hv⟩ := List.mem_iff_getElem?.mp member
  obtain ⟨rfl, rfl⟩ : stage = .pause (.ofNat n) ∧ arrival = .counted n := by
    have agrees := q.register.agrees _ member
    unfold Crowd.dawdles at dawdles
    split at dawdles
    · next g paused =>
      obtain rfl : stage = .pause g := paused
      obtain rfl : arrival = .counted n := Visit.countedIn_iff.mp dawdles
      obtain ⟨_, same, rfl⟩ := agrees
      cases same
      exact ⟨rfl, rfl⟩
    · cases dawdles
  have run : Schedule.Reaches (Crowd.step (.upTo room)) s _ :=
    reaches_insider hv (Solo.goes_take (q.calm thread) (q.register.listens _) unit)
  have there := List.mem_set (a := (⟨thread, .finished (.ok .released), .counted n⟩ : Visit))
    (List.getElem?_eq_some_iff.mp hv).1
  refine ⟨_, run, ⟨q.register.keeps run, ?_, ?_, q.calm⟩, ?_, _, there, rfl, rfl⟩
  · exact (parties_setGate _ _ _).trans q.parties_eq
  · exact (locked_setGate _ _ _).trans q.free
  · refine Scene.mk.injEq .. ▸ ⟨rfl, ?_, funext fun side' => ?_, ?_, funext fun m => ?_⟩
    · exact congrArg UInt32.toNat (missing_setGate _ _ _)
    · show ((s.barrier.setGate (Side.ofNumber n) _).gate side').value.toNat =
        if side' = Side.ofNumber n then (s.barrier.gate side').value.toNat - 1
        else (s.barrier.gate side').value.toNat
      rw [value_setGate]
      by_cases here : side' = Side.ofNumber n
      · subst here
        rw [if_pos rfl, if_pos rfl]
        exact toNat_sub_one (UInt32.lt_iff_toNat_lt.mp unit)
      · rw [if_neg (Ne.symm here), if_neg here]
    · have change := countP_set_add Visit.inside ⟨thread, .finished (.ok .released), .counted n⟩ hv
      exact Nat.eq_sub_of_add_eq change
    · have change := countP_set_add (Crowd.dawdles m)
        ⟨thread, .finished (.ok .released), .counted n⟩ hv
      have one : Crowd.dawdles m ⟨thread, .pause (.ofNat n), .counted n⟩ = decide (n = m) := rfl
      have gone : Crowd.dawdles m ⟨thread, .finished (.ok .released), .counted n⟩ = false := rfl
      rw [one, gone] at change
      show (s.visits.set i _).countP (Crowd.dawdles m) = if m = n then
        s.visits.countP (Crowd.dawdles m) - 1 else s.visits.countP (Crowd.dawdles m)
      by_cases same : m = n
      · rw [if_pos same]
        rw [decide_eq_true same.symm] at change
        exact Nat.eq_sub_of_add_eq change
      · rw [if_neg same]
        rwa [decide_eq_false (Ne.symm same)] at change

/-! ## Stretches of the run -/

theorem Quiet.gather (room j : Nat) : ∀ {s : Crowd}, Quiet parties s → s.inside + j ≤ room →
    j < s.barrier.missing.toNat → ∃ t, Schedule.Reaches (Crowd.step (.upTo room)) s t ∧
      Quiet parties t ∧ t.scene = s.scene.gather j := by
  induction j with
  | zero => exact fun {s} q _ _ => ⟨s, .refl s, q, (Scene.gather_zero _).symm⟩
  | succ j ih =>
    intro s q few more
    obtain ⟨u, run, quiet, scene⟩ := q.come room (by omega) (by omega)
    have inside : u.inside = s.inside + 1 := congrArg Scene.inside scene
    have missing : u.barrier.missing.toNat = s.barrier.missing.toNat - 1 :=
      congrArg Scene.missing scene
    obtain ⟨t, run', quiet', scene'⟩ := ih quiet (by omega) (by omega)
    exact ⟨t, run.trans run', quiet', by rw [scene', scene, Scene.gather_gather]⟩

theorem Quiet.releases (room n j : Nat) : ∀ {s : Crowd}, Quiet parties s → j ≤ s.scene.dawdling n →
    j ≤ s.scene.units (Side.ofNumber n) → ∃ t, Schedule.Reaches (Crowd.step (.upTo room)) s t ∧
      Quiet parties t ∧ t.scene = s.scene.release n j := by
  induction j with
  | zero => exact fun {s} q _ _ => ⟨s, .refl s, q, (Scene.release_zero _ _).symm⟩
  | succ j ih =>
    intro s q lagging units
    obtain ⟨u, run, quiet, scene, -⟩ := q.release room n
      (Nat.lt_of_lt_of_le (Nat.succ_pos j) lagging)
      (UInt32.lt_iff_toNat_lt.mpr (Nat.lt_of_lt_of_le (Nat.succ_pos j) units))
    have dawdling : u.scene.dawdling n = s.scene.dawdling n - 1 := by
      rw [scene]
      exact if_pos rfl
    have left : u.scene.units (Side.ofNumber n) = s.scene.units (Side.ofNumber n) - 1 := by
      rw [scene]
      exact if_pos rfl
    obtain ⟨t, run', quiet', scene'⟩ := ih quiet (by omega) (by omega)
    exact ⟨t, run.trans run', quiet', by rw [scene', scene, Scene.release_release]⟩

theorem Quiet.round (q : Quiet parties s) (room : Nat) (positive : 0 < parties.toNat)
    (all : s.scene.missing = parties.toNat) (few : s.scene.inside + parties.toNat ≤ room)
    (fits : s.scene.units (Side.ofNumber s.scene.trips) + (parties.toNat - 1) ≤
      Semaphore.maxValue.toNat) :
    ∃ t, Schedule.Reaches (Crowd.step (.upTo room)) s t ∧ Quiet parties t ∧
      t.scene = (s.scene.gather (parties.toNat - 1)).complete parties.toNat := by
  have missing : s.barrier.missing.toNat = parties.toNat := all
  have room' : s.inside + parties.toNat ≤ room := few
  obtain ⟨u, run, quiet, scene⟩ := q.gather room (parties.toNat - 1) (by omega) (by omega)
  have inside : u.inside = s.inside + (parties.toNat - 1) := congrArg Scene.inside scene
  have one : u.barrier.missing.toNat = s.barrier.missing.toNat - (parties.toNat - 1) :=
    congrArg Scene.missing scene
  obtain ⟨t, run', quiet', scene'⟩ := quiet.complete room (by omega) (by omega) positive (by
    show u.scene.units (Side.ofNumber u.scene.trips) + _ ≤ _
    rw [scene]
    exact fits)
  exact ⟨t, run.trans run', quiet', by rw [scene', scene]⟩

/-- A generation comes, and some of those whom the last one has posted for take their units and go. -/
theorem Quiet.pass (q : Quiet parties s) (room j : Nat) (positive : 0 < parties.toNat)
    (all : s.scene.missing = parties.toNat) (few : s.scene.inside + parties.toNat ≤ room)
    (fits : s.scene.units (Side.ofNumber s.scene.trips) + (parties.toNat - 1) ≤
      Semaphore.maxValue.toNat) (le : j ≤ parties.toNat - 1) :
    ∃ t, Schedule.Reaches (Crowd.step (.upTo room)) s t ∧ Quiet parties t ∧
      t.scene = ((s.scene.gather (parties.toNat - 1)).complete parties.toNat).release
        s.scene.trips j := by
  obtain ⟨u, run, quiet, come⟩ := q.round room positive all few fits
  have dawdling : u.scene.dawdling s.scene.trips =
      s.scene.dawdling s.scene.trips + (parties.toNat - 1) := by
    rw [come]
    exact if_pos rfl
  have units : u.scene.units (Side.ofNumber s.scene.trips) =
      s.scene.units (Side.ofNumber s.scene.trips) + (parties.toNat - 1) := by
    rw [come]
    exact if_pos rfl
  obtain ⟨t, run', quiet', gone⟩ := quiet.releases room s.scene.trips j (by omega) (by omega)
  exact ⟨t, run.trans run', quiet', by rw [gone, come]⟩

/-- One thread of the first generation is on its way to the gate, where its unit lies, and everybody
else is gone. -/
def Scene.straggler (parties trips : Nat) : Scene where
  trips := trips
  missing := parties
  units side := if side = .even then 1 else 0
  inside := 1
  dawdling n := if n = 0 then 1 else 0

/-- The first generation comes, and all but one of it take their units and go. -/
theorem Quiet.first (q : Quiet parties s) (room : Nat) (two : 1 < parties.toNat)
    (le : parties.toNat ≤ Semaphore.maxValue.toNat) (more : parties.toNat < room)
    (scene : s.scene = ⟨0, parties.toNat, fun _ => 0, 0, fun _ => 0⟩) :
    ∃ t, Schedule.Reaches (Crowd.step (.upTo room)) s t ∧ Quiet parties t ∧
      t.scene = .straggler parties.toNat 1 := by
  have even : Side.ofNumber 0 = .even := rfl
  obtain ⟨t, run, quiet, gone⟩ := q.pass room (parties.toNat - 2) (by omega) (by rw [scene])
    (by rw [scene]; simp; omega) (by rw [scene]; simp; omega) (by omega)
  refine ⟨t, run, quiet, ?_⟩
  rw [gone, scene]
  simp only [Scene.release, Scene.complete, Scene.gather, even]
  refine Scene.mk.injEq .. ▸ ⟨rfl, rfl, funext fun side => ?_, ?_, funext fun n => ?_⟩
  · split <;> omega
  · omega
  · split <;> omega

/-- The second generation comes and goes, at the other gate. -/
theorem Quiet.second (q : Quiet parties s) (room : Nat) (two : 1 < parties.toNat)
    (le : parties.toNat ≤ Semaphore.maxValue.toNat) (more : parties.toNat < room)
    (scene : s.scene = .straggler parties.toNat 1) :
    ∃ t, Schedule.Reaches (Crowd.step (.upTo room)) s t ∧ Quiet parties t ∧
      t.scene = .straggler parties.toNat 2 := by
  have odd : Side.ofNumber 1 = .odd := rfl
  obtain ⟨t, run, quiet, gone⟩ := q.pass room (parties.toNat - 1) (by omega) (by rw [scene]; rfl)
    (by rw [scene]; simp only [Scene.straggler]; omega)
    (by rw [scene]; simp [Scene.straggler, odd]; omega) (Nat.le_refl _)
  refine ⟨t, run, quiet, ?_⟩
  rw [gone, scene]
  simp only [Scene.straggler, Scene.release, Scene.complete, Scene.gather, odd]
  refine Scene.mk.injEq .. ▸ ⟨rfl, rfl, funext fun side => ?_, ?_, funext fun n => ?_⟩
  · cases side <;> simp
  · omega
  · split <;> simp_all

/-- The first thread of the third finds the unit that was left behind. -/
theorem Quiet.third (q : Quiet parties s) (room : Nat) (two : 1 < parties.toNat)
    (more : parties.toNat < room) (scene : s.scene = .straggler parties.toNat 2) :
    ∃ t, Schedule.Reaches (Crowd.step (.upTo room)) s t ∧ Quiet parties t ∧
      ∃ v ∈ t.visits, v.arrival = .counted t.trips ∧ v.stage = .finished (.ok .released) := by
  have even : Side.ofNumber 2 = .even := rfl
  have inside : s.inside = 1 := congrArg Scene.inside scene
  have missing : s.barrier.missing.toNat = parties.toNat := congrArg Scene.missing scene
  obtain ⟨u, run, quiet, come⟩ := q.come room (by omega) (by omega)
  rw [scene] at come
  have dawdling : 0 < u.scene.dawdling 2 := by
    rw [come]
    simp [Scene.straggler, Scene.gather]
  have unit : 0 < u.scene.units (Side.ofNumber 2) := by
    rw [come]
    simp [Scene.straggler, Scene.gather, even]
  obtain ⟨t, run', quiet', gone, v, hv, counted, released⟩ :=
    quiet.release room 2 dawdling (UInt32.lt_iff_toNat_lt.mpr unit)
  have trips : t.trips = 2 := by
    show t.scene.trips = 2
    rw [gone, come]
    rfl
  exact ⟨t, run.trans run', quiet', v, hv, by rw [trips]; exact counted, released⟩

/-- One thread more than make up a generation are enough for somebody to get through while its own
generation is still open, with nothing failing and nobody asked to stop. -/
theorem exists_overrun {b : Barrier} (new : Pristine parties b) (two : 1 < parties.toNat)
    {room : Nat} (more : parties.toNat < room) :
    ∃ s, Schedule.Reaches (Crowd.step (.upTo room)) (Crowd.around b fun _ => {}) s ∧
      (∀ thread, (s.settings thread).requested = false) ∧
        ∃ v ∈ s.visits, v.arrival = .counted s.trips ∧ v.stage = .finished (.ok .released) := by
  have q : Quiet parties (Crowd.around b fun _ => {}) :=
    ⟨.around new _, new.parties_eq, new.free, fun _ => rfl⟩
  have scene : (Crowd.around b fun _ => {}).scene =
      ⟨0, parties.toNat, fun _ => 0, 0, fun _ => 0⟩ := by
    refine Scene.mk.injEq .. ▸ ⟨rfl, ?_, funext fun side => ?_, rfl, rfl⟩
    · exact congrArg UInt32.toNat new.missing
    · exact congrArg UInt32.toNat (new.empty side)
  obtain ⟨s₁, run₁, q₁, scene₁⟩ := q.first room two new.parties_le more scene
  obtain ⟨s₂, run₂, q₂, scene₂⟩ := q₁.second room two new.parties_le more scene₁
  obtain ⟨s₃, run₃, q₃, robbed⟩ := q₂.third room two more scene₂
  exact ⟨s₃, (run₁.trans run₂).trans run₃, q₃.calm, robbed⟩

end Crowd

end Rendezvous
