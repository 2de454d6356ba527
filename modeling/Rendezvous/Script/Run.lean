import Rendezvous.Script.Advance

/-!
# Running a script

The controller takes a script's steps one by one. A step that is given to threads makes each of them
begin an action, unless it is still busy with an earlier one; other steps the controller carries out
itself. Then threads run until all are at rest, and the controller reports: what was completed, who
is held up and where, and what every object looks like.

The controller looks at objects from outside. Its looks are no calls on any primitive: they are not
counted, do not wait and leave no trace. While somebody holds a barrier's lock the count inside
cannot be read and shows as held.
-/

set_option autoImplicit false

namespace Rendezvous.Script

open Barrier Handle

namespace World

/-! ## Looking at objects -/

/-- The count of a barrier as the controller sees it. -/
def reading (b : Barrier) (gauge : Gauge) : Reading :=
  if b.locked then .held else .number (b.read gauge)

/-- The count inside a handle as the controller sees it. -/
def readingOf (w : World) (gauge : Gauge) : Slot → Reading
  | .unbuilt _ => .number 0
  | .live b => reading (w.arena.barrier b) gauge
  | .empty => .failed (.invalidArgument .notInitialized)

def snapshot (w : World) : Content → Snapshot
  | .handle h =>
      let slot := w.arena.slot h
      let units := match slot with
        | .live b => (w.arena.barrier b).units
        | _ => []
      .handle slot.status (w.arena.partiesOf slot) (w.readingOf .waiting slot)
        (w.readingOf .generation slot) units
  | .barrier (some b) =>
      let x := w.arena.barrier b
      .barrier x.parties x.shared (reading x .waiting) (reading x .generation) x.units
  | .lock (some l) => .lock (w.locked l)
  | .semaphore (some s) => .semaphore (w.bare s).semaphore.value (w.bare s).semaphore.shared
  | .attributes (some a) => .attributes a.sharing.raw
  | .group _ => .group
  | .barrier none | .lock none | .semaphore none | .attributes none => .nothing

/-! ## What the controller does itself -/

/-- Some thread is inside the barrier. -/
def occupied (w : World) (b : Nat) : Bool :=
  w.threads.any fun x => (x.activity.bind Activity.barrier?) = some b

/-- A lock lives as long as its object holds it or a thread is inside. -/
def alive (w : World) : Content → Latch → Bool
  | .handle h, .barrier b => w.arena.slot h = .live b
  | .barrier held, .barrier b => held = some b || w.occupied b
  | .lock held, .bare l => held = some l || w.lockInUse l
  | _, _ => false

/-- The object's latest lock, if it is still there. -/
def latch (w : World) (o : Nat) : Option Latch :=
  (w.content? o).bind fun content => (w.object o).latch.filter (w.alive content)

def latched (w : World) : Latch → Bool
  | .barrier b => (w.arena.barrier b).locked
  | .bare l => w.locked l

def setLatched (w : World) (held : Bool) : Latch → World
  | .barrier b =>
      { w with arena := w.arena.setBarrier b { w.arena.barrier b with locked := held } }
  | .bare l => w.setLocked l held

/-- Takes or gives back a lock from outside; `held` is what the lock is to become. -/
def turnLatch (w : World) (o : Nat) (held : Bool) : World × Option Skip :=
  match w.latch o with
  | none => (w, some .noLock)
  | some latch =>
      if w.latched latch = held then (w, some .lockState) else (w.setLatched held latch, none)

/-- The thread sleeps at a semaphore. -/
def atSemaphore (w : World) (t : Nat) : Bool :=
  match (w.thread t).activity, (w.thread t).stalled with
  | some activity, none =>
      match activity.place w with
      | .semaphore .. => true
      | _ => false
  | _, _ => false

/-- The thread exists and has to be asked through `f`. -/
def onThread (w : World) (t : Nat) (f : Thread → World × Option Skip) : World × Option Skip :=
  if t < w.threads.size then f (w.thread t) else (w, some .noThread)

def control (w : World) : Control → World × Option Skip
  | .cancel t => w.onThread t fun x => (w.setCancel t x.cancel.request, none)
  | .cancelBlocked =>
      match (List.range w.threads.size).find? fun t =>
          w.atSemaphore t && !(w.thread t).cancel.requested with
      | some t => (w.setCancel t (w.thread t).cancel.request, none)
      | none => (w, some .nobody)
  | .resume t =>
      w.onThread t fun x =>
        match x.stalled with
        | some _ => (w.setThread t { x with stalled := none, cleared := true }, none)
        | none => (w, some .notStalled)
  | .hold o => w.turnLatch o true
  | .release o => w.turnLatch o false

/-! ## Steps -/

/-- Tells one thread to begin an action. -/
def assign (w : World) (action : Action) (stalls : List Stall) (memory : Bool) (t : Nat) :
    World × Option Skip :=
  w.onThread t fun x =>
    match x.activity with
    | some _ => (w, some .threadBusy)
    | none =>
        let ready := w.setThread t { x with
          stalls, passed := [], stalled := none, cleared := false, memory }
        let (w, activity) := ready.begin t action
        (w.carryOn t activity, none)

/-- Tells several threads; the last refusal is the one that is reported. -/
def assignAll (action : Action) (stalls : List Stall) (memory : Bool) :
    List Nat → World × Option Skip → World × Option Skip
  | [], state => state
  | t :: rest, (w, skip) =>
      let (w, refused) := w.assign action stalls memory t
      assignAll action stalls memory rest (w, refused <|> skip)

def take (w : World) : Step → World × Option Skip
  | .act threads action stalls memory => assignAll action stalls memory threads (w, none)
  | .control c => w.control c

/-- More turns than the threads of a script can make between two steps. -/
def patience (w : World) : Nat := 2000 * (w.threads.size + 1)

/-- Where thread `t` is held up, if it is. -/
def whereabouts (w : World) (t : Nat) : Option Place :=
  let x := w.thread t
  x.activity.map fun activity =>
    match x.stalled with
    | some point => .stalled point
    | none => activity.place w

/-- Values with the number of their thread, sorted into one list for each thread that has any. -/
def perThread {α : Type} (threads : Nat) (xs : List (Nat × α)) : List (Nat × List α) :=
  (List.range threads).filterMap fun t =>
    match xs.filterMap fun x => if x.1 = t then some x.2 else none with
    | [] => none
    | own => some (t, own)

def report (w : World) (skip : Option Skip) : Report :=
  { done := w.done
    blocked := (List.range w.threads.size).filterMap fun t =>
      (w.whereabouts t).map fun place => (t, place)
    objects := (w.objects.map fun o => w.snapshot o.content).toList
    events := perThread w.threads.size w.events
    notices := perThread w.threads.size (w.notices.map fun (t, n) => (t, n.text))
    skip }

/-- One step with all that follows from it. -/
def runStep (w : World) (step : Step) : World × Report :=
  let (w, skip) := { w with done := [], events := [], notices := [] }.take step
  let w := settle w.patience w.patience w
  (w, w.report skip)

/-- All steps of a script, each with its report. -/
def runSteps : World → List Step → List Report
  | _, [] => []
  | w, step :: rest =>
      let (w, report) := w.runStep step
      report :: runSteps w rest

end World

/-- Runs a script from the beginning. -/
def run (sharing : Bool) (threads : Nat) (objects : List ObjectSpec) (steps : List Step) :
    List Report :=
  (World.start sharing threads objects).runSteps steps

end Rendezvous.Script
