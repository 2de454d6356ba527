import Rendezvous.Script.Begin

/-!
# Advancing a thread

`World.perform` does one stage of a thread's activity; it is the library's own step function for the
operation in question, with the script's bookkeeping around it. `World.advance` is what a scheduler
calls: it first sees whether the script wants the thread to stop before its next call, and which
failure it wants in place of that call.

A thread that cannot move is at rest. `World.settle` lets threads run until all of them are at rest.
Which of several threads moves is a choice; here the thread that moved last goes on as long as it
can, and then the one that has been at rest longest gets its turn. The choice is fair and makes runs
repeatable. What a script can learn beyond it depends on the schedule, as it does on any machine.
-/

set_option autoImplicit false

namespace Rendezvous.Script

open Barrier Handle

namespace World

/-- The result of waiting on a bare semaphore, as an event. -/
def waitEvent (index : Nat) : Except PrimitiveError Unit → Event
  | .ok () => ⟨.semWait index, .done⟩
  | .error e => ⟨.semWait index, .failed e⟩

/-- If the arena gained a barrier, its lock is the object's latest. -/
def followBuild (w : World) (o : Nat) (before : Arena) : World :=
  if before.barriers.size < w.arena.barriers.size then
    w.setLatch o (some (.barrier before.barriers.size))
  else w

/-- A lock was just made for object `o` and nothing has been done with it yet. -/
def forgetLatch (w : World) (o : Nat) (events : List Event) : World :=
  if events.any fun e => e.call = .lockInit ∧ e.result = .done then w.setLatch o none else w

/-- One stage of an operation on handle `h`, object `o`. -/
def performHandle (w : World) (t o h : Nat) (fault : Option PrimitiveError) (op : Operation) :
    Option (World × Operation) :=
  (op.step w.arena h (w.thread t).cancel (w.supply t o) fault).map fun turn =>
    let moved := ({ w with arena := turn.arena }.setCancel t turn.cancel).log t o
      turn.events turn.notices
    ((moved.forgetLatch o turn.events).followBuild o w.arena, turn.stage)

/-- Applies what a group's stage does to threads. -/
def applyEffects (w : World) (effects : List CancelGroup.Effect) : World :=
  effects.foldl
    (fun w e => w.setCancel e.thread (e.apply (w.thread e.thread).cancel)) w

/-- One stage of what thread `t` is in the middle of; `none` if the thread cannot move. -/
def perform (w : World) (t : Nat) (fault : Option PrimitiveError) :
    Activity → Option (World × Activity)
  | .handle _ _ (.finished r) => some (w, .reply (.ofResult r))
  | .handle o h op =>
      (w.performHandle t o h fault op).map fun (w, op) => (w, .handle o h op)
  | .inspectStatus o h (.finished (.ok (.status s))) =>
      some (w, .inspectParties o h s (.ask .parties))
  | .inspectStatus _ _ (.finished r) => some (w, .reply (.ofResult r))
  | .inspectStatus o h op =>
      (w.performHandle t o h fault op).map fun (w, op) => (w, .inspectStatus o h op)
  | .inspectParties _ _ s (.finished (.ok (.parties n))) =>
      some (w, .reply (.text (Handle.inspect s n)))
  | .inspectParties _ _ _ (.finished r) => some (w, .reply (.ofResult r))
  | .inspectParties o h s op =>
      (w.performHandle t o h fault op).map fun (w, op) => (w, .inspectParties o h s op)
  | .wait _ _ (.finished (.ok outcome)) => some (w, .reply (.outcome outcome))
  | .wait _ _ (.finished (.error e)) => some (w, .reply (.failed e))
  | .wait o b stage =>
      (stage.step (w.arena.barrier b) (w.thread t).cancel fault).map fun turn =>
        (({ w with arena := w.arena.setBarrier b turn.barrier }.setCancel t turn.cancel).log t o
          turn.events turn.notices, .wait o b turn.stage)
  | .probe _ _ _ (.finished (.ok n)) => some (w, .reply (.number n))
  | .probe _ _ _ (.finished (.error e)) => some (w, .reply (.failed e))
  | .probe o b gauge stage =>
      (stage.step (w.arena.barrier b) gauge fault).map fun turn =>
        ({ w with arena := w.arena.setBarrier b turn.barrier }.log t o turn.events [],
          .probe o b gauge turn.stage)
  | .construct o (.finished (.ok b)) =>
      let (arena, number) := w.arena.adopt b
      some ((({ w with arena }.setContent o (.barrier (some number))).setLatch o
        (some (.barrier number))), .reply .done)
  | .construct _ (.finished (.error e)) => some (w, .reply (.failed e))
  | .construct o stage =>
      (stage.step (w.supply t o) fault).map fun turn =>
        ((w.log t o turn.events turn.notices).forgetLatch o turn.events,
          .construct o turn.stage)
  | .makeLock o =>
      match fault with
      | some e => some (w.log t o [⟨.lockInit, .injected e⟩] [], .reply (.refused e))
      | none =>
          let number := w.locks.size
          let made := { w with locks := w.locks.push false }.setContent o (.lock (some number))
          some ((made.setLatch o (some (.bare number))).log t o [⟨.lockInit, .done⟩] [],
            .reply .done)
  | .lock o l .enter =>
      match fault with
      | some e => some (w.log t o [⟨.lock, .injected e⟩] [], .lock o l (.finished (.error e)))
      | none => some (w, .lock o l .lock)
  | .lock o l .lock =>
      if w.locked l then none
      else some ((w.setLocked l true).log t o [⟨.lock, .done⟩] [], .lock o l (.finished (.ok ())))
  | .lock _ _ (.finished r) => some (w, .reply (.ofPrimitive r))
  | .tryLock o l =>
      let free := fault.isNone && !w.locked l
      some ((if free then w.setLocked l true else w).log t o [⟨.tryLock, .flag free⟩] [],
        .reply (.flag free))
  | .destroyLock o l =>
      let gone := w.setContent o (.lock none)
      let events := Teardown.lockEvents (w.locked l) fault
      let reply := match fault with
        | some e => Reply.refused e
        | none => if w.locked l then .refused (.busy "lock is held") else .done
      some (gone.log t o events [], .reply reply)
  | .makeSemaphore o value shared =>
      let index := (w.object o).semaphoresMade
      match fault with
      | some e =>
          some (w.log t o [⟨.semInit index value shared, .injected e⟩] [], .reply (.refused e))
      | none =>
          match Semaphore.create value shared w.sharing Tuning.standard.pollInterval
              (w.object o).rule with
          | .error e =>
              some (w.log t o [⟨.semInit index value shared, .failed e⟩] [], .reply (.refused e))
          | .ok s =>
              let number := w.semaphores.size
              let made := { w with semaphores := w.semaphores.push ⟨s, index⟩ }
              some ((made.setObject o { made.object o with
                  content := .semaphore (some number), semaphoresMade := index + 1 }).log t o
                [⟨.semInit index value shared, .done⟩] [], .reply .done)
  | .semWait o s .enter =>
      match fault with
      | some e =>
          some (w.log t o [⟨.semWait (w.bare s).index, .injected e⟩] [], .reply (.refused e))
      | none => some (w, .semWait o s (.blocked (.start (w.bare s).semaphore.rule)))
  | .semWait o s (.blocked (.finished r)) =>
      some (w.log t o [waitEvent (w.bare s).index r] [], .reply (.ofPrimitive r))
  | .semWait o s (.blocked stage) =>
      (stage.step (w.bare s).semaphore (w.thread t).cancel).map fun (x, c, stage) =>
        ((w.setSemaphore s x).setCancel t c, .semWait o s (.blocked stage))
  | .semPost o s count =>
      let index := (w.bare s).index
      match fault with
      | some e => some (w.log t o [⟨.semPost index count, .injected e⟩] [], .reply (.refused e))
      | none =>
          match (w.bare s).semaphore.post count with
          | .ok x =>
              some ((w.setSemaphore s x).log t o [⟨.semPost index count, .done⟩] [], .reply .done)
          | .error e =>
              some (w.log t o [⟨.semPost index count, .failed e⟩] [], .reply (.refused e))
  | .destroySemaphore o s =>
      let x := w.bare s
      let reply := match fault with
        | some e => Reply.refused e
        | none => .done
      some ((w.setContent o (.semaphore none)).log t o
        (teardownEvents (.semDestroy x.index x.semaphore.value) fault)
        [.semaphoreDestroyed x.semaphore.value], .reply reply)
  | .group _ .finished => some (w, .reply .done)
  | .group o stage =>
      match w.content? o with
      | some (.group g) =>
          (g.step t stage).map fun (g, effects, stage) =>
            ((w.setContent o (.group g)).applyEffects effects, .group o stage)
      | _ => none
  | .reply _ => none

/-! ## Stopping and failing as the script says -/

/-- The place where a script can stop a thread that is about to make such a call. -/
def stallPoint : Ask → Option StallPoint
  | .lockInit => some .init
  | .lock => some .lock
  | .semWait => some .semaphore
  | .semPost => some .post
  | _ => none

/-- Passes a point: counts it, and says whether the script wants the thread to stop there. -/
def pass (w : World) (t o : Nat) (point : StallPoint) : World × Bool :=
  match point with
  | .init =>
      let number := (w.object o).builds + 1
      (w.setObject o { w.object o with builds := number },
        (w.object o).stalledBuilds.contains number)
  | _ =>
      let x := w.thread t
      let number := x.passed.count point + 1
      (w.setThread t { x with passed := point :: x.passed }, x.stalls.contains ⟨point, number⟩)

/-- Puts thread `t` into an activity, or ends its action if there is a reply. -/
def carryOn (w : World) (t : Nat) (activity : Activity) : World :=
  match activity with
  | .reply r =>
      { w.setThread t { w.thread t with activity := none } with done := w.done ++ [(t, r)] }
  | activity => w.setThread t { w.thread t with activity := some activity }

/-- The next call of thread `t` on object `o`, with the failure the script wants for it. -/
def performCall (w : World) (t : Nat) (activity : Activity) (ask : Ask) : World :=
  let fault := w.injection activity.object ask
  let counted := (w.count activity.object ask).setThread t { w.thread t with cleared := false }
  match counted.perform t fault activity with
  | some (w, activity) => w.carryOn t activity
  | none => counted

/-- Lets thread `t` do one thing, if it can: stop where it has to, or do one stage. -/
def advance (w : World) (t : Nat) : Option World :=
  let x := w.thread t
  match x.activity, x.stalled with
  | none, _ | _, some _ => none
  | some activity, none =>
      match activity.asks with
      | none => (w.perform t none activity).map fun (w, activity) => w.carryOn t activity
      | some ask =>
          match stallPoint ask with
          | none => some (w.performCall t activity ask)
          | some point =>
              if x.cleared then some (w.performCall t activity ask)
              else
                match w.pass t activity.object point with
                | (w, true) => some (w.setThread t { w.thread t with stalled := some point })
                | (w, false) => some (w.performCall t activity ask)

/-! ## Running until nothing moves -/

/-- Thread `t` has come to rest. -/
def toRest (w : World) (t : Nat) : World :=
  { w with queue := w.queue.filter (· ≠ t) ++ [t] }

/-- Runs thread `t` until it comes to rest. -/
def runThread : Nat → World → Nat → World
  | 0, w, _ => w
  | fuel + 1, w, t =>
      match w.advance t with
      | some w => runThread fuel w t
      | none => w.toRest t

/-- The thread that has been at rest longest among those that can move. -/
def nextThread (w : World) : Option Nat := w.queue.find? fun t => (w.advance t).isSome

/-- Runs threads, one after the other, until none can move. -/
def settle (fuel : Nat) : Nat → World → World
  | 0, w => w
  | rounds + 1, w =>
      match w.nextThread with
      | some t => settle fuel rounds (runThread fuel w t)
      | none => w

end World

end Rendezvous.Script
