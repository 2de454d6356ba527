import Rendezvous.Script.World

/-!
# Beginning an action

What a thread does when it is told something. Most actions begin an activity that then takes its
course stage by stage; the ones that only concern the thread itself, or that look at something
without any call on a primitive, are answered at once.

An action on an object of another kind than it is meant for, or on one whose slot is empty, is
skipped with `Skip.noObject`; emptying a slot that is empty already is no such case.
-/

set_option autoImplicit false

namespace Rendezvous.Script

open Barrier Handle

namespace World

def content? (w : World) (o : Nat) : Option Content := w.objects[o]?.map (·.content)

/-- The attributes a script names by an object, as far as the object has any. -/
def attributesOf (w : World) (o : Option Nat) : Attributes.Cell :=
  match o.bind w.content? with
  | some (.attributes cell) => cell
  | _ => none

/-- Whether a barrier built with these attributes is shared. -/
def sharedBy (w : World) (o : Option Nat) : Bool :=
  match w.attributesOf o with
  | some a => a.sharing.isShared
  | none => false

/-- Some thread is inside the bare lock or waits for it. -/
def lockInUse (w : World) (l : Nat) : Bool :=
  w.threads.any fun x => (x.activity.bind Activity.bareLock?) = some l

/-- Some thread is inside the bare semaphore or waits for it. -/
def semaphoreInUse (w : World) (s : Nat) : Bool :=
  w.threads.any fun x => (x.activity.bind Activity.bareSemaphore?) = some s

/-- Changes a thread's own settings. -/
def setCancel (w : World) (t : Nat) (c : Cancellation) : World :=
  w.setThread t { w.thread t with cancel := c }

/-! ## Cleanup routines -/

/-- Runs one routine for thread `t`. -/
def runRoutine (w : World) (t : Nat) (r : Routine) : World :=
  let w :=
    match r.unlocks.bind fun o => (w.content? o).map fun content => (o, content) with
    | some (o, .lock (some l)) =>
        if w.locked l then (w.setLocked l false).log t o [⟨.unlock, .done⟩] [] else w
    | _ => w
  if r.cancels then w.setCancel t (w.thread t).cancel.request else w

/-- Performs an action on the thread's cleanup routines and runs those that have to. -/
def cleanUp (w : World) (t : Nat) (action : Cleanup.Action Routine) :
    World × Option (List Routine) :=
  match Cleanup.step (w.thread t).cleanups action with
  | none => (w, none)
  | some effect =>
      let announced := if action.announces then effect.ran.map fun _ => Notice.cleaningUp else []
      let w := w.setThread t { w.thread t with cleanups := effect.rest }
      ((effect.ran.foldl (runRoutine · t ·) w).log t 0 [] announced, some effect.ran)

/-! ## Actions -/

def noObject (w : World) : World × Activity := (w, .reply (.skipped .noObject))

/-- Replies at once. -/
def say (w : World) (r : Reply) : World × Activity := (w, .reply r)

/-- Begins an operation on an object that has to be a handle. -/
def onHandle (w : World) (o : Nat) (op : Operation) : World × Activity :=
  match w.content? o with
  | some (.handle h) => (w, .handle o h op)
  | _ => w.noObject

/-- Begins an operation on a handle that may be missing. -/
def onPosixHandle (w : World) (o : Option Nat) (op : Operation) : World × Activity :=
  match Handle.required o with
  | .ok o => w.onHandle o op
  | .error e => w.say (.failed e)

/-- Performs an action on an attributes object, or on an empty cell that is not kept. -/
def onAttributes (w : World) (o : Option Nat) (f : Attributes.Cell → Reply × Attributes.Cell) :
    World × Activity :=
  match o with
  | none => w.say (f none).1
  | some o =>
      match w.content? o with
      | some (.attributes cell) => (w.setContent o (.attributes (f cell).2)).say (f cell).1
      | _ => w.noObject

/-- Begins what a script's action says, for thread `t`. -/
def begin (w : World) (t : Nat) : Action → World × Activity
  | .wait o =>
      match w.content? o with
      | some (.handle h) => (w, .handle o h .wait)
      | some (.barrier (some b)) => (w, .wait o b .enter)
      | _ => w.noObject
  | .init o parties attributes =>
      match w.content? o with
      | some (.handle h) => (w, .handle o h (.init parties (w.sharedBy attributes)))
      | some (.barrier _) => (w, .construct o (.check parties (w.sharedBy attributes)))
      | _ => w.noObject
  | .destroy o => w.onHandle o .destroy
  | .drop o =>
      match w.content? o with
      | some (.barrier _) => (w.setContent o (.barrier none)).say .done
      | _ => w.noObject
  | .gauge o gauge =>
      match w.content? o with
      | some (.handle h) => (w, .handle o h (.ask (.gauge gauge)))
      | some (.barrier (some b)) => (w, .probe o b gauge .enter)
      | _ => w.noObject
  | .inspect o =>
      match w.content? o with
      | some (.handle h) => (w, .inspectStatus o h (.ask .status))
      | some (.barrier (some b)) => w.say (.text (w.arena.barrier b).inspect)
      | some (.lock (some l)) =>
          w.say (.text ("ParkingLock \x7b locked: " ++ toString (w.locked l) ++ " \x7d"))
      | _ => w.noObject
  | .posixInit o parties attributes =>
      w.onPosixHandle o (.init parties (w.sharedBy attributes))
  | .posixWait o => w.onPosixHandle o .wait
  | .posixDestroy o => w.onPosixHandle o .destroy
  | .attrInit o => w.onAttributes o fun cell => (.ofUnit cell.init.1, cell.init.2)
  | .attrDestroy o => w.onAttributes o fun cell => (.ofUnit cell.destroy.1, cell.destroy.2)
  | .attrGet o =>
      w.onAttributes o fun cell =>
        match cell.getShared with
        | .ok mode => (.number mode.raw, cell)
        | .error e => (.failed e, cell)
  | .attrSet o raw =>
      w.onAttributes o fun cell =>
        (.ofUnit (cell.setRaw w.sharing raw).1, (cell.setRaw w.sharing raw).2)
  | .setType type =>
      (w.setCancel t ((w.thread t).cancel.setType type)).say
        (.cancelType (w.thread t).cancel.type)
  | .setState state =>
      (w.setCancel t ((w.thread t).cancel.setState state)).say
        (.cancelState (w.thread t).cancel.state)
  | .test => w.say (.ofPrimitive (w.thread t).cancel.test)
  | .settings => w.say (.settings (w.thread t).cancel)
  | .openShield deferredOnly =>
      let x := w.thread t
      let (shield, cancel) := if deferredOnly then x.cancel.shieldDeferred else x.cancel.shield
      (w.setThread t { x with cancel, shields := x.shields.push (some shield) }).say
        (.shieldOpened x.shields.size shield.takesEffect)
  | .closeShield index =>
      let x := w.thread t
      match x.shields[index]? with
      | some (some shield) =>
          let cancel := x.cancel.unshield shield
          (w.setThread t { x with cancel, shields := x.shields.setIfInBounds index none }).say
            (.cancelState cancel.state)
      | _ => w.say (.skipped .noScope)
  | .pushCleanup routine =>
      let (w, _) := w.cleanUp t (.push routine)
      w.say (.number (w.thread t).cleanups.length)
  | .popCleanup execute =>
      match w.cleanUp t (.pop execute) with
      | (w, some ran) => w.say (.ran (ran.map (·.name)))
      | (w, none) => w.say (.skipped .noCleanup)
  | .dropCleanup =>
      match w.cleanUp t .drop with
      | (w, some ran) => w.say (.ran (ran.map (·.name)))
      | (w, none) => w.say (.skipped .noCleanup)
  | .unwind =>
      match w.cleanUp t .unwind with
      | (w, some ran) => w.say (.unwound (ran.map (·.name)))
      | (w, none) => w.say (.unwound [])
  | .lockMake o =>
      match w.content? o with
      | some (.lock _) => (w, .makeLock o)
      | _ => w.noObject
  | .lock o =>
      match w.content? o with
      | some (.lock (some l)) => (w, .lock o l .enter)
      | _ => w.noObject
  | .tryLock o =>
      match w.content? o with
      | some (.lock (some l)) => (w, .tryLock o l)
      | _ => w.noObject
  | .unlock o =>
      match w.content? o with
      | some (.lock (some l)) =>
          if w.locked l then
            ((w.setLocked l false).log t o [⟨.unlock, .done⟩] []).say .done
          else w.say (.skipped .notHeld)
      | _ => w.noObject
  | .lockDestroy o =>
      match w.content? o with
      | some (.lock (some l)) =>
          if w.lockInUse l then w.say (.skipped .inUse) else (w, .destroyLock o l)
      | _ => w.noObject
  | .semMake o value shared =>
      match w.content? o with
      | some (.semaphore _) => (w, .makeSemaphore o value shared)
      | _ => w.noObject
  | .semWait o =>
      match w.content? o with
      | some (.semaphore (some s)) => (w, .semWait o s .enter)
      | _ => w.noObject
  | .semPost o count =>
      match w.content? o with
      | some (.semaphore (some s)) => (w, .semPost o s count)
      | _ => w.noObject
  | .semValue o =>
      match w.content? o with
      | some (.semaphore (some s)) => w.say (.number (w.bare s).semaphore.value.toNat)
      | _ => w.noObject
  | .semDestroy o =>
      match w.content? o with
      | some (.semaphore (some s)) =>
          if w.semaphoreInUse s then w.say (.skipped .inUse) else (w, .destroySemaphore o s)
      | _ => w.noObject
  | .enlist o =>
      match w.content? o with
      | some (.group _) => (w, .group o CancelGroup.enlist)
      | _ => w.noObject
  | .abort o =>
      match w.content? o with
      | some (.group _) => (w, .group o CancelGroup.abort)
      | _ => w.noObject

end World

end Rendezvous.Script
