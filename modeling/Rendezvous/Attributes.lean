import Rendezvous.Error

/-!
# Barrier attributes

The options a barrier is built with. There is one: whether threads of other processes may use the
barrier. A build without support for that refuses the shared mode when it is set, so that in such a
build no attributes object ever says `shared`.

A barrier copies what it needs while it is built. Changing or destroying the attributes afterwards
has no effect on it.

Callers hold attributes in a cell that may be empty; the operations in `Attributes.Cell` follow the
rules of the POSIX functions of these names, where an empty cell plays the part of a null pointer.
-/

set_option autoImplicit false

namespace Rendezvous

inductive Sharing where
  /-- For the threads of one process. -/
  | single
  /-- For every process that can reach the barrier's memory. -/
  | shared
  deriving DecidableEq, Repr, Inhabited

namespace Sharing

def isShared : Sharing → Bool
  | single => false
  | shared => true

/-- The number that stands for a mode in the POSIX interface. -/
def raw : Sharing → Int
  | single => 0
  | shared => 1

def name : Sharing → String
  | single => "Private"
  | shared => "Shared"

def ofRaw (raw : Int) : Except BarrierError Sharing :=
  if raw = 0 then .ok single
  else if raw = 1 then .ok shared
  else .error (.invalidArgument (.unknownSharing raw))

end Sharing

structure Attributes where
  sharing : Sharing := .single
  deriving DecidableEq, Repr, Inhabited

namespace Attributes

/-- Stores a mode. `supported` says whether this build can share barriers between processes; where
it cannot, asking for the shared mode fails and leaves the object at `single`. -/
def setSharing (a : Attributes) (supported : Bool) (mode : Sharing) :
    Except BarrierError Unit × Attributes :=
  if mode.isShared && !supported then
    (.error (.notSupported "process-shared barriers"), { a with sharing := .single })
  else (.ok (), { a with sharing := mode })

/-! ## Cells -/

abbrev Cell := Option Attributes

namespace Cell

def init (_ : Cell) : Except BarrierError Unit × Cell := (.ok (), some {})

/-- Empties the cell; an empty one cannot be emptied again. -/
def destroy : Cell → Except BarrierError Unit × Cell
  | some _ => (.ok (), none)
  | none => (.error (.invalidArgument .nullAttributes), none)

def getShared : Cell → Except BarrierError Sharing
  | some a => .ok a.sharing
  | none => .error (.invalidArgument .nothingToRead)

def setShared (cell : Cell) (supported : Bool) (mode : Sharing) :
    Except BarrierError Unit × Cell :=
  match cell with
  | some a => ((a.setSharing supported mode).1, some (a.setSharing supported mode).2)
  | none => (.error (.invalidArgument .nullAttributes), none)

/-- Sets a mode given by its number, which is looked at before the cell is. -/
def setRaw (cell : Cell) (supported : Bool) (raw : Int) : Except BarrierError Unit × Cell :=
  match Sharing.ofRaw raw with
  | .ok mode => cell.setShared supported mode
  | .error e => (.error e, cell)

end Cell

end Attributes

end Rendezvous
