import Rendezvous.Run.Crew
import Rendezvous.Schedule

/-!
# Meetings

The plain use of a barrier: some threads wait on one handle, each a number of times, and nothing
else happens. A `Meeting` keeps what each thread got from its waits; `Meeting.hold` runs one and
looks at the handle before and after it is destroyed.
-/

set_option autoImplicit false

namespace Rendezvous.Run

open Barrier Handle

namespace Meeting

/-- A thread that still has to wait so many times, and what it got so far, latest first. -/
structure Member where
  left : Nat
  op : Option Operation := none
  results : List (Except BarrierError Outcome) := []
  deriving Repr

end Meeting

structure Meeting where
  crew : Crew
  members : Array Meeting.Member
  deriving Repr

namespace Meeting

/-- One step of thread `i`, which stands where `m` says. -/
def stepMember (s : Meeting) (i : Nat) (m : Member) : Option (Meeting × Member) :=
  match m.op with
  | none => if m.left = 0 then none else some (s, { m with left := m.left - 1, op := some .wait })
  | some (.finished (.ok (.outcome o))) =>
      some (s, { m with op := none, results := .ok o :: m.results })
  | some (.finished (.ok _)) => some (s, { m with op := none })
  | some (.finished (.error e)) =>
      some (s, { m with op := none, results := .error e :: m.results })
  | some op => (s.crew.operate i op).map fun (crew, op) =>
      ({ s with crew }, { m with op := some op })

def step (s : Meeting) (i : Nat) : Option Meeting :=
  (s.members[i]?).bind fun m =>
    (s.stepMember i m).map fun (s, m) => { s with members := s.members.setIfInBounds i m }

/-- What a meeting came to. -/
structure Minutes where
  /-- How many threads were the serial one in each round. -/
  serials : List Nat
  /-- How many waits ended as one of the others. -/
  released : Nat
  firstError : Option BarrierError
  generation : Except RunError Answer
  waiting : Except RunError Answer
  /-- The handle before it is destroyed, the result of that, and the handle after it. -/
  before : String
  destroyed : Except RunError Answer
  after : String
  deriving Repr

/-- The handle as it is shown. -/
def inspect (c : Crew) : String :=
  let slot := c.arena.slot Crew.theHandle
  Handle.inspect slot.status (c.arena.partiesOf slot)

/-- Threads that had this outcome in a round, of all results in order of rounds. -/
def countIn (results : List (List (Except BarrierError Outcome))) (outcome : Outcome)
    (round : Nat) : Nat :=
  results.countP fun (own : List (Except BarrierError Outcome)) =>
    match own[round]? with
    | some (.ok o) => o = outcome
    | _ => false

def errorIn : Except BarrierError Outcome → Option BarrierError
  | .error e => some e
  | .ok _ => none

/-- Writes down what the members of a finished meeting got, and clears the handle away. -/
def conclude (s : Meeting) (rounds : Nat) : Minutes :=
  let results := s.members.toList.map fun m => m.results.reverse
  let (crew, destroyed) := s.crew.alone .destroy
  { serials := (List.range rounds).map (countIn results .serial)
    released := (List.range rounds).foldl (fun n round => n + countIn results .released round) 0
    firstError := results.flatten.findSome? errorIn
    generation := (s.crew.alone (.ask (.gauge .generation))).2
    waiting := (s.crew.alone (.ask (.gauge .waiting))).2
    before := inspect s.crew
    destroyed
    after := inspect crew }

/-- Never fewer threads than one, and never more than this. -/
def mostThreads : Nat := 16

def threads (parties : UInt32) : Nat := min (max parties.toNat 1) mostThreads

/-- A meeting of as many threads as the handle has parties, within bounds, for some rounds. The
handle is built beforehand unless it is to be built on first use. -/
def hold (supply : Supply) (parties : UInt32) (rounds : Nat) (onFirstUse : Bool) :
    Except RunError Minutes :=
  let count := threads parties
  let built :=
    if onFirstUse then (Crew.around supply (Handle.lazy parties), .ok Answer.done)
    else (Crew.around supply {}).alone (.init parties false)
  match built with
  | (_, .error e) => .error e
  | (crew, .ok _) =>
      let turn := 256 * (rounds + 1)
      let s : Meeting :=
        { crew := crew.staff count, members := Array.replicate count { left := rounds } }
      .ok ((Schedule.settle step (List.range count) turn (turn * (count + 1)) s).conclude rounds)

end Meeting

end Rendezvous.Run
