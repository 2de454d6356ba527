/-!
# Spans of time

A `Duration` is a number of nanoseconds. It is shown in the largest of the units second,
millisecond, microsecond and nanosecond that it fills at least once, with as many decimals as the
value has and no trailing zeros.
-/

set_option autoImplicit false

namespace Rendezvous

structure Duration where
  nanoseconds : Nat
  deriving DecidableEq, Repr, Inhabited

namespace Duration

def perSecond : Nat := 1000000000

def ofSeconds (n : Nat) : Duration := ⟨n * perSecond⟩
def ofMilliseconds (n : Nat) : Duration := ⟨n * 1000000⟩
def ofMicroseconds (n : Nat) : Duration := ⟨n * 1000⟩

/-- Whole seconds and the nanoseconds beyond them. -/
def ofParts (seconds nanos : Nat) : Duration := ⟨seconds * perSecond + nanos⟩

def seconds (d : Duration) : Nat := d.nanoseconds / perSecond
def subsecond (d : Duration) : Nat := d.nanoseconds % perSecond

/-- Whole milliseconds. -/
def milliseconds (d : Duration) : Nat := d.nanoseconds / 1000000

instance : LT Duration := ⟨fun a b => a.nanoseconds < b.nanoseconds⟩
instance : LE Duration := ⟨fun a b => a.nanoseconds ≤ b.nanoseconds⟩

instance (a b : Duration) : Decidable (a < b) :=
  inferInstanceAs (Decidable (a.nanoseconds < b.nanoseconds))

instance (a b : Duration) : Decidable (a ≤ b) :=
  inferInstanceAs (Decidable (a.nanoseconds ≤ b.nanoseconds))

/-- The decimals of `part / 10 ^ places`, without trailing zeros. -/
def decimals (places part : Nat) : List Char :=
  let digits := Nat.toDigits 10 part
  let padded := List.replicate (places - digits.length) '0' ++ digits
  (padded.reverse.dropWhile (· = '0')).reverse

/-- A value counted in units of `10 ^ places` nanoseconds, followed by the unit's name. -/
def inUnit (d : Duration) (places : Nat) (name : String) : String :=
  let whole := toString (d.nanoseconds / Nat.pow 10 places)
  match decimals places (d.nanoseconds % Nat.pow 10 places) with
  | [] => whole ++ name
  | ds => whole ++ "." ++ String.ofList ds ++ name

def text (d : Duration) : String :=
  if Nat.pow 10 9 ≤ d.nanoseconds then d.inUnit 9 "s"
  else if Nat.pow 10 6 ≤ d.nanoseconds then d.inUnit 6 "ms"
  else if Nat.pow 10 3 ≤ d.nanoseconds then d.inUnit 3 "µs"
  else toString d.nanoseconds ++ "ns"

/-- The span in seconds as a floating-point number: the whole seconds, of which there are fewer than
`2 ^ 64`, and the fraction are rounded apart and then added. -/
def toFloat (d : Duration) : Float :=
  d.seconds.toUInt64.toFloat + d.subsecond.toUInt64.toFloat / 1000000000.0

end Duration

end Rendezvous
