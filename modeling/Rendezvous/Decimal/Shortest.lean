import Rendezvous.Decimal.Binary

/-!
# The fewest digits that read back

Many decimals stand for one and the same floating-point number: all that lie closer to it than to
any other, and those exactly between two when its mantissa is even. Among them `shortest` finds one
with the fewest digits, and of several such the one closest to the number.

For each count of digits only two decimals come into question, the neighbours of the number on the
grid of that width, so that trying the counts from one upwards finds the answer. Seventeen digits
always suffice.

A `Layout` says how the digits are set out as text: from which size to which a number is written
without an exponent, and how an exponent looks.
-/

set_option autoImplicit false

namespace Rendezvous.Decimal

/-- The value `digits · 10 ^ exponent`. -/
structure Scientific where
  digits : Nat
  exponent : Int
  deriving DecidableEq, Repr

/-- Compares `a · 10 ^ i` with `n · 2 ^ j`. -/
def compareScaled (a : Nat) (i : Int) (n : Nat) (j : Int) : Ordering :=
  compare (a * Nat.pow 10 i.toNat * Nat.pow 2 (-j).toNat)
    (n * Nat.pow 2 j.toNat * Nat.pow 10 (-i).toNat)

/-- The decimal stands for the number. Distances are in quarters of the unit of the mantissa. -/
def Binary.isRead (x : Binary) (d : Scientific) : Bool :=
  let low := if x.narrowBelow then 4 * x.mantissa - 1 else 4 * x.mantissa - 2
  let high := 4 * x.mantissa + 2
  let closed := x.mantissa % 2 = 0
  let fromLow := compareScaled d.digits d.exponent low (x.exponent - 2)
  let fromHigh := compareScaled d.digits d.exponent high (x.exponent - 2)
  (fromLow = .gt || (closed && fromLow = .eq)) && (fromHigh = .lt || (closed && fromHigh = .eq))

/-- The number in units of `10 ^ grid`, rounded down, and how twice the remainder compares with a
unit. -/
def Binary.onGrid (x : Binary) (grid : Int) : Nat × Ordering :=
  let (num, den) := scaled x.mantissa x.exponent (-grid)
  (num / den, compare (2 * (num % den)) den)

/-- How many digits stand before the point; zero or less for a number below one. -/
def Binary.magnitude (x : Binary) : Int :=
  let (num, den) := scaled x.mantissa x.exponent 0
  if den ≤ num then (Nat.toDigits 10 (num / den)).length
  else
    -- A number below one is measured by its reciprocal, which shows powers of ten one size too
    -- small.
    let digits := (Nat.toDigits 10 (den / num)).length
    if num * Nat.pow 10 (digits - 1) = den then 2 - (digits : Int) else 1 - (digits : Int)

/-- The best decimal on the grid, if one of the two neighbours stands for the number. -/
def Binary.candidate (x : Binary) (grid : Int) : Option Scientific :=
  let (below, side) := x.onGrid grid
  let down : Scientific := ⟨below, grid⟩
  let up : Scientific := ⟨below + 1, grid⟩
  match x.isRead down, x.isRead up with
  | true, false => some down
  | false, true => some up
  | false, false => none
  | true, true =>
      match side with
      | .lt => some down
      | .gt => some up
      | .eq => if below % 2 = 0 then some down else some up

/-- Takes zeros off the end of the digits, at most as many as given. -/
def Scientific.strip : Nat → Scientific → Scientific
  | 0, d => d
  | fuel + 1, d =>
      if d.digits ≠ 0 ∧ d.digits % 10 = 0 then strip fuel ⟨d.digits / 10, d.exponent + 1⟩ else d

/-- The fewest digits that stand for a positive number. -/
def Binary.shortest (x : Binary) : Scientific :=
  let found := (List.range 17).findSome? fun n => x.candidate (x.magnitude - (n + 1 : Nat))
  match found with
  | some d => d.strip 20
  | none =>
      let (num, den) := scaled x.mantissa x.exponent 1074
      Scientific.strip 2000 ⟨num / den, -1074⟩

/-! ## Setting out -/

/-- How a floating-point number is written. -/
structure Layout where
  /-- The least and the greatest exponent of the first digit for which there is no exponent. -/
  positionalFrom : Int
  positionalTo : Int
  /-- What is written for infinities and for what is no number. -/
  nonFinite : String
  deriving Repr

def zeros (n : Nat) : List Char := List.replicate n '0'

/-- The digits of a decimal without an exponent, with at least one place behind the point. -/
def positional (digits : List Char) (exponent : Int) : List Char :=
  if 0 ≤ exponent then digits ++ zeros exponent.toNat ++ ['.', '0']
  else
    let places := (-exponent).toNat
    if places < digits.length then
      digits.take (digits.length - places) ++ '.' :: digits.drop (digits.length - places)
    else ['0', '.'] ++ zeros (places - digits.length) ++ digits

/-- One digit before the point, and the exponent with its sign. -/
def withExponent (digits : List Char) (exponent : Int) : List Char :=
  let mantissa := match digits with
    | [] => ['0']
    | [d] => [d]
    | d :: rest => d :: '.' :: rest
  let sign := if exponent < 0 then '-' else '+'
  mantissa ++ 'e' :: sign :: Nat.toDigits 10 exponent.natAbs

def Layout.magnitude (layout : Layout) (x : Binary) : List Char :=
  if x.mantissa = 0 then ['0', '.', '0']
  else
    let d := x.shortest
    let digits := Nat.toDigits 10 d.digits
    let first := d.exponent + (digits.length - 1 : Nat)
    if layout.positionalFrom ≤ first ∧ first ≤ layout.positionalTo then
      positional digits d.exponent
    else withExponent digits first

def Layout.text (layout : Layout) (x : Float) : String :=
  match Reading.ofFloat x with
  | .finite negative magnitude =>
      String.ofList ((if negative then ['-'] else []) ++ layout.magnitude magnitude)
  | .infinite _ | .notANumber => layout.nonFinite

end Rendezvous.Decimal
