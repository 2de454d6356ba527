import Rendezvous.Decimal.Rounding

/-!
# Binary floating-point numbers as exact values

A finite non-negative number of 64-bit floating point is `mantissa · 2 ^ exponent` with a mantissa
below `2 ^ 53` and an exponent of at least -1074. `Binary` holds the two, so that everything said
about such a number can be computed in exact arithmetic; sign, infinity and not-a-number are the
business of `Reading`, which is what a float is once it has been looked at.
-/

set_option autoImplicit false

namespace Rendezvous.Decimal

structure Binary where
  mantissa : Nat
  exponent : Int
  deriving DecidableEq, Repr

/-- What a float stands for. -/
inductive Reading where
  | finite (negative : Bool) (magnitude : Binary)
  | infinite (negative : Bool)
  | notANumber
  deriving DecidableEq, Repr

/-- The exponent below which there are no more numbers. -/
def leastExponent : Int := -1074

/-- The largest exponent of a number whose mantissa has all 53 bits. -/
def greatestExponent : Int := 971

def Reading.ofBits (bits : UInt64) : Reading :=
  let negative := bits >>> 63 = 1
  let biased := ((bits >>> 52) &&& 0x7FF).toNat
  let fraction := (bits &&& 0xFFFFFFFFFFFFF).toNat
  if biased = 0x7FF then
    if fraction = 0 then .infinite negative else .notANumber
  else if biased = 0 then .finite negative ⟨fraction, leastExponent⟩
  else .finite negative ⟨Nat.pow 2 52 + fraction, leastExponent + (biased - 1 : Nat)⟩

def Reading.ofFloat (x : Float) : Reading := .ofBits x.toBits

/-- The mantissa belongs to a power of two above the range where all numbers are evenly spaced: the
next number below is only half as far away as the next one above. -/
def Binary.narrowBelow (x : Binary) : Bool :=
  x.mantissa = Nat.pow 2 52 && decide (leastExponent < x.exponent)

/-- The product with a power of two and a power of ten, as a quotient of naturals. -/
def scaled (n : Nat) (two ten : Int) : Nat × Nat :=
  (n * Nat.pow 2 two.toNat * Nat.pow 10 ten.toNat,
    Nat.pow 2 (-two).toNat * Nat.pow 10 (-ten).toNat)

/-- The number nearest to `num / den`, a half to the even mantissa; `none` beyond the largest. -/
def Binary.nearest? (num den : Nat) : Option Binary :=
  let guess := max leastExponent ((num.log2 : Int) - den.log2 - 53)
  let at? (exponent : Int) : Binary :=
    ⟨roundDiv (num * Nat.pow 2 (-exponent).toNat) (den * Nat.pow 2 exponent.toNat), exponent⟩
  let first := at? guess
  let x := if first.mantissa < Nat.pow 2 53 then first else at? (guess + 1)
  if x.mantissa < Nat.pow 2 53 ∧ x.exponent ≤ greatestExponent then some x
  else if x.mantissa = Nat.pow 2 53 ∧ x.exponent < greatestExponent then
    some ⟨Nat.pow 2 52, x.exponent + 1⟩
  else none

/-- The float that a number stands for. -/
def Binary.toFloat (x : Binary) : Float :=
  if x.mantissa < Nat.pow 2 52 then Float.ofBits x.mantissa.toUInt64
  else
    let biased := (x.exponent - leastExponent).toNat + 1
    Float.ofBits ((biased.toUInt64 <<< 52) ||| (x.mantissa - Nat.pow 2 52).toUInt64)

end Rendezvous.Decimal
