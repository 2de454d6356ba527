import Rendezvous.Decimal.Binary
import Rendezvous.Text.Number

/-!
# Decimal numerals

A numeral is a text that says a decimal number: an optional sign, digits with an optional point
among or beside them, and an optional power of ten. The words for infinity and for what is no number
are numerals too. `readFloat` finds the floating-point number nearest to a numeral's exact value; a
numeral that is too large for any stands for infinity.

Exact values can be huge. Their size is estimated from the count of digits first, and only numerals
whose size could matter are computed.
-/

set_option autoImplicit false

namespace Rendezvous.Decimal

/-- The value `digits · 10 ^ exponent`, the digits written out. -/
structure Numeral where
  digits : List Nat
  exponent : Int
  deriving DecidableEq, Repr

namespace Numeral

/-- The digits that count. -/
def significant (n : Numeral) : List Nat := n.digits.dropWhile (· = 0)

/-- The exponent of ten that is just above the value. -/
def size (n : Numeral) : Int := n.significant.length + n.exponent

def coefficient (n : Numeral) : Nat := n.significant.foldl (fun value d => value * 10 + d) 0

/-- The nearest floating-point number; `none` if the value is too large for any. -/
def nearest? (n : Numeral) : Option Binary :=
  if n.significant.isEmpty ∨ n.size < -330 then some ⟨0, leastExponent⟩
  else if 310 < n.size then none
  else
    let (num, den) := scaled n.coefficient 0 n.exponent
    Binary.nearest? num den

end Numeral

/-- The leading digits of a text, and what follows them. -/
def leadingDigits : List Char → List Nat × List Char
  | [] => ([], [])
  | c :: rest =>
      match Text.digit? c with
      | some d => (d :: (leadingDigits rest).1, (leadingDigits rest).2)
      | none => ([], c :: rest)

/-- The power of ten at the end of a numeral. -/
def readExponent (cs : List Char) : Option Int :=
  let (negative, cs) := match cs with
    | '-' :: rest => (true, rest)
    | '+' :: rest => (false, rest)
    | rest => (false, rest)
  match leadingDigits cs with
  | ([], _) => none
  | (digits, []) =>
      let n : Nat := digits.foldl (fun value d => value * 10 + d) 0
      some (if negative then -(n : Int) else n)
  | _ => none

/-- A numeral without its sign. -/
def readNumeral (cs : List Char) : Option Numeral :=
  let (whole, rest) := leadingDigits cs
  let (places, rest) := match rest with
    | '.' :: rest => leadingDigits rest
    | rest => ([], rest)
  if whole.isEmpty ∧ places.isEmpty then none
  else
    match rest with
    | [] => some ⟨whole ++ places, -(places.length : Int)⟩
    | 'e' :: rest | 'E' :: rest =>
        (readExponent rest).map fun e => ⟨whole ++ places, e - places.length⟩
    | _ => none

def infinity : Float := Float.ofBits 0x7FF0000000000000

def notANumber : Float := Float.ofBits 0x7FF8000000000000

def readMagnitude (cs : List Char) : Option Float :=
  let lower := cs.map Char.toLower
  if lower = "inf".toList ∨ lower = "infinity".toList then some infinity
  else if lower = "nan".toList then some notANumber
  else
    (readNumeral cs).map fun n =>
      match n.nearest? with
      | some x => x.toFloat
      | none => infinity

/-- The float a text says, if it is a numeral. -/
def readFloat (s : String) : Option Float :=
  match s.toList with
  | '-' :: rest => (readMagnitude rest).map fun x => -x
  | '+' :: rest => readMagnitude rest
  | cs => readMagnitude cs

end Rendezvous.Decimal
