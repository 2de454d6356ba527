import Rendezvous.Decimal.Binary

/-!
# A fixed number of places

A floating-point number is written with so many places behind the point by rounding its exact value;
a value half way between two texts goes to the one whose last digit is even. The sign is kept even
if all digits are zeros.
-/

set_option autoImplicit false

namespace Rendezvous.Decimal

/-- The number in units of `10 ^ -places`, rounded. -/
def Binary.rounded (x : Binary) (places : Nat) : Nat :=
  let (num, den) := scaled x.mantissa x.exponent places
  roundDiv num den

/-- Puts a point before the last so many digits, with at least one digit in front of it. -/
def pointed (places n : Nat) : List Char :=
  let digits := Nat.toDigits 10 n
  let padded := List.replicate (places + 1 - digits.length) '0' ++ digits
  if places = 0 then padded
  else padded.take (padded.length - places) ++ '.' :: padded.drop (padded.length - places)

def fixed (places : Nat) (x : Float) : String :=
  match Reading.ofFloat x with
  | .finite negative magnitude =>
      String.ofList
        ((if negative then ['-'] else []) ++ pointed places (magnitude.rounded places))
  | .infinite negative => if negative then "-inf" else "inf"
  | .notANumber => "NaN"

end Rendezvous.Decimal
