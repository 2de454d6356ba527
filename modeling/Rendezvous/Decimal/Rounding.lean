/-!
# Rounding a quotient

A quotient of naturals is rounded to the nearest natural, and a quotient that lies exactly half way
between two goes to the even one. Both directions of number text rest on this: finding the double
next to a decimal, and writing a double with a fixed number of places.
-/

set_option autoImplicit false

namespace Rendezvous.Decimal

/-- `num / den` to the nearest natural, a half to the even neighbour. -/
def roundDiv (num den : Nat) : Nat :=
  let whole := num / den
  let rest := 2 * (num % den)
  if rest < den then whole
  else if den < rest then whole + 1
  else whole + whole % 2

end Rendezvous.Decimal
