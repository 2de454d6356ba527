/-!
# Integers in text

Reading a decimal integer into a bounded range. A text is an optional sign and at least one ASCII
digit, nothing else; no blanks, no separators. The digits are taken from the left, and reading
stops at the first one that spoils the number, whether because it is no digit or because the value
has left the range, so of two faults the one further left is reported.
-/

set_option autoImplicit false

namespace Rendezvous.Text

inductive NumberError where
  | empty
  | invalidDigit
  | tooLarge
  | tooSmall
  deriving DecidableEq, Repr

def NumberError.message : NumberError → String
  | empty => "cannot parse integer from empty string"
  | invalidDigit => "invalid digit found in string"
  | tooLarge => "number too large to fit in target type"
  | tooSmall => "number too small to fit in target type"

/-- The value of an ASCII digit. -/
def digit? (c : Char) : Option Nat :=
  if '0' ≤ c ∧ c ≤ '9' then some (c.toNat - '0'.toNat) else none

/-- Appends digits to a value that may not exceed `limit`; `beyond` is the fault of exceeding it. -/
def readDigits (limit : Nat) (beyond : NumberError) : Nat → List Char → Except NumberError Nat
  | value, [] => .ok value
  | value, c :: rest =>
      match digit? c with
      | none => .error .invalidDigit
      | some d =>
          if value * 10 + d ≤ limit then readDigits limit beyond (value * 10 + d) rest
          else .error beyond

/-- A number from 0 to `limit`, with an optional plus sign. -/
def readNat (limit : Nat) (s : String) : Except NumberError Nat :=
  match s.toList with
  | [] => .error .empty
  | ['+'] => .error .invalidDigit
  | '+' :: digits => readDigits limit .tooLarge 0 digits
  | digits => readDigits limit .tooLarge 0 digits

/-- A number from `-limit - 1` to `limit`, with an optional sign. -/
def readInt (limit : Nat) (s : String) : Except NumberError Int :=
  match s.toList with
  | [] => .error .empty
  | ['+'] | ['-'] => .error .invalidDigit
  | '-' :: digits => (readDigits (limit + 1) .tooSmall 0 digits).map fun n => -(n : Int)
  | '+' :: digits => (readDigits limit .tooLarge 0 digits).map fun n => (n : Int)
  | digits => (readDigits limit .tooLarge 0 digits).map fun n => (n : Int)

/-- The largest value of 64 unsigned bits. -/
def maxUnsigned64 : Nat := UInt64.size - 1

/-- The largest value of 64 signed bits. -/
def maxSigned64 : Nat := UInt64.size / 2 - 1

end Rendezvous.Text
