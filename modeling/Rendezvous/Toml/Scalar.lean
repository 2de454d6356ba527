import Rendezvous.Decimal.Numeral
import Rendezvous.Toml.Quoted
import Rendezvous.Toml.Value

/-!
# Values in one piece

Numbers, dates, truth values and quoted texts. Integers have 64 bits and a sign, and may be written
in base ten, sixteen, eight or two; single underscores may stand between digits. A fraction too
large for a floating-point number is refused, unless it is negative, when it is taken as minus
infinity. Dates must exist in the calendar.
-/

set_option autoImplicit false

namespace Rendezvous.Toml

/-! ## Numbers -/

def isDigit (c : Char) : Bool := (Text.digit? c).isSome

/-- Further digits, with single underscores between them. -/
def moreDigits (p : Char → Bool) : Reader (List Char)
  | '_' :: c :: rest => if p c then prepend c (moreDigits p rest) else none
  | ['_'] => none
  | c :: rest => if p c then prepend c (moreDigits p rest) else some ([], c :: rest)
  | [] => some ([], [])

/-- One or more digits. -/
def someDigits (p : Char → Bool) : Reader (List Char)
  | c :: rest => if p c then prepend c (moreDigits p rest) else none
  | [] => none

/-- The digits before a point: a zero stands alone. -/
def wholeDigits : Reader (List Char)
  | '0' :: rest => some (['0'], rest)
  | cs => someDigits isDigit cs

/-- The value of digits in some base, as far as they are digits. -/
def valueIn (base : Nat) (digits : List Char) : Nat :=
  digits.foldl (fun value c => value * base + (hexDigit? c).getD 0) 0

/-- Takes a sign off; whether it was a minus. -/
def readSign : List Char → Bool × List Char
  | '-' :: rest => (true, rest)
  | '+' :: rest => (false, rest)
  | cs => (false, cs)

/-- An integer in another base than ten. -/
def readInBase (base : Nat) (cs : List Char) : Option (Value × List Char) :=
  let belongs (c : Char) : Bool := ((hexDigit? c).map fun d => decide (d < base)).getD false
  (someDigits belongs cs).bind fun (digits, rest) =>
    let n := valueIn base digits
    if n ≤ Text.maxSigned64 then some (.integer n, rest) else none

/-- The exponent of a fraction, if there is one; without it the exponent is zero. -/
def readExponent : Reader Int
  | cs@(c :: rest) =>
      if c = 'e' ∨ c = 'E' then
        let (negative, rest) := readSign rest
        (someDigits isDigit rest).map fun (digits, rest) =>
          let n : Int := valueIn 10 digits
          (if negative then -n else n, rest)
      else some (0, cs)
  | [] => some (0, [])

/-- A fraction whose digits before and behind the point are known, up to its exponent. -/
def readFraction (negative : Bool) (whole places cs : List Char) : Option (Value × List Char) :=
  (readExponent cs).bind fun (exponent, rest) =>
    let numeral : Decimal.Numeral :=
      ⟨(whole ++ places).map fun c => (Text.digit? c).getD 0, exponent - places.length⟩
    if negative || numeral.nearest?.isSome then some (.fraction, rest) else none

/-- A number in base ten that is not infinite. -/
def readDecimal (cs : List Char) : Option (Value × List Char) :=
  let (negative, unsigned) := readSign cs
  (wholeDigits unsigned).bind fun (whole, rest) =>
    match rest with
    | '.' :: rest =>
        (someDigits isDigit rest).bind fun (places, rest) =>
          readFraction negative whole places rest
    | 'e' :: _ | 'E' :: _ => readFraction negative whole [] rest
    | rest =>
        let n := valueIn 10 whole
        if negative then
          if n ≤ Text.maxSigned64 + 1 then some (.integer (-(n : Int)), rest) else none
        else if n ≤ Text.maxSigned64 then some (.integer n, rest)
        else none

def readNumber (cs : List Char) : Option (Value × List Char) :=
  match cs with
  | '0' :: 'x' :: rest => readInBase 16 rest
  | '0' :: 'o' :: rest => readInBase 8 rest
  | '0' :: 'b' :: rest => readInBase 2 rest
  | cs =>
      match (readSign cs).2 with
      | 'i' :: 'n' :: 'f' :: rest | 'n' :: 'a' :: 'n' :: rest => some (.fraction, rest)
      | _ => readDecimal cs

/-! ## Dates -/

/-- A number of exactly so many digits. -/
def readFixed (width : Nat) (cs : List Char) : Option (Nat × List Char) :=
  let digits := cs.take width
  if digits.length = width ∧ digits.all isDigit then some (valueIn 10 digits, cs.drop width)
  else none

/-- A number of two digits between two bounds. -/
def readPair (least greatest : Nat) (cs : List Char) : Option (Nat × List Char) :=
  (readFixed 2 cs).filter fun (n, _) => least ≤ n && n ≤ greatest

/-- The given character, and nothing else. -/
def expect (c : Char) : List Char → Option (List Char)
  | d :: rest => if c = d then some rest else none
  | [] => none

def daysIn (year month : Nat) : Nat :=
  if month = 2 then
    if year % 4 = 0 ∧ (year % 100 ≠ 0 ∨ year % 400 = 0) then 29 else 28
  else if month = 4 ∨ month = 6 ∨ month = 9 ∨ month = 11 then 30
  else 31

/-- What follows a date. -/
def afterDate (cs : List Char) : Option (List Char) := do
  let (year, cs) ← readFixed 4 cs
  let cs ← expect '-' cs
  let (month, cs) ← readPair 1 12 cs
  let cs ← expect '-' cs
  let (_, cs) ← readPair 1 (daysIn year month) cs
  some cs

/-- What follows a time of day. There may be a leap second, and any number of decimals. -/
def afterTime (cs : List Char) : Option (List Char) := do
  let (_, cs) ← readPair 0 23 cs
  let cs ← expect ':' cs
  let (_, cs) ← readPair 0 59 cs
  let cs ← expect ':' cs
  let (_, cs) ← readPair 0 60 cs
  match cs with
  | '.' :: rest =>
      match rest.takeWhile isDigit with
      | [] => some cs
      | _ => some (rest.dropWhile isDigit)
  | _ => some cs

/-- What follows a distance to universal time, if there is one. -/
def afterOffset (cs : List Char) : Option (List Char) :=
  match cs with
  | 'Z' :: rest | 'z' :: rest => some rest
  | '+' :: rest | '-' :: rest => do
      let (_, rest) ← readPair 0 23 rest
      let rest ← expect ':' rest
      let (_, rest) ← readPair 0 59 rest
      some rest
  | cs => some cs

/-- A date, a time of day, or both. -/
def readDateTime (cs : List Char) : Option (Value × List Char) :=
  match afterDate cs with
  | none => (afterTime cs).map fun rest => (.dateTime, rest)
  | some afterDay =>
      match afterDay with
      | c :: rest =>
          if c = 'T' ∨ c = 't' ∨ c = ' ' then
            match (afterTime rest).bind afterOffset with
            | some rest => some (.dateTime, rest)
            | none => some (.dateTime, afterDay)
          else some (.dateTime, afterDay)
      | [] => some (.dateTime, [])

/-! ## All of them -/

def readScalar (cs : List Char) : Option (Value × List Char) :=
  match cs with
  | '"' :: _ | '\'' :: _ => (readText cs).map fun (s, rest) => (.text s, rest)
  | 't' :: 'r' :: 'u' :: 'e' :: rest => some (.boolean true, rest)
  | 'f' :: 'a' :: 'l' :: 's' :: 'e' :: rest => some (.boolean false, rest)
  | cs => readDateTime cs <|> readNumber cs

end Rendezvous.Toml
