import Rendezvous.Toml.Blank

/-!
# Text in quotes

TOML has four kinds of quoted text. Between double quotes a backslash starts an escape; between
apostrophes every character stands for itself. Either kind may be tripled, and then runs over
several lines: a line end directly after the opening quotes does not count, up to two quotes may
stand before the closing ones, and a backslash at the end of a line swallows all blanks and line
ends up to the next character.
-/

set_option autoImplicit false

namespace Rendezvous.Toml

/-- The value of a digit in base sixteen. -/
def hexDigit? (c : Char) : Option Nat :=
  if '0' ≤ c ∧ c ≤ '9' then some (c.toNat - '0'.toNat)
  else if 'a' ≤ c ∧ c ≤ 'f' then some (c.toNat - 'a'.toNat + 10)
  else if 'A' ≤ c ∧ c ≤ 'F' then some (c.toNat - 'A'.toNat + 10)
  else none

/-- The character with a number given in base sixteen. -/
def charOfHex (digits : List Char) : Option Char :=
  (digits.foldlM (fun value c => (hexDigit? c).map fun d => value * 16 + d) 0).bind fun n =>
    if n.isValidChar then some (Char.ofNat n) else none

/-- The character for an escape of one letter. -/
def escaped? : Char → Option Char
  | 'b' => some '\x08'
  | 't' => some '\t'
  | 'n' => some '\n'
  | 'f' => some '\x0c'
  | 'r' => some '\r'
  | '"' => some '"'
  | '\\' => some '\\'
  | _ => none

/-- Puts a character before what a reader found. -/
def prepend (c : Char) (found : Option (List Char × List Char)) :
    Option (List Char × List Char) :=
  found.map fun (text, rest) => (c :: text, rest)

/-- The rest of a text in double quotes. -/
def readBasic : Reader (List Char)
  | [] => none
  | '"' :: rest => some ([], rest)
  | '\\' :: 'u' :: a :: b :: c :: d :: rest =>
      (charOfHex [a, b, c, d]).bind fun x => prepend x (readBasic rest)
  | '\\' :: 'U' :: a :: b :: c :: d :: e :: f :: g :: h :: rest =>
      (charOfHex [a, b, c, d, e, f, g, h]).bind fun x => prepend x (readBasic rest)
  | '\\' :: e :: rest => (escaped? e).bind fun x => prepend x (readBasic rest)
  | c :: rest => if isPlain c then prepend c (readBasic rest) else none

/-- The rest of a text between apostrophes. -/
def readLiteral : Reader (List Char)
  | [] => none
  | '\'' :: rest => some ([], rest)
  | c :: rest => if isPlain c then prepend c (readLiteral rest) else none

/-- What may still belong to a text after three closing quotes: up to two more quotes. -/
def closing (quote : Char) : List Char → List Char × List Char
  | a :: b :: rest =>
      if a = quote ∧ b = quote then ([a, b], rest)
      else if a = quote then ([a], b :: rest)
      else ([], a :: b :: rest)
  | [a] => if a = quote then ([a], []) else ([], [a])
  | [] => ([], [])

/-- The rest of a text in tripled double quotes. While `skipping`, blanks and line ends do not
count. -/
def readBasicLines (skipping : Bool) : Reader (List Char)
  | [] => none
  | '"' :: '"' :: '"' :: rest => some (closing '"' rest)
  | '\n' :: rest =>
      if skipping then readBasicLines true rest else prepend '\n' (readBasicLines false rest)
  | '\r' :: '\n' :: rest =>
      if skipping then readBasicLines true rest else prepend '\n' (readBasicLines false rest)
  | '\\' :: 'u' :: a :: b :: c :: d :: rest =>
      (charOfHex [a, b, c, d]).bind fun x => prepend x (readBasicLines false rest)
  | '\\' :: 'U' :: a :: b :: c :: d :: e :: f :: g :: h :: rest =>
      (charOfHex [a, b, c, d, e, f, g, h]).bind fun x => prepend x (readBasicLines false rest)
  | '\\' :: e :: rest =>
      match escaped? e with
      | some x => prepend x (readBasicLines false rest)
      | none =>
          if (afterNewline (skipBlanks (e :: rest))).isSome then readBasicLines true rest else none
  | c :: rest =>
      if skipping && isBlank c then readBasicLines true rest
      else if isPlain c then prepend c (readBasicLines false rest)
      else none

/-- The rest of a text in tripled apostrophes. -/
def readLiteralLines : Reader (List Char)
  | [] => none
  | '\'' :: '\'' :: '\'' :: rest => some (closing '\'' rest)
  | '\n' :: rest => prepend '\n' (readLiteralLines rest)
  | '\r' :: '\n' :: rest => prepend '\n' (readLiteralLines rest)
  | c :: rest => if isPlain c then prepend c (readLiteralLines rest) else none

/-- A line end directly after opening quotes does not count. -/
def skipFirstNewline (cs : List Char) : List Char := (afterNewline cs).getD cs

/-- A text in quotes of any kind. -/
def readText (cs : List Char) : Option (String × List Char) :=
  let found := match cs with
    | '"' :: '"' :: '"' :: rest => readBasicLines false (skipFirstNewline rest)
    | '"' :: rest => readBasic rest
    | '\'' :: '\'' :: '\'' :: rest => readLiteralLines (skipFirstNewline rest)
    | '\'' :: rest => readLiteral rest
    | _ => none
  found.map fun (text, rest) => (String.ofList text, rest)

/-! ## Keys -/

/-- Characters of a key without quotes. -/
def isBare (c : Char) : Bool :=
  ('A' ≤ c && c ≤ 'Z') || ('a' ≤ c && c ≤ 'z') || ('0' ≤ c && c ≤ '9') || c = '-' || c = '_'

/-- One part of a key: bare, or quoted on one line. -/
def readKeyPart (cs : List Char) : Option (String × List Char) :=
  let found := match cs with
    | '"' :: rest => readBasic rest
    | '\'' :: rest => readLiteral rest
    | cs =>
        match cs.takeWhile isBare with
        | [] => none
        | word => some (word, cs.dropWhile isBare)
  found.map fun (text, rest) => (String.ofList text, rest)

/-- A key of at most `room` parts with dots between them, and blanks around each part. -/
def readKey (room : Nat) (cs : List Char) : Option (List String × List Char) :=
  match room with
  | 0 => none
  | room + 1 =>
      (readKeyPart (skipBlanks cs)).bind fun (part, rest) =>
        match skipBlanks rest with
        | '.' :: rest => (readKey room rest).map fun (parts, rest) => (part :: parts, rest)
        | rest => some ([part], rest)

end Rendezvous.Toml
