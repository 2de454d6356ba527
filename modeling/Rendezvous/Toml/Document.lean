import Rendezvous.Toml.Scalar

/-!
# TOML documents

A document is a sequence of statements, each on a line of its own: a key with its value, the header
of a table, or the header of one more table in an array of tables. Keys belong to the table whose
header was seen last.

Reading goes in two steps. `readStatements` looks at the form only; `Entries.ofStatements` puts the
values where they belong and refuses whatever is defined twice. `Document.read` is the two together.

Arrays and tables in braces may be nested, and keys may have parts, up to a depth of
`maxDepth`.
-/

set_option autoImplicit false

namespace Rendezvous.Toml

/-- How deep values may be nested, and how many parts a key may have. -/
def maxDepth : Nat := 79

/-! ## Nested values -/

/-- The items of an array, after its opening bracket; `fuel` is more than their number. -/
def readItems (item : Reader Value) : Nat → Reader (List Value)
  | 0, _ => none
  | fuel + 1, cs =>
      match skipGap false cs with
      | ']' :: rest => some ([], rest)
      | cs =>
          (item cs).bind fun (v, rest) =>
            match skipGap false rest with
            | ',' :: rest =>
                (readItems item fuel rest).map fun (vs, rest) => (v :: vs, rest)
            | ']' :: rest => some ([v], rest)
            | _ => none

/-- A key with its value. -/
def readPairWith (item : Reader Value) (cs : List Char) :
    Option ((List String × Value) × List Char) :=
  (readKey maxDepth cs).bind fun (key, rest) =>
    (expect '=' rest).bind fun rest =>
      (item (skipBlanks rest)).map fun (v, rest) => ((key, v), rest)

/-- Keys and values in braces, at least one, after the opening brace. -/
def readPairs (item : Reader Value) : Nat → Reader (List (List String × Value))
  | 0, _ => none
  | fuel + 1, cs =>
      (readPairWith item cs).bind fun (pair, rest) =>
        match skipBlanks rest with
        | ',' :: rest =>
            (readPairs item fuel rest).map fun (pairs, rest) => (pair :: pairs, rest)
        | '\x7d' :: rest => some ([pair], rest)
        | _ => none

/-- Keys and values in braces, or none, after the opening brace. -/
def readBraces (item : Reader Value) (cs : List Char) : Option (Value × List Char) :=
  match skipBlanks cs with
  | '\x7d' :: rest => some (.table .closed [], rest)
  | _ =>
      (readPairs item (cs.length + 1) cs).bind fun (pairs, rest) =>
        (Entries.ofPairs pairs).map fun es => (.table .closed es, rest)

/-- A value with at most `room` levels of brackets and braces. -/
def readValue : Nat → Reader Value
  | 0, cs => readScalar cs
  | room + 1, cs =>
      match cs with
      | '[' :: rest =>
          (readItems (readValue room) (rest.length + 1) rest).map fun (vs, rest) =>
            (.array vs, rest)
      | '\x7b' :: rest => readBraces (readValue room) rest
      | cs => readScalar cs

/-! ## Statements -/

inductive Statement where
  | pair (key : List String) (v : Value)
  /-- The header of a table. -/
  | header (key : List String)
  /-- The header of one more table in an array of tables. -/
  | item (key : List String)
  deriving Repr

/-- A statement up to the end of its line. -/
def readStatement (cs : List Char) : Option (Statement × List Char) :=
  match cs with
  | '[' :: '[' :: rest => do
      let (key, rest) ← readKey maxDepth rest
      let rest ← expect ']' rest
      let rest ← expect ']' rest
      let rest ← endLine rest
      some (.item key, rest)
  | '[' :: rest => do
      let (key, rest) ← readKey maxDepth rest
      let rest ← expect ']' rest
      let rest ← endLine rest
      some (.header key, rest)
  | cs => do
      let ((key, v), rest) ← readPairWith (readValue maxDepth) cs
      let rest ← endLine rest
      some (.pair key v, rest)

/-- The statements of a text; `fuel` is more than the number of its lines. -/
def readStatements : Nat → List Char → Option (List Statement)
  | _, [] => some []
  | 0, _ => none
  | fuel + 1, cs =>
      match endLine cs with
      | some rest => readStatements fuel rest
      | none =>
          (readStatement (skipBlanks cs)).bind fun (s, rest) =>
            (readStatements fuel rest).map (s :: ·)

/-! ## Meaning -/

/-- A document up to some statement: its entries, and the header that was seen last. -/
structure Draft where
  entries : Entries := []
  heading : List String := []
  deriving Repr

/-- Opens a table or an item at the end of a header's path. -/
def Draft.openAt (d : Draft) (key : List String) (f : String → Entries → Option Entries) :
    Option Draft :=
  key.getLast?.bind fun last =>
    (Entries.changeAt false (fun _ es => f last es) key.dropLast .defined d.entries).map
      fun entries => { entries, heading := key }

def Draft.add (d : Draft) : Statement → Option Draft
  | .pair key v =>
      key.getLast?.bind fun last =>
        (Entries.changeAt false (fun standing es => es.assign key.dropLast last v standing)
          d.heading .defined d.entries).map fun entries => { d with entries }
  | .header key => d.openAt key Entries.openTable
  | .item key => d.openAt key Entries.openItem

def Entries.ofStatements (statements : List Statement) : Option Entries :=
  (statements.foldlM Draft.add {}).map (·.entries)

namespace Document

/-- The entries of a document. A mark of byte order may stand in front. -/
def read (text : String) : Option Entries :=
  let cs := match text.toList with
    | '\uFEFF' :: rest => rest
    | cs => cs
  (readStatements (cs.length + 1) cs).bind Entries.ofStatements

end Document

end Rendezvous.Toml
