/-!
# Values and tables of a TOML document

A document is a table: names with values, where a value may again be a table. Tables come about in
several ways, and the format forbids to go back to a table once it counts as defined. What may still
be added to a table depends on how it came about, which is its `Standing`.

Every addition is one operation: walk along a path, making the tables that are missing, and change
the table at its end (`Entries.changeAt`). A path written with dots may only pass through tables
that no header has defined; a header's path may pass through any table, and goes to the last one in
an array of tables. Neither may pass through a value that was written out in one piece.

Of fractions and of dates nothing but their presence is kept.
-/

set_option autoImplicit false

namespace Rendezvous.Toml

/-- How a table came about. -/
inductive Standing where
  /-- It has a header of its own, or is the document itself. -/
  | defined
  /-- It is on the way to a table with a header. -/
  | passed
  /-- It is on the way of a dotted key. -/
  | dotted
  /-- It was written out in braces. -/
  | closed
  deriving DecidableEq, Repr

inductive Value where
  | text (s : String)
  | integer (n : Int)
  | fraction
  | boolean (b : Bool)
  | dateTime
  | array (items : List Value)
  | table (standing : Standing) (entries : List (String × Value))
  /-- An array whose tables have headers, to which further headers may add. -/
  | tables (items : List (List (String × Value)))
  deriving Repr, Inhabited

abbrev Entries := List (String × Value)

namespace Entries

/-- Puts a value in the place of another under the same name. -/
def replace (key : String) (v : Value) (es : Entries) : Entries :=
  es.map fun e => if e.1 = key then (key, v) else e

/-- Adds a value under a name that must be new. -/
def add (key : String) (v : Value) (es : Entries) : Option Entries :=
  match es.lookup key with
  | none => some (es ++ [(key, v)])
  | some _ => none

/-- Changes the table at the end of a path by `f`, which learns how that table came about. The
starting table has the given standing. -/
def changeAt (dotted : Bool) (f : Standing → Entries → Option Entries) :
    List String → Standing → Entries → Option Entries
  | [], standing, es => f standing es
  | key :: path, _, es =>
      match es.lookup key with
      | none =>
          let standing := if dotted then Standing.dotted else .passed
          (changeAt dotted f path standing []).map fun sub => es ++ [(key, .table standing sub)]
      | some (.table .closed _) => none
      | some (.table standing sub) =>
          if dotted ∧ standing = .defined then none
          else (changeAt dotted f path standing sub).map fun sub =>
            es.replace key (.table standing sub)
      | some (.tables items) =>
          match items.getLast? with
          | none => none
          | some last => (changeAt dotted f path .defined last).map fun last =>
              es.replace key (.tables (items.dropLast ++ [last]))
      | some _ => none

/-- Adds a value under a dotted key, whose last part is given apart. The table that takes the value
must have come about by dotted keys if there is a path, and otherwise not. -/
def assign (path : List String) (key : String) (v : Value) (standing : Standing) (es : Entries) :
    Option Entries :=
  changeAt true
    (fun reached es =>
      if path.isEmpty == decide (reached = Standing.dotted) then none else es.add key v)
    path standing es

/-- What a header does to the table that its table belongs to: a table that was only passed through
so far is now defined. -/
def openTable (key : String) (es : Entries) : Option Entries :=
  match es.lookup key with
  | none => some (es ++ [(key, .table .defined [])])
  | some (.table .passed sub) => some (es.replace key (.table .defined sub))
  | some _ => none

/-- What a header of an array of tables does: one more table. -/
def openItem (key : String) (es : Entries) : Option Entries :=
  match es.lookup key with
  | none => some (es ++ [(key, .tables [[]])])
  | some (.tables items) => some (es.replace key (.tables (items ++ [[]])))
  | some _ => none

/-- The table of these keys and values, written in braces. -/
def ofPairs (pairs : List (List String × Value)) : Option Entries :=
  pairs.foldlM
    (fun (es : Entries) (path, v) =>
      path.getLast?.bind fun key => es.assign path.dropLast key v .closed) []

end Entries

end Rendezvous.Toml
