import Mathlib.Data.List.Nodup
import Rendezvous.Proofs.Toml.Numbers
import Rendezvous.Toml.Document

/-!
# Plain documents

A plain document has lines of two kinds: a key with a number or a truth value, and the header of a
table. Keys and names are written without quotes. Such a document is read back whole: line by line
(`readStatements_textOf`), and then entry by entry, each under the header that was seen last
(`foldlM_tables`, `ofStatements_sheet`). Only a number that needs more than 64 bits can spoil it
(`read_text`).
-/

set_option autoImplicit false

namespace Rendezvous.Toml

/-- A value that needs no quotes and no brackets. -/
inductive Datum where
  | integer (n : Int)
  | boolean (b : Bool)
  deriving DecidableEq, Repr

namespace Datum

def text : Datum → String
  | integer n => toString n
  | boolean b => toString b

def value : Datum → Value
  | integer n => .integer n
  | boolean b => .boolean b

def Fits : Datum → Prop
  | integer n => Holds n
  | boolean _ => True

instance : DecidablePred Fits
  | integer n => inferInstanceAs (Decidable (Holds n))
  | boolean _ => inferInstanceAs (Decidable True)

end Datum

inductive Line where
  | pair (key : String) (v : Datum)
  | header (name : String)
  deriving DecidableEq, Repr

namespace Line

def text : Line → String
  | pair key v => key ++ " = " ++ v.text ++ "\n"
  | header name => "[" ++ name ++ "]\n"

def statement : Line → Statement
  | pair key v => .pair [key] v.value
  | header name => .header [name]

def name : Line → String
  | pair key _ => key
  | header name => name

def Fits : Line → Prop
  | pair _ v => v.Fits
  | header _ => True

instance : DecidablePred Fits
  | pair _ v => inferInstanceAs (Decidable v.Fits)
  | header _ => inferInstanceAs (Decidable True)

end Line

/-- A name that can stand without quotes. -/
def Bare (name : String) : Prop := name ≠ "" ∧ name.toList.all isBare = true

instance (name : String) : Decidable (Bare name) := inferInstanceAs (Decidable (_ ∧ _))

def textOf (lines : List Line) : String := String.join (lines.map Line.text)

/-- A document by its tables: what stands above the first header, and what stands under each. -/
structure Sheet where
  top : List (String × Datum)
  tables : List (String × List (String × Datum))
  deriving DecidableEq, Repr

def pairsOf (xs : List (String × Datum)) : List Line := xs.map fun x => .pair x.1 x.2

def valuesOf (xs : List (String × Datum)) : Entries := xs.map fun x => (x.1, x.2.value)

namespace Sheet

def lines (s : Sheet) : List Line :=
  pairsOf s.top ++ s.tables.flatMap fun t => .header t.1 :: pairsOf t.2

def text (s : Sheet) : String := textOf s.lines

def entries (s : Sheet) : Entries :=
  valuesOf s.top ++ s.tables.map fun t => (t.1, .table .defined (valuesOf t.2))

/-- Nothing in it is defined twice. -/
structure Distinct (s : Sheet) : Prop where
  outer : (s.top.map Prod.fst ++ s.tables.map Prod.fst).Nodup
  inner : ∀ t ∈ s.tables, (t.2.map Prod.fst).Nodup

def Fits (s : Sheet) : Prop := ∀ l ∈ s.lines, l.Fits

instance (s : Sheet) : Decidable s.Fits := inferInstanceAs (Decidable (∀ l ∈ s.lines, l.Fits))

end Sheet

variable {c : Char} {cs word rest : List Char} {name key : String} {v : Datum} {l : Line}
  {ls : List Line}

/-! ## Names -/

theorem isBare_ne {d : Char} (bare : isBare c = true) (other : isBare d = false) : c ≠ d :=
  fun same => absurd (same ▸ bare) (by simp [other])

theorem Bare.forall_mem (bare : Bare name) : ∀ c ∈ name.toList, isBare c = true :=
  List.all_eq_true.mp bare.2

theorem Bare.exists_eq_cons (bare : Bare name) :
    ∃ c tail, name.toList = c :: tail ∧ isBare c = true := by
  cases shape : name.toList with
  | nil => exact absurd (String.toList_eq_nil_iff.mp shape) bare.1
  | cons c tail => exact ⟨c, tail, rfl, bare.forall_mem c (shape ▸ List.mem_cons_self)⟩

theorem skipBlanks_of_bare (bare : isBare c = true) : skipBlanks (c :: cs) = c :: cs := by
  have blank : isBlank c = false := by
    simp [isBlank, isBare_ne bare (by decide : isBare ' ' = false),
      isBare_ne bare (by decide : isBare '\t' = false)]
  exact List.dropWhile_cons_of_neg (by simp [blank])

theorem readKeyPart_of_bare (bare : Bare name) (stop : isBare c = false) (rest : List Char) :
    readKeyPart (name.toList ++ c :: rest) = some (name, c :: rest) := by
  have taken : (name.toList ++ c :: rest).takeWhile isBare = name.toList := by
    rw [List.takeWhile_append_of_pos bare.forall_mem, List.takeWhile_cons_of_neg (by simp [stop]),
      List.append_nil]
  have left : (name.toList ++ c :: rest).dropWhile isBare = c :: rest := by
    rw [List.dropWhile_append_of_pos bare.forall_mem, List.dropWhile_cons_of_neg (by simp [stop])]
  have whole : String.ofList name.toList = name := String.ofList_toList
  obtain ⟨d, tail, shape, front⟩ := bare.exists_eq_cons
  rw [shape, List.cons_append] at taken left ⊢
  rw [shape] at whole
  unfold readKeyPart
  split
  · next same => exact absurd (List.cons.inj same).1 (isBare_ne front (by decide))
  · next same => exact absurd (List.cons.inj same).1 (isBare_ne front (by decide))
  · rw [taken, left]
    exact congrArg (fun s => some (s, c :: rest)) whole

/-- A name is read as a key of one part, if no dot follows. -/
theorem readKey_of_bare (bare : Bare name) (stop : isBare c = false)
    (dotless : ∀ tail, skipBlanks (c :: rest) ≠ '.' :: tail) :
    readKey maxDepth (name.toList ++ c :: rest) = some ([name], skipBlanks (c :: rest)) := by
  have part := readKeyPart_of_bare bare stop rest
  obtain ⟨d, tail, shape, front⟩ := bare.exists_eq_cons
  rw [shape, List.cons_append] at part ⊢
  rw [maxDepth, readKey, skipBlanks_of_bare front, part]
  -- The case of a dot is ruled out by `dotless`, which the simplifier takes from the context.
  simp only [Option.bind_some]

/-! ## Lines -/

theorem toList_pair (key : String) (v : Datum) (rest : List Char) :
    (Line.pair key v).text.toList ++ rest =
      key.toList ++ ' ' :: '=' :: ' ' :: (v.text.toList ++ '\n' :: rest) := by
  simp [Line.text]

theorem toList_header (name : String) (rest : List Char) :
    (Line.header name).text.toList ++ rest = '[' :: (name.toList ++ ']' :: '\n' :: rest) := by
  simp [Line.text]

/-- The text of a value begins with a digit, a minus or a letter. -/
theorem Datum.exists_text_eq_cons (v : Datum) :
    ∃ c tail, v.text.toList = c :: tail ∧ c ≠ '[' ∧ c ≠ '\x7b' ∧ isBlank c = false := by
  cases v with
  | integer n =>
    obtain ⟨c, tail, shape, digits⟩ := exists_toDigits_eq_cons n.toNat
    have digit := digits c List.mem_cons_self
    rw [Datum.text, toList_toString_int, shape]
    split
    · refine ⟨c, tail, rfl, isDigit_ne digit (by decide), isDigit_ne digit (by decide), ?_⟩
      simp [isBlank, isDigit_ne digit (by decide : ' '.isDigit = false),
        isDigit_ne digit (by decide : '\t'.isDigit = false)]
    · exact ⟨'-', _, rfl, by decide, by decide, by decide⟩
  | boolean b => cases b <;> exact ⟨_, _, rfl, by decide, by decide, by decide⟩

theorem readScalar_datum (v : Datum) (rest : List Char) :
    readScalar (v.text.toList ++ '\n' :: rest) =
      if v.Fits then some (v.value, '\n' :: rest) else none := by
  cases v with
  | integer n => exact readScalar_integer n
  | boolean b => cases b <;> rfl

theorem readValue_datum (v : Datum) :
    readValue maxDepth (skipBlanks (' ' :: (v.text.toList ++ '\n' :: rest))) =
      if v.Fits then some (v.value, '\n' :: rest) else none := by
  have scalar := readScalar_datum v rest
  obtain ⟨c, tail, shape, bracket, brace, blank⟩ := v.exists_text_eq_cons
  rw [shape, List.cons_append] at scalar ⊢
  have bared : skipBlanks (' ' :: c :: (tail ++ '\n' :: rest)) = c :: (tail ++ '\n' :: rest) := by
    rw [skipBlanks, List.dropWhile_cons_of_pos (by decide),
      List.dropWhile_cons_of_neg (by simp [blank])]
  rw [bared, maxDepth, readValue.eq_def]
  simp only
  split
  · next same => exact absurd (List.cons.inj same).1 bracket
  · next same => exact absurd (List.cons.inj same).1 brace
  · exact scalar

theorem readStatement_pair (bare : Bare key) :
    readStatement (key.toList ++ ' ' :: '=' :: ' ' :: (v.text.toList ++ '\n' :: rest)) =
      if v.Fits then some (.pair [key] v.value, rest) else none := by
  have equals : skipBlanks (' ' :: '=' :: ' ' :: (v.text.toList ++ '\n' :: rest)) =
      '=' :: ' ' :: (v.text.toList ++ '\n' :: rest) := rfl
  have named : readKey maxDepth
      (key.toList ++ ' ' :: '=' :: ' ' :: (v.text.toList ++ '\n' :: rest)) =
        some ([key], '=' :: ' ' :: (v.text.toList ++ '\n' :: rest)) := by
    rw [← equals]
    refine readKey_of_bare bare (by decide) fun tail same => ?_
    exact absurd (List.cons.inj (equals.symm.trans same)).1 (by decide)
  have read : readPairWith (readValue maxDepth)
      (key.toList ++ ' ' :: '=' :: ' ' :: (v.text.toList ++ '\n' :: rest)) =
        if v.Fits then some (([key], v.value), '\n' :: rest) else none := by
    rw [readPairWith, named]
    show (readValue maxDepth (skipBlanks (' ' :: (v.text.toList ++ '\n' :: rest)))).map _ = _
    rw [readValue_datum]
    split <;> rfl
  obtain ⟨c, tail, shape, front⟩ := bare.exists_eq_cons
  rw [shape, List.cons_append] at read ⊢
  unfold readStatement
  split
  · next same => exact absurd (List.cons.inj same).1 (isBare_ne front (by decide))
  · next same => exact absurd (List.cons.inj same).1 (isBare_ne front (by decide))
  · rw [read]
    split <;> rfl

theorem readStatement_header (bare : Bare name) :
    readStatement ('[' :: (name.toList ++ ']' :: '\n' :: rest)) =
      some (.header [name], rest) := by
  have named : readKey maxDepth (name.toList ++ ']' :: '\n' :: rest) =
      some ([name], ']' :: '\n' :: rest) :=
    readKey_of_bare bare (by decide) fun tail same =>
      absurd (List.cons.inj same).1 (by decide)
  obtain ⟨c, tail, shape, front⟩ := bare.exists_eq_cons
  rw [shape, List.cons_append] at named ⊢
  unfold readStatement
  split
  · next same =>
    exact absurd (List.cons.inj (List.cons.inj same).2).1 (isBare_ne front (by decide))
  · next same =>
    obtain rfl := (List.cons.inj same).2
    rw [named]
    rfl
  · next other => exact absurd rfl (other _)

theorem readStatement_line (bare : Bare l.name) :
    readStatement (l.text.toList ++ rest) =
      if l.Fits then some (l.statement, rest) else none := by
  cases l with
  | pair key v =>
    rw [toList_pair]
    exact readStatement_pair bare
  | header name =>
    rw [toList_header]
    exact readStatement_header bare

/-- A line begins with its name, or with a bracket. -/
theorem Line.exists_text_eq_cons (bare : Bare l.name) :
    ∃ c tail, l.text.toList = c :: tail ∧ (isBare c = true ∨ c = '[') := by
  cases l with
  | pair key v =>
    obtain ⟨c, tail, shape, front⟩ := bare.exists_eq_cons
    have whole := toList_pair key v []
    rw [List.append_nil] at whole
    exact ⟨c, _, whole.trans (congrArg (· ++ _) shape), .inl front⟩
  | header name =>
    have whole := toList_header name []
    rw [List.append_nil] at whole
    exact ⟨'[', _, whole, .inr rfl⟩

theorem skipBlanks_line (bare : Bare l.name) :
    skipBlanks (l.text.toList ++ rest) = l.text.toList ++ rest := by
  obtain ⟨c, tail, shape, front | rfl⟩ := Line.exists_text_eq_cons bare
  · rw [shape, List.cons_append, skipBlanks_of_bare front]
  · rw [shape]
    rfl

/-- A line is not over where it begins. -/
theorem endLine_line (bare : Bare l.name) (rest : List Char) :
    endLine (l.text.toList ++ rest) = none := by
  rw [endLine, skipBlanks_line bare]
  obtain ⟨c, tail, shape, front⟩ := Line.exists_text_eq_cons bare
  have other {d : Char} (h : isBare d = false) (bracket : '[' ≠ d) : c ≠ d := by
    obtain bare | rfl := front
    · exact isBare_ne bare h
    · exact bracket
  have comment : skipComment (c :: (tail ++ rest)) = c :: (tail ++ rest) := by
    unfold skipComment
    split
    · next same => exact absurd (List.cons.inj same).1 (other (by decide) (by decide))
    · rfl
  rw [shape, List.cons_append, comment]
  show afterNewline (c :: (tail ++ rest)) = none
  unfold afterNewline
  split
  · next same => exact absurd (List.cons.inj same).1 (other (by decide) (by decide))
  · next same => exact absurd (List.cons.inj same).1 (other (by decide) (by decide))
  · rfl

theorem toList_textOf_cons (l : Line) (ls : List Line) :
    (textOf (l :: ls)).toList = l.text.toList ++ (textOf ls).toList := by
  simp [textOf, String.join_cons]

/-- Lines are read back as the statements that they were written for, unless there is a number
among them that does not fit. -/
theorem readStatements_textOf (bare : ∀ l ∈ ls, Bare l.name) {fuel : Nat}
    (enough : ls.length ≤ fuel) :
    readStatements fuel (textOf ls).toList =
      if ∀ l ∈ ls, l.Fits then some (ls.map Line.statement) else none := by
  induction ls generalizing fuel with
  | nil => cases fuel <;> rfl
  | cons l ls ih =>
    obtain ⟨fuel, rfl⟩ : ∃ k, fuel = k + 1 := ⟨fuel - 1, by simp at enough; omega⟩
    have ih := ih (fun x hx => bare x (List.mem_cons_of_mem _ hx))
      (Nat.le_of_succ_le_succ enough)
    have named := bare l List.mem_cons_self
    have unfolded : readStatements (fuel + 1) (textOf (l :: ls)).toList =
        (readStatement (l.text.toList ++ (textOf ls).toList)).bind fun x =>
          (readStatements fuel x.2).map (x.1 :: ·) := by
      have going := endLine_line named (textOf ls).toList
      rw [toList_textOf_cons, readStatements.eq_def]
      split
      · next empty => exact absurd (empty ▸ going) nofun
      · next zero _ => exact absurd zero nofun
      · next same _ =>
        obtain rfl := Nat.succ.inj same
        rw [going, skipBlanks_line named]
    rw [unfolded, readStatement_line named]
    by_cases fits : l.Fits
    · rw [if_pos fits, Option.bind_some, ih]
      simp only [List.forall_mem_cons, fits, true_and]
      split <;> rfl
    · rw [if_neg fits, if_neg fun all => fits (all l List.mem_cons_self)]
      rfl

/-! ## Tables -/

variable {es sub : Entries} {xs : List (String × Datum)} {s : Sheet} {x : Value}
  {tables : List (String × List (String × Datum))} {heading : List String}

theorem lookup_of_new (new : key ∉ es.map Prod.fst) : es.lookup key = none := by
  rw [List.lookup_eq_none_iff]
  intro e he
  exact bne_iff_ne.mpr fun same => new (same ▸ List.mem_map_of_mem he)

theorem lookup_append_new (new : key ∉ es.map Prod.fst) : (es ++ [(key, x)]).lookup key = some x := by
  rw [List.lookup_append, lookup_of_new new, Option.none_or, List.lookup_cons_self]

theorem add_of_new (new : key ∉ es.map Prod.fst) : es.add key x = some (es ++ [(key, x)]) := by
  rw [Entries.add, lookup_of_new new]

theorem replace_append_new {y : Value} (new : key ∉ es.map Prod.fst) :
    Entries.replace key y (es ++ [(key, x)]) = es ++ [(key, y)] := by
  have kept : es.map (fun e => if e.1 = key then (key, y) else e) = es.map id := by
    refine List.map_congr_left fun e he => if_neg fun same => new ?_
    exact same ▸ List.mem_map_of_mem he
  rw [Entries.replace, List.map_append, kept, List.map_id, List.map_singleton, if_pos rfl]

theorem names_valuesOf (xs : List (String × Datum)) :
    (valuesOf xs).map Prod.fst = xs.map Prod.fst := by
  simp [valuesOf]

/-- Lines above the first header add to the document itself. -/
theorem foldlM_top (new : (es.map Prod.fst ++ xs.map Prod.fst).Nodup) :
    ((pairsOf xs).map Line.statement).foldlM Draft.add ⟨es, []⟩ =
      some ⟨es ++ valuesOf xs, []⟩ := by
  induction xs generalizing es with
  | nil => exact congrArg (fun es => some (Draft.mk es [])) (List.append_nil es).symm
  | cons y ys ih =>
    have fresh : y.1 ∉ es.map Prod.fst := fun here =>
      List.disjoint_of_nodup_append new here List.mem_cons_self
    have added : Draft.add ⟨es, []⟩ (.pair [y.1] y.2.value) =
        some ⟨es ++ [(y.1, y.2.value)], []⟩ := by
      show (es.add y.1 y.2.value).map _ = _
      rw [add_of_new fresh]
      rfl
    have later : ((es ++ [(y.1, y.2.value)]).map Prod.fst ++ ys.map Prod.fst).Nodup := by
      simpa using new
    show (Draft.add ⟨es, []⟩ (.pair [y.1] y.2.value)).bind _ = _
    rw [added]
    show ((pairsOf ys).map Line.statement).foldlM Draft.add _ = _
    rw [ih later, List.append_assoc]
    rfl

/-- Lines under a header add to its table. -/
theorem foldlM_table (new : name ∉ es.map Prod.fst)
    (inner : (sub.map Prod.fst ++ xs.map Prod.fst).Nodup) :
    ((pairsOf xs).map Line.statement).foldlM Draft.add
        ⟨es ++ [(name, .table .defined sub)], [name]⟩ =
      some ⟨es ++ [(name, .table .defined (sub ++ valuesOf xs))], [name]⟩ := by
  induction xs generalizing sub with
  | nil => rw [show sub ++ valuesOf [] = sub from List.append_nil sub]; rfl
  | cons y ys ih =>
    have fresh : y.1 ∉ sub.map Prod.fst := fun here =>
      List.disjoint_of_nodup_append inner here List.mem_cons_self
    have added : Draft.add ⟨es ++ [(name, .table .defined sub)], [name]⟩ (.pair [y.1] y.2.value) =
        some ⟨es ++ [(name, .table .defined (sub ++ [(y.1, y.2.value)]))], [name]⟩ := by
      show (Entries.changeAt false _ [name] .defined _).map _ = _
      rw [Entries.changeAt, lookup_append_new new]
      show (((sub.add y.1 y.2.value).map _).map _) = _
      rw [add_of_new fresh]
      show some (Draft.mk (Entries.replace name _ _) _) = _
      rw [replace_append_new new]
    have later : ((sub ++ [(y.1, y.2.value)]).map Prod.fst ++ ys.map Prod.fst).Nodup := by
      simpa using inner
    show (Draft.add _ (.pair [y.1] y.2.value)).bind _ = _
    rw [added]
    show ((pairsOf ys).map Line.statement).foldlM Draft.add _ = _
    rw [ih later, List.append_assoc]
    rfl

/-- Every table is added behind what is there, however it was headed. -/
theorem foldlM_tables (outer : (es.map Prod.fst ++ tables.map Prod.fst).Nodup)
    (inner : ∀ t ∈ tables, (t.2.map Prod.fst).Nodup) :
    ∃ last, ((tables.flatMap fun t => Line.header t.1 :: pairsOf t.2).map
        Line.statement).foldlM Draft.add ⟨es, heading⟩ =
      some ⟨es ++ tables.map fun t => (t.1, .table .defined (valuesOf t.2)), last⟩ := by
  induction tables generalizing es heading with
  | nil => exact ⟨heading, congrArg (fun es => some (Draft.mk es heading)) (List.append_nil es).symm⟩
  | cons t ts ih =>
    have fresh : t.1 ∉ es.map Prod.fst := fun here =>
      List.disjoint_of_nodup_append outer here List.mem_cons_self
    have opened : Draft.add ⟨es, heading⟩ (.header [t.1]) =
        some ⟨es ++ [(t.1, .table .defined [])], [t.1]⟩ := by
      show (Entries.openTable t.1 es).map _ = _
      rw [Entries.openTable, lookup_of_new fresh]
      rfl
    have filled : ((pairsOf t.2).map Line.statement).foldlM Draft.add
        ⟨es ++ [(t.1, .table .defined [])], [t.1]⟩ =
          some ⟨es ++ [(t.1, .table .defined (valuesOf t.2))], [t.1]⟩ :=
      foldlM_table fresh (inner t List.mem_cons_self)
    have rest : ((es ++ [(t.1, Value.table .defined (valuesOf t.2))]).map Prod.fst ++
        ts.map Prod.fst).Nodup := by
      simpa using outer
    obtain ⟨last, later⟩ := ih rest fun u hu => inner u (List.mem_cons_of_mem _ hu)
    refine ⟨last, ?_⟩
    rw [List.flatMap_cons, List.map_append, List.foldlM_append]
    show ((Draft.add ⟨es, heading⟩ (.header [t.1])).bind fun d =>
      ((pairsOf t.2).map Line.statement).foldlM Draft.add d).bind _ = _
    rw [opened, Option.bind_some, filled]
    show List.foldlM Draft.add _ _ = _
    rw [later, List.append_assoc]
    rfl

theorem ofStatements_sheet (distinct : s.Distinct) :
    Entries.ofStatements (s.lines.map Line.statement) = some s.entries := by
  have above : ((pairsOf s.top).map Line.statement).foldlM Draft.add ⟨[], []⟩ =
      some ⟨valuesOf s.top, []⟩ :=
    foldlM_top distinct.outer.of_append_left
  have outer : ((valuesOf s.top).map Prod.fst ++ s.tables.map Prod.fst).Nodup := by
    rw [names_valuesOf]
    exact distinct.outer
  obtain ⟨last, below⟩ := foldlM_tables outer distinct.inner
  rw [Entries.ofStatements, Sheet.lines, List.map_append, List.foldlM_append]
  show (Option.bind (List.foldlM Draft.add ⟨[], []⟩ _) _).map _ = _
  rw [above, Option.bind_some, below]
  rfl

theorem length_le_length_textOf (bare : ∀ l ∈ ls, Bare l.name) :
    ls.length ≤ (textOf ls).toList.length := by
  induction ls with
  | nil => exact Nat.zero_le _
  | cons l ls ih =>
    obtain ⟨c, tail, shape, -⟩ := Line.exists_text_eq_cons (bare l List.mem_cons_self)
    have ih := ih fun x hx => bare x (List.mem_cons_of_mem _ hx)
    rw [toList_textOf_cons, shape]
    simp only [List.length_cons, List.length_append]
    omega

/-- No line begins with a mark of byte order. -/
theorem textOf_ne_mark (bare : ∀ l ∈ ls, Bare l.name) :
    (textOf ls).toList ≠ '\uFEFF' :: rest := by
  cases ls with
  | nil => exact nofun
  | cons l ls =>
    obtain ⟨c, tail, shape, front⟩ := Line.exists_text_eq_cons (bare l List.mem_cons_self)
    rw [toList_textOf_cons, shape]
    intro same
    obtain rfl := (List.cons.inj same).1
    exact absurd front (by decide)

/-- A plain document is read as what it says, if its numbers fit. -/
theorem read_text (bare : ∀ l ∈ s.lines, Bare l.name) (distinct : s.Distinct) :
    Document.read s.text = if s.Fits then some s.entries else none := by
  have enough : s.lines.length ≤ s.text.toList.length + 1 :=
    Nat.le_succ_of_le (length_le_length_textOf bare)
  have statements : readStatements (s.text.toList.length + 1) s.text.toList =
      if s.Fits then some (s.lines.map Line.statement) else none :=
    readStatements_textOf bare enough
  unfold Document.read
  split
  · next mark => exact absurd mark (textOf_ne_mark bare)
  · show (readStatements (s.text.toList.length + 1) s.text.toList).bind _ = _
    rw [statements]
    split
    · exact ofStatements_sheet distinct
    · rfl

end Rendezvous.Toml
