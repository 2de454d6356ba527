import Rendezvous.Proofs.Toml.Sheets
import Rendezvous.Settings

/-!
# Files that say only a part

A settings file may leave out any field and either table. What it does not say is as in the standard
settings, whatever else it says, and in whatever order (`load_sameLines`). A number that its field
cannot hold is never cut off: with it there are no settings at all.

The order of the lines is no part of the meaning, because no name stands twice in a table
(`lookup_eq_of_perm`), so every field can be looked up in the file that writes the fields in their
usual order.
-/

set_option autoImplicit false

namespace Rendezvous

/-! ## Order -/

variable {α : Type} {xs ys : List (String × α)} {name : String} {x : α}

theorem lookup_eq_some_iff_mem (once : (xs.map Prod.fst).Nodup) :
    xs.lookup name = some x ↔ (name, x) ∈ xs := by
  induction xs with
  | nil => simp
  | cons y ys ih =>
    rw [List.map_cons, List.nodup_cons] at once
    rw [List.lookup_cons, List.mem_cons]
    by_cases here : name = y.1
    · subst here
      rw [beq_self_eq_true]
      refine ⟨fun same => .inl (by rw [← Option.some.inj same]), ?_⟩
      rintro (same | later)
      · rw [← same]
      · exact absurd (List.mem_map_of_mem later) once.1
    · rw [beq_eq_false_iff_ne.mpr here, ih once.2]
      exact ⟨.inr, fun h => h.resolve_left fun same => here (congrArg Prod.fst same)⟩

/-- Where no name stands twice, order does not matter. -/
theorem lookup_eq_of_perm (perm : xs.Perm ys) (once : (ys.map Prod.fst).Nodup) (name : String) :
    xs.lookup name = ys.lookup name := by
  apply Option.ext
  intro x
  rw [lookup_eq_some_iff_mem once, lookup_eq_some_iff_mem ((perm.map _).nodup_iff.mpr once),
    perm.mem_iff]

theorem lookup_map {β : Type} (f : α → β) (xs : List (String × α)) (name : String) :
    (xs.map fun x => (x.1, f x.2)).lookup name = (xs.lookup name).map f := by
  induction xs with
  | nil => rfl
  | cons x xs ih =>
    rw [List.map_cons, List.lookup_cons, List.lookup_cons, ih]
    split <;> rfl

namespace Toml.Sheet

/-- The same lines in another order, each in its table. -/
structure SameLines (s t : Sheet) : Prop where
  top : s.top.Perm t.top
  names : (s.tables.map Prod.fst).Perm (t.tables.map Prod.fst)
  inner : ∀ x ∈ s.tables, ∀ y ∈ t.tables, x.1 = y.1 → x.2.Perm y.2

variable {s t : Sheet}

theorem mem_lines {l : Line} : l ∈ s.lines ↔ l ∈ pairsOf s.top ∨
    ∃ x ∈ s.tables, l = .header x.1 ∨ l ∈ pairsOf x.2 := by
  simp [lines]

namespace SameLines

theorem symm (same : s.SameLines t) : t.SameLines s where
  top := same.top.symm
  names := same.names.symm
  inner y hy x hx eq := (same.inner x hx y hy eq.symm).symm

theorem exists_table (same : s.SameLines t) {x : String × List (String × Datum)}
    (hx : x ∈ s.tables) : ∃ y ∈ t.tables, x.1 = y.1 ∧ x.2.Perm y.2 := by
  obtain ⟨y, hy, eq⟩ := List.mem_map.mp (same.names.mem_iff.mp (List.mem_map_of_mem hx))
  exact ⟨y, hy, eq.symm, same.inner x hx y hy eq.symm⟩

theorem mem_lines_of (same : s.SameLines t) {l : Line} (h : l ∈ s.lines) : l ∈ t.lines := by
  rw [mem_lines] at h ⊢
  obtain above | ⟨x, hx, h⟩ := h
  · exact .inl ((same.top.map _).mem_iff.mp above)
  · obtain ⟨y, hy, eq, perm⟩ := same.exists_table hx
    exact .inr ⟨y, hy, h.imp (eq ▸ ·) (perm.map _).mem_iff.mp⟩

theorem distinct (same : s.SameLines t) (distinct : t.Distinct) : s.Distinct where
  outer := ((same.top.map _).append same.names).nodup_iff.mpr distinct.outer
  inner x hx := by
    obtain ⟨y, hy, -, perm⟩ := same.exists_table hx
    exact (perm.map _).nodup_iff.mpr (distinct.inner y hy)

theorem lookup_top (same : s.SameLines t) (distinct : t.Distinct) (name : String) :
    s.top.lookup name = t.top.lookup name :=
  lookup_eq_of_perm same.top distinct.outer.of_append_left name

theorem lookup_tables (same : s.SameLines t) (distinct : t.Distinct) (name : String) :
    Option.Rel List.Perm (s.tables.lookup name) (t.tables.lookup name) := by
  have here := same.distinct distinct
  cases found : s.tables.lookup name with
  | none =>
    cases other : t.tables.lookup name with
    | none => exact .none
    | some ys =>
      have mem := (lookup_eq_some_iff_mem distinct.outer.of_append_right).mp other
      obtain ⟨x, hx, eq, -⟩ := same.symm.exists_table mem
      have absent := List.lookup_eq_none_iff.mp found x hx
      exact absurd eq (bne_iff_ne.mp absent)
  | some xs =>
    have mem := (lookup_eq_some_iff_mem here.outer.of_append_right).mp found
    obtain ⟨y, hy, eq, perm⟩ := same.exists_table mem
    obtain ⟨_, ys⟩ := y
    obtain rfl : name = _ := eq
    rw [(lookup_eq_some_iff_mem distinct.outer.of_append_right).mpr hy]
    exact .some perm

end SameLines

theorem lookup_entries (s : Sheet) (name : String) :
    s.entries.lookup name = ((s.top.lookup name).map Datum.value).or
      ((s.tables.lookup name).map fun xs => .table .defined (valuesOf xs)) := by
  rw [entries, List.lookup_append, valuesOf, lookup_map,
    lookup_map fun xs => Value.table .defined (valuesOf xs)]

end Toml.Sheet

namespace Settings

open Toml (Datum Line Sheet)

/-! ## Excerpts -/

/-- What a file says of the sizes of a run: how many take part, and how often. -/
structure Sizes where
  crowd : Option Int
  times : Option Int
  deriving DecidableEq, Repr

/-- What a file says: any of the fields, and of the tables any fields or none. -/
structure Excerpt where
  verbose : Option Bool
  poll : Option Int
  stress : Option Sizes
  race : Option Sizes
  deriving DecidableEq, Repr

def Sizes.pairs (s : Sizes) (crowd times : String) : List (String × Datum) :=
  (s.crowd.map fun n => (crowd, .integer n)).toList ++
    (s.times.map fun n => (times, .integer n)).toList

/-- A number from 0 to a limit, if there is one. -/
def Within (limit : Nat) (n : Option Int) : Prop := ∀ k ∈ n, 0 ≤ k ∧ k ≤ limit

instance (limit : Nat) : DecidablePred (Within limit)
  | none => .isTrue nofun
  | some k => decidable_of_iff (0 ≤ k ∧ k ≤ limit) (by simp [Within])

namespace Excerpt

/-- The file with all that in the usual order. -/
def sheet (e : Excerpt) : Sheet where
  top := (e.verbose.map fun b => ("verbose", .boolean b)).toList ++
    (e.poll.map fun n => ("cancel_poll_us", .integer n)).toList
  tables := (e.stress.map fun s => ("stress", s.pairs "parties" "generations")).toList ++
    (e.race.map fun s => ("race", s.pairs "threads" "rounds")).toList

/-- The numbers are such as their fields can hold, as far as a file can hold them. -/
structure Fits (e : Excerpt) : Prop where
  poll : Within Text.maxSigned64 e.poll
  parties : Within (UInt32.size - 1) (e.stress.bind (·.crowd))
  generations : Within Text.maxSigned64 (e.stress.bind (·.times))
  threads : Within (UInt32.size - 1) (e.race.bind (·.crowd))
  rounds : Within Text.maxSigned64 (e.race.bind (·.times))

/-- The settings with what the file says in place of the standard ones. -/
def amend (e : Excerpt) (standard : Settings) : Settings where
  verbose := e.verbose.getD standard.verbose
  poll := (e.poll.map (·.toNat.toUInt64)).or standard.poll
  stress :=
    { parties := (e.stress.bind (·.crowd)).elim standard.stress.parties (·.toNat.toUInt32)
      generations := (e.stress.bind (·.times)).elim standard.stress.generations (·.toNat.toUInt64) }
  race :=
    { threads := (e.race.bind (·.crowd)).elim standard.race.threads (·.toNat.toUInt32)
      rounds := (e.race.bind (·.times)).elim standard.race.rounds (·.toNat.toUInt64) }

/-- Tables may be there, but they are empty. -/
def Silent (e : Excerpt) : Prop :=
  e.verbose = none ∧ e.poll = none ∧ (∀ s ∈ e.stress, s = ⟨none, none⟩) ∧
    ∀ s ∈ e.race, s = ⟨none, none⟩

end Excerpt

variable {e : Excerpt} {s : Sheet} {c base : Settings}

/-- In an empty table, and without the table, there are no numbers. -/
theorem Excerpt.Silent.absent (silent : e.Silent) :
    (e.stress.bind (·.crowd) = none ∧ e.stress.bind (·.times) = none) ∧
      e.race.bind (·.crowd) = none ∧ e.race.bind (·.times) = none := by
  have empty (t : Option Sizes) (h : ∀ z ∈ t, z = ⟨none, none⟩) :
      t.bind (·.crowd) = none ∧ t.bind (·.times) = none := by
    cases t with
    | none => exact ⟨rfl, rfl⟩
    | some z => rw [h z rfl]; exact ⟨rfl, rfl⟩
  exact ⟨empty _ silent.2.2.1, empty _ silent.2.2.2⟩

theorem Excerpt.Silent.fits (silent : e.Silent) : e.Fits := by
  obtain ⟨⟨parties, generations⟩, threads, rounds⟩ := silent.absent
  have nothing (limit : Nat) : Within limit none := fun _ h => absurd h nofun
  constructor
  · exact silent.2.1 ▸ nothing _
  · exact parties ▸ nothing _
  · exact generations ▸ nothing _
  · exact threads ▸ nothing _
  · exact rounds ▸ nothing _

theorem amend_of_silent (silent : e.Silent) (base : Settings) : e.amend base = base := by
  obtain ⟨⟨parties, generations⟩, threads, rounds⟩ := silent.absent
  rw [Excerpt.amend, silent.1, silent.2.1, parties, generations, threads, rounds]
  rfl

/-! ## Fields -/

theorem bind_eq_ok_iff {ε α β : Type} {x : Except ε α} {f : α → Except ε β} {b : β} :
    (x >>= f) = .ok b ↔ ∃ a, x = .ok a ∧ f a = .ok b := by
  cases x with
  | error e => exact ⟨nofun, fun ⟨a, h, _⟩ => absurd h nofun⟩
  | ok a => exact ⟨fun h => ⟨a, rfl, h⟩, fun ⟨_, h, g⟩ => Except.ok.inj h ▸ g⟩

/-- A field takes the number that is written, if it can hold it. -/
theorem field_integer_eq_ok_iff {α : Type} {name : String} {x standard : α} {limit : Nat}
    {f : Nat → α} {n : Option Int} :
    field name standard (fun v => (natural? limit v).map f) (n.map .integer) = .ok x ↔
      Within limit n ∧ n.elim standard (fun k => f k.toNat) = x := by
  cases n with
  | none => simp [field, Within]
  | some k =>
    by_cases range : 0 ≤ k ∧ k ≤ limit
    · simp [field, natural?, Within, range]
    · simp [field, natural?, Within, range]

theorem field_word32_eq_ok_iff {name : String} {x standard : UInt32} {n : Option Int} :
    field name standard word32? (n.map .integer) = .ok x ↔
      Within (UInt32.size - 1) n ∧ n.elim standard (·.toNat.toUInt32) = x :=
  field_integer_eq_ok_iff

theorem field_word64_eq_ok_iff {name : String} {x standard : UInt64} {n : Option Int} :
    field name standard word64? (n.map .integer) = .ok x ↔
      Within (UInt64.size - 1) n ∧ n.elim standard (·.toNat.toUInt64) = x :=
  field_integer_eq_ok_iff

theorem pure_eq_ok_iff {ε α : Type} {a b : α} : (pure a : Except ε α) = .ok b ↔ a = b :=
  ⟨Except.ok.inj, congrArg _⟩

theorem pairs_lookup {crowd times : String} (other : crowd ≠ times) (z : Sizes) :
    ((z.pairs crowd times).map Prod.fst).Nodup ∧
      (z.pairs crowd times).lookup crowd = z.crowd.map .integer ∧
      (z.pairs crowd times).lookup times = z.times.map .integer := by
  have apart : (crowd == times) = false ∧ (times == crowd) = false :=
    ⟨beq_eq_false_iff_ne.mpr other, beq_eq_false_iff_ne.mpr other.symm⟩
  obtain ⟨n, m⟩ := z
  cases n <;> cases m <;> simp [Sizes.pairs, List.lookup_cons, apart, other]

theorem sizesOf_eq_ok_iff {α : Type} {make : UInt32 → UInt64 → α} {crowd : String × UInt32}
    {times : String × UInt64} {parts : Parts} {n m : Option Int} {x : α}
    (few : parts.get? crowd.1 0 = n.map .integer) (often : parts.get? times.1 1 = m.map .integer) :
    sizesOf make crowd times parts = .ok x ↔
      Within (UInt32.size - 1) n ∧ Within (UInt64.size - 1) m ∧
        make (n.elim crowd.2 (·.toNat.toUInt32)) (m.elim times.2 (·.toNat.toUInt64)) = x := by
  rw [sizesOf, few, often]
  simp only [bind_eq_ok_iff, field_word32_eq_ok_iff, field_word64_eq_ok_iff, and_assoc,
    exists_and_left, exists_eq_left', pure_eq_ok_iff]

/-- A table makes the sizes that the file says, wherever their lines stand in it. Where there is no
table they are the same as where it is empty, because what stands in for it is made of what stands in
for its lines. -/
theorem section_eq_ok_iff {α : Type} (make : UInt32 → UInt64 → α) (fewest : UInt32) (least : UInt64)
    (table : String) {crowd times : String} (other : crowd ≠ times) {z : Option Sizes}
    {found : Option (List (String × Datum))}
    (same : Option.Rel List.Perm found (z.map (·.pairs crowd times))) {x : α} : section? table
        (make fewest least) (sizesOf make (crowd, fewest) (times, least))
        (found.map fun xs => .table .defined (Toml.valuesOf xs)) = .ok x ↔
      Within (UInt32.size - 1) (z.bind (·.crowd)) ∧ Within (UInt64.size - 1) (z.bind (·.times)) ∧
        make ((z.bind (·.crowd)).elim fewest (·.toNat.toUInt32))
          ((z.bind (·.times)).elim least (·.toNat.toUInt64)) = x := by
  cases z with
  | none =>
    cases same
    have nothing (limit : Nat) : Within limit none := fun _ h => absurd h nofun
    exact ⟨fun h => ⟨nothing _, nothing _, Except.ok.inj h⟩, fun h => congrArg _ h.2.2⟩
  | some z =>
    cases same with
    | @some xs _ perm =>
      obtain ⟨once, first, second⟩ := pairs_lookup other z
      have values (name : String) : (Toml.valuesOf xs).lookup name =
          ((z.pairs crowd times).lookup name).map Datum.value := by
        rw [Toml.valuesOf, lookup_map, lookup_eq_of_perm perm once]
      have few : (Parts.named (Toml.valuesOf xs)).get? crowd 0 = z.crowd.map .integer :=
        (values crowd).trans (by rw [first, Option.map_map]; rfl)
      have often : (Parts.named (Toml.valuesOf xs)).get? times 1 = z.times.map .integer :=
        (values times).trans (by rw [second, Option.map_map]; rfl)
      exact sizesOf_eq_ok_iff few often

theorem distinct_sheet (e : Excerpt) : e.sheet.Distinct := by
  obtain ⟨verbose, poll, stress, race⟩ := e
  constructor
  · cases verbose <;> cases poll <;> cases stress <;> cases race <;> simp [Excerpt.sheet]
  · have parts (z : Sizes) := (pairs_lookup (by decide : "parties" ≠ "generations") z).1
    have lanes (z : Sizes) := (pairs_lookup (by decide : "threads" ≠ "rounds") z).1
    cases stress <;> cases race <;> simp [Excerpt.sheet, parts, lanes]

theorem forall_pairs {crowd times : String} {z : Sizes} {P : String × Datum → Prop} :
    (∀ x ∈ z.pairs crowd times, P x) ↔
      (∀ n ∈ z.crowd, P (crowd, .integer n)) ∧ ∀ n ∈ z.times, P (times, .integer n) := by
  obtain ⟨n, m⟩ := z
  cases n <;> cases m <;> simp [Sizes.pairs]

theorem forall_top {P : String × Datum → Prop} : (∀ x ∈ e.sheet.top, P x) ↔
    (∀ b ∈ e.verbose, P ("verbose", .boolean b)) ∧
      ∀ n ∈ e.poll, P ("cancel_poll_us", .integer n) := by
  obtain ⟨verbose, poll, stress, race⟩ := e
  cases verbose <;> cases poll <;> simp [Excerpt.sheet]

theorem forall_tables {P : String × List (String × Datum) → Prop} : (∀ x ∈ e.sheet.tables, P x) ↔
    (∀ z ∈ e.stress, P ("stress", z.pairs "parties" "generations")) ∧
      ∀ z ∈ e.race, P ("race", z.pairs "threads" "rounds") := by
  obtain ⟨verbose, poll, stress, race⟩ := e
  cases stress <;> cases race <;> simp [Excerpt.sheet]

theorem forall_lines {P : Line → Prop} : (∀ l ∈ s.lines, P l) ↔
    (∀ x ∈ s.top, P (.pair x.1 x.2)) ∧
      ∀ t ∈ s.tables, P (.header t.1) ∧ ∀ x ∈ t.2, P (.pair x.1 x.2) := by
  simp only [Sheet.lines, Toml.pairsOf, List.forall_mem_append, List.forall_mem_map,
    List.forall_mem_flatMap, List.forall_mem_cons]

theorem bare_sheet (e : Excerpt) : ∀ l ∈ e.sheet.lines, Toml.Bare l.name := by
  have names : ∀ name ∈ ["verbose", "cancel_poll_us", "stress", "race", "parties", "generations",
      "threads", "rounds"], Toml.Bare name := by decide
  simp only [forall_lines, forall_top, forall_tables, forall_pairs, Line.name]
  simp [names]

/-- A file can hold the numbers of an excerpt. -/
structure Excerpt.Storable (e : Excerpt) : Prop where
  poll : ∀ n ∈ e.poll, Toml.Holds n
  parties : ∀ n ∈ e.stress.bind (·.crowd), Toml.Holds n
  generations : ∀ n ∈ e.stress.bind (·.times), Toml.Holds n
  threads : ∀ n ∈ e.race.bind (·.crowd), Toml.Holds n
  rounds : ∀ n ∈ e.race.bind (·.times), Toml.Holds n

theorem fits_sheet_iff : e.sheet.Fits ↔ e.Storable := by
  have table (t : Option Sizes) :
      (∀ z ∈ t, (∀ n ∈ z.crowd, Toml.Holds n) ∧ ∀ n ∈ z.times, Toml.Holds n) ↔
        (∀ n ∈ t.bind (·.crowd), Toml.Holds n) ∧ ∀ n ∈ t.bind (·.times), Toml.Holds n := by
    cases t <;> simp
  simp only [Sheet.Fits, forall_lines, forall_top, forall_tables, forall_pairs, Line.Fits,
    Datum.Fits, implies_true, true_and, table]
  exact ⟨fun ⟨poll, ⟨parties, generations⟩, threads, rounds⟩ =>
      ⟨poll, parties, generations, threads, rounds⟩,
    fun h => ⟨h.poll, ⟨h.parties, h.generations⟩, h.threads, h.rounds⟩⟩

/-! ## Whole files -/

theorem Within.holds {limit : Nat} {n : Option Int} (h : Within limit n)
    (small : limit ≤ Text.maxSigned64) : ∀ k ∈ n, Toml.Holds k := by
  intro k hk
  have := h k hk
  unfold Toml.Holds
  omega

/-- What a file can hold at all is what a field of 64 bits can hold, if it is not negative. -/
theorem within_iff {n : Option Int} (holds : ∀ k ∈ n, Toml.Holds k) :
    Within (UInt64.size - 1) n ↔ Within Text.maxSigned64 n := by
  have below : Text.maxSigned64 ≤ UInt64.size - 1 := by decide
  refine ⟨fun h k hk => ⟨(h k hk).1, (holds k hk).2⟩, fun h k hk => ⟨(h k hk).1, ?_⟩⟩
  have := (h k hk).2
  omega

theorem Excerpt.Fits.storable (fits : e.Fits) : e.Storable where
  poll := fits.poll.holds (Nat.le_refl _)
  parties := fits.parties.holds (by decide)
  generations := fits.generations.holds (Nat.le_refl _)
  threads := fits.threads.holds (by decide)
  rounds := fits.rounds.holds (Nat.le_refl _)

/-- A field above the tables is found wherever its line stands. -/
theorem lookup_of_top (same : s.SameLines e.sheet) {name : String}
    (foreign : e.sheet.tables.lookup name = none) :
    s.entries.lookup name = (e.sheet.top.lookup name).map Datum.value := by
  have absent : s.tables.lookup name = none := by
    have related := same.lookup_tables (distinct_sheet e) name
    rw [foreign] at related
    cases found : s.tables.lookup name with
    | none => rfl
    | some xs => rw [found] at related; cases related
  rw [Sheet.lookup_entries, same.lookup_top (distinct_sheet e), absent, Option.map_none,
    Option.or_none]

/-- A table is found wherever it stands. -/
theorem lookup_of_tables (same : s.SameLines e.sheet) {name : String}
    (foreign : e.sheet.top.lookup name = none) :
    s.entries.lookup name =
      (s.tables.lookup name).map fun xs => .table .defined (Toml.valuesOf xs) := by
  rw [Sheet.lookup_entries, same.lookup_top (distinct_sheet e), foreign, Option.map_none,
    Option.none_or]

theorem lookup_top_sheet (e : Excerpt) :
    e.sheet.top.lookup "verbose" = e.verbose.map .boolean ∧
      e.sheet.top.lookup "cancel_poll_us" = e.poll.map .integer ∧
      e.sheet.top.lookup "stress" = none ∧ e.sheet.top.lookup "race" = none := by
  obtain ⟨verbose, poll, stress, race⟩ := e
  cases verbose <;> cases poll <;> exact ⟨rfl, rfl, rfl, rfl⟩

theorem lookup_tables_sheet (e : Excerpt) :
    e.sheet.tables.lookup "stress" = e.stress.map (·.pairs "parties" "generations") ∧
      e.sheet.tables.lookup "race" = e.race.map (·.pairs "threads" "rounds") ∧
      e.sheet.tables.lookup "verbose" = none ∧ e.sheet.tables.lookup "cancel_poll_us" = none := by
  obtain ⟨verbose, poll, stress, race⟩ := e
  cases stress <;> cases race <;> exact ⟨rfl, rfl, rfl, rfl⟩

/-- The fields above the tables, and the tables, are found in the lines in any order. -/
theorem lookup_sameLines (same : s.SameLines e.sheet) :
    (s.entries.lookup "verbose" = e.verbose.map .boolean ∧
      s.entries.lookup "cancel_poll_us" = e.poll.map .integer) ∧
    Option.Rel List.Perm (s.tables.lookup "stress")
      (e.stress.map (·.pairs "parties" "generations")) ∧
    Option.Rel List.Perm (s.tables.lookup "race") (e.race.map (·.pairs "threads" "rounds")) := by
  obtain ⟨verbose, poll, -, -⟩ := lookup_top_sheet e
  obtain ⟨stress, race, noVerbose, noPoll⟩ := lookup_tables_sheet e
  refine ⟨⟨?_, ?_⟩, ?_, ?_⟩
  · rw [lookup_of_top same noVerbose, verbose, Option.map_map]
    rfl
  · rw [lookup_of_top same noPoll, poll, Option.map_map]
    rfl
  · exact stress ▸ same.lookup_tables (distinct_sheet e) "stress"
  · exact race ▸ same.lookup_tables (distinct_sheet e) "race"

theorem field_verbose_eq_ok_iff {name : String} {x standard : Bool} {b : Option Bool} :
    field name standard truth? (b.map .boolean) = .ok x ↔ b.getD standard = x := by
  cases b <;> exact pure_eq_ok_iff

theorem field_poll_eq_ok_iff {name : String} {x standard : Option UInt64} {n : Option Int} :
    field name standard (fun v => (word64? v).map some) (n.map .integer) = .ok x ↔
      Within (UInt64.size - 1) n ∧ (n.map (·.toNat.toUInt64)).or standard = x := by
  have whole : (fun v => (word64? v).map some) =
      fun v => (natural? (UInt64.size - 1) v).map fun n => some n.toUInt64 := by
    funext v
    rw [word64?, Option.map_map]
    rfl
  rw [whole, field_integer_eq_ok_iff]
  cases n <;> rfl

/-- The lines of an excerpt make settings if the fields can hold the numbers. -/
theorem ofEntries_eq_ok_iff (same : s.SameLines e.sheet) (storable : e.Storable) :
    ofEntries base s.entries = .ok c ↔ e.Fits ∧ e.amend base = c := by
  obtain ⟨⟨verbose, poll⟩, stressLines, raceLines⟩ := lookup_sameLines same
  obtain ⟨-, -, aside, besides⟩ := lookup_top_sheet e
  have stress (x : StressSizes) := section_eq_ok_iff .mk base.stress.parties base.stress.generations
    "stress" (by decide) stressLines (x := x)
  have race (x : RaceSizes) := section_eq_ok_iff .mk base.race.threads base.race.rounds
    "race" (by decide) raceLines (x := x)
  rw [ofEntries, verbose, poll, lookup_of_tables same aside, lookup_of_tables same besides]
  simp only [bind_eq_ok_iff, field_verbose_eq_ok_iff, field_poll_eq_ok_iff, Defaults.ofSettings,
    stress, race, pure_eq_ok_iff, exists_eq_left', and_assoc, exists_and_left,
    within_iff storable.poll, within_iff storable.generations, within_iff storable.rounds]
  exact ⟨fun ⟨poll, parties, generations, threads, rounds, h⟩ =>
      ⟨⟨poll, parties, generations, threads, rounds⟩, h⟩,
    fun ⟨fits, h⟩ => ⟨fits.poll, fits.parties, fits.generations, fits.threads, fits.rounds, h⟩⟩

theorem ofText_eq_ok_iff (same : s.SameLines e.sheet) :
    ofText base s.text = .ok c ↔ e.Fits ∧ e.amend base = c := by
  have bare : ∀ l ∈ s.lines, Toml.Bare l.name := fun l hl => bare_sheet e l (same.mem_lines_of hl)
  have whole : s.Fits ↔ e.Storable := by
    rw [← fits_sheet_iff]
    exact ⟨fun h l hl => h l (same.symm.mem_lines_of hl), fun h l hl => h l (same.mem_lines_of hl)⟩
  rw [ofText, Toml.read_text bare (same.distinct (distinct_sheet e))]
  by_cases storable : e.Storable
  · rw [if_pos (whole.mpr storable)]
    exact ofEntries_eq_ok_iff same storable
  · rw [if_neg (whole.not.mpr storable)]
    exact ⟨nofun, fun ⟨fits, _⟩ => absurd fits.storable storable⟩

theorem fromUTF8?_toUTF8 (text : String) : String.fromUTF8? text.toUTF8 = some text :=
  dif_pos text.isValidUTF8

theorem load_bytes (d : Defaults) (path text : String) :
    load d path (.bytes text.toUTF8) =
      (ofText d text).mapError fun what => .settings (.malformed what) := by
  rw [load, fromUTF8?_toUTF8]

/-- A file with the lines of an excerpt, in any order, is loaded as the standard settings with what
it says in their place. If it says nothing they are the standard settings. If it has a number that
is negative or too large for its field, it is malformed. -/
theorem load_sameLines (same : s.SameLines e.sheet) (processors : Nat) (path : String) :
    (e.Fits → load (.ofProcessors processors) path (.bytes s.text.toUTF8) =
      .ok (e.amend (standard processors))) ∧
    (e.Silent → load (.ofProcessors processors) path (.bytes s.text.toUTF8) =
      .ok (standard processors)) ∧
    (¬ e.Fits → ∃ what, load (.ofProcessors processors) path (.bytes s.text.toUTF8) =
      .error (.settings (.malformed what))) := by
  rw [Defaults.ofProcessors_eq]
  have full (fits : e.Fits) : load (standard processors) path (.bytes s.text.toUTF8) =
      .ok (e.amend (standard processors)) := by
    rw [load_bytes, (ofText_eq_ok_iff same).mpr ⟨fits, rfl⟩]
    rfl
  refine ⟨full, fun silent => ?_, fun unfit => ?_⟩
  · rw [full silent.fits, amend_of_silent silent]
  · rw [load_bytes]
    cases read : ofText (standard processors) s.text with
    | ok c => exact absurd ((ofText_eq_ok_iff same).mp read).1 unfit
    | error what => exact ⟨what, rfl⟩

/-- Most is left out, and one table is empty. -/
def brief : Excerpt := ⟨some true, some 250, some ⟨none, some 9223372036854775807⟩, some ⟨none, none⟩⟩

/-- The same with the tables the other way round. -/
def shuffled : Sheet where
  top := [("cancel_poll_us", .integer 250), ("verbose", .boolean true)]
  tables := [("race", []), ("stress", [("generations", .integer 9223372036854775807)])]

/-- One more than a field of 32 bits can hold. -/
def oversized : Excerpt := ⟨none, none, some ⟨some 4294967296, none⟩, none⟩

theorem load_sameLines_shuffled :
    shuffled.text = "cancel_poll_us = 250\nverbose = true\n[race]\n[stress]\n" ++
      "generations = 9223372036854775807\n" ∧
    load (.ofProcessors 8) "rdvt.toml" (.bytes shuffled.text.toUTF8) =
      .ok ⟨true, some 250, ⟨8, 9223372036854775807⟩, ⟨8, 100⟩⟩ ∧
    oversized.sheet.text = "[stress]\nparties = 4294967296\n" ∧
    ∃ what, load (.ofProcessors 8) "rdvt.toml" (.bytes oversized.sheet.text.toUTF8) =
      .error (.settings (.malformed what)) := by
  have same : shuffled.SameLines brief.sheet := ⟨by decide, by decide, by decide⟩
  have fits : brief.Fits := ⟨by decide, by decide, by decide, by decide, by decide⟩
  have alone : oversized.sheet.SameLines oversized.sheet := ⟨by decide, by decide, by decide⟩
  have unfit : ¬ oversized.Fits := fun fits => absurd fits.parties (by decide)
  exact ⟨by decide, (load_sameLines same 8 "rdvt.toml").1 fits, by decide,
    (load_sameLines alone 8 "rdvt.toml").2.2 unfit⟩

end Settings

end Rendezvous
