import Rendezvous.Proofs.Numerals
import Rendezvous.Toml.Scalar

/-!
# Integers at the end of a line

An integer in its usual decimal form, with a line end behind it, is read as that integer, and refused
if it needs more than 64 bits with its sign (`readScalar_integer`). It is tried as a date first.
But a date has a hyphen behind its first four digits and a time of day a colon behind its first two,
and here only digits stand before the line end (`readDateTime_of_digits`).
-/

set_option autoImplicit false

namespace Rendezvous.Toml

variable {c : Char} {ds rest left cs : List Char} {n w : Nat}

/-! ## Digits -/

@[simp]
theorem isDigit_eq (c : Char) : isDigit c = c.isDigit := by
  rw [isDigit, Text.digit?_eq]
  cases c.isDigit <;> rfl

theorem hexDigit?_of_isDigit (digit : c.isDigit = true) :
    hexDigit? c = some (c.toNat - '0'.toNat) := by
  have known := Text.digit?_eq c
  rw [if_pos digit, Text.digit?] at known
  split at known
  · next range => rw [hexDigit?, if_pos range]
  · cases known

theorem valueIn_ten (digits : ∀ c ∈ ds, c.isDigit = true) :
    valueIn 10 ds = Nat.ofDigitChars 10 ds 0 := by
  suffices ∀ value, ds.foldl (fun value c => value * 10 + (hexDigit? c).getD 0) value =
      Nat.ofDigitChars 10 ds value from this 0
  induction ds with
  | nil => intro value; rfl
  | cons c ds ih =>
    intro value
    rw [List.foldl_cons, Nat.ofDigitChars_cons, hexDigit?_of_isDigit (digits c List.mem_cons_self),
      Nat.mul_comm, ih fun x hx => digits x (List.mem_cons_of_mem _ hx)]
    rfl

theorem isDigit_ne (digit : c.isDigit = true) {d : Char} (other : d.isDigit = false) : c ≠ d :=
  fun same => absurd (same ▸ digit) (by simp [other])

/-- Digits are read up to the line end. -/
theorem moreDigits_append (digits : ∀ c ∈ ds, c.isDigit = true) :
    moreDigits isDigit (ds ++ '\n' :: rest) = some (ds, '\n' :: rest) := by
  induction ds with
  | nil => cases rest <;> rfl
  | cons c ds ih =>
    have digit := digits c List.mem_cons_self
    have ih := ih fun x hx => digits x (List.mem_cons_of_mem _ hx)
    rw [List.cons_append, moreDigits.eq_def]
    split
    · next shape => exact absurd (List.cons.inj shape).1 (isDigit_ne digit (by decide))
    · next shape => exact absurd (List.cons.inj shape).1 (isDigit_ne digit (by decide))
    · next shape =>
      obtain ⟨rfl, rfl⟩ := List.cons.inj shape
      rw [isDigit_eq, if_pos digit, ih]
      rfl
    · next shape => exact absurd shape nofun

/-- No number is written with a zero in front. -/
theorem toDigits_eq_cons_zero (h : Nat.toDigits 10 n = '0' :: rest) : rest = [] := by
  induction n using Nat.strongRecOn generalizing rest with
  | ind n ih =>
    rw [Nat.toDigits_eq_if (by decide)] at h
    split at h
    · exact (List.cons.inj h).2.symm
    · next big =>
      cases front : Nat.toDigits 10 (n / 10) with
      | nil => exact absurd front Nat.toDigits_ne_nil
      | cons c tail =>
        rw [front, List.cons_append] at h
        obtain ⟨rfl, -⟩ := List.cons.inj h
        have alone := ih (n / 10) (by omega) front
        have back := Nat.ofDigitChars_ten_toDigits (n := n / 10)
        rw [front, alone] at back
        have zero : Nat.ofDigitChars 10 ['0'] 0 = 0 := by decide
        omega

theorem wholeDigits_toDigits :
    wholeDigits (Nat.toDigits 10 n ++ '\n' :: rest) =
      some (Nat.toDigits 10 n, '\n' :: rest) := by
  cases shape : Nat.toDigits 10 n with
  | nil => exact absurd shape Nat.toDigits_ne_nil
  | cons c tail =>
    have digits : ∀ x ∈ c :: tail, x.isDigit = true := fun x hx =>
      Text.isDigit_of_mem_toDigits (shape ▸ hx)
    by_cases zero : c = '0'
    · subst zero
      rw [toDigits_eq_cons_zero shape]
      rfl
    · rw [List.cons_append, wholeDigits.eq_2 _ (fun _ same => zero (List.cons.inj same).1),
        someDigits, isDigit_eq, if_pos (digits c List.mem_cons_self),
        moreDigits_append fun x hx => digits x (List.mem_cons_of_mem _ hx)]
      rfl

/-! ## No date -/

theorem readFixed_eq_some (h : readFixed w cs = some (n, left)) :
    (∀ c ∈ cs.take w, c.isDigit = true) ∧ left = cs.drop w := by
  simp only [readFixed] at h
  split at h
  · next all =>
    obtain ⟨-, rfl⟩ := Prod.mk.inj (Option.some.inj h)
    exact ⟨by simpa using all.2, rfl⟩
  · exact absurd h nofun

/-- Behind digits that stand before a line end, there are more digits or the line end. -/
theorem expect_of_readFixed (digits : ∀ c ∈ ds, c.isDigit = true)
    (h : readFixed w (ds ++ '\n' :: rest) = some (n, left)) (other : c.isDigit = false)
    (line : c ≠ '\n') : expect c left = none := by
  obtain ⟨taken, rfl⟩ := readFixed_eq_some h
  by_cases short : w ≤ ds.length
  · rw [List.drop_append_of_le_length short]
    cases more : ds.drop w with
    | nil => exact if_neg line
    | cons d tail =>
      have digit := digits d (List.mem_of_mem_drop (more ▸ List.mem_cons_self))
      exact if_neg (isDigit_ne digit other).symm
  · have newline : '\n' ∈ (ds ++ '\n' :: rest).take w := by
      rw [List.take_append, List.mem_append]
      refine .inr ?_
      obtain ⟨k, hk⟩ : ∃ k, w - ds.length = k + 1 := ⟨w - ds.length - 1, by omega⟩
      rw [hk]
      exact List.mem_cons_self
    exact absurd (taken _ newline) (by decide)

theorem readDateTime_of_digits (digits : ∀ c ∈ ds, c.isDigit = true) :
    readDateTime (ds ++ '\n' :: rest) = none := by
  have date : afterDate (ds ++ '\n' :: rest) = none := by
    unfold afterDate
    cases year : readFixed 4 (ds ++ '\n' :: rest) with
    | none => rfl
    | some found =>
      have hyphen := expect_of_readFixed (c := '-') digits year (by decide) (by decide)
      show (expect '-' found.2).bind _ = none
      rw [hyphen]
      rfl
  have time : afterTime (ds ++ '\n' :: rest) = none := by
    unfold afterTime
    cases hour : readPair 0 23 (ds ++ '\n' :: rest) with
    | none => rfl
    | some found =>
      have hour := (Option.filter_eq_some_iff.mp hour).1
      have colon := expect_of_readFixed (c := ':') digits hour (by decide) (by decide)
      show (expect ':' found.2).bind _ = none
      rw [colon]
      rfl
  rw [readDateTime, date]
  show (afterTime _).map _ = none
  rw [time]
  rfl

theorem readDateTime_minus (cs : List Char) : readDateTime ('-' :: cs) = none := by
  have unread (w : Nat) : readFixed (w + 1) ('-' :: cs) = none := by
    cases found : readFixed (w + 1) ('-' :: cs) with
    | none => rfl
    | some x => exact absurd ((readFixed_eq_some found).1 '-' List.mem_cons_self) (by decide)
  have date : afterDate ('-' :: cs) = none := by
    rw [afterDate, unread]
    rfl
  have time : afterTime ('-' :: cs) = none := by
    rw [afterTime, readPair, unread]
    rfl
  rw [readDateTime, date]
  show (afterTime _).map _ = none
  rw [time]
  rfl

/-! ## Integers -/

/-- The integers that a document can hold. -/
def Holds (n : Int) : Prop := -(Text.maxSigned64 + 1 : Int) ≤ n ∧ n ≤ Text.maxSigned64

instance (n : Int) : Decidable (Holds n) := inferInstanceAs (Decidable (_ ∧ _))

theorem toList_toString_int (n : Int) :
    (toString n).toList =
      if 0 ≤ n then Nat.toDigits 10 n.toNat else '-' :: Nat.toDigits 10 (-n).toNat := by
  rw [Int.toString_eq_repr, Int.repr_eq_if]
  split <;> simp

theorem readSign_suffix (cs : List Char) :
    (readSign cs).2 = cs ∨ ∃ c, cs = c :: (readSign cs).2 := by
  unfold readSign
  split
  · exact .inr ⟨_, rfl⟩
  · exact .inr ⟨_, rfl⟩
  · exact .inl rfl

/-- Only a letter near the front leads away from base ten. -/
theorem readNumber_eq_readDecimal (letterless : ∀ c ∈ cs.take 2, c.isAlpha = false) :
    readNumber cs = readDecimal cs := by
  have first {c : Char} (alpha : c.isAlpha = true) (tail : List Char) : cs ≠ c :: tail := by
    rintro rfl
    exact absurd (letterless c List.mem_cons_self) (by simp [alpha])
  have second {c : Char} (alpha : c.isAlpha = true) (b : Char) (tail : List Char) :
      cs ≠ b :: c :: tail := by
    rintro rfl
    exact absurd (letterless c (List.mem_cons_of_mem _ List.mem_cons_self)) (by simp [alpha])
  have signless {c : Char} (alpha : c.isAlpha = true) (tail : List Char) :
      (readSign cs).2 ≠ c :: tail := by
    intro same
    obtain whole | ⟨b, whole⟩ := readSign_suffix cs
    · exact first alpha tail (whole.symm.trans same)
    · exact second alpha b tail (whole.trans (same ▸ rfl))
  unfold readNumber
  split
  · next shape => exact absurd rfl (second (by decide) _ _)
  · next shape => exact absurd rfl (second (by decide) _ _)
  · next shape => exact absurd rfl (second (by decide) _ _)
  · split
    · next shape => exact absurd shape (signless (by decide) _)
    · next shape => exact absurd shape (signless (by decide) _)
    · rfl

theorem exists_toDigits_eq_cons (m : Nat) :
    ∃ c tail, Nat.toDigits 10 m = c :: tail ∧ ∀ x ∈ c :: tail, x.isDigit = true := by
  cases shape : Nat.toDigits 10 m with
  | nil => exact absurd shape Nat.toDigits_ne_nil
  | cons c tail => exact ⟨c, tail, rfl, fun x hx => Text.isDigit_of_mem_toDigits (shape ▸ hx)⟩

theorem valueIn_toDigits (m : Nat) : valueIn 10 (Nat.toDigits 10 m) = m := by
  rw [valueIn_ten fun _ => Text.isDigit_of_mem_toDigits, Nat.ofDigitChars_ten_toDigits]

theorem readSign_of_digit (digit : c.isDigit = true) : readSign (c :: cs) = (false, c :: cs) := by
  unfold readSign
  split
  · next shape => exact absurd (List.cons.inj shape).1 (isDigit_ne digit (by decide))
  · next shape => exact absurd (List.cons.inj shape).1 (isDigit_ne digit (by decide))
  · rfl

theorem readDecimal_digits (m : Nat) (rest : List Char) :
    readDecimal (Nat.toDigits 10 m ++ '\n' :: rest) =
      if m ≤ Text.maxSigned64 then some (.integer m, '\n' :: rest) else none := by
  have unsigned : readSign (Nat.toDigits 10 m ++ '\n' :: rest) =
      (false, Nat.toDigits 10 m ++ '\n' :: rest) := by
    obtain ⟨c, tail, shape, digits⟩ := exists_toDigits_eq_cons m
    rw [shape]
    exact readSign_of_digit (digits c List.mem_cons_self)
  rw [readDecimal, unsigned]
  show (wholeDigits _).bind _ = _
  rw [wholeDigits_toDigits]
  show (if valueIn 10 (Nat.toDigits 10 m) ≤ _ then some (Value.integer _, _) else none) = _
  rw [valueIn_toDigits]

theorem readDecimal_minus (m : Nat) :
    readDecimal ('-' :: (Nat.toDigits 10 m ++ '\n' :: rest)) =
      if m ≤ Text.maxSigned64 + 1 then some (.integer (-(m : Int)), '\n' :: rest) else none := by
  show (wholeDigits (Nat.toDigits 10 m ++ '\n' :: rest)).bind _ = _
  rw [wholeDigits_toDigits]
  show (if valueIn 10 (Nat.toDigits 10 m) ≤ _ then some (Value.integer _, _) else none) = _
  rw [valueIn_toDigits]

/-- Neither a digit nor a minus begins a quoted text or a truth value. -/
theorem readScalar_of_number (front : c.isDigit = true ∨ c = '-') :
    readScalar (c :: cs) = (readDateTime (c :: cs) <|> readNumber (c :: cs)) := by
  unfold readScalar
  split
  all_goals first
    | rfl
    | (next shape =>
        obtain ⟨rfl, -⟩ := List.cons.inj shape
        exact absurd front (by decide))

theorem isAlpha_of_isDigit (digit : c.isDigit = true) : c.isAlpha = false := by
  unfold Char.isAlpha Char.isUpper Char.isLower
  simp only [Char.isDigit, Bool.and_eq_true, decide_eq_true_eq, Bool.or_eq_false_iff,
    Bool.and_eq_false_iff, decide_eq_false_iff_not, UInt32.le_iff_toNat_le] at digit ⊢
  have : '9'.val.toNat = 57 := rfl
  have : 'A'.val.toNat = 65 := rfl
  have : 'a'.val.toNat = 97 := rfl
  omega

/-- The first character of digits before a line end is no letter. -/
theorem letterless_head (digits : ∀ c ∈ ds, c.isDigit = true) :
    ∀ c ∈ (ds ++ '\n' :: rest).take 1, c.isAlpha = false := by
  intro c hc
  cases ds with
  | nil => exact List.mem_singleton.mp hc ▸ by decide
  | cons d tail => exact List.mem_singleton.mp hc ▸ isAlpha_of_isDigit (digits d List.mem_cons_self)

theorem readScalar_digits (m : Nat) :
    readScalar (Nat.toDigits 10 m ++ '\n' :: rest) =
      if m ≤ Text.maxSigned64 then some (.integer m, '\n' :: rest) else none := by
  have date : readDateTime (Nat.toDigits 10 m ++ '\n' :: rest) = none :=
    readDateTime_of_digits fun _ => Text.isDigit_of_mem_toDigits
  have decimal := readDecimal_digits m rest
  obtain ⟨c, tail, shape, digits⟩ := exists_toDigits_eq_cons m
  rw [shape, List.cons_append] at date decimal ⊢
  rw [readScalar_of_number (.inl (digits c List.mem_cons_self)), date, ← decimal]
  refine readNumber_eq_readDecimal fun x hx => ?_
  obtain rfl | later := List.mem_cons.mp hx
  · exact isAlpha_of_isDigit (digits x List.mem_cons_self)
  · exact letterless_head (fun y hy => digits y (List.mem_cons_of_mem _ hy)) x later

theorem readScalar_minus (m : Nat) :
    readScalar ('-' :: (Nat.toDigits 10 m ++ '\n' :: rest)) =
      if m ≤ Text.maxSigned64 + 1 then some (.integer (-(m : Int)), '\n' :: rest) else none := by
  rw [readScalar_of_number (.inr rfl), readDateTime_minus, ← readDecimal_minus]
  show readNumber ('-' :: (Nat.toDigits 10 m ++ '\n' :: rest)) = _
  refine readNumber_eq_readDecimal fun x hx => ?_
  obtain rfl | later := List.mem_cons.mp hx
  · decide
  · exact letterless_head (fun _ => Text.isDigit_of_mem_toDigits) x later

/-- What is written as an integer is read as it, if a document can hold it. -/
theorem readScalar_integer (n : Int) :
    readScalar ((toString n).toList ++ '\n' :: rest) =
      if Holds n then some (.integer n, '\n' :: rest) else none := by
  rw [toList_toString_int]
  by_cases sign : 0 ≤ n
  · have fits : n.toNat ≤ Text.maxSigned64 ↔ Holds n := by
      unfold Holds
      omega
    rw [if_pos sign, readScalar_digits, Int.toNat_of_nonneg sign]
    simp only [fits]
  · have fits : (-n).toNat ≤ Text.maxSigned64 + 1 ↔ Holds n := by
      unfold Holds
      omega
    have back : -((-n).toNat : Int) = n := by omega
    rw [if_neg sign, List.cons_append, readScalar_minus, back]
    simp only [fits]

end Rendezvous.Toml
