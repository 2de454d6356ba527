import Rendezvous.Text.Number

/-!
# Which texts are numbers

Reading a number stops at the first digit that spoils it, so that it can say what is wrong. Whether
anything is wrong does not depend on that: a text is a number up to a limit if it is made of digits,
at least one of them, with at most one sign in front, and if the digits make up no more than the
limit (`readNat_eq_ok_iff`). In particular a number is read back from the digits in which it is
usually written (`readNat_toString`).
-/

set_option autoImplicit false

namespace Rendezvous.Text

variable {limit value n : Nat} {beyond : NumberError} {cs : List Char} {c : Char} {s : String}

theorem digit?_eq (c : Char) :
    digit? c = if c.isDigit then some (c.toNat - '0'.toNat) else none := by
  have same : ('0' ≤ c ∧ c ≤ '9') ↔ c.isDigit = true := by
    simp only [Char.isDigit, Bool.and_eq_true, decide_eq_true_eq]
    rfl
  simp only [digit?, same]

theorem le_ofDigitChars (cs : List Char) (value : Nat) : value ≤ Nat.ofDigitChars 10 cs value := by
  induction cs generalizing value with
  | nil => simp
  | cons c rest ih =>
    rw [Nat.ofDigitChars_cons]
    have := ih (10 * value + (c.toNat - '0'.toNat))
    omega

/-- The value only grows from digit to digit, so it is enough to look at the last one. -/
theorem readDigits_eq_ok_iff (within : value ≤ limit) :
    readDigits limit beyond value cs = .ok n ↔
      (∀ c ∈ cs, c.isDigit) ∧ Nat.ofDigitChars 10 cs value = n ∧ n ≤ limit := by
  induction cs generalizing value with
  | nil =>
    simp only [readDigits, Except.ok.injEq, Nat.ofDigitChars_nil, List.not_mem_nil, false_implies,
      implies_true, true_and]
    exact ⟨fun same => ⟨same, same ▸ within⟩, And.left⟩
  | cons c rest ih =>
    rw [readDigits, digit?_eq]
    by_cases digit : c.isDigit = true
    · have next : value * 10 + (c.toNat - '0'.toNat) = 10 * value + (c.toNat - '0'.toNat) := by
        rw [Nat.mul_comm]
      simp only [digit, reduceIte, next, List.forall_mem_cons, Nat.ofDigitChars_cons, true_and]
      by_cases fits : 10 * value + (c.toNat - '0'.toNat) ≤ limit
      · rw [if_pos fits, ih fits]
      · rw [if_neg fits]
        constructor
        · intro bad
          cases bad
        · rintro ⟨-, same, le⟩
          exact absurd (Nat.le_trans (le_ofDigitChars rest _) (same ▸ le)) fits
    · simp [digit]

/-- A text is a number up to a limit if it is digits behind at most one plus sign. -/
theorem readNat_eq_ok_iff : readNat limit s = .ok n ↔
    ∃ digits, (s.toList = digits ∨ s.toList = '+' :: digits) ∧ digits ≠ [] ∧
      (∀ c ∈ digits, c.isDigit) ∧ Nat.ofDigitChars 10 digits 0 = n ∧ n ≤ limit := by
  unfold readNat
  split
  · next empty => simp [empty]
  · next plus =>
    simp only [plus, reduceCtorEq, false_iff]
    rintro ⟨digits, rfl | same, nonempty, all, -⟩
    · exact absurd (all '+' List.mem_cons_self) (by decide)
    · exact nonempty (List.cons.inj same).2.symm
  · next digits nonempty plus =>
    rw [readDigits_eq_ok_iff (Nat.zero_le _)]
    refine ⟨fun h => ⟨digits, .inr plus, nonempty, h⟩, ?_⟩
    rintro ⟨others, same | same, -, h⟩
    · exact absurd (h.1 '+' (same ▸ plus ▸ List.mem_cons_self)) (by decide)
    · obtain rfl := (List.cons.inj (plus.symm.trans same)).2
      exact h
  · next digits nonempty _ signless =>
    rw [readDigits_eq_ok_iff (Nat.zero_le _)]
    refine ⟨fun h => ⟨_, .inl rfl, nonempty, h⟩, ?_⟩
    rintro ⟨others, same | same, -, h⟩
    · exact same ▸ h
    · exact absurd same (signless others)

/-! ## Numbers as they are usually written -/

theorem isDigit_of_mem_toDigits (h : c ∈ Nat.toDigits 10 n) : c.isDigit :=
  Nat.isDigit_of_mem_toDigits (by decide) (by decide) h

theorem readDigits_toDigits (within : n ≤ limit) :
    readDigits limit beyond 0 (Nat.toDigits 10 n) = .ok n :=
  (readDigits_eq_ok_iff (Nat.zero_le _)).mpr
    ⟨fun _ => isDigit_of_mem_toDigits, Nat.ofDigitChars_ten_toDigits, within⟩

theorem readNat_toString (within : n ≤ limit) : readNat limit (toString n) = .ok n :=
  readNat_eq_ok_iff.mpr ⟨Nat.toDigits 10 n, .inl (by simp), by simp,
    fun _ => isDigit_of_mem_toDigits, Nat.ofDigitChars_ten_toDigits, within⟩

theorem readInt_toString (within : n ≤ limit) : readInt limit (toString n) = .ok (n : Int) := by
  have digits : (toString n).toList = Nat.toDigits 10 n := by simp
  have sign {c : Char} {rest : List Char} (head : Nat.toDigits 10 n = c :: rest) : c.isDigit :=
    isDigit_of_mem_toDigits (head ▸ List.mem_cons_self)
  unfold readInt
  rw [digits]
  split
  · next empty => exact absurd empty (by simp)
  · next plus => exact absurd (sign plus) (by decide)
  · next minus => exact absurd (sign minus) (by decide)
  · next minus => exact absurd (sign minus) (by decide)
  · next plus => exact absurd (sign plus) (by decide)
  · rw [readDigits_toDigits within]
    rfl

end Rendezvous.Text
