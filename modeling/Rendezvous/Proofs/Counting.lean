import Mathlib.Algebra.GroupWithZero.Nat

/-!
# Counting in lists

What invariants need that go along a list, or count its entries with a property: what stands where
when one entry has been replaced or added, how a count changes when one entry is replaced, and a sum
with it, and that a count of at most one leaves room for one entry only.
-/

set_option autoImplicit false

namespace Rendezvous

variable {α : Type}

theorem getElem?_set_cases {l : List α} {i j : Nat} {v w : α} (h : (l.set i v)[j]? = some w) :
    (j = i ∧ w = v) ∨ (j ≠ i ∧ l[j]? = some w) := by
  by_cases here : i = j
  · subst here
    have there : i < l.length := by simpa using (List.getElem?_eq_some_iff.mp h).1
    exact .inl ⟨rfl, (Option.some.inj ((List.getElem?_set_self there).symm.trans h)).symm⟩
  · exact .inr ⟨Ne.symm here, (List.getElem?_set_ne here).symm.trans h⟩

theorem getElem?_concat_cases {l : List α} {i : Nat} {v w : α} (h : (l ++ [v])[i]? = some w) :
    l[i]? = some w ∨ (i = l.length ∧ w = v) := by
  rw [List.getElem?_append] at h
  split at h
  · exact .inl h
  · obtain ⟨hi, rfl⟩ := List.getElem?_eq_some_iff.mp h
    simp only [List.length_singleton, Nat.lt_one_iff] at hi
    exact .inr ⟨by omega, List.getElem_singleton ..⟩

/-- A count changes by what the one entry changes that is replaced. -/
theorem countP_set_add {l : List α} {i : Nat} {v : α} (p : α → Bool) (w : α) (hv : l[i]? = some v) :
    (l.set i w).countP p + (p v).toNat = l.countP p + (p w).toNat := by
  obtain ⟨hi, rfl⟩ := List.getElem?_eq_some_iff.mp hv
  have there : (if p l[i] then 1 else 0) ≤ l.countP p := List.boole_getElem_le_countP hi
  rw [List.countP_set hi]
  cases hp : p l[i] <;> cases p w <;>
    simp only [hp, reduceIte, Bool.toNat_true, Bool.toNat_false, Bool.false_eq_true] at there ⊢ <;>
    omega

/-- Two kinds of entries that exclude each other are no more than a third that includes both. -/
theorem countP_add_le {l : List α} {p q r : α → Bool} (hp : ∀ v ∈ l, p v = true → r v = true)
    (hq : ∀ v ∈ l, q v = true → r v = true ∧ p v = false) :
    l.countP p + l.countP q ≤ l.countP r := by
  induction l with
  | nil => exact Nat.le_refl 0
  | cons v rest ih =>
    have ih := ih (fun w hw => hp w (List.mem_cons_of_mem v hw))
      (fun w hw => hq w (List.mem_cons_of_mem v hw))
    have here : (if p v then 1 else 0) + (if q v then 1 else 0) ≤ if r v then 1 else 0 := by
      have hpv := hp v List.mem_cons_self
      have hqv := hq v List.mem_cons_self
      cases hp : p v <;> cases hq : q v <;> simp_all
    simp only [List.countP_cons]
    omega

/-- Two kinds of entries that make up a third are as many together. -/
theorem countP_add {l : List α} {p q r : α → Bool}
    (h : ∀ v ∈ l, (r v).toNat = (p v).toNat + (q v).toNat) :
    l.countP r = l.countP p + l.countP q := by
  induction l with
  | nil => rfl
  | cons v rest ih =>
    have ih := ih fun w hw => h w (List.mem_cons_of_mem v hw)
    have here := h v List.mem_cons_self
    simp only [List.countP_cons]
    cases hp : p v <;> cases hq : q v <;> cases hr : r v <;>
      simp [hp, hq, hr] at here ⊢ <;> omega

/-- Where no more than one entry has a property, any two that have it are the same. -/
theorem eq_of_countP_le_one {l : List α} {p : α → Bool} (h : l.countP p ≤ 1) {i j : Nat} {v w : α}
    (hv : l[i]? = some v) (hw : l[j]? = some w) (pv : p v = true) (pw : p w = true) : i = j := by
  induction l generalizing i j with
  | nil => cases hv
  | cons x rest ih =>
    rw [List.countP_cons] at h
    -- if the head has the property, nothing behind it does
    have behind : p x = true → ∀ {k : Nat} {y : α}, rest[k]? = some y → p y = true → False := by
      intro px k y hy py
      have : 0 < rest.countP p := List.countP_pos_iff.mpr ⟨y, List.mem_of_getElem? hy, py⟩
      rw [if_pos px] at h
      omega
    cases i with
    | zero =>
      obtain rfl := Option.some.inj hv
      cases j with
      | zero => rfl
      | succ j => exact (behind pv hw pw).elim
    | succ i =>
      cases j with
      | zero =>
        obtain rfl := Option.some.inj hw
        exact (behind pw hv pv).elim
      | succ j => rw [ih (by omega) hv hw]

/-- A flag that counts the entries with a property is raised if there is one. -/
theorem eq_true_of_countP {l : List α} {p : α → Bool} {flag : Bool} (h : l.countP p = flag.toNat)
    {v : α} (hv : v ∈ l) (pv : p v = true) : flag = true := by
  cases flag with
  | true => rfl
  | false => exact absurd pv (List.countP_eq_zero.mp h v hv)

/-- And if it is raised there is one. -/
theorem exists_of_countP {l : List α} {p : α → Bool} {flag : Bool} (h : l.countP p = flag.toNat)
    (raised : flag = true) : ∃ (i : Nat) (v : α), l[i]? = some v ∧ p v = true := by
  have positive : 0 < l.countP p := by
    rw [h, raised]
    exact Nat.one_pos
  obtain ⟨v, mem, pv⟩ := List.countP_pos_iff.mp positive
  obtain ⟨i, hv⟩ := List.mem_iff_getElem?.mp mem
  exact ⟨i, v, hv, pv⟩

/-- A sum changes by what the one entry changes that is replaced. -/
theorem sum_map_set_add {l : List α} {i : Nat} {v : α} (f : α → Nat) (w : α) (hv : l[i]? = some v) :
    ((l.set i w).map f).sum + f v = (l.map f).sum + f w := by
  induction l generalizing i with
  | nil => cases hv
  | cons x rest ih =>
    cases i with
    | zero =>
      obtain rfl := Option.some.inj hv
      simp only [List.set_cons_zero, List.map_cons, List.sum_cons]
      omega
    | succ i =>
      have ih := ih hv
      simp only [List.set_cons_succ, List.map_cons, List.sum_cons]
      omega

end Rendezvous
