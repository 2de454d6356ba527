import Rendezvous.Proofs.Counting
import Rendezvous.Proofs.Traffic.Standing

/-!
# What a deed changes

A `Deed` changes what an operation holds and what the arena says of it, and it changes both alike:
a slot says as many holders more or fewer as the operation holds it more or less (`count_holds`),
and the same goes for the process-wide lock (`guarded`) and for the lock of a barrier (`locked`). A
barrier moves from hand to slot and back without being in two places (`owning`), its number of
parties never changes (`parties`), and a barrier that the operation is not in is left alone
(`untouched`). A slot is written in two ways only (`slot`).
-/

set_option autoImplicit false

namespace Rendezvous

open Barrier Handle

/-- How many hold a slot in this way, as the slot has it. -/
def Holds.count (x : Holds) : Grip → Nat
  | .none => 0
  | .shared => x.sharers
  | .reserved => x.reserved.toNat
  | .exclusive => x.exclusive.toNat

/-- How many slots own a barrier. -/
def Arena.owning (a : Arena) (b : Nat) : Nat :=
  a.handles.toList.countP fun x => decide (x.slot.barrier? = some b)

theorem Holds.reserved_of_count {x : Holds} (h : 0 < x.count .reserved) : x.reserved = true := by
  simpa [count, Nat.pos_iff_ne_zero] using h

theorem Holds.exclusive_of_count {x : Holds} (h : 0 < x.count .exclusive) : x.exclusive = true := by
  simpa [count, Nat.pos_iff_ne_zero] using h

theorem Arena.owning_setSlot {a : Arena} {h : Nat} (new : Slot) (b : Nat)
    (hh : h < a.handles.size) :
    (a.setSlot h new).owning b + (decide ((a.slot h).barrier? = some b)).toNat =
      a.owning b + (decide (new.barrier? = some b)).toNat := by
  have here : a.handles.toList[h]? = some (a.handle h) := by simp [Arena.handle, hh]
  have counted := countP_set_add (fun x : Handle => decide (x.slot.barrier? = some b))
    { a.handle h with slot := new } here
  rw [owning, setSlot, setHandle, Array.toList_setIfInBounds]
  exact counted

theorem Arena.owning_congr {a a' : Arena} (slots : ∀ k, a'.slot k = a.slot k)
    (size : a'.handles.size = a.handles.size) (b : Nat) : a'.owning b = a.owning b := by
  have same : a'.handles.toList.map Handle.slot = a.handles.toList.map Handle.slot := by
    apply List.ext_getElem (by simp [size])
    intro k h₁ h₂
    have hk' : k < a'.handles.size := by simpa using h₁
    have hk : k < a.handles.size := by simpa using h₂
    simpa [slot, handle, hk, hk'] using slots k
  have counted := congrArg (List.countP fun s : Slot => decide (s.barrier? = some b)) same
  simpa [owning, List.countP_map, Function.comp_def] using counted

theorem Arena.owning_pos {a : Arena} {h b : Nat} (slot : a.slot h = .live b) : 0 < a.owning b := by
  rcases Nat.lt_or_ge h a.handles.size with hh | beyond
  · have here : a.handle h ∈ a.handles.toList := by simp [handle, hh]
    have owns : (a.handle h).slot.barrier? = some b := congrArg Slot.barrier? slot
    exact List.countP_pos_iff.mpr ⟨_, here, decide_eq_true owns⟩
  · have nothing : a.slot h = .empty := by simp [Arena.slot, handle, beyond]; rfl
    cases nothing.symm.trans slot

namespace Handle

/-! ## What an operation holds, asked for -/

def Operation.grips (g : Grip) (op : Operation) : Bool :=
  decide (g ≠ .none ∧ op.hands.grip = g)

def Operation.owns (b : Nat) (op : Operation) : Bool := decide (op.hands.owns = some b)

def Operation.locks (b : Nat) (op : Operation) : Bool := decide (op.hands.locks = some b)

/-! ## Before and after -/

variable {a a' : Arena} {h k b : Nat} {op op' : Operation}

namespace Deed

theorem size (d : Deed a h op a' op') : a'.handles.size = a.handles.size := by
  cases d <;> simp [Arena.setHolds, Arena.setSlot, Arena.setBarrier, Arena.adopt]

theorem holds_of_ne (d : Deed a h op a' op') (ne : k ≠ h) : a'.holds k = a.holds k := by
  cases d with
  | shares | unshares | reserves | unreserves | announces | claims | unclaims =>
    exact Arena.holds_setHolds_of_ne _ ne
  | stores | clears => exact Arena.holds_setSlot ..
  | _ => rfl

theorem slot_of_ne (d : Deed a h op a' op') (ne : k ≠ h) : a'.slot k = a.slot k := by
  cases d with
  | shares | unshares | reserves | unreserves | announces | claims | unclaims =>
    exact Arena.slot_setHolds ..
  | stores | clears => exact Arena.slot_setSlot_of_ne _ ne
  | _ => rfl

/-- The slot says what is held before and after, grip by grip. -/
theorem count_holds (d : Deed a h op a' op') (hh : h < a.handles.size)
    (held : op.hands.grip ≠ .none → 0 < (a.holds h).count op.hands.grip)
    (apart : (a.holds h).reserved = true → (a.holds h).exclusive = false) (g : Grip) :
    (a'.holds h).count g + (op.grips g).toNat =
      (a.holds h).count g + (op'.grips g).toNat := by
  simp only [Operation.grips]
  cases d with
  | passes hands => rw [hands]
  | guards _ _ hands | unguards _ hands | works _ _ _ hands | locks _ _ _ _ _ hands
  | unlocks _ _ _ _ hands =>
    rw [hands]
    rfl
  | adopts was =>
    subst was
    rfl
  | stores was | clears was =>
    subst was
    rw [Arena.holds_setSlot]
    rfl
  | disposes was =>
    subst was
    rfl
  | shares free grip hands =>
    rw [Arena.holds_setHolds_self _ hh, hands, grip]
    cases g <;> simp [Holds.count, Holds.share]
  | unshares grip hands =>
    rw [Arena.holds_setHolds_self _ hh, hands]
    rw [grip] at held ⊢
    have some := held (by decide)
    cases g <;> simp only [Holds.count, Holds.unshare] at some ⊢ <;> simp
    omega
  | reserves free _ grip hands =>
    rw [Arena.holds_setHolds_self _ hh, hands, grip]
    cases g <;> simp [Holds.count, Holds.reserve, free]
  | unreserves grip hands =>
    rw [Arena.holds_setHolds_self _ hh, hands]
    rw [grip] at held ⊢
    have some := Holds.reserved_of_count (held (by decide))
    cases g <;> simp [Holds.count, Holds.unreserve, some]
  | announces grip hands =>
    rw [Arena.holds_setHolds_self _ hh, hands]
    rw [grip] at held ⊢
    have some := Holds.reserved_of_count (held (by decide))
    cases g <;> simp [Holds.count, Holds.announce, some, apart some]
  | claims free grip hands =>
    rw [Arena.holds_setHolds_self _ hh, hands, grip]
    simp only [Holds.free, Bool.and_eq_true, Bool.not_eq_true'] at free
    cases g <;> simp [Holds.count, Holds.claim, free.2]
  | unclaims grip hands =>
    rw [Arena.holds_setHolds_self _ hh, hands]
    rw [grip] at held ⊢
    have some := Holds.exclusive_of_count (held (by decide))
    cases g <;> simp [Holds.count, Holds.unclaim, some]

theorem apart (d : Deed a h op a' op') (hh : h < a.handles.size)
    (apart : (a.holds h).reserved = true → (a.holds h).exclusive = false) :
    (a'.holds h).reserved = true → (a'.holds h).exclusive = false := by
  cases d with
  | shares | unshares =>
    rw [Arena.holds_setHolds_self _ hh]
    exact apart
  | reserves _ free =>
    rw [Arena.holds_setHolds_self _ hh]
    exact fun _ => free
  | unreserves | announces =>
    rw [Arena.holds_setHolds_self _ hh]
    intro reserved
    cases reserved
  | claims free =>
    rw [Arena.holds_setHolds_self _ hh]
    simp only [Holds.free, Bool.and_eq_true, Bool.not_eq_true'] at free
    intro reserved
    cases free.1.2.symm.trans reserved
  | unclaims =>
    rw [Arena.holds_setHolds_self _ hh]
    exact fun _ => rfl
  | stores | clears =>
    rw [Arena.holds_setSlot]
    exact apart
  | _ => exact apart

/-- Nobody comes to share a slot that is held exclusively. -/
theorem unshared (d : Deed a h op a' op') (hh : h < a.handles.size)
    (taken : (a.holds h).exclusive = true) (alone : (a.holds h).sharers = 0) :
    (a'.holds h).sharers = 0 := by
  cases d with
  | shares free => cases free.symm.trans taken
  | unshares =>
    rw [Arena.holds_setHolds_self _ hh]
    exact (congrArg (· - 1) alone).trans rfl
  | reserves | unreserves | announces | claims | unclaims =>
    rw [Arena.holds_setHolds_self _ hh]
    exact alone
  | stores | clears =>
    rw [Arena.holds_setSlot]
    exact alone
  | _ => exact alone

theorem guarded (d : Deed a h op a' op') (held : op.hands.guards = true → a.guarded = true) :
    a'.guarded.toNat + op.hands.guards.toNat = a.guarded.toNat + op'.hands.guards.toNat := by
  cases d with
  | passes hands => rw [hands]
  | shares _ _ hands | unshares _ hands | reserves _ _ _ hands | unreserves _ hands
  | announces _ hands | claims _ _ hands | unclaims _ hands | works _ _ _ hands
  | locks _ _ _ _ _ hands | unlocks _ _ _ _ hands =>
    rw [hands]
    rfl
  | guards free lacks hands => simp [hands, free, lacks]
  | unguards has hands => simp [hands, has, held has]
  | adopts was | stores was | clears was | disposes was =>
    subst was
    rfl

/-- A barrier comes to be in one place, and changes places without being in two. -/
theorem owning (d : Deed a h op a' op') (hh : h < a.handles.size) (fits : op.Fits a h) (b : Nat) :
    a'.owning b + (op'.owns b).toNat +
        (decide (b < a.barriers.size)).toNat ≤
      a.owning b + (op.owns b).toNat +
        (decide (b < a'.barriers.size)).toNat := by
  simp only [Operation.owns]
  cases d with
  | passes hands => exact Nat.le_of_eq (by rw [hands])
  | guards _ _ hands | unguards _ hands => exact Nat.le_of_eq (by rw [hands]; rfl)
  | works _ _ _ hands | locks _ _ _ _ _ hands | unlocks _ _ _ _ hands =>
    rw [hands, Arena.size_setBarrier]
    exact Nat.le_refl _
  | shares _ _ hands | unshares _ hands | reserves _ _ _ hands | unreserves _ hands
  | announces _ hands | claims _ _ hands | unclaims _ hands =>
    rw [hands, Arena.owning_congr (Arena.slot_setHolds a h _) (Arena.size_setHandle ..) b]
    exact Nat.le_refl _
  | adopts was =>
    subst was
    show a.owning b + (decide (some a.barriers.size = some b)).toNat + _ ≤
      a.owning b + (decide (none = some b)).toNat +
        (decide (b < (a.barriers.push _).size)).toNat
    rw [Array.size_push]
    rcases Nat.lt_trichotomy b a.barriers.size with older | rfl | younger
    · simp [older, Nat.ne_of_gt older, Nat.lt_succ_of_lt older]
    · simp
    · simp [Nat.ne_of_lt younger, Nat.not_lt_of_gt younger]
  | @stores e new was =>
    subst was
    have moved := Arena.owning_setSlot (a := a) new b hh
    show (a.setSlot h new).owning b + 0 + (decide (b < a.barriers.size)).toNat ≤
      a.owning b + (decide (new.barrier? = some b)).toNat + (decide (b < a.barriers.size)).toNat
    omega
  | @clears c was =>
    subst was
    have moved := Arena.owning_setSlot (a := a) .empty b hh
    rw [fits.1] at moved
    have moved : (a.setSlot h .empty).owning b + (decide (some c = some b)).toNat =
        a.owning b + 0 := moved
    show (a.setSlot h .empty).owning b + (decide (some c = some b)).toNat +
        (decide (b < a.barriers.size)).toNat ≤
      a.owning b + 0 + (decide (b < a.barriers.size)).toNat
    omega
  | disposes was =>
    subst was
    show a.owning b + 0 + (decide (b < a.barriers.size)).toNat ≤ _
    omega

theorem locked (d : Deed a h op a' op') (fits : op.Fits a h)
    (reach : ∀ c, op.uses = some c → c < a.barriers.size)
    (held : ∀ c, op.hands.locks = some c → (a.barrier c).locked = true) (b : Nat) :
    (a'.barrier b).locked.toNat + (op.locks b).toNat =
      (a.barrier b).locked.toNat + (op'.locks b).toNat := by
  simp only [Operation.locks]
  cases d with
  | passes hands => rw [hands]
  | guards _ _ hands | unguards _ hands | shares _ _ hands | unshares _ hands
  | reserves _ _ _ hands | unreserves _ hands | announces _ hands | claims _ _ hands
  | unclaims _ hands =>
    rw [hands]
    rfl
  | stores was | clears was | disposes was =>
    subst was
    rfl
  | @works _ c x uses _ same hands =>
    rw [hands]
    by_cases here : b = c
    · subst here
      rw [Arena.barrier_setBarrier_self x (reach b uses), same]
    · rw [Arena.barrier_setBarrier_of_ne x here]
  | @locks _ c x uses _ free taken lacks hands =>
    rw [hands, lacks]
    by_cases here : b = c
    · subst here
      rw [Arena.barrier_setBarrier_self x (reach b uses), free, taken]
      simp
    · rw [Arena.barrier_setBarrier_of_ne x here]
      simp [Ne.symm here]
  | @unlocks _ c x uses _ given has hands =>
    rw [hands, has]
    by_cases here : b = c
    · subst here
      rw [Arena.barrier_setBarrier_self x (reach b uses), given, held b has]
      simp
    · rw [Arena.barrier_setBarrier_of_ne x here]
      simp [Ne.symm here]
  | @adopts e x was =>
    subst was
    obtain ⟨n, -, -, free⟩ := fits
    have same : ((a.adopt x).1.barrier b).locked = (a.barrier b).locked := by
      rcases Nat.lt_trichotomy b a.barriers.size with older | rfl | younger
      · rw [Arena.barrier_adopt_of_lt x older]
      · rw [Arena.barrier_adopt_self, free, Arena.barrier_of_size_le (Nat.le_refl _)]
        rfl
      · have beyond : (a.adopt x).1.barriers.size ≤ b := by
          rw [show (a.adopt x).1.barriers.size = _ from Array.size_push x]
          exact younger
        rw [Arena.barrier_of_size_le beyond, Arena.barrier_of_size_le (Nat.le_of_lt younger)]
    rw [same]
    rfl

/-- A barrier keeps its number of parties. -/
theorem parties (d : Deed a h op a' op') (hb : b < a.barriers.size) :
    (a'.barrier b).parties = (a.barrier b).parties := by
  cases d with
  | @works _ c x _ same | @locks _ c x _ same | @unlocks _ c x _ same =>
    by_cases here : b = c
    · subst here
      rw [Arena.barrier_setBarrier_self x hb, same]
    · rw [Arena.barrier_setBarrier_of_ne x here]
  | adopts => rw [Arena.barrier_adopt_of_lt _ hb]
  | _ => rfl

/-- A barrier that is not worked at stays as it is. -/
theorem untouched (d : Deed a h op a' op') (hb : b < a.barriers.size) (apart : op.uses ≠ some b) :
    a'.barrier b = a.barrier b := by
  cases d with
  | @works _ c x uses | @locks _ c x uses | @unlocks _ c x uses =>
    refine Arena.barrier_setBarrier_of_ne x fun here => apart ?_
    rw [here]
    exact uses
  | adopts => exact Arena.barrier_adopt_of_lt _ hb
  | _ => rfl

theorem barriers_size (d : Deed a h op a' op') :
    a'.barriers.size = a.barriers.size ∨ a'.barriers.size = a.barriers.size + 1 := by
  cases d with
  | works | locks | unlocks => exact .inl (Arena.size_setBarrier ..)
  | adopts => exact .inr (Array.size_push _)
  | _ => exact .inl rfl

theorem barriers_le (d : Deed a h op a' op') : a.barriers.size ≤ a'.barriers.size := by
  rcases d.barriers_size with same | more <;> omega

/-- A slot is written by an errand that has it for itself, or emptied by a destroy. -/
theorem slot (d : Deed a h op a' op') (hh : h < a.handles.size) :
    a'.slot h = a.slot h ∨
      (∃ e new, op = .store e new ∧ (a.holds h).sharers = 0 ∧ a'.slot h = new ∧
        op' = .release e e.onSuccess) ∨
      ∃ b, op = .clear b ∧ a'.slot h = .empty ∧ op' = .detach b := by
  cases d with
  | shares | unshares | reserves | unreserves | announces | claims | unclaims =>
    exact .inl (Arena.slot_setHolds ..)
  | stores was alone => exact .inr (.inl ⟨_, _, was, alone, Arena.slot_setSlot_self _ hh, rfl⟩)
  | clears was => exact .inr (.inr ⟨_, was, Arena.slot_setSlot_self _ hh, rfl⟩)
  | _ => exact .inl rfl

end Deed

end Handle

end Rendezvous
