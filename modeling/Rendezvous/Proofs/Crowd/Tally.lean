import Rendezvous.Proofs.Crowd.Register
import Rendezvous.Proofs.Runs

/-!
# What a visit has done

What a visit has done is what the turns of the visit have done (`ofVisit`). It can be read off the
visit if it bears a mark that turns of this kind give, and that nothing else gives or takes away
(`mark_step`).
-/

set_option autoImplicit false

namespace Rendezvous

open Barrier

namespace Crowd

/-- The visit whose turn it is. -/
def Move.visit? : Move → Option Nat
  | .go i _ => some i
  | _ => none

/-- Moves of a kind, as far as they are turns of visit `i`. -/
def ofVisit (i : Nat) (kind : Crowd → Move → Crowd → Bool) (s : Crowd) (m : Move) (t : Crowd) :
    Bool :=
  m.visit? = some i && kind s m t

theorem mark_step {rules : Rules} {kind : Crowd → Move → Crowd → Bool} {mark : Visit → Bool}
    {s t : Crowd} {m : Move} {i : Nat} (unmarked : ∀ thread, mark { thread := thread } = false)
    (turns : ∀ fault v turn, m = .go i fault → s.visits[i]? = some v →
      v.stage.step s.barrier (s.settings v.thread) fault = some turn → t = s.after i v turn →
        (mark (v.enter s.trips turn.stage)).toNat = (mark v).toNat + (kind s m t).toNat)
    (move : s.step rules m = some t) :
    (t.visits[i]?.any mark).toNat =
      (s.visits[i]?.any mark).toNat + (ofVisit i kind s m t).toNat := by
  cases m with
  | begin thread =>
    simp only [Crowd.step] at move
    split at move
    · obtain rfl := Option.some.inj move
      show ((s.visits ++ [_])[i]?.any mark).toNat = _ + 0
      rw [List.getElem?_append, List.getElem?_singleton]
      split
      · rfl
      · next here =>
        rw [List.getElem?_eq_none (Nat.le_of_not_lt here)]
        split
        · simp [unmarked]
        · rfl
    · cases move
  | go j fault =>
    obtain ⟨v, turn, hv, -, hturn, rfl⟩ := step_go move
    show ((s.visits.set j _)[i]?.any mark).toNat = _
    by_cases same : j = i
    · subst same
      rw [List.getElem?_set_self (List.getElem?_eq_some_iff.mp hv).1, hv]
      simpa [ofVisit, Move.visit?] using turns fault v turn rfl hv hturn rfl
    · rw [List.getElem?_set_ne same]
      simp [ofVisit, Move.visit?, same]
  | request thread =>
    obtain rfl := Option.some.inj move
    rfl
  | adjust thread type state =>
    simp only [Crowd.step] at move
    split at move
    · obtain rfl := Option.some.inj move
      rfl
    · cases move

end Crowd

end Rendezvous
