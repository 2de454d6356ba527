import Rendezvous.Proofs.Run.Verdict

/-!
# The root cause of a failed run

When one worker of a run fails, the others are canceled, and most results of a failed run only say
that. The fold over the results returns early at an error that says more, and until then carries
the first cancellation along. So what it returns is decided by the first *decisive* result if there
is one (`rootCauseAfter_of_find?`), whatever it carries; and if there is none, by whether somebody
was canceled.
-/

set_option autoImplicit false

namespace Rendezvous

namespace RunError

/-- What a canceled worker reports. -/
def canceled : RunError := .barrier (.primitive .canceled)

theorem isCanceled_iff {e : RunError} : e.isCanceled = true ↔ e = canceled := by
  cases e with
  | barrier error => simp [isCanceled, canceled, BarrierError.isCanceled_iff]
  | _ => simp [isCanceled, canceled]

end RunError

open RunError (canceled)

/-- The result is an error, and one that says more than that its worker was canceled. -/
def decisive : Except RunError Unit → Bool
  | .ok () => false
  | .error e => !e.isCanceled

theorem decisive_error_iff {e : RunError} : decisive (.error e) = true ↔ e ≠ canceled := by
  simp [decisive, ← RunError.isCanceled_iff]

theorem decisive_eq_false_iff {r : Except RunError Unit} :
    decisive r = false ↔ r = .ok () ∨ r = .error canceled := by
  cases r with
  | ok u => simp [decisive]
  | error e => simp [decisive, RunError.isCanceled_iff]

variable {results others : List (Except RunError Unit)} {r : Except RunError Unit} {e : RunError}

/-! ## With a decisive result -/

theorem rootCauseAfter_of_find? (carried : Option RunError)
    (first : results.find? decisive = some r) : rootCauseAfter carried results = r := by
  induction results generalizing carried with
  | nil => cases first
  | cons q rest ih =>
    rw [List.find?_cons] at first
    cases q with
    | ok u => exact ih carried first
    | error e =>
      rw [rootCauseAfter]
      split
      · next quiet =>
        simp only [decisive, quiet] at first
        exact ih _ first
      · next tells =>
        simp only [decisive, tells] at first
        exact Option.some.inj first

/-! ## Without one -/

/-- The cancellation that is carried was the first, and stays. -/
theorem rootCauseAfter_some_of_quiet (quiet : ∀ r ∈ results, decisive r = false) :
    rootCauseAfter (some e) results = .error e := by
  induction results with
  | nil => rfl
  | cons q rest ih =>
    have rest := ih fun r h => quiet r (List.mem_cons_of_mem q h)
    obtain rfl | rfl := decisive_eq_false_iff.mp (quiet q List.mem_cons_self)
    · exact rest
    · exact rest

theorem rootCause_of_quiet (quiet : ∀ r ∈ results, decisive r = false)
    (there : .error canceled ∈ results) : rootCause results = .error canceled := by
  induction results with
  | nil => cases there
  | cons q rest ih =>
    have later : ∀ r ∈ rest, decisive r = false := fun r h => quiet r (List.mem_cons_of_mem q h)
    obtain rfl | rfl := decisive_eq_false_iff.mp (quiet q List.mem_cons_self)
    · exact ih later (by simpa using there)
    · exact rootCauseAfter_some_of_quiet later

/-! ## The three answers -/

/-- There is a decisive result, or only cancellations, or neither. -/
theorem rootCause_cases (results : List (Except RunError Unit)) :
    (∃ e, e ≠ canceled ∧ results.find? decisive = some (.error e) ∧
      rootCause results = .error e) ∨
    ((∀ r ∈ results, decisive r = false) ∧ .error canceled ∈ results ∧
      rootCause results = .error canceled) ∨
    ((∀ r ∈ results, r = .ok ()) ∧ rootCause results = .ok ()) := by
  cases found : results.find? decisive with
  | some r =>
    have tells := List.find?_some found
    cases r with
    | ok u => cases tells
    | error e =>
      exact .inl ⟨e, decisive_error_iff.mp tells, rfl, rootCauseAfter_of_find? none found⟩
  | none =>
    have quiet : ∀ r ∈ results, decisive r = false := by simpa using List.find?_eq_none.mp found
    by_cases somebody : .error canceled ∈ results
    · exact .inr (.inl ⟨quiet, somebody, rootCause_of_quiet quiet somebody⟩)
    · have ok : ∀ r ∈ results, r = .ok () := fun r h =>
        (decisive_eq_false_iff.mp (quiet r h)).resolve_right fun same => somebody (same ▸ h)
      exact .inr (.inr ⟨ok, rootCause_of_ok ok⟩)

theorem rootCause_eq_ok_iff : rootCause results = .ok () ↔ ∀ r ∈ results, r = .ok () := by
  refine ⟨fun well => ?_, rootCause_of_ok⟩
  obtain ⟨e, -, -, bad⟩ | ⟨-, -, bad⟩ | ⟨ok, -⟩ := rootCause_cases results
  · cases bad.symm.trans well
  · cases bad.symm.trans well
  · exact ok

theorem rootCause_eq_canceled_iff :
    rootCause results = .error canceled ↔
      .error canceled ∈ results ∧ ∀ r ∈ results, r = .ok () ∨ r = .error canceled := by
  simp only [← decisive_eq_false_iff]
  refine ⟨fun stopped => ?_, fun h => rootCause_of_quiet h.2 h.1⟩
  obtain ⟨e, other, -, bad⟩ | ⟨quiet, somebody, -⟩ | ⟨-, well⟩ := rootCause_cases results
  · cases bad.symm.trans stopped
    exact absurd rfl other
  · exact ⟨somebody, quiet⟩
  · cases well.symm.trans stopped

theorem rootCause_eq_error_iff (other : e ≠ canceled) :
    rootCause results = .error e ↔ results.find? decisive = some (.error e) := by
  refine ⟨fun failed => ?_, rootCauseAfter_of_find? none⟩
  obtain ⟨e', -, found, bad⟩ | ⟨-, -, bad⟩ | ⟨-, bad⟩ := rootCause_cases results
  · cases bad.symm.trans failed
    exact found
  · cases bad.symm.trans failed
    exact absurd rfl other
  · cases bad.symm.trans failed

/-- Results that are not decisive may come and go beside one that is. -/
theorem rootCause_eq_of_filter (same : others.filter decisive = results.filter decisive)
    (there : Except.error e ∈ results) (other : e ≠ canceled) :
    rootCause others = rootCause results := by
  obtain ⟨first, found⟩ := Option.isSome_iff_exists.mp <|
    List.find?_isSome.mpr ⟨_, there, decisive_error_iff.mpr other⟩
  have found' : others.find? decisive = some first := by
    rw [← List.head?_filter, same, List.head?_filter, found]
  exact (rootCauseAfter_of_find? none found').trans (rootCauseAfter_of_find? none found).symm

/-- What a run reports when its workers have ended, whatever the list of their results: the first
error that is no cancellation if there is one, for the others were canceled on its account, and
else a cancellation if there is one. The first one decides whatever is carried along until then
(`rootCauseAfter_of_find?`), so successes and cancellations around it make no difference. -/
theorem rootCause_explains (results : List (Except RunError Unit)) :
    -- It reports success just if all of them succeeded.
    (rootCause results = .ok () ↔ ∀ r ∈ results, r = .ok ()) ∧
    -- It reports an error that is no cancellation just if that is the first such error, however
    -- many workers before it succeeded or were canceled, and whatever comes after it.
    (∀ e, e ≠ canceled →
      (rootCause results = .error e ↔ ∃ before after, results = before ++ .error e :: after ∧
        ∀ r ∈ before, r = .ok () ∨ r = .error canceled)) ∧
    -- It does report one if there is one.
    ((∃ e, e ≠ canceled ∧ Except.error e ∈ results) →
      ∃ e, e ≠ canceled ∧ rootCause results = .error e) ∧
    -- It reports a cancellation just if there is one, and no other error.
    (rootCause results = .error canceled ↔
      .error canceled ∈ results ∧ ∀ r ∈ results, r = .ok () ∨ r = .error canceled) ∧
    -- As long as there is an error that is no cancellation, successes and cancellations may be
    -- put in and taken out anywhere.
    (∀ others, (∃ e, e ≠ canceled ∧ Except.error e ∈ results) →
      others.filter decisive = results.filter decisive → rootCause others = rootCause results) := by
  refine ⟨rootCause_eq_ok_iff, fun e other => ?_, ?_, rootCause_eq_canceled_iff, ?_⟩
  · simp only [rootCause_eq_error_iff other, List.find?_eq_some_iff_append, Bool.not_eq_true',
      decisive_eq_false_iff, decisive_error_iff, other, ne_eq, not_false_eq_true, true_and]
  · rintro ⟨e, other, there⟩
    obtain ⟨e', other', -, bad⟩ | ⟨quiet, -⟩ | ⟨ok, -⟩ := rootCause_cases results
    · exact ⟨e', other', bad⟩
    · exact absurd (quiet _ there) (by simp [decisive_error_iff.mpr other])
    · cases ok _ there
  · rintro others ⟨e, other, there⟩ same
    exact rootCause_eq_of_filter same there other

/-- Five workers: one succeeds, one is canceled, one finds a guarantee broken, and the last two are
canceled and succeed. -/
def quarrel : List (Except RunError Unit) :=
  [.ok (), .error canceled, .error (.broken (.notCompleted 3)), .error canceled, .ok ()]

/-- The third one's finding is reported, as it is if nobody else ran. -/
theorem rootCause_explains_quarrel :
    rootCause quarrel = .error (.broken (.notCompleted 3)) ∧
      rootCause [.error (.broken (.notCompleted 3))] = rootCause quarrel := by
  obtain ⟨-, third, -, -, alone⟩ := rootCause_explains quarrel
  have other : RunError.broken (.notCompleted 3) ≠ canceled := nofun
  refine ⟨(third _ other).mpr ⟨[.ok (), .error canceled], _, rfl, by simp⟩, alone _ ?_ rfl⟩
  exact ⟨_, other, by simp [quarrel]⟩

end Rendezvous
