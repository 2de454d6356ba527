import Rendezvous.Run.Stress

/-!
# The verdict on a stress run

A run is judged by its books. The notes of serial outcomes are added up by generation
(`getElem?_serialCounts`), and a run is in order if that comes to one for each generation and nobody
was early. If besides all workers have finished well and the barrier can be destroyed, the run has
succeeded (`conclude_of_regular`).
-/

set_option autoImplicit false

namespace Rendezvous

theorem rootCauseAfter_of_ok (canceled : Option RunError) {results : List (Except RunError Unit)}
    (ok : ∀ r ∈ results, r = .ok ()) :
    rootCauseAfter canceled results = rootCauseAfter canceled [] := by
  induction results with
  | nil => rfl
  | cons r rest ih =>
    rw [ok r List.mem_cons_self]
    exact ih fun r hr => ok r (List.mem_cons_of_mem _ hr)

/-- Where everybody has ended well, so has the run. -/
theorem rootCause_of_ok {results : List (Except RunError Unit)} (ok : ∀ r ∈ results, r = .ok ()) :
    rootCause results = .ok () :=
  rootCauseAfter_of_ok none ok

namespace Run.Stress

theorem getElem?_foldl_modify (notes : List Nat) (counts : Array Nat) (n : Nat) :
    (notes.foldl (fun counts g => counts.modify g (· + 1)) counts)[n]? =
      counts[n]?.map (· + notes.count n) := by
  induction notes generalizing counts with
  | nil => simp
  | cons g rest ih =>
    rw [List.foldl_cons, ih, Array.getElem?_modify, List.count_cons]
    by_cases same : g = n
    · subst same
      cases counts[g]? with
      | none => simp
      | some k => simp [Nat.add_comm, Nat.add_left_comm]
    · simp [same]

variable {s : Stress}

theorem getElem?_serialCounts (s : Stress) (n : Nat) :
    s.serialCounts[n]? =
      if n < s.sizes.generations.toNat then some (s.serials.count n) else none := by
  rw [serialCounts, getElem?_foldl_modify, Array.getElem?_replicate]
  split
  · rw [Option.map_some, Nat.zero_add]
  · rfl

theorem serialCounts_of_each (each : ∀ n < s.sizes.generations.toNat, s.serials.count n = 1) :
    s.serialCounts = Array.replicate s.sizes.generations.toNat 1 := by
  apply Array.ext_getElem?
  intro n
  rw [getElem?_serialCounts, Array.getElem?_replicate]
  split
  · next low => rw [each n low]
  · rfl

theorem verify_of_regular
    (regular : s.serialCounts = Array.replicate s.sizes.generations.toNat 1) (early : s.early = 0) :
    s.verify = .ok ⟨s.sizes, s.sizes.generations.toNat, 0⟩ := by
  have one : (Array.replicate s.sizes.generations.toNat 1).countP (fun n : Nat => n ≠ 1) = 0 := by
    simp [Array.countP_replicate]
  have sum : (Array.replicate s.sizes.generations.toNat 1).foldl (· + ·) 0 =
      s.sizes.generations.toNat := by
    rw [← Array.foldl_toList, ← List.sum_eq_foldl, Array.toList_replicate, List.sum_replicate_nat,
      Nat.mul_one]
  simp only [verify, regular, early, one, sum, Nat.lt_irrefl, reduceIte]

theorem conclude_of_regular (done : ∀ w ∈ s.workers, w = .finished (.ok ()))
    (destroyed : (s.crew.alone .destroy).2 = .ok .done)
    (regular : s.serialCounts = Array.replicate s.sizes.generations.toNat 1) (early : s.early = 0) :
    s.conclude = .ok ⟨s.sizes, s.sizes.generations.toNat, 0⟩ := by
  have ok : rootCause (s.workers.toList.map Worker.result) = .ok () := by
    apply rootCause_of_ok
    intro r hr
    obtain ⟨w, hw, rfl⟩ := List.mem_map.mp hr
    rw [done w (Array.mem_toList_iff.mp hw)]
    rfl
  rw [conclude, ok, destroyed]
  exact verify_of_regular regular early

end Run.Stress

end Rendezvous
