import EncoderControl.Proofs.ReferenceSet.Table

/-!
# Stable sorting

References are sorted by distance, and those at one distance keep their order. There is one list
only that does this for given references, so how it is found does not matter, and neither does the
order in which references at different distances are given.
-/

namespace EncoderControl

namespace ReferenceSet

/-- A list holds the given references in ascending order of distance, those at one distance in the
order in which they were given. -/
structure StablySorts (sorted references : List Reference) : Prop where
  ascending : sorted.Pairwise fun left right => left.delta ≤ right.delta
  keepsOrder : ∀ delta : Int, (sorted.filter fun reference => reference.delta = delta) =
    references.filter fun reference => reference.delta = delta

/-- Sorting keeps the order of references at one distance. -/
theorem sortReferences_stablySorts (references : List Reference) :
    StablySorts (sortReferences references) references where
  ascending := sortReferences_ascending references
  keepsOrder delta := by
    -- References at one distance ascend as they stand, so sorting keeps them as a sublist.
    have level : (references.filter fun reference => reference.delta = delta).Pairwise
        fun left right => left.delta ≤ right.delta := by
      refine List.pairwise_of_forall_mem_list fun left leftMember right rightMember => ?_
      have atLeft : left.delta = delta := by simpa using (List.mem_filter.mp leftMember).2
      have atRight : right.delta = delta := by simpa using (List.mem_filter.mp rightMember).2
      rw [atLeft, atRight]
    have kept : (references.filter fun reference => reference.delta = delta).Sublist
        ((sortReferences references).filter fun reference => reference.delta = delta) := by
      rw [sortReferences_eq_insertionSort]
      simpa [List.filter_filter] using
        (List.sublist_insertionSort level List.filter_sublist).filter
          fun reference => reference.delta = delta
    have counted := ((sortReferences_perm references).filter
      fun reference => reference.delta = delta).length_eq
    exact (kept.eq_of_length counted.symm).symm

/-- Two lists that agree at each distance have the same references. -/
theorem mem_iff_of_filter_delta_eq {left right : List Reference}
    (same : ∀ delta : Int, (left.filter fun reference => reference.delta = delta) =
      right.filter fun reference => reference.delta = delta) (reference : Reference) :
    reference ∈ left ↔ reference ∈ right := by
  have atDelta : (reference ∈ left.filter fun other => other.delta = reference.delta) ↔
      reference ∈ right.filter fun other => other.delta = reference.delta := by
    rw [same]
  simpa using atDelta

/-- References in ascending order are known once those at each distance are. -/
theorem eq_of_filter_delta_eq {left right : List Reference}
    (ascendingLeft : left.Pairwise fun first second => first.delta ≤ second.delta)
    (ascendingRight : right.Pairwise fun first second => first.delta ≤ second.delta)
    (same : ∀ delta : Int, (left.filter fun reference => reference.delta = delta) =
      right.filter fun reference => reference.delta = delta) : left = right := by
  induction left generalizing right with
  | nil =>
    cases right with
    | nil => rfl
    | cons other rest => simpa using same other.delta
  | cons head tail inductionHypothesis =>
    cases right with
    | nil => simpa using same head.delta
    | cons other rest =>
      obtain ⟨headLeast, tailAscending⟩ := List.pairwise_cons.mp ascendingLeft
      obtain ⟨otherLeast, restAscending⟩ := List.pairwise_cons.mp ascendingRight
      -- Either head stands in both lists, so both are at the least distance, and the first one
      -- there is the head.
      have headBelow : head.delta ≤ other.delta := by
        rcases List.mem_cons.mp ((mem_iff_of_filter_delta_eq same other).mpr (by simp)) with
          rfl | inTail
        · exact le_rfl
        · exact headLeast other inTail
      have otherBelow : other.delta ≤ head.delta := by
        rcases List.mem_cons.mp ((mem_iff_of_filter_delta_eq same head).mp (by simp)) with
          rfl | inRest
        · exact le_rfl
        · exact otherLeast head inRest
      have sameDelta : other.delta = head.delta := le_antisymm otherBelow headBelow
      have first : head = other := by
        have atHead := same head.delta
        rw [List.filter_cons_of_pos (by simp), List.filter_cons_of_pos (by simp [sameDelta])]
          at atHead
        exact (List.cons.inj atHead).1
      subst first
      refine congrArg (head :: ·) (inductionHypothesis tailAscending restAscending fun delta => ?_)
      have atDelta := same delta
      rw [List.filter_cons, List.filter_cons] at atDelta
      split at atDelta
      · exact (List.cons.inj atDelta).2
      · exact atDelta

/-- There is one way to sort references stably. -/
theorem StablySorts.eq_sortReferences {sorted references : List Reference}
    (sorts : StablySorts sorted references) : sorted = sortReferences references :=
  eq_of_filter_delta_eq sorts.ascending (sortReferences_ascending references) fun delta =>
    (sorts.keepsOrder delta).trans ((sortReferences_stablySorts references).keepsOrder delta).symm

end ReferenceSet

end EncoderControl
