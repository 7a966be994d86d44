import EncoderControl.Proofs.ReferenceSet.Table

/-!
# The shape of built sets

The set of an entry comes about in four ways: spelled out, predicted automatically, given up to be
predicted, or derived from indications. Each of them leaves counts and positions that agree with
the references. What is predicted ascends, and what is not predicted is what the entry spells out.
-/

namespace EncoderControl

namespace ReferenceSet

/-- There is one distance for each reference. -/
@[simp] theorem length_deltas (set : ReferenceSet) : set.deltas.length = set.numPictures := by
  simp [deltas, numPictures]

/-- There is one mark of use for each reference. -/
@[simp] theorem length_used (set : ReferenceSet) : set.used.length = set.numPictures := by
  simp [used, numPictures]

/-- Number of references at or before the current picture. -/
def countNegative (references : List Reference) : Nat :=
  references.countP fun reference => reference.delta ≤ 0

/-- Number of references after the current picture. -/
def countPositive (references : List Reference) : Nat :=
  references.countP fun reference => 0 < reference.delta

/-- Every reference is counted once. -/
theorem countNegative_add_countPositive (references : List Reference) :
    countNegative references + countPositive references = references.length := by
  have parted := List.length_eq_countP_add_countP (fun reference : Reference => 0 < reference.delta)
    (l := references)
  simp only [decide_eq_true_eq, not_lt] at parted
  simp only [countNegative, countPositive]
  omega

/-- The references counted as negative are those at distances up to zero. -/
theorem countP_deltas_nonpos (set : ReferenceSet) :
    set.deltas.countP (· ≤ 0) = countNegative set.references := by
  rw [deltas, List.countP_map]
  rfl

/-- The references counted as positive are those at distances above zero. -/
theorem countP_deltas_pos (set : ReferenceSet) :
    set.deltas.countP (0 < ·) = countPositive set.references := by
  rw [deltas, List.countP_map]
  rfl

/-- Replacing the references brings counts and positions in step with them. -/
theorem inStep_setReferences (set : ReferenceSet) (references : List Reference) :
    (set.setReferences references).InStep where
  pocs := by simp [setReferences, numPictures]
  negative := by
    have counted : (set.setReferences references).numNegative =
        references.length - countPositive references := rfl
    have parted := countNegative_add_countPositive references
    rw [counted, countP_deltas_nonpos, references_setReferences]
    omega
  positive := by
    rw [countP_deltas_pos]
    rfl

/-- A set made of references counts them right. -/
theorem inStep_ofReferences (references : List Reference) : (ofReferences references).InStep :=
  inStep_setReferences {} references

/-- A set in step stores the number of its references at or before the current picture. -/
theorem InStep.numNegative_eq {set : ReferenceSet} (inStep : set.InStep) :
    set.numNegative = countNegative set.references :=
  inStep.negative.trans set.countP_deltas_nonpos

/-- A set in step stores the number of its references after the current picture. -/
theorem InStep.numPositive_eq {set : ReferenceSet} (inStep : set.InStep) :
    set.numPositive = countPositive set.references :=
  inStep.positive.trans set.countP_deltas_pos

/-- Every reference of a set in step is counted once. -/
theorem InStep.numNegative_add_numPositive {set : ReferenceSet} (inStep : set.InStep) :
    set.numNegative + set.numPositive = set.numPictures := by
  rw [inStep.numNegative_eq, inStep.numPositive_eq]
  exact countNegative_add_countPositive set.references

/-- A set whose references ascend by distance is sorted. -/
theorem isSorted_of_ascending {set : ReferenceSet}
    (ascending : set.references.Pairwise fun left right => left.delta ≤ right.delta) :
    set.isSorted = true := by
  simpa [isSorted, deltas, List.pairwise_map] using ascending

/-- The set of an entry, however it came about. -/
structure Renders (entry : GopEntry) (set : ReferenceSet) : Prop where
  inStep : set.InStep
  ascending : set.predicted = true → set.isSorted = true
  /-- A set that is not predicted is the one that the entry spells out. A prediction that was given
  up leaves the distance to the earlier picture behind, which nothing refers to. -/
  spelledOut : set.predicted = false →
    set = { ofReferences entry.references with deltaRps := set.deltaRps }

/-- The set that is spelled out. -/
theorem renders_ofReferences (entry : GopEntry) :
    Renders entry (ofReferences entry.references) where
  inStep := inStep_ofReferences entry.references
  ascending predicted := nomatch predicted
  spelledOut _ := rfl

/-- The set that is built after another one, in each of the four ways. -/
theorem renders_ofEntry (index : Nat) (before : GopEntry) (earlier : ReferenceSet)
    (entry : GopEntry) : Renders entry (ofEntry index before earlier entry).1 := by
  unfold ofEntry
  cases entry.prediction with
  | none => exact renders_ofReferences entry
  | auto =>
    dsimp only
    split
    · exact
        { inStep := inStep_setReferences _ _
          ascending := fun _ => isSorted_of_ascending (sortReferences_ascending _)
          spelledOut := fun notPredicted => nomatch notPredicted }
    · have configured := inStep_ofReferences entry.references
      exact
        { inStep := ⟨configured.pocs, configured.negative, configured.positive⟩
          ascending := fun predicted => nomatch predicted
          spelledOut := fun _ => rfl }
  | explicit deltaRps refIdc =>
    exact
      { inStep := inStep_setReferences _ _
        ascending := fun _ => isSorted_of_ascending (sortReferences_ascending _)
        spelledOut := fun notPredicted => nomatch notPredicted }

variable {table : List GopEntry} {built : List (ReferenceSet × List Inconsistency)}

/-- Every set of an accepted table is that of its entry. -/
theorem renders_ofTable? (accepted : ofTable? table = some built) {place : Nat} {entry : GopEntry}
    {result : ReferenceSet × List Inconsistency} (atEntry : table[place]? = some entry)
    (atResult : built[place]? = some result) : Renders entry result.1 := by
  rcases ofTable?_cases accepted atEntry atResult with ⟨-, rfl⟩ | ⟨before, earlier, -, rfl⟩
  · exact renders_ofReferences entry
  · exact renders_ofEntry place before earlier entry

end ReferenceSet

namespace ReferencePlan

/-- What is known of the sets that are built for a table. -/
structure HasShape (gopList : List GopEntry) (gopSize extraSets : Nat) (fieldCoding : Bool)
    (sets : List ReferenceSet) : Prop where
  length : sets.length = gopSize + extraSets + if fieldCoding then 1 else 0
  counts : ∀ set ∈ sets,
    set.used.length = set.deltas.length ∧ set.pocs.length = set.deltas.length ∧
      set.numNegative = set.deltas.countP (· ≤ 0) ∧ set.numPositive = set.deltas.countP (0 < ·) ∧
      set.numNegative + set.numPositive = set.numPictures
  /-- A predicted set has one before it, and ascends. -/
  predicted : ∀ (index : Nat) (set : ReferenceSet), sets[index]? = some set →
    set.predicted = true → 1 ≤ index ∧ set.isSorted = true
  /-- A set of the table that is not predicted has the references of its entry, in their order. -/
  spelledOut : ∀ (index : Nat) (entry : GopEntry) (set : ReferenceSet),
    index < gopSize + extraSets → gopList[index]? = some entry → sets[index]? = some set →
    set.predicted = false → set.references = entry.references
  /-- A prediction that was given up leaves the set that the entry spells out, but for the distance
  to the earlier picture. -/
  givenUp : ∀ (index : Nat) (entry : GopEntry) (set : ReferenceSet),
    index < gopSize + extraSets → gopList[index]? = some entry → sets[index]? = some set →
    entry.prediction = .auto → set.predicted = false →
    set = { ReferenceSet.ofReferences entry.references with deltaRps := set.deltaRps }
  /-- The set of the first bottom field comes last. -/
  firstBottomField : fieldCoding = true →
    ∃ set, sets.getLast? = some set ∧ set.references = [⟨-1, true⟩] ∧ set.predicted = false

variable {gopList : List GopEntry} {gopSize extraSets : Nat} {fieldCoding : Bool}
  {plan : ReferencePlan}

/-- An accepted plan has one set for each entry, and one more for field coding. -/
theorem length_sets (accepted : (build gopList gopSize extraSets fieldCoding).outcome = .ok plan) :
    plan.sets.length = gopSize + extraSets + if fieldCoding then 1 else 0 := by
  obtain ⟨-, built, -, counted, rfl⟩ := exists_built accepted
  cases fieldCoding <;> simp [ofBuilt, counted]

/-- A set of an accepted plan is that of an entry, and spelled out if the entry is the first one, or
it is that of the first bottom field. -/
theorem sets_cases (accepted : (build gopList gopSize extraSets fieldCoding).outcome = .ok plan)
    {index : Nat} {set : ReferenceSet} (atSet : plan.sets[index]? = some set) :
    (index < gopSize + extraSets ∧ (index = 0 → set.predicted = false) ∧
        ∃ entry, gopList[index]? = some entry ∧ ReferenceSet.Renders entry set) ∨
      (index = gopSize + extraSets ∧ fieldCoding = true ∧
        set = ReferenceSet.firstBottomField) := by
  obtain ⟨enough, built, table, counted, rfl⟩ := exists_built accepted
  by_cases inTable : index < gopSize + extraSets
  · left
    rw [getElem?_sets_ofBuilt (by omega)] at atSet
    obtain ⟨result, atResult, rfl⟩ := Option.map_eq_some_iff.mp atSet
    have entryTaken : (gopList.take (gopSize + extraSets))[index]? = some gopList[index] := by
      rw [List.getElem?_take_of_lt inTable, List.getElem?_eq_getElem]
    refine ⟨inTable, ?_, _, List.getElem?_eq_getElem _,
      ReferenceSet.renders_ofTable? table entryTaken atResult⟩
    rintro rfl
    rcases ReferenceSet.ofTable?_cases table entryTaken atResult with ⟨-, rfl⟩ | ⟨_, _, later, -⟩
    · rfl
    · exact absurd later (Nat.lt_irrefl 0)
  · right
    rw [ofBuilt, List.getElem?_append_right (by simpa [counted] using inTable)] at atSet
    cases fieldCoding with
    | false => cases atSet
    | true =>
      simp only [if_true, List.getElem?_singleton, List.length_map, counted] at atSet
      split at atSet
      · exact ⟨by omega, rfl, (Option.some.inj atSet).symm⟩
      · cases atSet

/-- A set of the table is that of the entry with the same index. -/
theorem renders_sets (accepted : (build gopList gopSize extraSets fieldCoding).outcome = .ok plan)
    {index : Nat} {entry : GopEntry} {set : ReferenceSet} (inTable : index < gopSize + extraSets)
    (atEntry : gopList[index]? = some entry) (atSet : plan.sets[index]? = some set) :
    ReferenceSet.Renders entry set := by
  rcases sets_cases accepted atSet with ⟨-, -, other, atOther, renders⟩ | ⟨past, -, -⟩
  · obtain rfl : entry = other := Option.some.inj (atEntry.symm.trans atOther)
    exact renders
  · omega

/-- The set of the first bottom field counts its reference right. -/
theorem inStep_firstBottomField : ReferenceSet.firstBottomField.InStep :=
  ReferenceSet.inStep_ofReferences _

/-- The sets of an accepted plan are as many as were asked for, each of them in step with its
counts. Predicted sets have one before them and ascend, sets that are not predicted are spelled out
as the table has it, and the set of the first bottom field is the last one. -/
theorem sets_have_shape
    (accepted : (build gopList gopSize extraSets fieldCoding).outcome = .ok plan) :
    HasShape gopList gopSize extraSets fieldCoding plan.sets where
  length := length_sets accepted
  counts set member := by
    obtain ⟨index, atSet⟩ := List.mem_iff_getElem?.mp member
    have inStep : set.InStep := by
      rcases sets_cases accepted atSet with ⟨-, -, entry, -, renders⟩ | ⟨-, -, rfl⟩
      · exact renders.inStep
      · exact inStep_firstBottomField
    exact ⟨by simp, by simp [inStep.pocs], inStep.negative, inStep.positive,
      inStep.numNegative_add_numPositive⟩
  predicted index set atSet predicted := by
    rcases sets_cases accepted atSet with ⟨-, first, entry, -, renders⟩ | ⟨-, -, rfl⟩
    · refine ⟨Nat.one_le_iff_ne_zero.mpr fun isFirst => ?_, renders.ascending predicted⟩
      rw [first isFirst] at predicted
      cases predicted
    · cases predicted
  spelledOut index entry set inTable atEntry atSet notPredicted := by
    have renders := renders_sets accepted inTable atEntry atSet
    exact congrArg ReferenceSet.references (renders.spelledOut notPredicted)
  givenUp index entry set inTable atEntry atSet _ notPredicted :=
    (renders_sets accepted inTable atEntry atSet).spelledOut notPredicted
  firstBottomField fields := by
    obtain ⟨-, built, -, rfl⟩ := build_eq_ok_iff.mp accepted
    exact ⟨ReferenceSet.firstBottomField, by simp [ofBuilt, fields], rfl, rfl⟩

/-- A table whose sets come about in all four ways, one after the other. -/
def fourWayTable : List GopEntry :=
  [ { poc := 4, references := [⟨-4, true⟩, ⟨-8, false⟩] },
    { poc := 2, references := [⟨-2, true⟩, ⟨2, true⟩, ⟨-6, false⟩], prediction := .auto },
    { poc := 1, references := [⟨-1, true⟩, ⟨-20, true⟩], prediction := .auto },
    { poc := 3, references := [⟨1, true⟩], prediction := .explicit (-2) [1, 2, 1] } ]

/-- The third set could not be predicted; the others are spelled out, predicted and derived, and the
set of the first bottom field follows them. -/
theorem fourWayTable_sets_have_shape :
    ∃ plan, (build fourWayTable 3 1 true).outcome = .ok plan ∧
      plan.sets.map ReferenceSet.predicted = [false, true, false, true, false] ∧
      HasShape fourWayTable 3 1 true plan.sets := by
  obtain ⟨plan, accepted, predicted⟩ :
      ∃ plan, (build fourWayTable 3 1 true).outcome = .ok plan ∧
        plan.sets.map ReferenceSet.predicted = [false, true, false, true, false] :=
    ⟨_, rfl, rfl⟩
  exact ⟨plan, accepted, predicted, sets_have_shape accepted⟩

end ReferencePlan

end EncoderControl
