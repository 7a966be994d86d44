import EncoderControl.Proofs.ReferenceSet.Reports

/-!
# Sets do not depend on later entries

A set is built from its own entry, the entry before it and the set before it. What is built for the
leading entries of a table is therefore the leading part of what is built for the whole table,
reports included, and only the length of a table and its first entry decide whether it is accepted.
How many of the entries belong to the GOP and how many are extra ones is of no consequence.
-/

namespace EncoderControl

namespace ReferenceSet

/-- What is built for the leading entries is the leading part of what is built for all of them. -/
theorem ofEntries_take (count index : Nat) (before : GopEntry) (earlier : ReferenceSet)
    (entries : List GopEntry) :
    ofEntries index before earlier (entries.take count) =
      (ofEntries index before earlier entries).take count := by
  induction entries generalizing count index before earlier with
  | nil => simp [ofEntries]
  | cons entry later inductionHypothesis =>
    cases count with
    | zero => rfl
    | succ count => simp only [List.take_succ_cons, ofEntries, inductionHypothesis]

/-- Only a table that starts with a predicted entry is refused. -/
theorem ofTable?_eq_none_iff {table : List GopEntry} :
    ofTable? table = none ↔ ∃ first, table[0]? = some first ∧ first.prediction ≠ .none := by
  cases table with
  | nil => simp [ofTable?]
  | cons first later => cases spelled : first.prediction <;> simp [ofTable?, spelled]

/-- The leading entries of an accepted table are accepted, with the leading results. -/
theorem ofTable?_take {table : List GopEntry} {built : List (ReferenceSet × List Inconsistency)}
    (accepted : ofTable? table = some built) (count : Nat) :
    ofTable? (table.take count) = some (built.take count) := by
  cases table with
  | nil =>
    cases accepted
    simp [ofTable?]
  | cons first later =>
    cases count with
    | zero => rfl
    | succ count =>
      cases spelled : first.prediction <;> simp only [ofTable?, spelled, reduceCtorEq] at accepted
      cases accepted
      simp only [List.take_succ_cons, ofTable?, spelled, ofEntries_take]

end ReferenceSet

namespace ReferencePlan

/-- A plan has the first `count` sets of another one and the reports on them, in their order, and
with field coding the set of the first bottom field after them. -/
structure IsLeadingPart (leading plan : ReferencePlan) (count : Nat) (fieldCoding : Bool) :
    Prop where
  sets : leading.sets =
    plan.sets.take count ++ if fieldCoding then [ReferenceSet.firstBottomField] else []
  inconsistencies : leading.inconsistencies =
    plan.inconsistencies.filter fun report => report.setIndex < count

variable {gopList : List GopEntry} {gopSize extraSets : Nat} {fieldCoding : Bool}
  {plan : ReferencePlan}

/-- Building fails exactly on a table that is too short, or starts with a predicted entry. -/
theorem exists_error_build_iff :
    (∃ failure, (build gopList gopSize extraSets fieldCoding).outcome = .error failure) ↔
      gopList.length < gopSize + extraSets ∨
        0 < gopSize + extraSets ∧
          ∃ first, gopList[0]? = some first ∧ first.prediction ≠ .none := by
  have refused : ReferenceSet.ofTable? (gopList.take (gopSize + extraSets)) = none ↔
      0 < gopSize + extraSets ∧ ∃ first, gopList[0]? = some first ∧ first.prediction ≠ .none := by
    rw [ReferenceSet.ofTable?_eq_none_iff, List.getElem?_take]
    by_cases some : 0 < gopSize + extraSets
    · simp [some]
    · simp [some]
  rw [outcome_build, ← refused]
  by_cases short : gopList.length < gopSize + extraSets
  · simp [short]
  · cases ReferenceSet.ofTable? (gopList.take (gopSize + extraSets)) <;> simp [short]

/-- Building succeeds exactly on a table that is long enough and starts with an entry of its own. -/
theorem exists_build_iff :
    (∃ plan, (build gopList gopSize extraSets fieldCoding).outcome = .ok plan) ↔
      gopSize + extraSets ≤ gopList.length ∧
        (0 < gopSize + extraSets → ∀ first, gopList[0]? = some first → first.prediction = .none) := by
  have fails := @exists_error_build_iff gopList gopSize extraSets fieldCoding
  cases built : (build gopList gopSize extraSets fieldCoding).outcome with
  | ok plan =>
    rw [built] at fails
    have accepted : ¬ ∃ failure, (Except.ok plan : Except EncodeError _) = .error failure := nofun
    rw [fails, not_or, Nat.not_lt] at accepted
    refine iff_of_true ⟨plan, rfl⟩ ⟨accepted.1, fun some first isFirst => ?_⟩
    exact Classical.not_not.mp fun predicted => accepted.2 ⟨some, first, isFirst, predicted⟩
  | error failure =>
    refine iff_of_false nofun fun accepted => ?_
    rw [built] at fails
    rcases fails.mp ⟨failure, rfl⟩ with short | ⟨some, first, isFirst, predicted⟩
    · exact Nat.not_lt_of_le accepted.1 short
    · exact predicted (accepted.2 some first isFirst)

/-- Building looks at the number of sets that are asked for, not at how it is made up. -/
theorem build_of_add_eq {otherSize otherExtra : Nat}
    (same : otherSize + otherExtra = gopSize + extraSets) :
    build gopList otherSize otherExtra fieldCoding =
      build gopList gopSize extraSets fieldCoding := by
  simp only [build, same]

/-- A table that has the same leading entries as an accepted one is accepted as far as these go,
with the leading sets and the reports on them. -/
theorem exists_leading_plan
    (accepted : (build gopList gopSize extraSets fieldCoding).outcome = .ok plan)
    {other : List GopEntry} {fewer fewerExtra : Nat} (otherFields : Bool)
    (within : fewer + fewerExtra ≤ gopSize + extraSets)
    (agree : other.take (fewer + fewerExtra) = gopList.take (fewer + fewerExtra)) :
    ∃ leading, (build other fewer fewerExtra otherFields).outcome = .ok leading ∧
      leading.IsLeadingPart plan (fewer + fewerExtra) otherFields := by
  obtain ⟨enough, built, table, counted, rfl⟩ := exists_built accepted
  have enoughOther : fewer + fewerExtra ≤ other.length := by
    have lengths := congrArg List.length agree
    simp only [List.length_take] at lengths
    omega
  have leadingTable := ReferenceSet.ofTable?_take table (fewer + fewerExtra)
  rw [List.take_take, Nat.min_eq_left within, ← agree] at leadingTable
  refine ⟨_, build_eq_ok_iff.mpr ⟨enoughOther, _, leadingTable, rfl⟩, ?_⟩
  constructor
  · rw [ofBuilt, ofBuilt, List.take_append_of_le_length (by simp [counted, within]), List.map_take]
  · exact ((ReferenceSet.reportsInPlace_ofTable? table).filter_setIndex_lt _).symm

/-- Building the first sets of a table fails exactly when there are too few entries, or the first
one of those asked for is predicted. The sets depend on how many are asked for alone, not on how
many of these are extra ones. If it succeeds, it succeeds for any smaller number, on any table with
the same leading entries, and gives the leading sets and the reports on them in the same order. -/
theorem plans_depend_on_leading_entries (gopList : List GopEntry) (gopSize extraSets : Nat)
    (fieldCoding : Bool) :
    ((∃ failure, (build gopList gopSize extraSets fieldCoding).outcome = .error failure) ↔
      gopList.length < gopSize + extraSets ∨
        0 < gopSize + extraSets ∧
          ∃ first, gopList[0]? = some first ∧ first.prediction ≠ .none) ∧
    (∀ otherSize otherExtra, otherSize + otherExtra = gopSize + extraSets →
      build gopList otherSize otherExtra fieldCoding =
        build gopList gopSize extraSets fieldCoding) ∧
    ∀ plan, (build gopList gopSize extraSets fieldCoding).outcome = .ok plan →
      ∀ (other : List GopEntry) (fewer fewerExtra : Nat) (otherFields : Bool),
        fewer + fewerExtra ≤ gopSize + extraSets →
        other.take (fewer + fewerExtra) = gopList.take (fewer + fewerExtra) →
        ∃ leading, (build other fewer fewerExtra otherFields).outcome = .ok leading ∧
          leading.IsLeadingPart plan (fewer + fewerExtra) otherFields :=
  ⟨exists_error_build_iff, fun _ _ same => build_of_add_eq same,
    fun _ accepted _ _ _ otherFields within agree =>
      exists_leading_plan accepted otherFields within agree⟩

/-- Three entries of a table of four, with another entry after them, have the first three sets and
the report on the third one. -/
theorem fourWayTable_leading_plan :
    ∃ plan leading, (build fourWayTable 3 1 true).outcome = .ok plan ∧
      (build (fourWayTable.take 3 ++ [{ poc := 7 }]) 1 2 false).outcome = .ok leading ∧
      leading.IsLeadingPart plan 3 false ∧ leading.sets.length = 3 ∧
      leading.inconsistencies = [.partialPrediction 2] := by
  obtain ⟨plan, accepted, rfl⟩ :
      ∃ plan, (build fourWayTable 3 1 true).outcome = .ok plan ∧ plan = ⟨_, _⟩ :=
    ⟨_, rfl, rfl⟩
  have within : 1 + 2 ≤ 3 + 1 := by decide
  obtain ⟨leading, built, part⟩ := (plans_depend_on_leading_entries fourWayTable 3 1 true).2.2
    _ accepted (fourWayTable.take 3 ++ [{ poc := 7 }]) 1 2 false within rfl
  refine ⟨_, leading, accepted, built, part, ?_, ?_⟩
  · rw [part.sets]
    rfl
  · rw [part.inconsistencies]
    rfl

end ReferencePlan

end EncoderControl
