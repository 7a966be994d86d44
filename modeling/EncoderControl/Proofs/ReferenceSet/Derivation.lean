import EncoderControl.Proofs.ReferenceSet.Table
import Mathlib.Data.List.Forall2

/-!
# Derived references win

An entry that gives its own indications may spell out references as well, but its set is made of the
derived ones alone. Nothing of what was spelled out is left in that set, so nothing of it reaches
the sets that are predicted from it later on: tables that differ only there have the same sets. The
differences that are reported are not looked at.
-/

namespace EncoderControl

/-- Two entries differ in nothing but references that are overridden: those of an entry that gives
its own indications. -/
inductive GopEntry.AgreeUpToOverridden : GopEntry → GopEntry → Prop where
  | same (entry : GopEntry) : AgreeUpToOverridden entry entry
  | overridden (entry : GopEntry) (references : List Reference) {deltaRps : Int}
      {refIdc : List Nat} (explicit : entry.prediction = .explicit deltaRps refIdc) :
      AgreeUpToOverridden entry { entry with references := references }

/-- Tables whose entries differ in nothing but references that are overridden. -/
abbrev GopEntry.TablesAgree : List GopEntry → List GopEntry → Prop :=
  List.Forall₂ GopEntry.AgreeUpToOverridden

namespace GopEntry.AgreeUpToOverridden

variable {left right : GopEntry}

/-- Entries that differ in overridden references stand at the same position. -/
theorem poc (agree : AgreeUpToOverridden left right) : left.poc = right.poc := by
  cases agree <;> rfl

/-- Entries that differ in overridden references are predicted in the same way. -/
theorem prediction (agree : AgreeUpToOverridden left right) :
    left.prediction = right.prediction := by
  cases agree <;> rfl

/-- Only overridden references can differ. -/
theorem references (agree : AgreeUpToOverridden left right)
    (kept : ∀ deltaRps refIdc, left.prediction ≠ .explicit deltaRps refIdc) :
    left.references = right.references := by
  cases agree with
  | same => rfl
  | overridden references explicit => exact absurd explicit (kept _ _)

end GopEntry.AgreeUpToOverridden

namespace ReferenceSet

/-- Replacing the references leaves nothing of those that were there before. -/
theorem setReferences_ofReferences_predictedBy (configured derived : List Reference)
    (deltaRps : Int) (refIdc : List Nat) :
    ({ (ofReferences configured).predictedBy deltaRps with refIdc := refIdc }.setReferences
        derived) =
      { (ofReferences derived).predictedBy deltaRps with refIdc := refIdc } := rfl

/-- Entries that differ only in overridden references have the same set. -/
theorem fst_ofEntry_of_agree {left right before other : GopEntry}
    (agree : left.AgreeUpToOverridden right) (samePoc : before.poc = other.poc) (index : Nat)
    (earlier : ReferenceSet) :
    (ofEntry index before earlier left).1 = (ofEntry index other earlier right).1 := by
  have spelled := agree.references
  unfold ofEntry
  rw [← agree.prediction, ← agree.poc, samePoc]
  cases predicted : left.prediction with
  | none =>
    rw [spelled (by simp [predicted])]
  | auto =>
    rw [spelled (by simp [predicted])]
  | explicit deltaRps refIdc =>
    -- Here the references may differ, and the derived ones have replaced them.
    simp only [setReferences_ofReferences_predictedBy]

/-- Tables that agree have the same sets after the same set. The induction is along the table: an
equal set is the earlier set of the next entry on both sides. -/
theorem map_fst_ofEntries_of_agree {left right : List GopEntry}
    (agree : GopEntry.TablesAgree left right) {before other : GopEntry}
    (samePoc : before.poc = other.poc) (index : Nat) (earlier : ReferenceSet) :
    (ofEntries index before earlier left).map Prod.fst =
      (ofEntries index other earlier right).map Prod.fst := by
  induction agree generalizing index before other earlier with
  | nil => rfl
  | cons entries _ inductionHypothesis =>
    have sameSet := fst_ofEntry_of_agree entries samePoc index earlier
    simp only [ofEntries, List.map_cons, sameSet]
    rw [inductionHypothesis entries.poc]

/-- Tables that agree are both refused, or have the same sets. -/
theorem map_ofTable?_of_agree {left right : List GopEntry}
    (agree : GopEntry.TablesAgree left right) :
    (ofTable? left).map (List.map Prod.fst) = (ofTable? right).map (List.map Prod.fst) := by
  cases agree with
  | nil => rfl
  | cons entries later =>
    have spelled := entries.references
    simp only [ofTable?, ← entries.prediction]
    split
    · rename_i predicted
      rw [spelled (by simp [predicted])]
      simp only [Option.map_some, List.map_cons]
      rw [map_fst_ofEntries_of_agree later entries.poc]
    · rfl
    · rfl

end ReferenceSet

namespace ReferencePlan

/-- The sets of a plan are those of the table, and that of the first bottom field after them. -/
theorem map_sets_outcome_build (gopList : List GopEntry) (gopSize extraSets : Nat)
    (fieldCoding : Bool) :
    (build gopList gopSize extraSets fieldCoding).outcome.map sets =
      if gopList.length < gopSize + extraSets then
        .error (.invalidGopEntry (.tooShort gopList.length (gopSize + extraSets)))
      else
        match (ReferenceSet.ofTable? (gopList.take (gopSize + extraSets))).map
          (List.map Prod.fst) with
        | none => .error (.invalidGopEntry (.noReferenceSet 0))
        | some sets =>
          .ok (sets ++ if fieldCoding then [ReferenceSet.firstBottomField] else []) := by
  rw [outcome_build]
  split
  · rfl
  · cases ReferenceSet.ofTable? (gopList.take (gopSize + extraSets)) <;> rfl

/-- Tables that differ only in references that are overridden are both refused, for the same
reason, or both accepted with the same sets. -/
theorem sets_independent_of_overridden_references {left right : List GopEntry}
    (agree : GopEntry.TablesAgree left right) (gopSize extraSets : Nat) (fieldCoding : Bool) :
    (build left gopSize extraSets fieldCoding).outcome.map sets =
      (build right gopSize extraSets fieldCoding).outcome.map sets := by
  have sameSets := ReferenceSet.map_ofTable?_of_agree
    (List.forall₂_take (gopSize + extraSets) agree)
  rw [map_sets_outcome_build, map_sets_outcome_build, agree.length_eq, sameSets]

/-- A table whose second entry gives its own indications beside the given references. The third
entry is predicted from what becomes of the second one. -/
def overriddenTable (references : List Reference) : List GopEntry :=
  [ { poc := 4, references := [⟨-4, true⟩, ⟨-8, false⟩] },
    { poc := 2, references := references, prediction := .explicit 2 [1, 2, 1] },
    { poc := 3, references := [⟨-7, true⟩, ⟨-3, true⟩, ⟨1, true⟩], prediction := .auto } ]

/-- Two references that the indications do not give leave no trace but the reports. -/
theorem overriddenTable_sets :
    GopEntry.TablesAgree (overriddenTable []) (overriddenTable [⟨-7, true⟩, ⟨5, false⟩]) ∧
      (build (overriddenTable []) 2 1 true).outcome.map sets =
        (build (overriddenTable [⟨-7, true⟩, ⟨5, false⟩]) 2 1 true).outcome.map sets ∧
      (build (overriddenTable []) 2 1 true).outcome.map inconsistencies =
        .ok [.negativeCount 1 0 2, .positiveCount 1 0 1] ∧
      (build (overriddenTable [⟨-7, true⟩, ⟨5, false⟩]) 2 1 true).outcome.map inconsistencies =
        .ok [.negativeCount 1 1 2] := by
  have agree : GopEntry.TablesAgree (overriddenTable [])
      (overriddenTable [⟨-7, true⟩, ⟨5, false⟩]) :=
    .cons (.same _) (.cons (.overridden _ _ rfl) (.cons (.same _) .nil))
  exact ⟨agree, sets_independent_of_overridden_references agree 2 1 true, rfl, rfl⟩

end ReferencePlan

end EncoderControl
