import EncoderControl.Proofs.ReferenceSet.Shape
import Mathlib.Data.List.Nodup

/-!
# What a comparison reports

A set that was derived from indications is compared with the one that its entry spells out. What
there is to report is stated here without walking through the lists: a number of references that
differs, and a distance or a flag that differs at some place of two lists of one length. The
comparison reports each of these once, and nothing else.

Lengths are never compared as such. That nothing to report makes two lists the same rests on a
length being the sum of the two numbers that are compared.
-/

namespace EncoderControl

/-- The set that a report is about. -/
def Inconsistency.setIndex : Inconsistency → Nat
  | partialPrediction set => set
  | negativeCount set _ _ => set
  | positiveCount set _ _ => set
  | delta set _ _ _ => set
  | usedFlag set _ _ _ => set

/-- The place that a report points at, for reports of single references. -/
def Inconsistency.place? : Inconsistency → Option Nat
  | partialPrediction _ => none
  | negativeCount _ _ _ => none
  | positiveCount _ _ _ => none
  | delta _ entry _ _ => some entry
  | usedFlag _ entry _ _ => some entry

namespace ReferenceSet

/-- What there is to report of two references that stand at one place: the spelled out one and the
one that was built. -/
inductive ReferenceDiscrepancy (index place : Nat) (spelled built : Reference) :
    Inconsistency → Prop where
  | delta (differ : spelled.delta ≠ built.delta) :
      ReferenceDiscrepancy index place spelled built
        (.delta index place spelled.delta built.delta)
  | usedFlag (differ : spelled.used ≠ built.used) :
      ReferenceDiscrepancy index place spelled built
        (.usedFlag index place spelled.used built.used)

/-- What there is to report of the set with the given index, which is spelled out with the
references `configured` and was built with the references `derived`. -/
inductive Discrepancy (index : Nat) (configured derived : List Reference) :
    Inconsistency → Prop where
  | negativeCount (differ : countNegative configured ≠ countNegative derived) :
      Discrepancy index configured derived
        (.negativeCount index (countNegative configured) (countNegative derived))
  | positiveCount (differ : countPositive configured ≠ countPositive derived) :
      Discrepancy index configured derived
        (.positiveCount index (countPositive configured) (countPositive derived))
  | reference {place : Nat} {spelled built : Reference} {report : Inconsistency}
      (sameLength : configured.length = derived.length)
      (atSpelled : configured[place]? = some spelled) (atBuilt : derived[place]? = some built)
      (differ : ReferenceDiscrepancy index place spelled built report) :
      Discrepancy index configured derived report

namespace ReferenceDiscrepancy

variable {index place : Nat} {spelled built : Reference} {report : Inconsistency}

/-- What there is to report at a place points at that place. -/
theorem place?_eq (differ : ReferenceDiscrepancy index place spelled built report) :
    report.place? = some place := by
  cases differ <;> rfl

/-- Two references at one place have nothing to report exactly when they are the same. -/
theorem forall_not_iff :
    (∀ report, ¬ ReferenceDiscrepancy index place spelled built report) ↔ spelled = built := by
  constructor
  · intro silent
    have sameDelta : spelled.delta = built.delta := by
      by_contra differ
      exact silent _ (.delta differ)
    have sameUsed : spelled.used = built.used := by
      by_contra differ
      exact silent _ (.usedFlag differ)
    cases spelled; cases built; cases sameDelta; cases sameUsed; rfl
  · rintro rfl report (differ | differ) <;> exact differ rfl

end ReferenceDiscrepancy

namespace Discrepancy

variable {index : Nat} {configured derived : List Reference} {report : Inconsistency}

/-- What there is to report of a set is about that set. -/
theorem setIndex_eq (discrepancy : Discrepancy index configured derived report) :
    report.setIndex = index := by
  cases discrepancy with
  | negativeCount => rfl
  | positiveCount => rfl
  | reference _ _ _ differ => cases differ <;> rfl

/-- There is nothing to report exactly when the references are the same. -/
theorem forall_not_iff :
    (∀ report, ¬ Discrepancy index configured derived report) ↔ configured = derived := by
  constructor
  · intro silent
    have sameNegative : countNegative configured = countNegative derived := by
      by_contra differ
      exact silent _ (.negativeCount differ)
    have samePositive : countPositive configured = countPositive derived := by
      by_contra differ
      exact silent _ (.positiveCount differ)
    have sameLength : configured.length = derived.length := by
      rw [← countNegative_add_countPositive, ← countNegative_add_countPositive, sameNegative,
        samePositive]
    refine List.ext_getElem sameLength fun place inConfigured inDerived => ?_
    exact ReferenceDiscrepancy.forall_not_iff.mp fun report differ =>
      silent report (.reference sameLength (List.getElem?_eq_getElem inConfigured)
        (List.getElem?_eq_getElem inDerived) differ)
  · rintro rfl report (differ | differ | ⟨-, atSpelled, atBuilt, differ⟩)
    · exact differ rfl
    · exact differ rfl
    · obtain rfl := Option.some.inj (atSpelled.symm.trans atBuilt)
      exact ReferenceDiscrepancy.forall_not_iff.mpr rfl report differ

end Discrepancy

/-- The reports of two references that stand at one place. -/
def reportsAt (index place : Nat) (built spelled : Reference) : List Inconsistency :=
  (if built.delta = spelled.delta then []
    else [.delta index place spelled.delta built.delta]) ++
  (if built.used = spelled.used then []
    else [.usedFlag index place spelled.used built.used])

/-- References are compared one pair after the other, each at its own place. -/
theorem compareReferences_cons (index start : Nat) (built spelled : Reference)
    (laterDerived laterConfigured : List Reference) :
    compareReferences index start (built :: laterDerived) (spelled :: laterConfigured) =
      reportsAt index start built spelled ++
        compareReferences index (start + 1) laterDerived laterConfigured := rfl

section Compared

variable {index place start : Nat} {built spelled : Reference} {report : Inconsistency}

/-- The reports about a pair of references are its discrepancies. -/
theorem mem_reportsAt_iff :
    report ∈ reportsAt index place built spelled ↔
      ReferenceDiscrepancy index place spelled built report := by
  simp only [reportsAt, List.mem_append, List.mem_ite_nil_left, List.mem_singleton]
  constructor
  · rintro (⟨differ, rfl⟩ | ⟨differ, rfl⟩)
    · exact .delta (Ne.symm differ)
    · exact .usedFlag (Ne.symm differ)
  · rintro (differ | differ)
    · exact .inl ⟨Ne.symm differ, rfl⟩
    · exact .inr ⟨Ne.symm differ, rfl⟩

/-- No discrepancy of a pair is reported twice. -/
theorem nodup_reportsAt : (reportsAt index place built spelled).Nodup := by
  unfold reportsAt
  split <;> split <;> simp

/-- Walking through both lists reports what there is to report at each place that both have. -/
theorem mem_compareReferences_iff {derived configured : List Reference} :
    report ∈ compareReferences index start derived configured ↔
      ∃ place spelled built, configured[place]? = some spelled ∧ derived[place]? = some built ∧
        ReferenceDiscrepancy index (start + place) spelled built report := by
  induction derived generalizing start configured with
  | nil => simp [compareReferences]
  | cons built laterDerived inductionHypothesis =>
    cases configured with
    | nil => simp [compareReferences]
    | cons spelled laterConfigured =>
      -- A place is the first one of both lists, or a place of the rest.
      rw [compareReferences_cons, List.mem_append, mem_reportsAt_iff, inductionHypothesis,
        ← Nat.or_exists_add_one (p := fun place => ∃ first second,
          (spelled :: laterConfigured)[place]? = some first ∧
            (built :: laterDerived)[place]? = some second ∧
            ReferenceDiscrepancy index (start + place) first second report)]
      simp [Nat.add_assoc, Nat.add_comm 1]

/-- Walking through both lists reports nothing twice. -/
theorem nodup_compareReferences (derived configured : List Reference) :
    (compareReferences index start derived configured).Nodup := by
  induction derived generalizing start configured with
  | nil => simp [compareReferences]
  | cons built laterDerived inductionHypothesis =>
    cases configured with
    | nil => simp [compareReferences]
    | cons spelled laterConfigured =>
      rw [compareReferences_cons]
      refine List.nodup_append.mpr ⟨nodup_reportsAt, inductionHypothesis _, ?_⟩
      -- Later reports point at later places.
      rintro report here other later rfl
      have atStart := (mem_reportsAt_iff.mp here).place?_eq
      obtain ⟨place, _, _, -, -, differ⟩ := mem_compareReferences_iff.mp later
      have behind := differ.place?_eq
      rw [atStart, Option.some.injEq] at behind
      omega

variable {derived configured : ReferenceSet}

/-- A comparison of two sets in step with their counts reports what there is to report. -/
theorem mem_compare_iff (inStep : derived.InStep) (inStepConfigured : configured.InStep) :
    report ∈ compare index derived configured ↔
      Discrepancy index configured.references derived.references report := by
  simp only [compare, inStep.numNegative_eq, inStepConfigured.numNegative_eq,
    inStep.numPositive_eq, inStepConfigured.numPositive_eq, List.mem_append,
    List.mem_ite_nil_left, List.mem_ite_nil_right, List.mem_singleton, mem_compareReferences_iff,
    Nat.zero_add]
  constructor
  · rintro ((⟨differ, rfl⟩ | ⟨differ, rfl⟩) |
      ⟨sameLength, place, spelled, built, atSpelled, atBuilt, differ⟩)
    · exact .negativeCount (Ne.symm differ)
    · exact .positiveCount (Ne.symm differ)
    · exact .reference sameLength.symm atSpelled atBuilt differ
  · rintro (differ | differ | ⟨sameLength, atSpelled, atBuilt, differ⟩)
    · exact .inl (.inl ⟨Ne.symm differ, rfl⟩)
    · exact .inl (.inr ⟨Ne.symm differ, rfl⟩)
    · exact .inr ⟨sameLength.symm, _, _, _, atSpelled, atBuilt, differ⟩

/-- A comparison reports nothing twice. -/
theorem nodup_compare : (compare index derived configured).Nodup := by
  unfold compare
  refine List.nodup_append.mpr ⟨?_, ?_, ?_⟩
  · split <;> split <;> simp
  · split
    · exact nodup_compareReferences _ _
    · exact List.nodup_nil
  · -- Reports of numbers point at no place, those of the walk do.
    simp only [List.mem_append, List.mem_ite_nil_left, List.mem_ite_nil_right, List.mem_singleton,
      mem_compareReferences_iff]
    rintro report (⟨-, rfl⟩ | ⟨-, rfl⟩) other ⟨-, place, _, _, -, -, differ⟩ rfl <;>
      cases differ.place?_eq

end Compared

end ReferenceSet

end EncoderControl
