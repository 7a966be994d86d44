import EncoderControl.Proofs.ReferenceSet.Decoding
import EncoderControl.Proofs.ReferenceSet.Derivation
import EncoderControl.Proofs.ReferenceSet.Reports
import EncoderControl.Proofs.ReferenceSet.Sorting

/-!
# Reports on derived sets

The references of an entry that gives its own indications are compared, in sorted order, with those
that the indications select. What is reported on the set is what there is to report of these two
lists. The order in which the entry has its references matters only among references at one
distance; where there are none of these, rearranging them changes nothing at all.
-/

namespace EncoderControl

namespace ReferenceSet

/-- Sorting a set made of references is making it of sorted ones. -/
theorem sort_ofReferences (references : List Reference) :
    (ofReferences references).sort = ofReferences (sortReferences references) := rfl

/-- The set that indications select from the one before it. -/
def derived (earlier : ReferenceSet) (deltaRps : Int) (refIdc : List Nat) : ReferenceSet :=
  { (ofReferences (expandIdc earlier deltaRps refIdc)).predictedBy deltaRps with refIdc := refIdc }

/-- A derived set lists what its indications expand to. -/
@[simp] theorem references_derived (earlier : ReferenceSet) (deltaRps : Int) (refIdc : List Nat) :
    (derived earlier deltaRps refIdc).references = expandIdc earlier deltaRps refIdc := rfl

/-- A derived set keeps the indications that it was derived by. -/
@[simp] theorem refIdc_derived (earlier : ReferenceSet) (deltaRps : Int) (refIdc : List Nat) :
    (derived earlier deltaRps refIdc).refIdc = refIdc := rfl

/-- An entry with its own indications gets the set that these select, and what it spells out is
compared with it. -/
theorem ofEntry_explicit {index : Nat} {before entry : GopEntry} {earlier : ReferenceSet}
    {deltaRps : Int} {refIdc : List Nat} (explicit : entry.prediction = .explicit deltaRps refIdc) :
    ofEntry index before earlier entry =
      (derived earlier deltaRps refIdc,
        compare index (ofReferences (expandIdc earlier deltaRps refIdc))
          (ofReferences (sortReferences entry.references))) := by
  simp only [ofEntry, explicit, setReferences_ofReferences_predictedBy, sort_ofReferences,
    references_ofReferences, derived]

/-- References at different distances are sorted the same however they are arranged. -/
theorem sortReferences_eq_of_perm_of_nodup {references permuted : List Reference}
    (same : permuted.Perm references) (distinct : (references.map Reference.delta).Nodup) :
    sortReferences permuted = sortReferences references :=
  sortReferences_eq_of_perm same fun _ member _ otherMember atDelta => by
    rw [List.inj_on_of_nodup_map distinct member otherMember atDelta]

/-- An entry stands for another one when the same is built for both wherever they stand in a table,
and for the entry after them. -/
structure BuildsAs (other entry : GopEntry) : Prop where
  poc : other.poc = entry.poc
  built : ∀ (index : Nat) (before : GopEntry) (earlier : ReferenceSet),
    ofEntry index before earlier other = ofEntry index before earlier entry

/-- Rearranging the references of an entry with its own indications builds the same. -/
theorem buildsAs_of_perm {entry : GopEntry} {deltaRps : Int} {refIdc : List Nat}
    (explicit : entry.prediction = .explicit deltaRps refIdc) {permuted : List Reference}
    (same : permuted.Perm entry.references)
    (distinct : (entry.references.map Reference.delta).Nodup) :
    BuildsAs { entry with references := permuted } entry where
  poc := rfl
  built index before earlier := by
    have stillExplicit : { entry with references := permuted }.prediction =
      .explicit deltaRps refIdc := explicit
    rw [ofEntry_explicit stillExplicit, ofEntry_explicit explicit,
      sortReferences_eq_of_perm_of_nodup same distinct]

/-- Of the entry before, only its position matters. -/
theorem ofEntries_of_poc_eq {before other : GopEntry} (samePoc : other.poc = before.poc)
    (index : Nat) (earlier : ReferenceSet) (entries : List GopEntry) :
    ofEntries index other earlier entries = ofEntries index before earlier entries := by
  cases entries with
  | nil => rfl
  | cons entry later => simp only [ofEntries, ofEntry, samePoc]

/-- Exchanging an entry for one that stands for it changes nothing that is built. -/
theorem ofEntries_set {entries : List GopEntry} {place : Nat} {other entry : GopEntry}
    (atEntry : entries[place]? = some entry) (stands : BuildsAs other entry) (index : Nat)
    (before : GopEntry) (earlier : ReferenceSet) :
    ofEntries index before earlier (entries.set place other) =
      ofEntries index before earlier entries := by
  induction entries generalizing place index before earlier with
  | nil => rfl
  | cons head later inductionHypothesis =>
    cases place with
    | zero =>
      obtain rfl : head = entry := Option.some.inj atEntry
      simp only [List.set_cons_zero, ofEntries, stands.built, ofEntries_of_poc_eq stands.poc]
    | succ place =>
      simp only [List.set_cons_succ, ofEntries]
      rw [inductionHypothesis atEntry]

/-- The same holds of a whole table, after its first entry. -/
theorem ofTable?_set {table : List GopEntry} {place : Nat} {other entry : GopEntry}
    (atEntry : table[place + 1]? = some entry) (stands : BuildsAs other entry) :
    ofTable? (table.set (place + 1) other) = ofTable? table := by
  cases table with
  | nil => rfl
  | cons first later =>
    have atLater : later[place]? = some entry := atEntry
    simp only [List.set_cons_succ, ofTable?, ofEntries_set atLater stands]

end ReferenceSet

namespace ReferencePlan

variable {gopList : List GopEntry} {gopSize extraSets : Nat} {fieldCoding : Bool}
  {plan : ReferencePlan}

/-- Exchanging an entry of the table, but for the first one, for one that stands for it changes
neither the outcome nor the records. -/
theorem build_set {place : Nat} {other entry : GopEntry}
    (inTable : place + 1 < gopSize + extraSets) (atEntry : gopList[place + 1]? = some entry)
    (stands : ReferenceSet.BuildsAs other entry) :
    build (gopList.set (place + 1) other) gopSize extraSets fieldCoding =
      build gopList gopSize extraSets fieldCoding := by
  have atTaken : (gopList.take (gopSize + extraSets))[place + 1]? = some entry := by
    rw [List.getElem?_take_of_lt inTable, atEntry]
  simp only [build, List.length_set, List.take_set, ReferenceSet.ofTable?_set atTaken stands]

/-- In an accepted table, the reports on the set of an entry with its own indications are what there
is to report of its references in sorted order and those of the set, each of them once; there are
none exactly when both are the same. Rearranging references at different distances changes neither
the sets nor the reports. -/
theorem explicit_reports_are_exact
    (accepted : (build gopList gopSize extraSets fieldCoding).outcome = .ok plan) {index : Nat}
    {entry : GopEntry} {set : ReferenceSet} {deltaRps : Int} {refIdc : List Nat}
    {configured : List Reference} (inTable : index < gopSize + extraSets)
    (atEntry : gopList[index]? = some entry)
    (explicit : entry.prediction = .explicit deltaRps refIdc)
    (atSet : plan.sets[index]? = some set)
    (sorts : ReferenceSet.StablySorts configured entry.references) :
    (plan.reportsOn index = [] ↔ configured = set.references) ∧
      (plan.reportsOn index).Nodup ∧
      (∀ report, report ∈ plan.reportsOn index ↔
        ReferenceSet.Discrepancy index configured set.references report) ∧
      ((entry.references.map Reference.delta).Nodup →
        ∀ permuted : List Reference, permuted.Perm entry.references →
          build (gopList.set index { entry with references := permuted }) gopSize extraSets
              fieldCoding =
            build gopList gopSize extraSets fieldCoding) := by
  obtain ⟨place, rfl⟩ := exists_place_before accepted inTable atEntry (by simp [explicit])
  obtain ⟨earlier, atEarlier⟩ : ∃ earlier, plan.sets[place]? = some earlier :=
    ⟨_, List.getElem?_eq_getElem (by have := length_sets accepted; omega)⟩
  obtain ⟨before, -, setAt, reported⟩ := built_after_earlier accepted inTable atEntry atEarlier
  obtain rfl := Option.some.inj (atSet.symm.trans setAt)
  rw [ReferenceSet.ofEntry_explicit explicit] at reported
  have described : ∀ report, report ∈ plan.reportsOn (place + 1) ↔
      ReferenceSet.Discrepancy (place + 1) configured
        (ReferenceSet.expandIdc earlier deltaRps refIdc) report := by
    intro report
    rw [reported, ReferenceSet.mem_compare_iff (ReferenceSet.inStep_ofReferences _)
      (ReferenceSet.inStep_ofReferences _), sorts.eq_sortReferences]
    rfl
  rw [ReferenceSet.ofEntry_explicit explicit]
  refine ⟨?_, ?_, described, ?_⟩
  · rw [List.eq_nil_iff_forall_not_mem]
    simp only [described]
    exact ReferenceSet.Discrepancy.forall_not_iff
  · rw [reported]
    exact ReferenceSet.nodup_compare
  · intro distinct permuted same
    exact build_set inTable atEntry (ReferenceSet.buildsAs_of_perm explicit same distinct)

/-- A table whose second entry gives its own indications beside the given references. -/
def indicatingTable (references : List Reference) : List GopEntry :=
  [ { poc := 1, references := [⟨-1, true⟩, ⟨-5, true⟩] },
    { poc := 2, references := references, prediction := .explicit (-1) [1, 1, 0] } ]

/-- Two references that are as many on both sides differ in a distance and in a flag, whichever of
them comes first. -/
theorem indicatingTable_reports :
    ∃ plan set, (build (indicatingTable [⟨-2, false⟩, ⟨-7, true⟩]) 1 1 false).outcome = .ok plan ∧
      plan.sets[1]? = some set ∧
      ReferenceSet.StablySorts [⟨-7, true⟩, ⟨-2, false⟩] [⟨-2, false⟩, ⟨-7, true⟩] ∧
      set.references = [⟨-6, true⟩, ⟨-2, true⟩] ∧ plan.reportsOn 1 ≠ [] ∧
      .delta 1 0 (-7) (-6) ∈ plan.reportsOn 1 ∧ .usedFlag 1 1 false true ∈ plan.reportsOn 1 ∧
      (∀ place configured built, .negativeCount place configured built ∉ plan.reportsOn 1) ∧
      build (indicatingTable [⟨-7, true⟩, ⟨-2, false⟩]) 1 1 false =
        build (indicatingTable [⟨-2, false⟩, ⟨-7, true⟩]) 1 1 false := by
  obtain ⟨plan, accepted, rfl⟩ :
      ∃ plan, (build (indicatingTable [⟨-2, false⟩, ⟨-7, true⟩]) 1 1 false).outcome = .ok plan ∧
        plan = ⟨_, _⟩ := ⟨_, rfl, rfl⟩
  have inTable : 1 < 1 + 1 := by decide
  have sorts := ReferenceSet.sortReferences_stablySorts [⟨-2, false⟩, ⟨-7, true⟩]
  obtain ⟨silent, -, described, rearranged⟩ :=
    explicit_reports_are_exact accepted inTable rfl rfl rfl sorts
  have farther : ReferenceSet.ReferenceDiscrepancy 1 0 ⟨-7, true⟩ ⟨-6, true⟩
      (.delta 1 0 (-7) (-6)) := .delta (by decide)
  have unused : ReferenceSet.ReferenceDiscrepancy 1 1 ⟨-2, false⟩ ⟨-2, true⟩
      (.usedFlag 1 1 false true) := .usedFlag (by decide)
  refine ⟨_, _, accepted, rfl, sorts, rfl, ?_, ?_, ?_, ?_, ?_⟩
  · rw [ne_eq, silent]
    decide
  · exact (described _).mpr (.reference rfl rfl rfl farther)
  · exact (described _).mpr (.reference rfl rfl rfl unused)
  · intro place configured built reported
    cases (described _).mp reported with
    | negativeCount differ => exact differ rfl
    | reference _ _ _ differ => cases differ
  · exact rearranged (by decide) _ (.swap _ _ _)

end ReferencePlan

end EncoderControl
