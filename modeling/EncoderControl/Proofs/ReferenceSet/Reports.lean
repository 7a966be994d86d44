import EncoderControl.Proofs.ReferenceSet.Comparison

/-!
# Which set a report is about

A plan keeps the reports of all its sets in one list, in the order in which the sets were built. A
report names its set, and that is always the set that was being built. The reports on one set can
therefore be read off the list, and so can those on the leading sets.
-/

namespace EncoderControl

namespace ReferenceSet

/-- Whatever is reported while a set is built is about that set. -/
theorem setIndex_of_mem_ofEntry {index : Nat} {before entry : GopEntry} {earlier : ReferenceSet}
    {report : Inconsistency} (member : report ∈ (ofEntry index before earlier entry).2) :
    report.setIndex = index := by
  unfold ofEntry at member
  cases predicted : entry.prediction with
  | none =>
    rw [predicted] at member
    cases member
  | auto =>
    simp only [predicted] at member
    split at member
    · cases member
    · rw [List.mem_singleton.mp member]
      rfl
  | explicit deltaRps refIdc =>
    simp only [predicted] at member
    have discrepancy := (mem_compare_iff (inStep_setReferences _ _)
      (inStep_setReferences _ _)).mp member
    exact discrepancy.setIndex_eq

/-- Reports stand with the set that they are about. -/
def ReportsInPlace (built : List (ReferenceSet × List Inconsistency)) : Prop :=
  ∀ (place : Nat) (result : ReferenceSet × List Inconsistency), built[place]? = some result →
    ∀ report ∈ result.2, report.setIndex = place

/-- In an accepted table, reports stand with the set that they are about. -/
theorem reportsInPlace_ofTable? {table : List GopEntry}
    {built : List (ReferenceSet × List Inconsistency)} (accepted : ofTable? table = some built) :
    ReportsInPlace built := by
  intro place result atResult report member
  have inTable : place < table.length := by
    rw [← length_ofTable? accepted]
    exact (List.getElem?_eq_some_iff.mp atResult).1
  rcases ofTable?_cases accepted (List.getElem?_eq_getElem inTable) atResult with
    ⟨-, rfl⟩ | ⟨before, earlier, -, rfl⟩
  · cases member
  · exact setIndex_of_mem_ofEntry member

namespace ReportsInPlace

variable {built : List (ReferenceSet × List Inconsistency)} {report : Inconsistency} {count : Nat}

/-- The leading results report on the leading sets. -/
theorem setIndex_lt (inPlace : ReportsInPlace built)
    (member : report ∈ (built.take count).flatMap Prod.snd) : report.setIndex < count := by
  obtain ⟨result, leading, reported⟩ := List.mem_flatMap.mp member
  obtain ⟨place, atResult⟩ := List.mem_iff_getElem?.mp leading
  rw [List.getElem?_take] at atResult
  split at atResult
  · rename_i inFront
    rw [inPlace place result atResult report reported]
    exact inFront
  · cases atResult

/-- The results after them report on later sets. -/
theorem le_setIndex (inPlace : ReportsInPlace built)
    (member : report ∈ (built.drop count).flatMap Prod.snd) : count ≤ report.setIndex := by
  obtain ⟨result, later, reported⟩ := List.mem_flatMap.mp member
  obtain ⟨place, atResult⟩ := List.mem_iff_getElem?.mp later
  rw [List.getElem?_drop] at atResult
  rw [inPlace (count + place) result atResult report reported]
  exact Nat.le_add_right count place

/-- The reports on the leading sets are those of the leading results. -/
theorem filter_setIndex_lt (inPlace : ReportsInPlace built) (count : Nat) :
    ((built.flatMap Prod.snd).filter fun report => report.setIndex < count) =
      (built.take count).flatMap Prod.snd := by
  have kept : (((built.take count).flatMap Prod.snd).filter fun report =>
      report.setIndex < count) = (built.take count).flatMap Prod.snd :=
    List.filter_eq_self.mpr fun report member => by simpa using inPlace.setIndex_lt member
  have dropped : (((built.drop count).flatMap Prod.snd).filter fun report =>
      report.setIndex < count) = [] :=
    List.filter_eq_nil_iff.mpr fun report member => by simpa using inPlace.le_setIndex member
  conv_lhs => rw [← List.take_append_drop count built]
  rw [List.flatMap_append, List.filter_append, kept, dropped, List.append_nil]

/-- The reports on one set are those of its own result. -/
theorem filter_setIndex_eq (inPlace : ReportsInPlace built) {index : Nat}
    {result : ReferenceSet × List Inconsistency} (atResult : built[index]? = some result) :
    ((built.flatMap Prod.snd).filter fun report => report.setIndex = index) = result.2 := by
  obtain ⟨inList, rfl⟩ := List.getElem?_eq_some_iff.mp atResult
  have before : (((built.take index).flatMap Prod.snd).filter fun report =>
      report.setIndex = index) = [] :=
    List.filter_eq_nil_iff.mpr fun report member => by
      simpa using (inPlace.setIndex_lt member).ne
  have own : (built[index].2.filter fun report => report.setIndex = index) = built[index].2 :=
    List.filter_eq_self.mpr fun report member => by
      simpa using inPlace index built[index] atResult report member
  have after : (((built.drop (index + 1)).flatMap Prod.snd).filter fun report =>
      report.setIndex = index) = [] :=
    List.filter_eq_nil_iff.mpr fun report member => by
      simpa using Nat.ne_of_gt (inPlace.le_setIndex member)
  conv_lhs =>
    rw [← List.take_append_drop index built, List.drop_eq_getElem_cons inList]
  rw [List.flatMap_append, List.flatMap_cons, List.filter_append, List.filter_append, before, own,
    after, List.append_nil, List.nil_append]

end ReportsInPlace

end ReferenceSet

namespace ReferencePlan

/-- The reports on the set with the given index. -/
def reportsOn (plan : ReferencePlan) (index : Nat) : List Inconsistency :=
  plan.inconsistencies.filter fun report => report.setIndex = index

variable {gopList : List GopEntry} {gopSize extraSets : Nat} {fieldCoding : Bool}
  {plan : ReferencePlan}

/-- Only an entry that spells out its set can come first in an accepted table. -/
theorem exists_place_before
    (accepted : (build gopList gopSize extraSets fieldCoding).outcome = .ok plan) {index : Nat}
    {entry : GopEntry} (inTable : index < gopSize + extraSets)
    (atEntry : gopList[index]? = some entry) (predicted : entry.prediction ≠ .none) :
    ∃ place, index = place + 1 := by
  cases index with
  | zero =>
    obtain ⟨-, built, table, -⟩ := build_eq_ok_iff.mp accepted
    cases gopList with
    | nil => cases atEntry
    | cons first later =>
      obtain rfl : first = entry := Option.some.inj atEntry
      obtain ⟨count, counted⟩ := Nat.exists_eq_add_one_of_ne_zero inTable.ne'
      rw [counted, List.take_succ_cons] at table
      cases spelled : first.prediction with
      | none => exact absurd spelled predicted
      | auto => simp [ReferenceSet.ofTable?, spelled] at table
      | explicit deltaRps refIdc => simp [ReferenceSet.ofTable?, spelled] at table
  | succ place => exact ⟨place, rfl⟩

/-- Every set of an accepted plan but the first one is built from its own entry, the entry before it
and the set before it, and the reports on it are those that were made then. -/
theorem built_after_earlier
    (accepted : (build gopList gopSize extraSets fieldCoding).outcome = .ok plan) {place : Nat}
    {entry : GopEntry} {earlier : ReferenceSet} (inTable : place + 1 < gopSize + extraSets)
    (atEntry : gopList[place + 1]? = some entry) (atEarlier : plan.sets[place]? = some earlier) :
    ∃ before, gopList[place]? = some before ∧
      plan.sets[place + 1]? =
        some (ReferenceSet.ofEntry (place + 1) before earlier entry).1 ∧
      plan.reportsOn (place + 1) =
        (ReferenceSet.ofEntry (place + 1) before earlier entry).2 := by
  obtain ⟨enough, built, table, counted, rfl⟩ := exists_built accepted
  rw [getElem?_sets_ofBuilt (by omega)] at atEarlier
  obtain ⟨earlierBuilt, earlierAt, rfl⟩ := Option.map_eq_some_iff.mp atEarlier
  obtain ⟨before, beforeAt⟩ : ∃ before, gopList[place]? = some before :=
    ⟨_, List.getElem?_eq_getElem (by omega)⟩
  have beforeTaken : (gopList.take (gopSize + extraSets))[place]? = some before := by
    rw [List.getElem?_take_of_lt (by omega), beforeAt]
  have entryTaken : (gopList.take (gopSize + extraSets))[place + 1]? = some entry := by
    rw [List.getElem?_take_of_lt inTable, atEntry]
  have chained := ReferenceSet.getElem?_ofTable? table beforeTaken entryTaken earlierAt
  refine ⟨before, beforeAt, ?_, ?_⟩
  · rw [getElem?_sets_ofBuilt (by omega), chained, Option.map_some]
  · exact (ReferenceSet.reportsInPlace_ofTable? table).filter_setIndex_eq chained

end ReferencePlan

end EncoderControl
