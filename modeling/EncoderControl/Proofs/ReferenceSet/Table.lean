import EncoderControl.ReferenceSet.Plan
import Mathlib.Data.List.Sort

/-!
# The sets of an accepted table

Sorting neither drops nor invents references. A table is accepted exactly when it is long enough and
its first entry spells its set out; every later set is then built from its own entry, the entry
before it and the set before it, whatever was decided about that earlier set. Records have no part
in this.
-/

namespace EncoderControl

namespace ReferenceSet

/-- Sorting is insertion sort by distance. -/
theorem sortReferences_eq_insertionSort (references : List Reference) :
    sortReferences references =
      references.insertionSort fun left right => left.delta ≤ right.delta := by
  have inserts : insertReference =
      List.orderedInsert fun left right : Reference => left.delta ≤ right.delta := by
    funext reference sorted
    induction sorted with
    | nil => rfl
    | cons head tail inductionHypothesis =>
      simp only [insertReference, List.orderedInsert_cons, inductionHypothesis]
  rw [sortReferences, inserts]
  rfl

/-- Sorting keeps every reference as often as it was there. -/
theorem sortReferences_perm (references : List Reference) :
    (sortReferences references).Perm references := by
  rw [sortReferences_eq_insertionSort]
  exact List.perm_insertionSort _ references

/-- Sorted references ascend by distance. -/
theorem sortReferences_ascending (references : List Reference) :
    (sortReferences references).Pairwise fun left right => left.delta ≤ right.delta := by
  have : Std.Total fun left right : Reference => left.delta ≤ right.delta :=
    ⟨fun left right => le_total left.delta right.delta⟩
  have : IsTrans Reference fun left right => left.delta ≤ right.delta :=
    ⟨fun _ _ _ first second => le_trans first second⟩
  rw [sortReferences_eq_insertionSort]
  exact List.pairwise_insertionSort _ references

/-- Every entry has one set built for it. -/
@[simp] theorem length_ofEntries (index : Nat) (before : GopEntry) (earlier : ReferenceSet)
    (entries : List GopEntry) :
    (ofEntries index before earlier entries).length = entries.length := by
  induction entries generalizing index before earlier with
  | nil => rfl
  | cons entry later inductionHypothesis => simp [ofEntries, inductionHypothesis]

/-- Every set that follows another one is built from it. -/
theorem getElem?_ofEntries (index : Nat) {place : Nat} {first entry before : GopEntry}
    {initial : ReferenceSet} {earlier : ReferenceSet × List Inconsistency} {entries : List GopEntry}
    (reports : List Inconsistency)
    (atBefore : (first :: entries)[place]? = some before)
    (atEntry : (first :: entries)[place + 1]? = some entry)
    (atEarlier : ((initial, reports) :: ofEntries index first initial entries)[place]? =
      some earlier) :
    ((initial, reports) :: ofEntries index first initial entries)[place + 1]? =
      some (ofEntry (index + place) before earlier.1 entry) := by
  induction place generalizing index first initial reports entries with
  | zero =>
    cases entries with
    | nil => cases atEntry
    | cons head later =>
      obtain rfl : first = before := Option.some.inj atBefore
      obtain rfl : head = entry := Option.some.inj atEntry
      obtain rfl : (initial, reports) = earlier := Option.some.inj atEarlier
      rfl
  | succ place inductionHypothesis =>
    cases entries with
    | nil => cases atEntry
    | cons head later =>
      have next := inductionHypothesis (index + 1) _ atBefore atEntry atEarlier
      rw [Nat.add_right_comm, Nat.add_assoc] at next
      exact next

variable {table : List GopEntry} {built : List (ReferenceSet × List Inconsistency)}

/-- An accepted table gets one set for each entry. -/
theorem length_ofTable? (accepted : ofTable? table = some built) : built.length = table.length := by
  cases table with
  | nil => cases accepted; rfl
  | cons first later =>
    cases spelled : first.prediction <;> simp only [ofTable?, spelled, reduceCtorEq] at accepted
    cases accepted
    simp

/-- An accepted table builds every set but the first one from the set before it. -/
theorem getElem?_ofTable? (accepted : ofTable? table = some built) {place : Nat}
    {before entry : GopEntry} {earlier : ReferenceSet × List Inconsistency}
    (atBefore : table[place]? = some before) (atEntry : table[place + 1]? = some entry)
    (atEarlier : built[place]? = some earlier) :
    built[place + 1]? = some (ofEntry (place + 1) before earlier.1 entry) := by
  cases table with
  | nil => cases atEntry
  | cons first later =>
    cases spelled : first.prediction <;> simp only [ofTable?, spelled, reduceCtorEq] at accepted
    cases accepted
    have next := getElem?_ofEntries 1 [] atBefore atEntry atEarlier
    rwa [Nat.add_comm 1 place] at next

/-- The first set of an accepted table is spelled out. -/
theorem head?_ofTable? (accepted : ofTable? table = some built) :
    built.head? = table.head?.map fun first => (ofReferences first.references, []) := by
  cases table with
  | nil => cases accepted; rfl
  | cons first later =>
    cases spelled : first.prediction <;> simp only [ofTable?, spelled, reduceCtorEq] at accepted
    cases accepted
    rfl

/-- A result of an accepted table is that of a first entry, which spells out its set, or it is built
after another one. -/
theorem ofTable?_cases (accepted : ofTable? table = some built) {place : Nat} {entry : GopEntry}
    {result : ReferenceSet × List Inconsistency} (atEntry : table[place]? = some entry)
    (atResult : built[place]? = some result) :
    (place = 0 ∧ result = (ofReferences entry.references, [])) ∨
      ∃ before earlier, 0 < place ∧ result = ofEntry place before earlier entry := by
  cases place with
  | zero =>
    have first := head?_ofTable? accepted
    rw [List.head?_eq_getElem?, List.head?_eq_getElem?, atEntry, atResult] at first
    exact .inl ⟨rfl, Option.some.inj first⟩
  | succ place =>
    have inTable := (List.getElem?_eq_some_iff.mp atEntry).1
    have counted := length_ofTable? accepted
    have chained := getElem?_ofTable? accepted
      (List.getElem?_eq_getElem (Nat.lt_of_succ_lt inTable)) atEntry
      (List.getElem?_eq_getElem (by omega))
    exact .inr ⟨_, _, place.succ_pos, Option.some.inj (atResult.symm.trans chained)⟩

end ReferenceSet

namespace ReferencePlan

/-- Building a plan comes down to building the sets of the leading entries of a table that is long
enough. -/
theorem outcome_build (gopList : List GopEntry) (gopSize extraSets : Nat) (fieldCoding : Bool) :
    (build gopList gopSize extraSets fieldCoding).outcome =
      if gopList.length < gopSize + extraSets then
        .error (.invalidGopEntry (.tooShort gopList.length (gopSize + extraSets)))
      else
        match ReferenceSet.ofTable? (gopList.take (gopSize + extraSets)) with
        | none => .error (.invalidGopEntry (.noReferenceSet 0))
        | some built => .ok (ofBuilt built fieldCoding) := by
  unfold build
  dsimp only
  split
  · rfl
  · cases ReferenceSet.ofTable? (gopList.take (gopSize + extraSets)) with
    | none => rfl
    | some built =>
      simp only [Logged.outcome_bind_eq_ok_iff, Logged.outcome_forM_log, Logged.outcome_log,
        Logged.outcome_pure, exists_const, and_self]

/-- Building a plan succeeds exactly on a table that is long enough and starts with a spelled out
set, and then answers with the sets of its leading entries. -/
theorem build_eq_ok_iff {gopList : List GopEntry} {gopSize extraSets : Nat} {fieldCoding : Bool}
    {plan : ReferencePlan} :
    (build gopList gopSize extraSets fieldCoding).outcome = .ok plan ↔
      gopSize + extraSets ≤ gopList.length ∧
        ∃ built, ReferenceSet.ofTable? (gopList.take (gopSize + extraSets)) = some built ∧
          plan = ofBuilt built fieldCoding := by
  rw [outcome_build]
  by_cases short : gopList.length < gopSize + extraSets
  · simp [short]
  · rw [if_neg short]
    cases ReferenceSet.ofTable? (gopList.take (gopSize + extraSets)) with
    | none => simp
    | some built => simp [Nat.le_of_not_lt short, eq_comm]

/-- An accepted plan is collected from the results for the leading entries of the table, one for
each of them. -/
theorem exists_built {gopList : List GopEntry} {gopSize extraSets : Nat} {fieldCoding : Bool}
    {plan : ReferencePlan}
    (accepted : (build gopList gopSize extraSets fieldCoding).outcome = .ok plan) :
    gopSize + extraSets ≤ gopList.length ∧
      ∃ built, ReferenceSet.ofTable? (gopList.take (gopSize + extraSets)) = some built ∧
        built.length = gopSize + extraSets ∧ plan = ofBuilt built fieldCoding := by
  obtain ⟨enough, built, table, collected⟩ := build_eq_ok_iff.mp accepted
  have counted := ReferenceSet.length_ofTable? table
  rw [List.length_take, Nat.min_eq_left enough] at counted
  exact ⟨enough, built, table, counted, collected⟩

/-- The leading sets of an accepted plan are those of the table. -/
theorem getElem?_sets_ofBuilt {built : List (ReferenceSet × List Inconsistency)}
    {fieldCoding : Bool} {place : Nat} (inTable : place < built.length) :
    (ofBuilt built fieldCoding).sets[place]? = (built[place]?).map Prod.fst := by
  rw [ofBuilt, List.getElem?_append_left (by simpa using inTable), List.getElem?_map]

end ReferencePlan

end EncoderControl
