import EncoderControl.Proofs.ReferenceSet.Shape
import EncoderControl.Proofs.ReferenceSet.Sorting

/-!
# Editing a set

A set can also be kept in columns: distances, used flags and positions in lists of their own, in
which what stands at one index belongs together, and two counts that are not taken anew when they
are asked for. Nothing but the edits themselves keeps the columns in step. They do, whatever edits
are made in whatever order, and sorting moves every used flag along with its distance.
-/

namespace EncoderControl

namespace ReferenceSet

/-- A change to a set. -/
inductive Edit where
  | setReferences (references : List Reference)
  | setPoc (index : Nat) (poc : Int)
  | sort
  | setPredicted (predicted : Bool)
  | setDeltaRidxMinus1 (distance : Nat)
  | setDeltaRps (difference : Int)
  | setRefIdc (refIdc : List Nat)

/-- The set after an edit. -/
def Edit.apply : Edit → ReferenceSet → ReferenceSet
  | .setReferences references, set => set.setReferences references
  | .setPoc index poc, set => set.setPoc index poc
  | .sort, set => set.sort
  | .setPredicted predicted, set => { set with predicted := predicted }
  | .setDeltaRidxMinus1 distance, set => { set with deltaRidxMinus1 := distance }
  | .setDeltaRps difference, set => { set with deltaRps := difference }
  | .setRefIdc refIdc, set => { set with refIdc := refIdc }

/-- The set after several edits, the first one first. -/
def edited (edits : List Edit) (set : ReferenceSet) : ReferenceSet :=
  edits.foldl (fun set edit => edit.apply set) set

/-! ### Columns -/

/-- The references of a set in columns. -/
structure Columns where
  deltas : List Int := []
  used : List Bool := []
  pocs : List Int := []
  numNegative : Nat := 0
  numPositive : Nat := 0
deriving DecidableEq

namespace Columns

/-- The columns are equally long, and the counts are those of the distances. -/
structure InStep (columns : Columns) : Prop where
  used : columns.used.length = columns.deltas.length
  pocs : columns.pocs.length = columns.deltas.length
  negative : columns.numNegative = columns.deltas.countP (· ≤ 0)
  positive : columns.numPositive = columns.deltas.countP (0 < ·)

/-- Puts one more reference at the end. The counts are left as they are. -/
def push (columns : Columns) (reference : Reference) : Columns :=
  { columns with
    deltas := columns.deltas ++ [reference.delta]
    used := columns.used ++ [reference.used]
    pocs := columns.pocs ++ [0] }

/-- Counts the distances anew. -/
def recount (columns : Columns) : Columns :=
  let numPositive := columns.deltas.countP (0 < ·)
  { columns with
    numPositive := numPositive
    numNegative := columns.deltas.length - numPositive }

/-- Columns with the given references, put there one after the other. -/
def ofReferences (references : List Reference) : Columns :=
  (references.foldl push {}).recount

/-- Distances with the used flags at the same indices. -/
def references (columns : Columns) : List Reference :=
  List.zipWith Reference.mk columns.deltas columns.used

/-- What an edit does to the columns. How the set is predicted is not among them. -/
def apply : Edit → Columns → Columns
  | .setReferences references, _ => ofReferences references
  | .setPoc index poc, columns => { columns with pocs := columns.pocs.set index poc }
  | .sort, columns => ofReferences (sortReferences columns.references)
  | .setPredicted _, columns | .setDeltaRidxMinus1 _, columns | .setDeltaRps _, columns
  | .setRefIdc _, columns => columns

/-- The columns after several edits, the first one first. -/
def edited (edits : List Edit) (columns : Columns) : Columns :=
  edits.foldl (fun columns edit => apply edit columns) columns

/-- References pushed one after the other come after those in the columns, in their order. -/
theorem foldl_push (columns : Columns) (references : List Reference) :
    references.foldl push columns =
      { columns with
        deltas := columns.deltas ++ references.map Reference.delta
        used := columns.used ++ references.map Reference.used
        pocs := columns.pocs ++ references.map fun _ => 0 } := by
  induction references generalizing columns with
  | nil => simp
  | cons reference later inductionHypothesis => simp [inductionHypothesis, push]

end Columns

/-- The columns of a set. -/
def columns (set : ReferenceSet) : Columns where
  deltas := set.deltas
  used := set.used
  pocs := set.pocs
  numNegative := set.numNegative
  numPositive := set.numPositive

/-- No reference is lost in the columns. -/
theorem references_columns (set : ReferenceSet) : set.columns.references = set.references := by
  simp [Columns.references, columns, deltas, used, List.zipWith_map, List.zipWith_self]

/-- The columns of a set are those of the references that it was given. -/
theorem columns_setReferences (set : ReferenceSet) (references : List Reference) :
    (set.setReferences references).columns = .ofReferences references := by
  simp [Columns.ofReferences, Columns.foldl_push, Columns.recount, columns, setReferences, deltas,
    used, List.countP_map, Function.comp_def]

/-- An edit does to the columns what it does to the set. -/
theorem columns_apply (edit : Edit) (set : ReferenceSet) :
    (edit.apply set).columns = Columns.apply edit set.columns := by
  cases edit with
  | setReferences references => exact columns_setReferences set references
  | sort =>
    rw [Columns.apply, references_columns]
    exact columns_setReferences set _
  | setPoc | setPredicted | setDeltaRidxMinus1 | setDeltaRps | setRefIdc => rfl

/-- Editing a set and then taking its columns is editing the columns. -/
theorem columns_edited (edits : List Edit) (set : ReferenceSet) :
    (edited edits set).columns = Columns.edited edits set.columns := by
  induction edits generalizing set with
  | nil => rfl
  | cons edit later inductionHypothesis =>
    rw [edited, List.foldl_cons, Columns.edited, List.foldl_cons, ← columns_apply]
    exact inductionHypothesis (edit.apply set)

/-! ### In step -/

/-- Every edit keeps positions and counts in step with the references. -/
theorem InStep.apply {set : ReferenceSet} (inStep : set.InStep) (edit : Edit) :
    (edit.apply set).InStep := by
  cases edit with
  | setReferences references => exact inStep_setReferences set references
  | sort => exact inStep_setReferences set (sortReferences set.references)
  | setPoc index poc =>
    have sameLength : (set.pocs.set index poc).length = set.numPictures := by
      rw [List.length_set, inStep.pocs]
    exact ⟨sameLength, inStep.negative, inStep.positive⟩
  | setPredicted | setDeltaRidxMinus1 | setDeltaRps | setRefIdc =>
    exact ⟨inStep.pocs, inStep.negative, inStep.positive⟩

/-- Edits keep the counts of a set in step with its references. -/
theorem InStep.edited {set : ReferenceSet} (inStep : set.InStep) (edits : List Edit) :
    (edited edits set).InStep := by
  induction edits generalizing set with
  | nil => exact inStep
  | cons edit later inductionHypothesis => exact inductionHypothesis (inStep.apply edit)

/-- The columns of a set in step are in step. -/
theorem InStep.columns {set : ReferenceSet} (inStep : set.InStep) : set.columns.InStep where
  used := (length_used set).trans (length_deltas set).symm
  pocs := inStep.pocs.trans (length_deltas set).symm
  negative := inStep.negative
  positive := inStep.positive

/-! ### Sorting -/

/-- References that ascend by distance stay as they are. -/
theorem sortReferences_of_ascending {references : List Reference}
    (ascending : references.Pairwise fun left right => left.delta ≤ right.delta) :
    sortReferences references = references :=
  (StablySorts.eq_sortReferences ⟨ascending, fun _ => rfl⟩).symm

/-- Sorting twice is sorting once. -/
theorem sort_sort (set : ReferenceSet) : set.sort.sort = set.sort := by
  have again : sortReferences set.sort.references = set.sort.references :=
    sortReferences_of_ascending (sortReferences_ascending set.references)
  rw [sort, again]
  rfl

/-- What sorting makes of a set: the distances ascend, references at one distance keep their order,
none is lost or added, and how the set is predicted stays as it is. -/
structure SortsStably (set : ReferenceSet) : Prop where
  isSorted : set.sort.isSorted = true
  perm : set.sort.references.Perm set.references
  keepsOrder : ∀ delta : Int,
    (set.sort.references.filter fun reference => reference.delta = delta) =
      set.references.filter fun reference => reference.delta = delta
  idempotent : set.sort.sort = set.sort
  predicted : set.sort.predicted = set.predicted
  deltaRidxMinus1 : set.sort.deltaRidxMinus1 = set.deltaRidxMinus1
  deltaRps : set.sort.deltaRps = set.deltaRps
  refIdc : set.sort.refIdc = set.refIdc

/-- Sorting a set keeps the order of references at the same distance, and all other fields. -/
theorem sortsStably (set : ReferenceSet) : SortsStably set where
  isSorted := isSorted_of_ascending (sortReferences_ascending set.references)
  perm := sortReferences_perm set.references
  keepsOrder := (sortReferences_stablySorts set.references).keepsOrder
  idempotent := sort_sort set
  predicted := rfl
  deltaRidxMinus1 := rfl
  deltaRps := rfl
  refIdc := rfl

/-- However a set is edited, its columns can be kept on their own: they stay equally long, the
counts stay those of the distances, and sorting keeps every distance with its used flag. -/
theorem columns_stay_in_step (references : List Reference) (edits : List Edit) :
    let set := edited edits (ofReferences references)
    Columns.edited edits (.ofReferences references) = set.columns ∧
      set.columns.InStep ∧ SortsStably set :=
  let set := edited edits (ofReferences references)
  have created : (ofReferences references).columns = .ofReferences references :=
    columns_setReferences {} references
  have inStep : set.InStep := (inStep_ofReferences references).edited edits
  ⟨by rw [columns_edited, created], inStep.columns, sortsStably set⟩

/-- Of two references at one distance, the one that came first stays first. -/
example : (ofReferences [⟨2, true⟩, ⟨-1, false⟩, ⟨2, false⟩]).sort.references =
    [⟨-1, false⟩, ⟨2, true⟩, ⟨2, false⟩] := by decide

end ReferenceSet

end EncoderControl
