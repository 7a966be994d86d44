import EncoderControl.Gop

/-!
# Reference picture sets

A reference picture set lists the pictures that stay available while a picture is coded. It is
signalled either spelled out or as a prediction from an earlier set. The counts of earlier and
later pictures are signalled as well, so they are stored; `ReferenceSet.InStep` says that they
agree with the references, and every way of changing a set keeps it.
-/

namespace EncoderControl

/-- A short-term reference picture set. -/
structure ReferenceSet where
  references : List Reference := []
  /-- Absolute output positions, one per reference. -/
  pocs : List Int := []
  /-- Number of references at or before the current picture. -/
  numNegative : Nat := 0
  /-- Number of references after the current picture. -/
  numPositive : Nat := 0
  /-- The set is signalled as a prediction from an earlier set. -/
  predicted : Bool := false
  /-- How far back in the list that earlier set stands, less one. -/
  deltaRidxMinus1 : Nat := 0
  /-- Output position of the earlier set's picture less that of the current one. -/
  deltaRps : Int := 0
  /-- One indication per reference of the earlier set and one for its picture: 0 absent,
  1 present and used, otherwise present but not used. -/
  refIdc : List Nat := []
deriving DecidableEq, Inhabited

namespace ReferenceSet

/-- Puts a reference in its place among references in ascending order of distance, before those at
the same distance. -/
def insertReference (reference : Reference) : List Reference → List Reference
  | [] => [reference]
  | head :: tail =>
    if reference.delta ≤ head.delta then reference :: head :: tail
    else head :: insertReference reference tail

/-- References in ascending order of distance; equal distances keep their order. -/
def sortReferences (references : List Reference) : List Reference :=
  references.foldr insertReference []

/-- Distances of the references, in the order of the set. -/
def deltas (set : ReferenceSet) : List Int :=
  set.references.map Reference.delta

/-- Which references the picture predicts from, in the order of the set. -/
def used (set : ReferenceSet) : List Bool :=
  set.references.map Reference.used

/-- Number of references. -/
def numPictures (set : ReferenceSet) : Nat :=
  set.references.length

/-- Number of long-term references. Sets hold short-term references only. -/
def numLongTerm (_ : ReferenceSet) : Nat := 0

/-- Replaces the references and counts them anew. Their absolute positions start at zero, and how
the set is predicted stays as it is. -/
def setReferences (set : ReferenceSet) (references : List Reference) : ReferenceSet :=
  let numPositive := references.countP fun reference => 0 < reference.delta
  { set with
    references := references
    pocs := references.map fun _ => 0
    numPositive := numPositive
    numNegative := references.length - numPositive }

/-- A spelled out set with the given references. -/
def ofReferences (references : List Reference) : ReferenceSet :=
  setReferences {} references

/-- Sets the absolute position of one reference. There is nothing to set past the last one. -/
def setPoc (set : ReferenceSet) (index : Nat) (poc : Int) : ReferenceSet :=
  { set with pocs := set.pocs.set index poc }

/-- Sorts the references by distance. -/
def sort (set : ReferenceSet) : ReferenceSet :=
  set.setReferences (sortReferences set.references)

/-- Whether the distances ascend. -/
def isSorted (set : ReferenceSet) : Bool :=
  set.deltas.Pairwise (· ≤ ·)

/-- Positions and counts agree with the references. -/
structure InStep (set : ReferenceSet) : Prop where
  pocs : set.pocs.length = set.numPictures
  negative : set.numNegative = set.deltas.countP (· ≤ 0)
  positive : set.numPositive = set.deltas.countP (0 < ·)

/-- A set lists the references that it was given. -/
@[simp] theorem references_setReferences (set : ReferenceSet) (references : List Reference) :
    (set.setReferences references).references = references := rfl

/-- A set made of references lists them as they came. -/
@[simp] theorem references_ofReferences (references : List Reference) :
    (ofReferences references).references = references := rfl

/-- A sorted set lists the same references, sorted. -/
@[simp] theorem references_sort (set : ReferenceSet) :
    set.sort.references = sortReferences set.references := rfl

end ReferenceSet

end EncoderControl
