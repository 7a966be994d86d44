import EncoderControl.ReferenceSet
import EncoderControl.Journal
import EncoderControl.Error

/-!
# Reference sets of a GOP table

A `ReferencePlan` holds one reference set per entry of the GOP table. Every set but the first one
may be predicted from the set before it, as that one was built. Where the table spells out
references that the prediction does not reproduce, the predicted ones win and the difference is
reported as an `Inconsistency`.
-/

namespace EncoderControl

/-- A difference between an entry of the table and the set that was built for it. The set is named
by its index. -/
inductive Inconsistency where
  /-- Some reference has no counterpart in the set before, so prediction was given up. -/
  | partialPrediction (set : Nat)
  | negativeCount (set configured derived : Nat)
  | positiveCount (set configured derived : Nat)
  | delta (set entry : Nat) (configured derived : Int)
  | usedFlag (set entry : Nat) (configured derived : Bool)
deriving DecidableEq

namespace Inconsistency

/-- Text of a report, as it stands in records. -/
def text : Inconsistency → String
  | partialPrediction set => s!"PartialInterPrediction \x7b rps_idx: {set} \x7d"
  | negativeCount set configured derived =>
    s!"NegativeCount \x7b rps_idx: {set}, configured: {configured}, derived: {derived} \x7d"
  | positiveCount set configured derived =>
    s!"PositiveCount \x7b rps_idx: {set}, configured: {configured}, derived: {derived} \x7d"
  | delta set entry configured derived =>
    s!"DeltaPoc \x7b rps_idx: {set}, entry: {entry}, configured: {configured}, " ++
      s!"derived: {derived} \x7d"
  | usedFlag set entry configured derived =>
    s!"UsedFlag \x7b rps_idx: {set}, entry: {entry}, configured: {configured}, " ++
      s!"derived: {derived} \x7d"

end Inconsistency

namespace ReferenceSet

/-- The distances that indications refer to: those of the earlier set, then 0 for its picture. -/
def slots (earlier : ReferenceSet) : List Int :=
  earlier.deltas ++ [0]

/-- The indication for one slot at distance `delta`: whether and how `references` holds the picture
in it. The first reference at that distance decides. -/
def slotIdc (references : List Reference) (delta : Int) : Nat :=
  match references.find? fun reference => reference.delta = delta with
  | some reference => if reference.used then 1 else 2
  | none => 0

/-- Indications that predict `references` from the set `earlier`, or nothing when some reference
has no slot. -/
def predictIdc? (references : List Reference) (earlier : ReferenceSet) (deltaRps : Int) :
    Option (List Nat) :=
  let refIdc := earlier.slots.map fun slot => slotIdc references (slot + deltaRps)
  if refIdc.countP (· ≠ 0) = references.length then some refIdc else none

/-- References that the indications select from the set `earlier`, in ascending order. Indications
past the slots of the earlier set stand for its picture. -/
def expandIdc (earlier : ReferenceSet) (deltaRps : Int) (refIdc : List Nat) : List Reference :=
  let selected := (refIdc.mapIdx fun index idc => (index, idc)).filter fun slot => slot.2 ≠ 0
  sortReferences (selected.map fun slot =>
    ⟨earlier.deltas.getD slot.1 0 + deltaRps, slot.2 = 1⟩)

/-- A set marked as predicted from the set right before it. -/
def predictedBy (set : ReferenceSet) (deltaRps : Int) : ReferenceSet :=
  { set with predicted := true, deltaRidxMinus1 := 0, deltaRps := deltaRps }

/-- Differences between two sets, reference by reference, from the index `entry` on. -/
def compareReferences (set : Nat) :
    (entry : Nat) → (derived configured : List Reference) → List Inconsistency
  | entry, derived :: laterDerived, configured :: laterConfigured =>
    (if derived.delta = configured.delta then []
      else [.delta set entry configured.delta derived.delta]) ++
    (if derived.used = configured.used then []
      else [.usedFlag set entry configured.used derived.used]) ++
    compareReferences set (entry + 1) laterDerived laterConfigured
  | _, _, _ => []

/-- Differences between the set that was derived and the one that the table spells out. References
are paired up only when there are as many on both sides. -/
def compare (index : Nat) (derived configured : ReferenceSet) : List Inconsistency :=
  (if derived.numNegative = configured.numNegative then []
    else [.negativeCount index configured.numNegative derived.numNegative]) ++
  (if derived.numPositive = configured.numPositive then []
    else [.positiveCount index configured.numPositive derived.numPositive]) ++
  (if derived.numPictures = configured.numPictures then
    compareReferences index 0 derived.references configured.references
  else [])

/-- Builds the set of `entry`, the entry with the given index, after the set `earlier` of the entry
`before` it. -/
def ofEntry (index : Nat) (before : GopEntry) (earlier : ReferenceSet) (entry : GopEntry) :
    ReferenceSet × List Inconsistency :=
  let configured := ofReferences entry.references
  match entry.prediction with
  | .none => (configured, [])
  | .auto =>
    let set := configured.predictedBy (before.poc - entry.poc)
    match predictIdc? entry.references earlier set.deltaRps with
    | some refIdc => ({ set with refIdc := refIdc }.sort, [])
    | none => ({ set with predicted := false }, [.partialPrediction index])
  | .explicit deltaRps refIdc =>
    let derived := ofReferences (expandIdc earlier deltaRps refIdc)
    ({ configured.predictedBy deltaRps with refIdc := refIdc }.setReferences derived.references,
      compare index derived configured.sort)

/-- Builds the sets of the entries that follow `before`, whose set is `earlier`. -/
def ofEntries (index : Nat) (before : GopEntry) (earlier : ReferenceSet) :
    List GopEntry → List (ReferenceSet × List Inconsistency)
  | [] => []
  | entry :: later =>
    let built := ofEntry index before earlier entry
    built :: ofEntries (index + 1) entry built.1 later

/-- Builds the sets of a whole table. The first entry has no set to be predicted from. -/
def ofTable? : List GopEntry → Option (List (ReferenceSet × List Inconsistency))
  | [] => some []
  | first :: later =>
    match first.prediction with
    | .none =>
      let set := ofReferences first.references
      some ((set, []) :: ofEntries 1 first set later)
    | .auto | .explicit _ _ => none

/-- The set of the first bottom field of a sequence: the top field right before it. -/
def firstBottomField : ReferenceSet :=
  ofReferences [⟨-1, true⟩]

end ReferenceSet

/-- The reference sets of a sequence and the differences found while building them. -/
structure ReferencePlan where
  sets : List ReferenceSet
  inconsistencies : List Inconsistency
deriving DecidableEq, Inhabited

namespace ReferencePlan

/-- Collects the sets built for the table, with one more set for field coding. -/
def ofBuilt (built : List (ReferenceSet × List Inconsistency)) (fieldCoding : Bool) :
    ReferencePlan where
  sets := built.map Prod.fst ++ if fieldCoding then [ReferenceSet.firstBottomField] else []
  inconsistencies := built.flatMap Prod.snd

/-- Builds the sets of the first `gopSize + extraSets` entries of the table. Field coding appends
the set of the first bottom field. -/
def build (gopList : List GopEntry) (gopSize extraSets : Nat) (fieldCoding : Bool) :
    Logged EncodeError ReferencePlan := do
  let needed := gopSize + extraSets
  if gopList.length < needed then
    Logged.fail (.invalidGopEntry (.tooShort gopList.length needed))
  else
    match ReferenceSet.ofTable? (gopList.take needed) with
    | none =>
      Logged.log .error "GOP entry 0 cannot be predicted, it has no predecessor"
      Logged.fail (.invalidGopEntry (.noReferenceSet 0))
    | some built =>
      let plan := ofBuilt built fieldCoding
      plan.inconsistencies.forM fun inconsistency =>
        Logged.log .warn ("reference picture set overridden: " ++ inconsistency.text)
      let sets := plan.sets.length
      let reports := plan.inconsistencies.length
      Logged.log .debug s!"built {sets} reference picture sets, {reports} inconsistencies"
      pure plan

end ReferencePlan

end EncoderControl
