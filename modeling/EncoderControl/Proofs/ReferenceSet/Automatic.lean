import EncoderControl.Proofs.ReferenceSet.Decoding
import EncoderControl.Proofs.ReferenceSet.Reports

/-!
# When an automatic prediction is kept

The set of an automatic entry is predicted when as many slots of the set before it are taken as the
entry has references. Which references took them is not looked at. If the slots are all different,
the count nevertheless says that the references stand at different distances and that each of these
distances has a slot: different slots are taken by references at different distances, so no
reference can make up for another one.
-/

namespace EncoderControl

namespace ReferenceSet

/-- The references stand at different distances, and each of these is the distance of a reference of
the earlier set or of its picture, shifted by `deltaRps`. -/
structure Predictable (earlier : ReferenceSet) (deltaRps : Int) (references : List Reference) :
    Prop where
  distinct : (references.map Reference.delta).Nodup
  reached : ∀ reference ∈ references, ∃ slot, (slot ∈ earlier.deltas ∨ slot = 0) ∧
    reference.delta = slot + deltaRps

/-- What an indication says about the references at one distance. -/
inductive Indicates (references : List Reference) (delta : Int) : Nat → Prop where
  | used (present : ⟨delta, true⟩ ∈ references) : Indicates references delta 1
  | unused (present : ⟨delta, false⟩ ∈ references) : Indicates references delta 2
  | absent (nowhere : ∀ reference ∈ references, reference.delta ≠ delta) :
      Indicates references delta 0

/-- A set holds the given references as a prediction from the set `earlier`. -/
structure Predicts (earlier : ReferenceSet) (deltaRps : Int) (references : List Reference)
    (set : ReferenceSet) : Prop where
  shift : set.deltaRps = deltaRps
  /-- One indication for each reference of the earlier set, and one for its picture. -/
  numIdc : set.refIdc.length = earlier.numPictures + 1
  indicated : ∀ (place : Nat) (slot : Int) (idc : Nat),
    (earlier.deltas ++ [0])[place]? = some slot → set.refIdc[place]? = some idc →
      Indicates references (slot + deltaRps) idc
  same : set.references.Perm references
  ascending : set.deltas.Pairwise (· < ·)

/-- Slots differ if the distances of a set do, and none of them is zero. -/
theorem nodup_slots_iff (earlier : ReferenceSet) :
    earlier.slots.Nodup ↔ earlier.deltas.Nodup ∧ 0 ∉ earlier.deltas := by
  rw [slots, ← List.concat_eq_append, List.nodup_concat, and_comm]

/-- The slots of a set are its distances and that of the picture itself. -/
theorem mem_slots_iff {earlier : ReferenceSet} {slot : Int} :
    slot ∈ earlier.slots ↔ slot ∈ earlier.deltas ∨ slot = 0 := by
  simp [slots]

/-- The indication of a slot says what it is to say. -/
theorem indicates_slotIdc (references : List Reference) (delta : Int) :
    Indicates references delta (slotIdc references delta) := by
  unfold slotIdc
  cases found : references.find? fun reference => reference.delta = delta with
  | none =>
    refine .absent fun reference member => ?_
    simpa using List.find?_eq_none.mp found reference member
  | some reference =>
    have atDelta : reference.delta = delta := by simpa using List.find?_some found
    have present := List.mem_of_find?_eq_some found
    obtain ⟨place, used⟩ := reference
    cases atDelta
    cases used with
    | true => exact .used present
    | false => exact .unused present

section Predicted

variable {references : List Reference} {earlier : ReferenceSet} {deltaRps : Int}

/-- References at different distances that all have a slot are told apart. -/
theorem Predictable.covers (predictable : Predictable earlier deltaRps references) :
    Covers earlier deltaRps references where
  enough reference member := by
    have once : (references.countP fun other => other.delta = reference.delta) ≤ 1 := by
      have counted := List.nodup_iff_count_le_one.mp predictable.distinct reference.delta
      simpa [List.count, List.countP_map, Function.comp_def, beq_eq_decide] using counted
    obtain ⟨slot, isSlot, atSlot⟩ := predictable.reached reference member
    have taken : 0 < earlier.slots.countP fun slot => slot + deltaRps = reference.delta :=
      List.countP_pos_iff.mpr ⟨slot, mem_slots_iff.mpr isSlot, by simp [atSlot]⟩
    omega
  alike reference member other otherMember atDelta := by
    rw [List.inj_on_of_nodup_map predictable.distinct member otherMember atDelta]

/-- Where the slots are all different, they predict exactly the references that can be
predicted. -/
theorem isSome_predictIdc?_iff (distinct : earlier.slots.Nodup) :
    (predictIdc? references earlier deltaRps).isSome ↔
      Predictable earlier deltaRps references := by
  constructor
  · intro kept
    obtain ⟨refIdc, accepted⟩ := Option.isSome_iff_exists.mp kept
    have same := taken_perm_of_predictIdc? accepted distinct
    constructor
    · exact (same.map Reference.delta).nodup_iff.mp (nodup_map_delta_taken distinct)
    · intro reference member
      obtain ⟨slot, isSlot, found⟩ := List.mem_filterMap.mp (same.mem_iff.mpr member)
      exact ⟨slot, mem_slots_iff.mp isSlot, by simpa using List.find?_some found⟩
  · intro predictable
    have counted := (taken_subperm distinct).length_le.antisymm
      predictable.covers.subperm_taken.length_le
    exact Option.isSome_iff_exists.mpr ⟨_, predictIdc?_eq_some_iff.mpr ⟨counted, rfl⟩⟩

/-- An accepted prediction holds its references. -/
theorem predicts_of_predictIdc? {refIdc : List Nat}
    (accepted : predictIdc? references earlier deltaRps = some refIdc)
    (distinct : earlier.slots.Nodup) :
    Predicts earlier deltaRps references
      { (ofReferences references).predictedBy deltaRps with refIdc := refIdc }.sort := by
  have indications := (predictIdc?_eq_some_iff.mp accepted).2
  have predictable := (isSome_predictIdc?_iff distinct).mp (Option.isSome_of_eq_some accepted)
  have same : (sortReferences references).Perm references := sortReferences_perm references
  have different : ((sortReferences references).map Reference.delta).Nodup :=
    (same.map Reference.delta).nodup_iff.mpr predictable.distinct
  constructor
  · rfl
  · simp [sort, setReferences, indications, slots]
  · intro place slot idc atSlot atIdc
    have stated : (earlier.slots.map fun slot =>
        slotIdc references (slot + deltaRps))[place]? = some idc := indications ▸ atIdc
    rw [List.getElem?_map, slots, atSlot, Option.map_some, Option.some.injEq] at stated
    exact stated ▸ indicates_slotIdc references (slot + deltaRps)
  · exact same
  · exact (List.pairwise_map.mpr (sortReferences_ascending references)).imp₂
      (fun _ _ below apart => lt_of_le_of_ne below apart) different

end Predicted

/-- An automatic entry keeps its prediction without a report, or gives it up with one and keeps its
references as they are. -/
theorem ofEntry_automatic (index : Nat) (before : GopEntry) (earlier : ReferenceSet)
    {entry : GopEntry} (automatic : entry.prediction = .auto) :
    (∃ refIdc, predictIdc? entry.references earlier (before.poc - entry.poc) = some refIdc ∧
      ofEntry index before earlier entry =
        ({ (ofReferences entry.references).predictedBy (before.poc - entry.poc) with
          refIdc := refIdc }.sort, [])) ∨
    (predictIdc? entry.references earlier (before.poc - entry.poc) = none ∧
      (ofEntry index before earlier entry).1.predicted = false ∧
      (ofEntry index before earlier entry).1.references = entry.references ∧
      (ofEntry index before earlier entry).2 = [.partialPrediction index]) := by
  simp only [ofEntry, automatic, predictedBy]
  cases predictIdc? entry.references earlier (before.poc - entry.poc) with
  | some refIdc => exact .inl ⟨refIdc, rfl, rfl⟩
  | none => exact .inr ⟨rfl, rfl, rfl, rfl⟩

end ReferenceSet

namespace ReferencePlan

variable {gopList : List GopEntry} {gopSize extraSets : Nat} {fieldCoding : Bool}
  {plan : ReferencePlan}

/-- In an accepted table, an automatic entry after a set with different distances other than 0 keeps
its prediction exactly when its references can be predicted from that set. A prediction that is kept
holds them in ascending order, with an indication for each slot, and nothing is reported; one that
is given up is reported once, and the references stay as they are. -/
theorem automatic_prediction_kept_iff
    (accepted : (build gopList gopSize extraSets fieldCoding).outcome = .ok plan) {place : Nat}
    {before entry : GopEntry} {earlier set : ReferenceSet}
    (inTable : place + 1 < gopSize + extraSets) (atBefore : gopList[place]? = some before)
    (atEntry : gopList[place + 1]? = some entry) (automatic : entry.prediction = .auto)
    (atEarlier : plan.sets[place]? = some earlier) (atSet : plan.sets[place + 1]? = some set)
    (different : earlier.deltas.Nodup) (apart : 0 ∉ earlier.deltas) :
    (set.predicted = true ↔
        earlier.Predictable (before.poc - entry.poc) entry.references) ∧
      (set.predicted = true →
        earlier.Predicts (before.poc - entry.poc) entry.references set ∧
          plan.reportsOn (place + 1) = []) ∧
      (set.predicted = false →
        plan.reportsOn (place + 1) = [.partialPrediction (place + 1)] ∧
          set.references = entry.references) := by
  obtain ⟨_, beforeAt, setAt, reported⟩ := built_after_earlier accepted inTable atEntry atEarlier
  obtain rfl := Option.some.inj (atBefore.symm.trans beforeAt)
  obtain rfl := Option.some.inj (atSet.symm.trans setAt)
  have distinct := earlier.nodup_slots_iff.mpr ⟨different, apart⟩
  have possible : (ReferenceSet.predictIdc? entry.references earlier
      (before.poc - entry.poc)).isSome ↔
        earlier.Predictable (before.poc - entry.poc) entry.references :=
    ReferenceSet.isSome_predictIdc?_iff distinct
  rw [reported]
  rcases ReferenceSet.ofEntry_automatic (place + 1) before earlier automatic with
    ⟨refIdc, kept, built⟩ | ⟨givenUp, notPredicted, references, report⟩
  · have predictable := possible.mp (Option.isSome_of_eq_some kept)
    rw [built]
    refine ⟨⟨fun _ => predictable, fun _ => rfl⟩, fun _ => ⟨?_, rfl⟩, fun absent => nomatch absent⟩
    exact ReferenceSet.predicts_of_predictIdc? kept distinct
  · have notPredictable : ¬ earlier.Predictable (before.poc - entry.poc) entry.references := by
      rw [← possible, givenUp]
      exact Bool.false_ne_true
    rw [notPredicted, report, references]
    refine ⟨iff_of_false Bool.false_ne_true notPredictable, ?_, fun _ => ⟨rfl, rfl⟩⟩
    intro kept
    cases kept

/-- Of the two automatic entries of a table, one keeps its prediction and one gives it up, each
after a set with different distances. -/
theorem fourWayTable_predictions :
    ∃ plan first second third, (build fourWayTable 3 1 true).outcome = .ok plan ∧
      plan.sets[0]? = some first ∧ plan.sets[1]? = some second ∧ plan.sets[2]? = some third ∧
      first.Predictable 2 [⟨-2, true⟩, ⟨2, true⟩, ⟨-6, false⟩] ∧ plan.reportsOn 1 = [] ∧
      ¬ second.Predictable 1 [⟨-1, true⟩, ⟨-20, true⟩] ∧
      plan.reportsOn 2 = [.partialPrediction 2] ∧
      third.references = [⟨-1, true⟩, ⟨-20, true⟩] := by
  obtain ⟨plan, accepted, rfl⟩ :
      ∃ plan, (build fourWayTable 3 1 true).outcome = .ok plan ∧ plan = ⟨_, _⟩ :=
    ⟨_, rfl, rfl⟩
  have secondInTable : 0 + 1 < 3 + 1 := by decide
  have thirdInTable : 1 + 1 < 3 + 1 := by decide
  have kept := automatic_prediction_kept_iff accepted secondInTable rfl rfl rfl rfl rfl
    (by decide) (by decide)
  have givenUp := automatic_prediction_kept_iff accepted thirdInTable rfl rfl rfl rfl rfl
    (by decide) (by decide)
  exact ⟨_, _, _, _, accepted, rfl, rfl, rfl, kept.1.mp rfl, (kept.2.1 rfl).2,
    fun predictable => Bool.false_ne_true (givenUp.1.mpr predictable), givenUp.2.2 rfl⟩

end ReferencePlan

end EncoderControl
