import EncoderControl.Proofs.ReferenceSet.Explicit

/-!
# Which pictures a derived set lists

Indications are stored as the table gives them, however many they are. Those for the references of
the earlier set list each of these at most once. All that follow stand for the picture of the
earlier set, so it is listed as often as they are not zero. That there is one indication for it is
what keeps a set from listing the same picture twice, and nothing checks it.
-/

namespace EncoderControl

namespace ReferenceSet

/-- Indications take the slots one after the other, and after the last one the distance 0. -/
theorem mapIdx_getD_eq_zip_append (slots : List Int) (refIdc : List Nat) :
    (refIdc.mapIdx fun index idc => (slots.getD index 0, idc)) =
      slots.zip refIdc ++ (refIdc.drop slots.length).map fun idc => (0, idc) := by
  induction slots generalizing refIdc with
  | nil => exact List.ext_getElem? fun place => by simp
  | cons slot later inductionHypothesis =>
    cases refIdc with
    | nil => rfl
    | cons idc rest =>
      simp only [List.mapIdx_cons, List.getD_cons_zero, List.getD_cons_succ, inductionHypothesis,
        List.zip_cons_cons, List.length_cons, List.drop_succ_cons, List.cons_append]

/-- The indications, each next to the distance that it is read at: that of a reference of the
earlier set as long as there is one, then 0. -/
def readSlots (earlier : ReferenceSet) (refIdc : List Nat) : List (Int × Nat) :=
  earlier.deltas.zip refIdc ++ (refIdc.drop earlier.numPictures).map fun idc => (0, idc)

/-- Distances at which the indications list references of the earlier set. -/
def listedDeltas (earlier : ReferenceSet) (deltaRps : Int) (refIdc : List Nat) : List Int :=
  ((earlier.deltas.zip refIdc).filter fun slot => slot.2 ≠ 0).map fun slot => slot.1 + deltaRps

/-- How often the indications list the picture of the earlier set. -/
def timesPictureListed (earlier : ReferenceSet) (refIdc : List Nat) : Nat :=
  (refIdc.drop earlier.numPictures).countP (· ≠ 0)

section Expanded

variable {earlier : ReferenceSet} {deltaRps : Int} {refIdc : List Nat}

/-- The references that the indications select, in terms of the distances they are read at. -/
theorem expandIdc_eq :
    expandIdc earlier deltaRps refIdc =
      sortReferences (((readSlots earlier refIdc).filter fun slot => slot.2 ≠ 0).map fun slot =>
        ⟨slot.1 + deltaRps, slot.2 = 1⟩) := by
  have looked : (refIdc.mapIdx fun index idc => (earlier.deltas.getD index 0, idc)) =
      (refIdc.mapIdx fun index idc => (index, idc)).map fun slot =>
        (earlier.deltas.getD slot.1 0, slot.2) :=
    List.ext_getElem? fun place => by simp [Function.comp_def]
  rw [readSlots, ← length_deltas, ← mapIdx_getD_eq_zip_append, looked, List.filter_map,
    List.map_map]
  rfl

/-- A derived set lists references of the earlier set, and the picture of that set. -/
theorem deltas_expandIdc_perm :
    ((expandIdc earlier deltaRps refIdc).map Reference.delta).Perm
      (listedDeltas earlier deltaRps refIdc ++
        List.replicate (timesPictureListed earlier refIdc) deltaRps) := by
  have past : (((refIdc.drop earlier.numPictures).map fun idc => ((0 : Int), idc)).filter
      fun slot => slot.2 ≠ 0).map (fun slot => slot.1 + deltaRps) =
        List.replicate (timesPictureListed earlier refIdc) deltaRps := by
    rw [List.filter_map, List.map_map, timesPictureListed, List.countP_eq_length_filter,
      ← List.map_const']
    refine List.map_congr_left fun idc _ => ?_
    simp
  rw [expandIdc_eq, listedDeltas, ← past, ← List.map_append, ← List.filter_append]
  refine ((sortReferences_perm _).map Reference.delta).trans (List.Perm.of_eq ?_)
  rw [List.map_map, readSlots]
  rfl

/-- References of the earlier set at different distances are listed at most once. -/
theorem nodup_listedDeltas (different : earlier.deltas.Nodup) :
    (listedDeltas earlier deltaRps refIdc).Nodup := by
  have once : (((earlier.deltas.zip refIdc).filter fun slot => slot.2 ≠ 0).map Prod.fst).Nodup := by
    refine List.Nodup.sublist (List.filter_sublist.map Prod.fst) ?_
    rw [List.zip_eq_zip_take_min, List.map_fst_zip (by simp)]
    exact different.sublist (List.take_sublist _ _)
  have shift : Function.Injective fun slot : Int => slot + deltaRps :=
    fun _ _ same => by simpa using same
  have shifted := once.map shift
  rwa [List.map_map] at shifted

/-- No other reference is listed at the distance of the picture itself, unless one of the earlier
set stands at that picture. -/
theorem deltaRps_not_mem_listedDeltas (apart : 0 ∉ earlier.deltas) :
    deltaRps ∉ listedDeltas earlier deltaRps refIdc := by
  intro member
  obtain ⟨⟨slot, idc⟩, selected, atPicture⟩ := List.mem_map.mp member
  have inEarlier := (List.of_mem_zip (List.mem_of_mem_filter selected)).1
  obtain rfl : slot = 0 := by omega
  exact apart inEarlier

/-- Each reference of the earlier set is listed at most once. -/
theorem count_derived_le_one (different : earlier.deltas.Nodup) {delta : Int}
    (notPicture : delta ≠ deltaRps) :
    (derived earlier deltaRps refIdc).deltas.count delta ≤ 1 := by
  rw [deltas, references_derived, deltas_expandIdc_perm.count_eq, List.count_append,
    List.count_eq_zero_of_not_mem fun member => notPicture (List.eq_of_mem_replicate member)]
  exact List.nodup_iff_count_le_one.mp (nodup_listedDeltas different) delta

/-- The picture of the earlier set is listed once for each indication that is not zero and finds no
reference. -/
theorem count_derived_picture (apart : 0 ∉ earlier.deltas) :
    (derived earlier deltaRps refIdc).deltas.count deltaRps =
      timesPictureListed earlier refIdc := by
  rw [deltas, references_derived, deltas_expandIdc_perm.count_eq, List.count_append,
    List.count_eq_zero_of_not_mem (deltaRps_not_mem_listedDeltas apart), List.count_replicate_self,
    Nat.zero_add]

/-- No picture is listed twice exactly when that of the earlier set is not. -/
theorem nodup_derived_iff (different : earlier.deltas.Nodup) (apart : 0 ∉ earlier.deltas) :
    (derived earlier deltaRps refIdc).deltas.Nodup ↔ timesPictureListed earlier refIdc ≤ 1 := by
  rw [← count_derived_picture apart, List.nodup_iff_count_le_one]
  constructor
  · intro once
    exact once deltaRps
  · intro once delta
    rcases eq_or_ne delta deltaRps with rfl | notPicture
    · exact once
    · exact count_derived_le_one different notPicture

/-- One indication for each slot, or fewer, list the picture of the earlier set at most once. -/
theorem timesPictureListed_le_one (fitting : refIdc.length ≤ earlier.numPictures + 1) :
    timesPictureListed earlier refIdc ≤ 1 := by
  have past := List.countP_le_length (p := fun idc => decide (idc ≠ 0))
    (l := refIdc.drop earlier.numPictures)
  rw [List.length_drop] at past
  unfold timesPictureListed
  omega

end Expanded

end ReferenceSet

namespace ReferencePlan

variable {gopList : List GopEntry} {gopSize extraSets : Nat} {fieldCoding : Bool}
  {plan : ReferencePlan}

/-- In an accepted table, the set of an entry with its own indications stores these as they are. If
the set before it has different distances other than 0, each of its references is listed at most
once, and its picture as often as indications after those for its references are not zero. So no
picture is listed twice exactly when there is at most one of these; not more indications than slots
are enough. -/
theorem explicit_set_lists_once_iff
    (accepted : (build gopList gopSize extraSets fieldCoding).outcome = .ok plan) {place : Nat}
    {entry : GopEntry} {earlier set : ReferenceSet} {deltaRps : Int} {refIdc : List Nat}
    (inTable : place + 1 < gopSize + extraSets) (atEntry : gopList[place + 1]? = some entry)
    (explicit : entry.prediction = .explicit deltaRps refIdc)
    (atEarlier : plan.sets[place]? = some earlier) (atSet : plan.sets[place + 1]? = some set) :
    set.refIdc = refIdc ∧
      (earlier.deltas.Nodup → 0 ∉ earlier.deltas →
        (∀ delta, delta ≠ deltaRps → set.deltas.count delta ≤ 1) ∧
        set.deltas.count deltaRps = earlier.timesPictureListed refIdc ∧
        (set.deltas.Nodup ↔ earlier.timesPictureListed refIdc ≤ 1) ∧
        (refIdc.length ≤ earlier.numPictures + 1 → set.deltas.Nodup)) := by
  obtain ⟨before, -, setAt, -⟩ := built_after_earlier accepted inTable atEntry atEarlier
  rw [ReferenceSet.ofEntry_explicit explicit] at setAt
  obtain rfl := Option.some.inj (atSet.symm.trans setAt)
  refine ⟨ReferenceSet.refIdc_derived .., fun different apart => ⟨?_, ?_, ?_, ?_⟩⟩
  · exact fun delta notPicture => ReferenceSet.count_derived_le_one different notPicture
  · exact ReferenceSet.count_derived_picture apart
  · exact ReferenceSet.nodup_derived_iff different apart
  · intro fitting
    exact (ReferenceSet.nodup_derived_iff different apart).mpr
      (ReferenceSet.timesPictureListed_le_one fitting)

/-- A table whose second entry gives its own indications, to be read after a set of two
references. -/
def twoSlotTable (refIdc : List Nat) : List GopEntry :=
  [ { poc := 1, references := [⟨-1, true⟩, ⟨-5, true⟩] },
    { poc := 2, references := [⟨-1, true⟩], prediction := .explicit (-1) refIdc } ]

/-- With one indication for each slot, no picture is listed twice. -/
theorem twoSlotTable_lists_once :
    ∃ plan earlier set, (build (twoSlotTable [1, 2, 1]) 2 0 false).outcome = .ok plan ∧
      plan.sets[0]? = some earlier ∧ plan.sets[1]? = some set ∧
      earlier.deltas.Nodup ∧ 0 ∉ earlier.deltas ∧ set.refIdc = [1, 2, 1] ∧
      set.deltas.count (-1) = 1 ∧ set.deltas.Nodup := by
  obtain ⟨plan, accepted, rfl⟩ :
      ∃ plan, (build (twoSlotTable [1, 2, 1]) 2 0 false).outcome = .ok plan ∧ plan = ⟨_, _⟩ :=
    ⟨_, rfl, rfl⟩
  have inTable : 0 + 1 < 2 + 0 := by decide
  obtain ⟨stored, lists⟩ := explicit_set_lists_once_iff accepted inTable rfl rfl rfl rfl
  have different : [(-1 : Int), -5].Nodup := by decide
  have apart : (0 : Int) ∉ [-1, -5] := by decide
  obtain ⟨-, counted, -, fitting⟩ := lists different apart
  exact ⟨_, _, _, accepted, rfl, rfl, different, apart, stored, counted, fitting (by decide)⟩

/-- With one indication more than there are slots, the picture of the earlier set is listed
twice. -/
theorem overlong_indications_list_twice :
    ∃ plan earlier set, (build (twoSlotTable [0, 0, 1, 1]) 2 0 false).outcome = .ok plan ∧
      plan.sets[0]? = some earlier ∧ plan.sets[1]? = some set ∧
      earlier.deltas.Nodup ∧ 0 ∉ earlier.deltas ∧
      set.refIdc.length ≠ earlier.numPictures + 1 ∧ ¬ set.deltas.Nodup := by
  obtain ⟨plan, accepted, rfl⟩ :
      ∃ plan, (build (twoSlotTable [0, 0, 1, 1]) 2 0 false).outcome = .ok plan ∧ plan = ⟨_, _⟩ :=
    ⟨_, rfl, rfl⟩
  exact ⟨_, _, _, accepted, rfl, rfl, by decide, by decide, by decide, by decide⟩

end ReferencePlan

end EncoderControl
