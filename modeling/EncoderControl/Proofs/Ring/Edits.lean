import EncoderControl.Proofs.Ring.Operations

/-!
# Edits of a ring

Whoever holds a ring may release, evict and clear its pictures and write to them through their
handles. A `RingEdit` is one such step; admission is not among them. On the entries of a consistent
ring an edit acts as `RingEdit.onEntries` says, whatever handle it is given.
-/

namespace EncoderControl

/-- A step on a ring that admits no picture. -/
inductive RingEdit where
  | release (handle : PictureHandle)
  | evict (handle : PictureHandle)
  /-- Changes the picture that a handle names. -/
  | write (handle : PictureHandle) (change : Picture → Picture)
  | clear

/-- The ring after an edit. An edit that is refused changes nothing. -/
def PictureRing.edit (ring : PictureRing) : RingEdit → PictureRing
  | .release handle => (PictureRing.release handle ring).state
  | .evict handle => (PictureRing.evict handle ring).state
  | .write handle change => (ring.modify? handle change).getD ring
  | .clear => ring.clear

/-- The ring after several edits, the first one first. -/
def PictureRing.editAll (ring : PictureRing) (edits : List RingEdit) : PictureRing :=
  edits.foldl PictureRing.edit ring

/-- The picture as it is once released. -/
def Picture.unreferenced (picture : Picture) : Picture :=
  { picture with referenced := false }

namespace RingEdit

/-- The entry after a change of the picture that `handle` names. -/
def onEntry (handle : PictureHandle) (change : Picture → Picture)
    (entry : PictureHandle × Picture) : PictureHandle × Picture :=
  if entry.1 = handle then (entry.1, change entry.2) else entry

/-- Changing a picture leaves the handle of its entry alone. -/
@[simp] theorem fst_onEntry (handle : PictureHandle) (change : Picture → Picture)
    (entry : PictureHandle × Picture) : (onEntry handle change entry).1 = entry.1 := by
  unfold onEntry
  split <;> rfl

/-- What an edit does to the entries of a ring. -/
def onEntries : RingEdit → List (PictureHandle × Picture) → List (PictureHandle × Picture)
  | .release handle, entries => entries.map (onEntry handle Picture.unreferenced)
  | .evict handle, entries =>
    entries.filter fun entry => entry.1 ≠ handle ∨ entry.2.referenced
  | .write handle change, entries => entries.map (onEntry handle change)
  | .clear, _ => []

/-- An edit that leaves the positions of pictures alone. -/
def KeepsPoc : RingEdit → Prop
  | .write _ change => ∀ picture, (change picture).poc = picture.poc
  | .release _ | .evict _ | .clear => True

/-- An edit that keeps positions adds none and leaves them in their order. -/
theorem positions_sublist {step : RingEdit} (keeps : step.KeepsPoc)
    (entries : List (PictureHandle × Picture)) :
    ((step.onEntries entries).map fun entry => entry.2.poc).Sublist
      (entries.map fun entry => entry.2.poc) := by
  have written (handle : PictureHandle) {change : Picture → Picture}
      (same : ∀ picture, (change picture).poc = picture.poc) :
      ((entries.map (onEntry handle change)).map fun entry => entry.2.poc).Sublist
        (entries.map fun entry => entry.2.poc) := by
    rw [List.map_map]
    refine Eq.subst (List.map_congr_left fun entry _ => ?_) (List.Sublist.refl _)
    rw [Function.comp_apply, onEntry]
    split
    · exact same entry.2
    · rfl
  cases step with
  | release handle => exact written handle fun _ => rfl
  | write handle change => exact written handle keeps
  | evict handle => exact List.filter_sublist.map _
  | clear => exact List.nil_sublist _

end RingEdit

namespace PictureRing

variable {ring : PictureRing}

/-- Releasing a picture is a change that marks it as no longer referenced. -/
theorem edit_release (ring : PictureRing) (handle : PictureHandle) :
    ring.edit (.release handle) = ring.edit (.write handle Picture.unreferenced) := by
  change (release handle ring).state = (ring.modify? handle Picture.unreferenced).getD ring
  cases found : ring.get? handle with
  | none => simp [release, modify?, found]
  | some picture => simp [release, modify?, found, Picture.unreferenced]

/-- Eviction vacates the slot of a picture that is still there and no longer referenced, and is
refused otherwise. -/
theorem edit_evict_cases (ring : PictureRing) (handle : PictureHandle) :
    (∃ picture, ring.get? handle = some picture ∧ picture.referenced = false ∧
        ring.edit (.evict handle) = ring.vacate handle.index) ∨
      (∀ picture, ring.get? handle = some picture → picture.referenced = true) ∧
        ring.edit (.evict handle) = ring := by
  have unfolded : ring.edit (.evict handle) = (evict handle ring).state := rfl
  rw [unfolded]
  cases found : ring.get? handle with
  | none =>
    right
    simp [evict, found]
  | some picture =>
    cases referenced : picture.referenced with
    | false =>
      have held := pictureAt?_of_get? found
      exact .inl ⟨picture, rfl, referenced, by simp [evict, found, referenced, held]⟩
    | true =>
      right
      simp [evict, found, referenced]

/-- An eviction is only refused for its handle, or for a picture that is still referenced. -/
theorem evict_error {handle : PictureHandle} {error : EncodeError}
    (fails : (evict handle ring).outcome = .error error) :
    error = .invalidPictureHandle ∨ ∃ poc, error = .pictureReferenced poc := by
  cases found : ring.get? handle with
  | none =>
    left
    have refused : (evict handle ring).outcome = .error .invalidPictureHandle := by
      simp [evict, found]
    rw [refused] at fails
    exact (Except.error.inj fails).symm
  | some picture =>
    cases referenced : picture.referenced with
    | false =>
      have held := pictureAt?_of_get? found
      simp [evict, found, referenced, held] at fails
    | true =>
      right
      have refused : (evict handle ring).outcome = .error (.pictureReferenced picture.poc) := by
        simp [evict, found, referenced]
      rw [refused] at fails
      exact ⟨picture.poc, (Except.error.inj fails).symm⟩

/-- The ring with another picture under a handle. -/
def overwrite (ring : PictureRing) (handle : PictureHandle) (picture : Picture) : PictureRing :=
  { ring with slots := ring.slots.set handle.index ⟨handle.generation, some picture⟩ }

/-- A write overwrites the picture that the handle names, if it is still there. -/
theorem edit_write_cases (ring : PictureRing) (handle : PictureHandle)
    (change : Picture → Picture) :
    (∃ picture, ring.get? handle = some picture ∧
        ring.edit (.write handle change) = ring.overwrite handle (change picture)) ∨
      ring.get? handle = none ∧ ring.edit (.write handle change) = ring := by
  have unfolded : ring.edit (.write handle change) = (ring.modify? handle change).getD ring := rfl
  rw [unfolded, modify?]
  cases ring.get? handle with
  | none => exact .inr ⟨rfl, rfl⟩
  | some picture => exact .inl ⟨picture, rfl, rfl⟩

/-- A handle that names a picture names a slot. -/
theorem index_valid_of_get? {handle : PictureHandle} {picture : Picture}
    (found : ring.get? handle = some picture) : handle.index < ring.slots.length := by
  by_contra outside
  have past : ring.slots[handle.index]? = none := List.getElem?_eq_none (Nat.le_of_not_lt outside)
  simp [get?, past] at found

/-- Edits leave the counter of positions and the shape of the ring alone. -/
theorem shape_edit (ring : PictureRing) (step : RingEdit) :
    (ring.edit step).pocLast = ring.pocLast ∧ (ring.edit step).capacity = ring.capacity ∧
      (ring.edit step).adaptiveQp = ring.adaptiveQp := by
  have written (handle : PictureHandle) (change : Picture → Picture) :
      (ring.edit (.write handle change)).pocLast = ring.pocLast ∧
        (ring.edit (.write handle change)).capacity = ring.capacity ∧
        (ring.edit (.write handle change)).adaptiveQp = ring.adaptiveQp := by
    rcases edit_write_cases ring handle change with ⟨picture, -, written⟩ | ⟨-, kept⟩
    · rw [written]; exact ⟨rfl, rfl, rfl⟩
    · rw [kept]; exact ⟨rfl, rfl, rfl⟩
  cases step with
  | release handle => rw [edit_release]; exact written handle _
  | write handle change => exact written handle change
  | clear => exact ⟨rfl, rfl, rfl⟩
  | evict handle =>
    rcases edit_evict_cases ring handle with ⟨picture, -, -, vacated⟩ | ⟨-, kept⟩
    · rw [vacated]; exact ⟨rfl, rfl, rfl⟩
    · rw [kept]; exact ⟨rfl, rfl, rfl⟩

/-! ### Writing -/

/-- Changing a picture replaces the entry of its slot, and no other. -/
theorem entryAt?_overwrite {handle : PictureHandle} {picture : Picture}
    (found : ring.get? handle = some picture) (written : Picture) :
    (ring.overwrite handle written).entryAt? =
      Function.update ring.entryAt? handle.index (some (handle, written)) := by
  have slots : (ring.overwrite handle written).slots =
      ring.slots.set handle.index ⟨handle.generation, some written⟩ := rfl
  exact entryAt?_of_slots_set (index_valid_of_get? found) slots

/-- An entry with a handle of its own slot is met by a write through that handle alone. -/
theorem map_onEntry_entryAt? {handle : PictureHandle} {picture : Picture}
    (found : ring.get? handle = some picture) (change : Picture → Picture) (index : Nat) :
    (ring.entryAt? index).map (RingEdit.onEntry handle change) =
      Function.update ring.entryAt? handle.index (some (handle, change picture)) index := by
  by_cases same : index = handle.index
  · subst same
    rw [Function.update_self, get?_eq_some_iff.mp found]
    simp [RingEdit.onEntry]
  · rw [Function.update_of_ne same]
    cases held : ring.entryAt? index with
    | none => rfl
    | some entry =>
      have other : entry.1 ≠ handle := by
        rintro rfl
        exact same (index_of_entryAt? held).symm
      simp [RingEdit.onEntry, other]

/-- Changing a picture keeps the ring consistent. -/
theorem Consistent.write (consistent : ring.Consistent) (handle : PictureHandle)
    (change : Picture → Picture) : (ring.edit (.write handle change)).Consistent := by
  rcases edit_write_cases ring handle change with ⟨picture, found, written⟩ | ⟨-, kept⟩
  · rw [written]
    refine ⟨consistent.nodup, fun index => ?_⟩
    change index ∈ ring.order ↔ _
    rw [consistent.mem_order_iff, ← isSome_entryAt?, ← isSome_entryAt?,
      entryAt?_overwrite found]
    by_cases same : index = handle.index
    · subst same
      simp [get?_eq_some_iff.mp found]
    · simp [same]
  · rwa [kept]

/-- A change reaches the entry under its handle, if there is one, and no other. -/
theorem Consistent.entries_write (consistent : ring.Consistent) (handle : PictureHandle)
    (change : Picture → Picture) :
    (ring.edit (.write handle change)).entries =
      ring.entries.map (RingEdit.onEntry handle change) := by
  rcases edit_write_cases ring handle change with ⟨picture, found, written⟩ | ⟨missing, kept⟩
  · rw [written, entries_eq_filterMap, entryAt?_overwrite found, entries_eq_filterMap,
      List.map_filterMap]
    exact (List.filterMap_congr fun index _ => map_onEntry_entryAt? found change index).symm
  · have untouched : ∀ entry ∈ ring.entries, RingEdit.onEntry handle change entry = entry := by
      intro entry member
      have other : entry.1 ≠ handle := by
        rintro rfl
        rw [consistent.mem_entries_iff.mp member] at missing
        contradiction
      simp [RingEdit.onEntry, other]
    rw [kept, List.map_congr_left untouched, List.map_id']

/-! ### Eviction -/

/-- A vacated slot has no entry, and all others keep theirs. -/
theorem entryAt?_vacate {index : Nat} (valid : index < ring.slots.length) :
    (ring.vacate index).entryAt? = Function.update ring.entryAt? index none := by
  have slots : (ring.vacate index).slots =
      ring.slots.set index ⟨ring.generationAt index + 1, none⟩ := rfl
  exact entryAt?_of_slots_set valid slots

/-- A vacated slot is taken out of the order of admission. -/
theorem order_vacate (ring : PictureRing) (index : Nat) :
    (ring.vacate index).order = ring.order.filter (· ≠ index) :=
  List.filter_congr fun other _ => by simp [bne, beq_eq_decide]

/-- Vacating a slot keeps the ring consistent. -/
theorem Consistent.vacate (consistent : ring.Consistent) {index : Nat}
    (valid : index < ring.slots.length) : (ring.vacate index).Consistent where
  nodup := by
    rw [order_vacate]
    exact consistent.nodup.filter _
  mem_order_iff := by
    intro other
    rw [order_vacate, ← isSome_entryAt?, entryAt?_vacate valid, List.mem_filter,
      consistent.mem_order_iff]
    by_cases same : other = index <;> simp [same]

/-- All entries but that of the vacated slot stay, in their order. -/
theorem entries_vacate {index : Nat} (valid : index < ring.slots.length) :
    (ring.vacate index).entries = ring.entries.filter fun entry => entry.1.index ≠ index := by
  rw [entries_eq_filterMap, order_vacate, entryAt?_vacate valid, filterMap_update_filter,
    filterMap_entryAt?_filter, ← entries_eq_filterMap]

/-- Eviction takes out the entry under its handle, unless the picture is still referenced. -/
theorem Consistent.entries_evict (consistent : ring.Consistent) (handle : PictureHandle) :
    (ring.edit (.evict handle)).entries =
      ring.entries.filter fun entry => entry.1 ≠ handle ∨ entry.2.referenced := by
  rcases edit_evict_cases ring handle with ⟨picture, found, unreferenced, vacated⟩ | ⟨refused, kept⟩
  · rw [vacated, entries_vacate (index_valid_of_get? found)]
    have evicted := consistent.mem_entries_iff.mpr found
    refine List.filter_congr fun entry member => ?_
    have sameEntry : entry.1.index = handle.index → entry = (handle, picture) :=
      consistent.entry_eq_of_index_eq member evicted
    by_cases same : entry.1.index = handle.index
    · simp [sameEntry same, unreferenced]
    · have other : entry.1 ≠ handle := fun equal => same (by rw [equal])
      simp [same, other]
  · rw [kept, eq_comm, List.filter_eq_self]
    rintro ⟨other, picture⟩ member
    rw [consistent.mem_entries_iff] at member
    by_cases same : other = handle
    · subst same
      simp [refused picture member]
    · simp [same]

/-! ### All edits -/

/-- A cleared ring is consistent, whatever it was before. -/
theorem Consistent.clear (ring : PictureRing) : ring.clear.Consistent where
  nodup := List.nodup_nil
  mem_order_iff := by
    intro index
    cases slot : ring.slots[index]? <;> simp [PictureRing.clear, pictureAt?, slot]

/-- Edits keep a ring consistent. -/
theorem Consistent.edit (consistent : ring.Consistent) (step : RingEdit) :
    (ring.edit step).Consistent := by
  cases step with
  | release handle =>
    rw [edit_release]
    exact consistent.write handle _
  | write handle change => exact consistent.write handle change
  | clear => exact Consistent.clear ring
  | evict handle =>
    rcases edit_evict_cases ring handle with ⟨picture, found, -, vacated⟩ | ⟨-, kept⟩
    · rw [vacated]
      exact consistent.vacate (index_valid_of_get? found)
    · rwa [kept]

/-- An edit acts on the entries of a consistent ring and on nothing else that handles depend on. -/
theorem Consistent.entries_edit (consistent : ring.Consistent) (step : RingEdit) :
    (ring.edit step).entries = step.onEntries ring.entries := by
  cases step with
  | release handle =>
    rw [edit_release]
    exact consistent.entries_write handle _
  | write handle change => exact consistent.entries_write handle change
  | clear => rfl
  | evict handle => exact consistent.entries_evict handle

/-- Several edits in a row keep a ring consistent. -/
theorem Consistent.editAll (consistent : ring.Consistent) (edits : List RingEdit) :
    (ring.editAll edits).Consistent := by
  induction edits generalizing ring with
  | nil => exact consistent
  | cons step later inductionHypothesis => exact inductionHypothesis (consistent.edit step)

/-- Edits admit no picture and leave the capacity alone. -/
theorem shape_editAll (ring : PictureRing) (edits : List RingEdit) :
    (ring.editAll edits).pocLast = ring.pocLast ∧
      (ring.editAll edits).capacity = ring.capacity := by
  induction edits generalizing ring with
  | nil => exact ⟨rfl, rfl⟩
  | cons step later inductionHypothesis =>
    obtain ⟨pocLast, capacity⟩ := inductionHypothesis (ring.edit step)
    exact ⟨pocLast.trans (shape_edit ring step).1, capacity.trans (shape_edit ring step).2.1⟩

end PictureRing

end EncoderControl
