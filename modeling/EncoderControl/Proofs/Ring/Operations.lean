import Mathlib.Data.List.Find
import EncoderControl.Proofs.Ring.Entries

/-!
# Operations of the ring on its entries

Admission takes the entry of the recycled picture, if there is one, out of the list and appends the
new one. A change of a picture is a change of its entry, and eviction takes an entry out. All of
them keep the ring `Consistent`.
-/

namespace EncoderControl

namespace PictureRing

variable {ring changed : PictureRing}

/-! ### Admission -/

/-- The handle that an admission at this place issues. -/
def freshHandle (ring : PictureRing) : Placement → PictureHandle
  | .recycle index | .refill index => ⟨index, ring.generationAt index + 1⟩
  | .grow => ⟨ring.slots.length, 0⟩

/-- The handle of a new picture names the slot of its placement. -/
@[simp] theorem index_freshHandle (ring : PictureRing) (placement : Placement) :
    (ring.freshHandle placement).index = ring.slotOf placement := by
  cases placement <;> rfl

/-- Where a picture may be admitted: in place of one that is no longer referenced, or, if all are
and there is room, in a slot without a picture. -/
theorem placement?_cases {placement : Placement} (placed : ring.placement? = some placement) :
    (∃ index, placement = .recycle index ∧ ring.reusable? = some index) ∨
      ring.reusable? = none ∧ ring.order.length < ring.capacity ∧
        ((∃ index, placement = .refill index ∧ index < ring.slots.length ∧
            ring.pictureAt? index = none) ∨ placement = .grow) := by
  unfold placement? at placed
  split at placed
  · rename_i index reusable
    exact .inl ⟨index, (Option.some.inj placed).symm, reusable⟩
  · rename_i reusable
    split at placed
    · rename_i room
      refine .inr ⟨reusable, room, ?_⟩
      split at placed
      · rename_i index vacant
        obtain ⟨valid, isNone, -⟩ := List.findIdx?_eq_some_iff_getElem.mp vacant
        refine .inl ⟨index, (Option.some.inj placed).symm, valid, ?_⟩
        simpa [pictureAt?, List.getElem?_eq_getElem valid] using isNone
      · exact .inr (Option.some.inj placed).symm
    · contradiction

/-- There is no place exactly when the ring is full and no picture can be recycled. -/
theorem placement?_eq_none_iff :
    ring.placement? = none ↔ ring.reusable? = none ∧ ring.capacity ≤ ring.order.length := by
  unfold placement?
  cases ring.reusable? with
  | some index => simp
  | none =>
    by_cases room : ring.order.length < ring.capacity
    · cases vacant : ring.slots.findIdx? fun slot => slot.picture.isNone <;> simp [room]
    · simp only [if_neg room, true_and, true_iff]
      exact Nat.le_of_not_lt room

/-- The slot of a recycled picture holds one that is no longer referenced. -/
theorem pictureAt?_of_reusable? {index : Nat} (reusable : ring.reusable? = some index) :
    ∃ picture, ring.pictureAt? index = some picture ∧ picture.referenced = false := by
  have unreferenced := List.find?_some reusable
  simpa [Option.any_eq_true] using unreferenced

/-- A placement names a slot that exists, unless it adds one. -/
theorem slotOf_valid {placement : Placement} (placed : ring.placement? = some placement) :
    placement = .grow ∨ ring.slotOf placement < ring.slots.length := by
  rcases placement?_cases placed with ⟨index, rfl, reusable⟩ | ⟨-, -, ⟨index, rfl, valid, -⟩ | rfl⟩
  · right
    obtain ⟨picture, atIndex, -⟩ := pictureAt?_of_reusable? reusable
    by_contra outside
    have past : ring.slots[index]? = none := List.getElem?_eq_none (Nat.le_of_not_lt outside)
    simp [pictureAt?, past] at atIndex
  · exact .inr valid
  · exact .inl rfl

/-- Admission changes one slot: it holds the new picture under a fresh handle. -/
theorem entryAt?_place {placement : Placement} (placed : ring.placement? = some placement)
    (storage : Picture) :
    (ring.place placement storage).entryAt? =
      Function.update ring.entryAt? (ring.slotOf placement)
        (some (ring.freshHandle placement, storage.admittedAt (ring.pocLast + 1))) := by
  let admitted := some (storage.admittedAt (ring.pocLast + 1))
  rcases slotOf_valid placed with rfl | valid
  · have slots : (ring.place .grow storage).slots = ring.slots ++ [⟨0, admitted⟩] := rfl
    exact entryAt?_of_slots_append slots
  · cases placement with
    | recycle index =>
      have slots : (ring.place (.recycle index) storage).slots =
          ring.slots.set index ⟨ring.generationAt index + 1, admitted⟩ := rfl
      exact entryAt?_of_slots_set valid slots
    | refill index =>
      have slots : (ring.place (.refill index) storage).slots =
          ring.slots.set index ⟨ring.generationAt index + 1, admitted⟩ := rfl
      exact entryAt?_of_slots_set valid slots
    | grow => exact absurd valid (Nat.lt_irrefl _)

/-- The new picture is found under the handle it is issued. -/
theorem get?_freshHandle_place {placement : Placement} (placed : ring.placement? = some placement)
    (storage : Picture) :
    (ring.place placement storage).get? (ring.freshHandle placement) =
      some (storage.admittedAt (ring.pocLast + 1)) := by
  rw [get?_eq_some_iff, entryAt?_place placed, index_freshHandle, Function.update_self]

/-- The handle that is issued is the one that names the slot from then on. -/
theorem handleAt_slotOf_place {placement : Placement} (placed : ring.placement? = some placement)
    (storage : Picture) :
    (ring.place placement storage).handleAt (ring.slotOf placement) =
      ring.freshHandle placement := by
  have found := get?_eq_some_iff.mp (get?_freshHandle_place placed storage)
  rw [entryAt?_eq_some_iff, index_freshHandle] at found
  exact found.1.symm

/-- The admitted picture is found at its place. -/
theorem pictureAt?_slotOf_place {placement : Placement}
    (placed : ring.placement? = some placement) (storage : Picture) :
    (ring.place placement storage).pictureAt? (ring.slotOf placement) =
      some (storage.admittedAt (ring.pocLast + 1)) := by
  have found := get?_eq_some_iff.mp (get?_freshHandle_place placed storage)
  rw [entryAt?_eq_some_iff, index_freshHandle] at found
  exact found.2

/-- An admission that finds a place issues the fresh handle of that place. -/
theorem acquire_of_placement {ρ : Type} {placement : Placement}
    (placed : ring.placement? = some placement) (sps : Sps) (pps : Pps) (output : List ρ) :
    (acquire sps pps (ring, output)).outcome = .ok (ring.freshHandle placement) ∧
      (acquire sps pps (ring, output)).state =
        (ring.place placement (ring.storageAt sps pps placement), output.rotateLeft 1) := by
  simp only [acquire, placed, pictureAt?_slotOf_place placed, handleAt_slotOf_place placed,
    and_self]

/-- An admission that finds no place leaves the ring alone. The output list has turned by then. -/
theorem acquire_of_exhausted {ρ : Type} (exhausted : ring.placement? = none) (sps : Sps)
    (pps : Pps) (output : List ρ) :
    (acquire sps pps (ring, output)).outcome = .error (.ringExhausted ring.capacity) ∧
      (acquire sps pps (ring, output)).state = (ring, output.rotateLeft 1) := by
  simp only [acquire, exhausted, and_self]

/-- Placing a picture keeps the ring consistent. -/
theorem Consistent.place (consistent : ring.Consistent) {placement : Placement}
    (placed : ring.placement? = some placement) (storage : Picture) :
    (ring.place placement storage).Consistent where
  nodup := by
    change (ring.order.erase (ring.slotOf placement) ++ [ring.slotOf placement]).Nodup
    rw [List.nodup_append]
    refine ⟨consistent.nodup.erase _, List.nodup_singleton _, ?_⟩
    intro index member last isLast same
    rw [same, List.mem_singleton.mp isLast] at member
    exact consistent.nodup.not_mem_erase member
  mem_order_iff := by
    intro index
    change index ∈ ring.order.erase (ring.slotOf placement) ++ [ring.slotOf placement] ↔ _
    rw [← isSome_entryAt?, entryAt?_place placed, List.mem_append, List.mem_singleton,
      consistent.nodup.mem_erase_iff]
    by_cases same : index = ring.slotOf placement
    · simp [same]
    · simp [same, consistent.mem_order_iff]

/-- The picture whose slot is taken over is no longer referenced. -/
theorem Consistent.unreferenced_of_slotOf (consistent : ring.Consistent) {placement : Placement}
    (placed : ring.placement? = some placement) {entry : PictureHandle × Picture}
    (member : entry ∈ ring.entries) (same : entry.1.index = ring.slotOf placement) :
    entry.2.referenced = false := by
  have atIndex := consistent.pictureAt?_of_mem member
  rw [same] at atIndex
  rcases placement?_cases placed with ⟨index, rfl, reusable⟩ | ⟨-, -, ⟨index, rfl, -, vacant⟩ | rfl⟩
  · obtain ⟨picture, found, unreferenced⟩ := pictureAt?_of_reusable? reusable
    rw [slotOf, found] at atIndex
    rwa [← Option.some.inj atIndex]
  · rw [slotOf, vacant] at atIndex
    contradiction
  · simp [slotOf, pictureAt?] at atIndex

/-- The recycled picture is the first one in the order of admission that is no longer referenced. -/
theorem Consistent.find?_entries (consistent : ring.Consistent) :
    (ring.entries.find? fun entry => !entry.2.referenced).map (fun entry => entry.1.index) =
      ring.reusable? := by
  have sameTest : ∀ entry ∈ ring.entries,
      ((ring.pictureAt? entry.1.index).any fun picture => !picture.referenced) =
        !entry.2.referenced := by
    intro entry member
    rw [consistent.pictureAt?_of_mem member, Option.any_some]
  rw [reusable?, ← consistent.map_index_entries, List.find?_map]
  congr 1
  exact List.find?_congr fun entry member => (sameTest entry member).symm

/-- No picture can be recycled exactly when all are referenced. -/
theorem Consistent.reusable?_eq_none_iff (consistent : ring.Consistent) :
    ring.reusable? = none ↔ ∀ entry ∈ ring.entries, entry.2.referenced = true := by
  rw [← consistent.find?_entries, Option.map_eq_none_iff, List.find?_eq_none]
  simp

/-- The slot of an admission is the one of the first picture that is no longer referenced, and none
that is occupied when there is no such picture. -/
theorem Consistent.filter_slotOf (consistent : ring.Consistent) {placement : Placement}
    (placed : ring.placement? = some placement) :
    (ring.entries.filter fun entry => entry.1.index ≠ ring.slotOf placement) =
      ring.entries.eraseP fun entry => !entry.2.referenced := by
  cases first : ring.entries.find? fun entry => !entry.2.referenced with
  | none =>
    have allReferenced : ∀ entry ∈ ring.entries, ¬(!entry.2.referenced) = true :=
      List.find?_eq_none.mp first
    rw [List.eraseP_of_forall_not allReferenced, List.filter_eq_self]
    intro entry member
    rw [decide_eq_true_iff]
    intro same
    exact allReferenced entry member (by
      rw [consistent.unreferenced_of_slotOf placed member same, Bool.not_false])
  | some stale =>
    have slot : ring.slotOf placement = stale.1.index := by
      have reusable := consistent.find?_entries
      rw [first, Option.map_some] at reusable
      simp only [placement?, ← reusable] at placed
      rw [← Option.some.inj placed]
      rfl
    -- No other entry has the slot of the stale one, so taking out the slot takes out just that.
    obtain ⟨isStale, earlier, later, split, earlierReferenced⟩ :=
      List.find?_eq_some_iff_append.mp first
    have apart := consistent.nodup_indices
    rw [split, List.map_append, List.map_cons, List.nodup_append, List.nodup_cons] at apart
    have earlierStays : ∀ entry ∈ earlier, entry.1.index ≠ stale.1.index := fun entry member =>
      apart.2.2 _ (List.mem_map_of_mem member) _ (List.mem_cons_self ..)
    have laterStays : ∀ entry ∈ later, entry.1.index ≠ stale.1.index := by
      intro entry member same
      exact apart.2.1.1 (same ▸ List.mem_map_of_mem member)
    have erased : (earlier ++ stale :: later).eraseP (fun entry => !entry.2.referenced) =
        earlier ++ later := by
      rw [List.eraseP_append_right _ fun entry member => by
        simpa using earlierReferenced entry member]
      congr 1
      exact List.eraseP_cons_of_pos isStale
    rw [slot, split, erased, List.filter_append, List.filter_cons_of_neg (by simp),
      List.filter_eq_self.mpr (by simpa using earlierStays),
      List.filter_eq_self.mpr (by simpa using laterStays)]

/-- Admission takes out the first picture that is no longer referenced, if there is one, and appends
the new picture under a fresh handle. -/
theorem Consistent.entries_place (consistent : ring.Consistent) {placement : Placement}
    (placed : ring.placement? = some placement) (storage : Picture) :
    (ring.place placement storage).entries =
      (ring.entries.eraseP fun entry => !entry.2.referenced) ++
        [(ring.freshHandle placement, storage.admittedAt (ring.pocLast + 1))] := by
  have order : (ring.place placement storage).order =
      (ring.order.filter (· ≠ ring.slotOf placement)) ++ [ring.slotOf placement] := by
    change ring.order.erase _ ++ _ = _
    rw [consistent.nodup.erase_eq_filter]
    congr 1
    exact List.filter_congr fun index _ => by
      simp [bne, beq_eq_decide]
  rw [entries_eq_filterMap, order, entryAt?_place placed, List.filterMap_append,
    filterMap_update_filter, filterMap_entryAt?_filter, ← entries_eq_filterMap,
    consistent.filter_slotOf placed]
  simp

end PictureRing

end EncoderControl
