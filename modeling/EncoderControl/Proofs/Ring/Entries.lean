import Mathlib.Data.List.Nodup
import Mathlib.Logic.Function.Basic
import EncoderControl.Ring

/-!
# The ring as a list of named pictures

A `Consistent` ring is the same thing as the list of its entries: handles resolve by looking them up
in that list, and every operation of the ring is an operation of the list. The lemmas here say which
one, so that nothing built on top of them looks at slots, generations or the order of indices.
-/

namespace EncoderControl

namespace PictureRing

variable {ring changed : PictureRing}

/-- Each occupied slot stands exactly once in the order of admission, and no other index does. -/
structure Consistent (ring : PictureRing) : Prop where
  nodup : ring.order.Nodup
  mem_order_iff : ∀ index, index ∈ ring.order ↔ (ring.pictureAt? index).isSome

/-- What the slot with this index holds, under the handle that presently names it. -/
def entryAt? (ring : PictureRing) (index : Nat) : Option (PictureHandle × Picture) :=
  (ring.pictureAt? index).map fun picture => (ring.handleAt index, picture)

/-- The entries are those of the slots in the order of admission. -/
theorem entries_eq_filterMap (ring : PictureRing) :
    ring.entries = ring.order.filterMap ring.entryAt? := rfl

/-- The handle of a slot carries its index. -/
@[simp] theorem index_handleAt (ring : PictureRing) (index : Nat) :
    (ring.handleAt index).index = index := rfl

/-- A slot has an entry exactly when it holds a picture. -/
@[simp] theorem isSome_entryAt? (ring : PictureRing) (index : Nat) :
    (ring.entryAt? index).isSome = (ring.pictureAt? index).isSome := by
  simp [entryAt?]

/-- The entry of a slot is its picture under the handle that presently names it. -/
theorem entryAt?_eq_some_iff {index : Nat} {handle : PictureHandle} {picture : Picture} :
    ring.entryAt? index = some (handle, picture) ↔
      handle = ring.handleAt index ∧ ring.pictureAt? index = some picture := by
  simp only [entryAt?, Option.map_eq_some_iff, Prod.mk.injEq]
  constructor
  · rintro ⟨stored, atIndex, rfl, rfl⟩
    exact ⟨rfl, atIndex⟩
  · rintro ⟨rfl, atIndex⟩
    exact ⟨picture, atIndex, rfl, rfl⟩

/-- An entry stands under a handle of its own slot. -/
theorem index_of_entryAt? {index : Nat} {entry : PictureHandle × Picture}
    (found : ring.entryAt? index = some entry) : entry.1.index = index := by
  obtain ⟨handle, picture⟩ := entry
  rw [entryAt?_eq_some_iff] at found
  rw [found.1, index_handleAt]

/-- A handle resolves exactly to what its slot holds, provided that it is the one naming the
slot. -/
theorem get?_eq_some_iff {handle : PictureHandle} {picture : Picture} :
    ring.get? handle = some picture ↔ ring.entryAt? handle.index = some (handle, picture) := by
  obtain ⟨index, generation⟩ := handle
  rw [entryAt?_eq_some_iff]
  unfold get? handleAt generationAt pictureAt?
  cases ring.slots[index]? with
  | none => simp
  | some slot =>
    simp only [Option.map_some, Option.getD_some, Option.bind_some, PictureHandle.mk.injEq,
      true_and, Option.ite_none_right_eq_some]
    exact and_congr_left fun _ => eq_comm

/-- A picture that a handle resolves to stands in the slot of that handle. -/
theorem pictureAt?_of_get? {handle : PictureHandle} {picture : Picture}
    (found : ring.get? handle = some picture) :
    ring.pictureAt? handle.index = some picture :=
  (entryAt?_eq_some_iff.mp (get?_eq_some_iff.mp found)).2

/-! ### Entries of a consistent ring -/

/-- The handles that resolve are those in the list of entries, each with its own picture. -/
theorem Consistent.mem_entries_iff (consistent : ring.Consistent) {handle : PictureHandle}
    {picture : Picture} :
    (handle, picture) ∈ ring.entries ↔ ring.get? handle = some picture := by
  rw [entries_eq_filterMap, List.mem_filterMap, get?_eq_some_iff]
  constructor
  · rintro ⟨index, -, found⟩
    rwa [← index_of_entryAt? found] at found
  · intro found
    refine ⟨handle.index, ?_, found⟩
    rw [consistent.mem_order_iff, ← isSome_entryAt?, found]
    rfl

/-- The entries occupy the slots in the order of admission. -/
theorem Consistent.map_index_entries (consistent : ring.Consistent) :
    ring.entries.map (fun entry => entry.1.index) = ring.order := by
  have occupied : ∀ index ∈ ring.order, ∃ entry, ring.entryAt? index = some entry := by
    intro index member
    rw [consistent.mem_order_iff, ← isSome_entryAt?] at member
    exact Option.isSome_iff_exists.mp member
  rw [entries_eq_filterMap]
  generalize ring.order = order at occupied
  induction order with
  | nil => rfl
  | cons index later inductionHypothesis =>
    obtain ⟨entry, found⟩ := occupied index (List.mem_cons_self ..)
    rw [List.filterMap_cons_some found, List.map_cons, index_of_entryAt? found,
      inductionHypothesis fun other member => occupied other (List.mem_cons_of_mem _ member)]

/-- The list of handles is the one of the entries. -/
theorem Consistent.handles_eq (consistent : ring.Consistent) :
    ring.handles = ring.entries.map Prod.fst := by
  have named : ∀ entry ∈ ring.entries, ring.handleAt entry.1.index = entry.1 := by
    rintro ⟨handle, picture⟩ member
    rw [consistent.mem_entries_iff, get?_eq_some_iff, entryAt?_eq_some_iff] at member
    exact member.1.symm
  calc ring.handles
      = (ring.entries.map fun entry => entry.1.index).map ring.handleAt := by
        rw [consistent.map_index_entries]; rfl
    _ = ring.entries.map fun entry => ring.handleAt entry.1.index := by
        rw [List.map_map]; rfl
    _ = ring.entries.map Prod.fst := List.map_congr_left named

/-- There is one entry for each occupied slot. -/
theorem Consistent.length_entries (consistent : ring.Consistent) :
    ring.entries.length = ring.order.length := by
  rw [← consistent.map_index_entries, List.length_map]

/-- No slot is occupied by two entries. -/
theorem Consistent.nodup_indices (consistent : ring.Consistent) :
    (ring.entries.map fun entry => entry.1.index).Nodup := by
  rw [consistent.map_index_entries]
  exact consistent.nodup

/-- Entries in the same slot are the same entry. -/
theorem Consistent.entry_eq_of_index_eq (consistent : ring.Consistent)
    {first second : PictureHandle × Picture} (firstMember : first ∈ ring.entries)
    (secondMember : second ∈ ring.entries) (same : first.1.index = second.1.index) :
    first = second :=
  List.inj_on_of_nodup_map consistent.nodup_indices firstMember secondMember same

/-- The picture of a slot is the one of the entry in it. -/
theorem Consistent.pictureAt?_of_mem (consistent : ring.Consistent)
    {entry : PictureHandle × Picture} (member : entry ∈ ring.entries) :
    ring.pictureAt? entry.1.index = some entry.2 :=
  pictureAt?_of_get? (consistent.mem_entries_iff.mp member)

/-- A new ring has no entries. -/
@[simp] theorem entries_empty (capacity : Nat) (adaptiveQp : Bool) :
    (empty capacity adaptiveQp).entries = [] := rfl

/-- A new ring is consistent. -/
theorem consistent_empty (capacity : Nat) (adaptiveQp : Bool) :
    (empty capacity adaptiveQp).Consistent where
  nodup := List.nodup_nil
  mem_order_iff := by simp [empty, pictureAt?]

/-! ### Changing one slot -/

/-- Replacing a slot replaces its entry, and no other. -/
theorem entryAt?_of_slots_set {index : Nat} {slot : Slot} (valid : index < ring.slots.length)
    (slots : changed.slots = ring.slots.set index slot) :
    changed.entryAt? = Function.update ring.entryAt? index
      (slot.picture.map fun picture => (⟨index, slot.generation⟩, picture)) := by
  funext other
  by_cases same : other = index
  · subst same
    simp [entryAt?, pictureAt?, handleAt, generationAt, slots, valid]
  · simp [entryAt?, pictureAt?, handleAt, generationAt, slots, same,
      List.getElem?_set_ne (Ne.symm same)]

/-- A slot added at the end brings its own entry and leaves the others alone. -/
theorem entryAt?_of_slots_append {slot : Slot} (slots : changed.slots = ring.slots ++ [slot]) :
    changed.entryAt? = Function.update ring.entryAt? ring.slots.length
      (slot.picture.map fun picture => (⟨ring.slots.length, slot.generation⟩, picture)) := by
  funext other
  by_cases same : other = ring.slots.length
  · subst same
    simp [entryAt?, pictureAt?, handleAt, generationAt, slots]
  · rw [Function.update_of_ne same]
    have unchanged : changed.slots[other]? = ring.slots[other]? := by
      rw [slots]
      by_cases inside : other < ring.slots.length
      · rw [List.getElem?_append_left inside]
      · rw [List.getElem?_eq_none (by simp; omega), List.getElem?_eq_none (by omega)]
    simp [entryAt?, pictureAt?, handleAt, generationAt, unchanged]

/-- Entries of the indices other than `index` are the entries outside of its slot. -/
theorem filterMap_entryAt?_filter (ring : PictureRing) (index : Nat) (order : List Nat) :
    (order.filter (· ≠ index)).filterMap ring.entryAt? =
      (order.filterMap ring.entryAt?).filter fun entry => entry.1.index ≠ index := by
  rw [List.filterMap_filter, List.filter_filterMap]
  refine List.filterMap_congr fun other _ => ?_
  cases found : ring.entryAt? other with
  | none => simp
  | some entry =>
    by_cases same : other = index <;>
      simp [Option.filter, index_of_entryAt? found, same]

/-- A change of the slot `index` does not reach the entries of other slots. -/
theorem filterMap_update_filter (ring : PictureRing) (index : Nat)
    (entry : Option (PictureHandle × Picture)) (order : List Nat) :
    (order.filter (· ≠ index)).filterMap (Function.update ring.entryAt? index entry) =
      (order.filter (· ≠ index)).filterMap ring.entryAt? := by
  refine List.filterMap_congr fun other member => ?_
  rw [List.mem_filter, decide_eq_true_iff] at member
  exact Function.update_of_ne member.2 ..

end PictureRing

end EncoderControl
