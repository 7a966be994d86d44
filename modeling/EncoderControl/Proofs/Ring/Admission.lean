import EncoderControl.Proofs.Ring.Edits

/-!
# Admitting a filled picture

A picture is admitted and then filled through its fresh handle. On the entries this is one step: the
oldest picture that is no longer referenced goes, and the filled picture comes last. As long as
fewer pictures are referenced than the ring has room for, there is a place for one more.
-/

namespace EncoderControl

namespace PictureRing

variable {ring : PictureRing} {placement : Placement}

/-- The ring with a new picture at its place, filled through its handle. -/
def accept (ring : PictureRing) (placement : Placement) (storage : Picture)
    (fill : Picture → Picture) : PictureRing :=
  (ring.place placement storage).edit (.write (ring.freshHandle placement) fill)

/-- Number of pictures that are still referenced. -/
def numReferenced (ring : PictureRing) : Nat :=
  ring.entries.countP fun entry => entry.2.referenced

/-- The picture that was just admitted is there to be filled. -/
theorem modify?_freshHandle (placed : ring.placement? = some placement) (storage : Picture)
    (fill : Picture → Picture) :
    (ring.place placement storage).modify? (ring.freshHandle placement) fill =
      some (ring.accept placement storage fill) := by
  have found := get?_freshHandle_place placed storage
  simp only [accept, edit, modify?, found, Option.map_some, Option.getD_some]

/-- An admission takes the next output position. -/
@[simp] theorem pocLast_accept (ring : PictureRing) (placement : Placement) (storage : Picture)
    (fill : Picture → Picture) :
    (ring.accept placement storage fill).pocLast = ring.pocLast + 1 :=
  (shape_edit (ring.place placement storage) _).1

/-- An admission leaves the capacity alone. -/
@[simp] theorem capacity_accept (ring : PictureRing) (placement : Placement) (storage : Picture)
    (fill : Picture → Picture) :
    (ring.accept placement storage fill).capacity = ring.capacity :=
  (shape_edit (ring.place placement storage) _).2.1

/-- Admissions keep a ring consistent. -/
theorem Consistent.accept (consistent : ring.Consistent)
    (placed : ring.placement? = some placement) (storage : Picture) (fill : Picture → Picture) :
    (ring.accept placement storage fill).Consistent :=
  (consistent.place placed storage).edit _

/-- The filled picture comes last, and takes the place of the first one that is no longer
referenced, if there is one. -/
theorem Consistent.entries_accept (consistent : ring.Consistent)
    (placed : ring.placement? = some placement) (storage : Picture) (fill : Picture → Picture) :
    (ring.accept placement storage fill).entries =
      (ring.entries.eraseP fun entry => !entry.2.referenced) ++
        [(ring.freshHandle placement, fill (storage.admittedAt (ring.pocLast + 1)))] := by
  have placedEntries := consistent.entries_place placed storage
  have apart := (consistent.place placed storage).nodup_indices
  rw [placedEntries, List.map_append, List.nodup_append] at apart
  have others : ∀ entry ∈ ring.entries.eraseP fun entry => !entry.2.referenced,
      RingEdit.onEntry (ring.freshHandle placement) fill entry = entry := by
    intro entry member
    refine if_neg fun same => ?_
    exact apart.2.2 _ (List.mem_map_of_mem member) _ (List.mem_singleton.mpr rfl) (by rw [same])
  rw [PictureRing.accept, (consistent.place placed storage).entries_edit, placedEntries,
    RingEdit.onEntries, List.map_append, List.map_congr_left others, List.map_id']
  simp [RingEdit.onEntry]

/-- A ring that has room for more pictures than are referenced has a place for one more. -/
theorem Consistent.exists_placement (consistent : ring.Consistent)
    (room : ring.numReferenced < ring.capacity) : ring.placement? ≠ none := by
  intro none
  obtain ⟨noneReusable, full⟩ := placement?_eq_none_iff.mp none
  have allReferenced := consistent.reusable?_eq_none_iff.mp noneReusable
  have counted : ring.numReferenced = ring.order.length := by
    rw [← consistent.length_entries]
    exact List.countP_eq_length.mpr allReferenced
  omega

/-- An admission adds at most one picture to those that are referenced. -/
theorem Consistent.numReferenced_accept (consistent : ring.Consistent)
    (placed : ring.placement? = some placement) (storage : Picture) (fill : Picture → Picture) :
    (ring.accept placement storage fill).numReferenced ≤ ring.numReferenced + 1 := by
  have kept : ((ring.entries.eraseP fun entry => !entry.2.referenced).countP fun entry =>
      entry.2.referenced) ≤ ring.numReferenced := List.eraseP_sublist.countP_le
  rw [numReferenced, consistent.entries_accept placed, List.countP_append]
  exact Nat.add_le_add kept (List.countP_le_length ..)

end PictureRing

end EncoderControl
