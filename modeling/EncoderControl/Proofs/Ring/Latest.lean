import EncoderControl.Proofs.Ring.Waiting

/-!
# The pictures admitted last

Nothing reaches a waiting picture before it is handed over. Whatever is known of a picture when it
is admitted is therefore still known when its batch is due, and the pictures of the batch are the
ones admitted last.
-/

namespace EncoderControl

namespace PictureRing

variable {ring : PictureRing} {numPics : Nat} {Fits Other : Picture → Prop}

/-- The pictures that were admitted last, in the order of admission. -/
def latest (ring : PictureRing) (count : Nat) : List Picture :=
  (ring.entries.drop (ring.entries.length - count)).map Prod.snd

/-- As many ascending positions up to this one. -/
def positionsUpTo (pocLast : Int) (count : Nat) : List Int :=
  (List.range count).map fun place : Nat => pocLast - count + 1 + place

/-- One more position continues those up to the present one. -/
theorem positionsUpTo_succ (pocLast : Int) (count : Nat) :
    positionsUpTo (pocLast + 1) (count + 1) = positionsUpTo pocLast count ++ [pocLast + 1] := by
  have start : pocLast + 1 - ((count + 1 : Nat) : Int) = pocLast - count := by omega
  rw [positionsUpTo, start, List.range_succ, List.map_append, List.map_singleton, ← positionsUpTo]
  congr 2
  omega

/-- The positions lie after those of earlier pictures, and no later than the last one. -/
theorem mem_positionsUpTo {pocLast poc : Int} {count : Nat}
    (member : poc ∈ positionsUpTo pocLast count) : pocLast - count < poc ∧ poc ≤ pocLast := by
  obtain ⟨place, inside, rfl⟩ := List.mem_map.mp member
  have := List.mem_range.mp inside
  omega

/-- The ring ends with the pictures that wait: they are all referenced, by ascending positions up to
the present one, and fit. -/
structure Awaits (ring : PictureRing) (numPics : Nat) (Fits : Picture → Prop) : Prop where
  consistent : ring.Consistent
  split : ∃ older waiting, ring.entries = older ++ waiting ∧
    (waiting.map fun entry => entry.2.poc) = positionsUpTo ring.pocLast numPics ∧
    ∀ entry ∈ waiting, entry.2.referenced = true ∧ Fits entry.2

/-- When no picture waits nothing is known of any. -/
theorem Consistent.awaits_none (consistent : ring.Consistent) : ring.Awaits 0 Fits where
  consistent := consistent
  split := ⟨_, [], (List.append_nil _).symm, rfl, by simp⟩

/-- No picture waits in a new ring. -/
theorem awaits_empty (capacity : Nat) (adaptiveQp : Bool) :
    (empty capacity adaptiveQp).Awaits 0 Fits :=
  (consistent_empty capacity adaptiveQp).awaits_none

/-- Pictures that wait keep whatever follows from what is known of them. -/
theorem Awaits.mono (awaits : ring.Awaits numPics Fits)
    (implies : ∀ picture, Fits picture → Other picture) : ring.Awaits numPics Other where
  consistent := awaits.consistent
  split := by
    obtain ⟨older, waiting, entries, positions, fit⟩ := awaits.split
    exact ⟨older, waiting, entries, positions, fun entry member =>
      ⟨(fit entry member).1, implies _ (fit entry member).2⟩⟩

/-- An admission adds one picture to those that wait. -/
theorem Awaits.accept (awaits : ring.Awaits numPics Fits) {placement : Placement}
    (placed : ring.placement? = some placement) (storage : Picture) {fill : Picture → Picture}
    (kept : ∀ picture, (fill picture).poc = picture.poc ∧
      (fill picture).referenced = picture.referenced)
    (fits : Fits (fill (storage.admittedAt (ring.pocLast + 1)))) :
    (ring.accept placement storage fill).Awaits (numPics + 1) Fits where
  consistent := awaits.consistent.accept placed storage fill
  split := by
    obtain ⟨older, waiting, entries, positions, fit⟩ := awaits.split
    obtain ⟨rest, -, accepted⟩ := awaits.consistent.entries_accept_of_waiting placed storage fill
      entries fun entry member => (fit entry member).1
    obtain ⟨position, referenced⟩ := kept (storage.admittedAt (ring.pocLast + 1))
    refine ⟨rest, _, accepted, ?_, ?_⟩
    · rw [List.map_append, positions, pocLast_accept, positionsUpTo_succ]
      exact congrArg (fun poc => _ ++ [poc]) position
    · rw [List.forall_mem_append, List.forall_mem_singleton]
      exact ⟨fit, referenced, fits⟩

/-- Once the waiting pictures are handed over nothing is known of any picture, nor need it be. -/
theorem Awaits.settle (awaits : ring.Awaits numPics Fits) (edits : List RingEdit) :
    (ring.editAll edits).Awaits 0 Other :=
  (awaits.consistent.editAll edits).awaits_none

/-- The pictures admitted last are those that wait. -/
theorem Awaits.latest (awaits : ring.Awaits numPics Fits) :
    (ring.latest numPics).map Picture.poc = positionsUpTo ring.pocLast numPics ∧
      ∀ picture ∈ ring.latest numPics, Fits picture := by
  obtain ⟨older, waiting, entries, positions, fit⟩ := awaits.split
  have count : waiting.length = numPics := by
    simpa [positionsUpTo] using congrArg List.length positions
  have tail : ring.latest numPics = waiting.map Prod.snd := by
    rw [PictureRing.latest, entries, List.length_append, count, Nat.add_sub_cancel, List.drop_left]
  rw [tail, List.map_map, List.forall_mem_map]
  exact ⟨positions, fun entry member => (fit entry member).2⟩

end PictureRing

end EncoderControl
