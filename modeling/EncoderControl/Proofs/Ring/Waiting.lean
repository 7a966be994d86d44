import EncoderControl.Proofs.Ring.Admission

/-!
# Pictures that wait in a ring

The pictures admitted last wait at the end of the ring until they are coded. They are all
referenced, so an admission recycles none of them and only adds one more. Whatever is done to a ring
through its handles, positions aside, leaves it with nothing but older pictures.
-/

namespace EncoderControl

/-- A picture as it was admitted, with the source that was admitted at its position. -/
structure Picture.AsAdmitted (admitted : List Frame) (picture : Picture) : Prop where
  nonnegative : 0 ≤ picture.poc
  source : admitted[picture.poc.toNat]? = some picture.orig
  referenced : picture.referenced = true
  notCoded : picture.reconstructed = false

/-- Later admissions do not change what was admitted before. -/
theorem Picture.AsAdmitted.append {admitted : List Frame} {picture : Picture}
    (asAdmitted : picture.AsAdmitted admitted) (more : List Frame) :
    picture.AsAdmitted (admitted ++ more) :=
  { asAdmitted with
    source := by
      obtain ⟨inside, -⟩ := List.getElem?_eq_some_iff.mp asAdmitted.source
      rw [List.getElem?_append_left inside]
      exact asAdmitted.source }

namespace PictureRing

variable {ring : PictureRing} {admitted : List Frame} {numPics : Nat}

/-- The last `numPics` pictures of the ring, by ascending positions up to the present one, are as
they were admitted, and no other picture has such a position. -/
structure Presents (ring : PictureRing) (admitted : List Frame) (numPics : Nat) : Prop where
  enough : numPics ≤ ring.handles.length
  distinct : ring.handles.Nodup
  waiting : ∀ place < numPics, ∃ handle picture,
    ring.handles[ring.handles.length - numPics + place]? = some handle ∧
      ring.get? handle = some picture ∧
      picture.poc = ring.pocLast - numPics + 1 + place ∧ picture.AsAdmitted admitted
  older : ∀ handle ∈ ring.handles.take (ring.handles.length - numPics), ∀ picture,
    ring.get? handle = some picture → picture.poc ≤ ring.pocLast - numPics

/-- Later admissions do not change what was presented before. -/
theorem Presents.append (presents : ring.Presents admitted numPics) (more : List Frame) :
    ring.Presents (admitted ++ more) numPics :=
  { presents with
    waiting := by
      intro place inside
      obtain ⟨handle, picture, last, resolves, position, asAdmitted⟩ :=
        presents.waiting place inside
      exact ⟨handle, picture, last, resolves, position, asAdmitted.append more⟩ }

/-- What is known of a ring while `numPics` pictures wait in it: its entries are those of older
pictures, followed by the waiting ones. -/
structure Holds (ring : PictureRing) (admitted : List Frame) (numPics : Nat) : Prop where
  consistent : ring.Consistent
  counted : ring.pocLast + 1 = admitted.length
  split : ∃ older waiting, ring.entries = older ++ waiting ∧
    (waiting.map fun entry => entry.2.poc) =
      ((List.range numPics).map fun place : Nat => ring.pocLast - numPics + 1 + place) ∧
    (∀ entry ∈ waiting, entry.2.AsAdmitted admitted) ∧
    ∀ entry ∈ older, entry.2.poc ≤ ring.pocLast - numPics

/-- A new ring holds no pictures that wait. -/
theorem holds_empty (capacity : Nat) (adaptiveQp : Bool) :
    (empty capacity adaptiveQp).Holds [] 0 where
  consistent := consistent_empty capacity adaptiveQp
  counted := rfl
  split := ⟨[], [], rfl, rfl, by simp, by simp⟩

/-- An admission takes out an older picture at most, as long as all that wait are referenced. -/
theorem Consistent.entries_accept_of_waiting (consistent : ring.Consistent)
    {placement : Placement} (placed : ring.placement? = some placement) (storage : Picture)
    (fill : Picture → Picture) {older waiting : List (PictureHandle × Picture)}
    (entries : ring.entries = older ++ waiting)
    (referenced : ∀ entry ∈ waiting, entry.2.referenced = true) :
    ∃ rest, rest.Sublist older ∧
      (ring.accept placement storage fill).entries =
        rest ++
          (waiting ++
            [(ring.freshHandle placement, fill (storage.admittedAt (ring.pocLast + 1)))]) := by
  have kept : (waiting.eraseP fun entry => !entry.2.referenced) = waiting :=
    List.eraseP_of_forall_not fun entry member => by simp [referenced entry member]
  rw [consistent.entries_accept placed, entries, List.eraseP_append]
  split
  · exact ⟨_, List.eraseP_sublist, List.append_assoc ..⟩
  · exact ⟨older, .refl _, by rw [kept, List.append_assoc]⟩

/-- An admission recycles none of the waiting pictures and adds one to them. -/
theorem Holds.accept (holds : ring.Holds admitted numPics) {placement : Placement}
    (placed : ring.placement? = some placement) (storage : Picture) {fill : Picture → Picture}
    {input : Frame}
    (filled : ∀ picture, (fill picture).poc = picture.poc ∧
      (fill picture).referenced = picture.referenced ∧
      (fill picture).reconstructed = picture.reconstructed ∧ (fill picture).orig = input) :
    (ring.accept placement storage fill).Holds (admitted ++ [input]) (numPics + 1) where
  consistent := holds.consistent.accept placed storage fill
  counted := by
    have counted := holds.counted
    rw [pocLast_accept, List.length_append, List.length_singleton]
    omega
  split := by
    obtain ⟨older, waiting, entries, positions, asAdmitted, before⟩ := holds.split
    have counted := holds.counted
    let newest := fill (storage.admittedAt (ring.pocLast + 1))
    obtain ⟨position, referenced, reconstructed, source⟩ :=
      filled (storage.admittedAt (ring.pocLast + 1))
    obtain ⟨rest, sublist, accepted⟩ := holds.consistent.entries_accept_of_waiting placed storage
      fill entries fun entry member => (asAdmitted entry member).referenced
    have next : newest.poc = ring.pocLast + 1 := position
    have start : ring.pocLast + 1 - ((numPics + 1 : Nat) : Int) = ring.pocLast - numPics := by
      omega
    refine ⟨rest, waiting ++ [(ring.freshHandle placement, newest)], accepted, ?_, ?_, ?_⟩
    · rw [pocLast_accept, start, List.map_append, positions, List.range_succ, List.map_append,
        List.map_singleton, List.map_singleton]
      change _ ++ [newest.poc] = _
      rw [next]
      congr 2
      omega
    · intro entry member
      rcases List.mem_append.mp member with earlier | last
      · exact (asAdmitted entry earlier).append [input]
      · rw [List.mem_singleton.mp last]
        have place : newest.poc = admitted.length := next.trans counted
        exact
          { nonnegative := by rw [place]; exact Int.natCast_nonneg _
            source := by
              rw [place, Int.toNat_natCast, List.getElem?_concat_length, source]
            referenced := referenced
            notCoded := reconstructed }
    · intro entry member
      rw [pocLast_accept, start]
      exact before entry (sublist.subset member)

/-- Edits that keep positions bring no picture beyond a bound. -/
theorem Consistent.poc_le_editAll (consistent : ring.Consistent) {bound : Int}
    (bounded : ∀ entry ∈ ring.entries, entry.2.poc ≤ bound) {edits : List RingEdit}
    (keeps : ∀ step ∈ edits, step.KeepsPoc) :
    ∀ entry ∈ (ring.editAll edits).entries, entry.2.poc ≤ bound := by
  induction edits generalizing ring with
  | nil => exact bounded
  | cons step later inductionHypothesis =>
    rw [List.forall_mem_cons] at keeps
    refine inductionHypothesis (consistent.edit step) ?_ keeps.2
    rw [consistent.entries_edit]
    intro entry member
    have position := (RingEdit.positions_sublist keeps.1 ring.entries).subset
      (List.mem_map_of_mem member)
    obtain ⟨earlier, earlierMember, same⟩ := List.mem_map.mp position
    rw [← same]
    exact bounded earlier earlierMember

/-- Once they are handed over, the waiting pictures are older ones, whatever is done to them. -/
theorem Holds.settle (holds : ring.Holds admitted numPics) {edits : List RingEdit}
    (keeps : ∀ step ∈ edits, step.KeepsPoc) : (ring.editAll edits).Holds admitted 0 where
  consistent := holds.consistent.editAll edits
  counted := by
    rw [(shape_editAll ring edits).1]
    exact holds.counted
  split := by
    obtain ⟨older, waiting, entries, positions, -, before⟩ := holds.split
    have bounded : ∀ entry ∈ ring.entries, entry.2.poc ≤ ring.pocLast := by
      intro entry member
      rw [entries] at member
      rcases List.mem_append.mp member with earlier | waits
      · have bound := before entry earlier
        omega
      · have position := List.mem_map_of_mem (f := fun entry => entry.2.poc) waits
        rw [positions] at position
        obtain ⟨place, inside, same⟩ := List.mem_map.mp position
        have := List.mem_range.mp inside
        omega
    -- Nothing waits any more, so that the edits may have touched any picture does not matter.
    refine ⟨_, [], (List.append_nil _).symm, rfl, by simp, ?_⟩
    rw [(shape_editAll ring edits).1]
    have stillBounded := holds.consistent.poc_le_editAll bounded keeps
    intro entry member
    have bound := stillBounded entry member
    omega

/-- While pictures wait, the ring presents them. -/
theorem Holds.presents (holds : ring.Holds admitted numPics) : ring.Presents admitted numPics := by
  obtain ⟨older, waiting, entries, positions, asAdmitted, before⟩ := holds.split
  have count : waiting.length = numPics := by
    simpa using congrArg List.length positions
  have handles : ring.handles = older.map Prod.fst ++ waiting.map Prod.fst := by
    rw [holds.consistent.handles_eq, entries, List.map_append]
  have length : ring.handles.length = older.length + numPics := by
    rw [handles, List.length_append, List.length_map, List.length_map, count]
  have start : ring.handles.length - numPics = (older.map Prod.fst).length := by
    rw [length, List.length_map, Nat.add_sub_cancel]
  have resolves {entry : PictureHandle × Picture} (member : entry ∈ older ++ waiting) :
      ring.get? entry.1 = some entry.2 := by
    rw [← entries] at member
    exact holds.consistent.mem_entries_iff.mp member
  exact
    { enough := by omega
      distinct := by
        rw [holds.consistent.handles_eq]
        refine List.Nodup.of_map PictureHandle.index ?_
        rw [List.map_map]
        exact holds.consistent.nodup_indices
      waiting := by
        intro place inside
        obtain ⟨entry, atPlace⟩ : ∃ entry, waiting[place]? = some entry :=
          ⟨_, List.getElem?_eq_getElem (count ▸ inside)⟩
        have member := List.mem_of_getElem? atPlace
        have position := congrArg (fun places => places[place]?) positions
        simp only [List.getElem?_map, atPlace, List.getElem?_range inside, Option.map_some,
          Option.some.injEq] at position
        refine ⟨entry.1, entry.2, ?_, resolves (List.mem_append_right _ member), position,
          asAdmitted entry member⟩
        rw [start, handles, List.getElem?_append_right (Nat.le_add_right _ _),
          Nat.add_sub_cancel_left, List.getElem?_map, atPlace, Option.map_some]
      older := by
        intro handle member picture found
        rw [start, handles, List.take_left] at member
        obtain ⟨entry, earlier, rfl⟩ := List.mem_map.mp member
        rw [resolves (List.mem_append_left _ earlier)] at found
        cases found
        exact before entry earlier }

end PictureRing

end EncoderControl
