import EncoderControl.Error
import EncoderControl.Journal
import EncoderControl.Picture

/-!
# The ring of pictures in flight

Pictures live in numbered slots. A handle names a slot and the generation it was issued for; a slot
changes generation whenever its picture changes, so a handle that outlives its picture names nothing
rather than another picture. A picture is recycled only once it is no longer referenced, the one
admitted first going first.
-/

namespace EncoderControl

/-- Name of a picture in the ring. -/
structure PictureHandle where
  index : Nat
  generation : Nat
deriving DecidableEq, Inhabited

/-- Place for one picture. -/
structure Slot where
  generation : Nat
  picture : Option Picture
deriving Inhabited

/-- The pictures in flight. -/
structure PictureRing where
  slots : List Slot
  /-- Indices of the occupied slots, the oldest admission first. -/
  order : List Nat
  /-- Most pictures at a time. -/
  capacity : Nat
  /-- Pictures have layers for adaptive quantization. -/
  adaptiveQp : Bool
  /-- Output position of the picture admitted last. -/
  pocLast : Int
deriving Inhabited

/-- Where an admitted picture goes. -/
inductive Placement where
  /-- The slot of a picture that is no longer referenced. -/
  | recycle (index : Nat)
  /-- A slot that was vacated. -/
  | refill (index : Nat)
  /-- A new slot. -/
  | grow
deriving DecidableEq

namespace PictureRing

/-- A ring without pictures. -/
def empty (capacity : Nat) (adaptiveQp : Bool) : PictureRing where
  slots := []
  order := []
  capacity := capacity
  adaptiveQp := adaptiveQp
  pocLast := -1

/-- Number of pictures. -/
def size (ring : PictureRing) : Nat :=
  ring.order.length

/-- Whether there are no pictures. -/
def isEmpty (ring : PictureRing) : Bool :=
  ring.order.isEmpty

/-- The picture in the slot with this index. -/
def pictureAt? (ring : PictureRing) (index : Nat) : Option Picture :=
  ring.slots[index]?.bind Slot.picture

/-- The present generation of the slot with this index. -/
def generationAt (ring : PictureRing) (index : Nat) : Nat :=
  (ring.slots[index]?.map Slot.generation).getD 0

/-- The handle that presently names the slot with this index. -/
def handleAt (ring : PictureRing) (index : Nat) : PictureHandle where
  index := index
  generation := ring.generationAt index

/-- The picture that a handle names, if it is still there. -/
def get? (ring : PictureRing) (handle : PictureHandle) : Option Picture :=
  match ring.slots[handle.index]? with
  | some slot => if slot.generation = handle.generation then slot.picture else none
  | none => none

/-- Changes the picture that a handle names, if it is still there. -/
def modify? (ring : PictureRing) (handle : PictureHandle) (change : Picture → Picture) :
    Option PictureRing :=
  (ring.get? handle).map fun picture =>
    { ring with slots := ring.slots.set handle.index ⟨handle.generation, some (change picture)⟩ }

/-- Handles of all pictures in the order of admission. -/
def handles (ring : PictureRing) : List PictureHandle :=
  ring.order.map ring.handleAt

/-- All pictures with their handles in the order of admission. -/
def entries (ring : PictureRing) : List (PictureHandle × Picture) :=
  ring.order.filterMap fun index =>
    (ring.pictureAt? index).map fun picture => (ring.handleAt index, picture)

/-- Handle of the first picture at the output position `poc`. -/
def findPoc? (ring : PictureRing) (poc : Int) : Option PictureHandle :=
  (ring.entries.find? fun entry => entry.2.poc = poc).map Prod.fst

/-- Index of the first slot in the order of admission whose picture is no longer referenced. -/
def reusable? (ring : PictureRing) : Option Nat :=
  ring.order.find? fun index => (ring.pictureAt? index).any fun picture => !picture.referenced

/-- Where the next picture goes: in place of one that is no longer referenced, else into a vacated
or new slot as long as the ring is not full. -/
def placement? (ring : PictureRing) : Option Placement :=
  match ring.reusable? with
  | some index => some (.recycle index)
  | none =>
    if ring.order.length < ring.capacity then
      match ring.slots.findIdx? fun slot => slot.picture.isNone with
      | some index => some (.refill index)
      | none => some .grow
    else
      none

/-- Index of the slot that a placement names. -/
def slotOf (ring : PictureRing) : Placement → Nat
  | .recycle index | .refill index => index
  | .grow => ring.slots.length

/-- Storage for a picture with the given parameter sets, made from a recycled picture. Storage that
was sized for the same picture parameter set is kept. -/
def recycled (ring : PictureRing) (stale : Picture) (sps : Sps) (pps : Pps) : Picture :=
  if stale.pps.id = pps.id then { stale with sps := sps, pps := pps }
  else .ofSets sps pps ring.adaptiveQp

/-- Storage for a picture with the given parameter sets at its place. -/
def storageAt (ring : PictureRing) (sps : Sps) (pps : Pps) : Placement → Picture
  | .recycle index =>
    match ring.pictureAt? index with
    | some stale => ring.recycled stale sps pps
    | none => .ofSets sps pps ring.adaptiveQp
  | .refill _ | .grow => .ofSets sps pps ring.adaptiveQp

/-- Puts a picture at its place, last in the order of admission and with the next output
position. -/
def place (ring : PictureRing) (placement : Placement) (storage : Picture) : PictureRing :=
  let index := ring.slotOf placement
  let poc := ring.pocLast + 1
  let admitted := some (storage.admittedAt poc)
  { ring with
    slots :=
      match placement with
      | .recycle index | .refill index =>
        ring.slots.set index ⟨ring.generationAt index + 1, admitted⟩
      | .grow => ring.slots ++ [⟨0, admitted⟩]
    order := ring.order.erase index ++ [index]
    pocLast := poc }

/-- The record of what becomes of a recycled picture. -/
def recycleRecord (ring : PictureRing) (pps : Pps) : Placement → List Record
  | .recycle index =>
    match ring.pictureAt? index with
    | some stale =>
      if stale.pps.id = pps.id then [⟨.trace, s!"reusing picture of POC {stale.poc}"⟩]
      else
        [⟨.trace, s!"reallocating picture of POC {stale.poc}: PPS {stale.pps.id} replaced " ++
          s!"by {pps.id}"⟩]
    | none => []
  | .refill _ | .grow => []

/-- Admits a picture with the given parameter sets and answers with its handle. The list `output` of
reconstructions is turned by one, so that it stays paired with the ring. -/
def acquire {ρ : Type} (sps : Sps) (pps : Pps) :
    Operation (PictureRing × List ρ) EncodeError PictureHandle := fun (ring, output) =>
  let turned := output.rotateLeft 1
  match ring.placement? with
  | some placement =>
    let admitted := ring.place placement (ring.storageAt sps pps placement)
    let index := ring.slotOf placement
    match admitted.pictureAt? index with
    | some picture =>
      { outcome := .ok (admitted.handleAt index)
        state := (admitted, turned)
        records := ring.recycleRecord pps placement ++
          [⟨.trace, s!"acquired picture for POC {picture.poc} in slot {index}"⟩] }
    | none =>
      { outcome := .error .invalidInternalState
        state := (admitted, turned)
        records := ring.recycleRecord pps placement }
  | none =>
    { outcome := .error (.ringExhausted ring.capacity)
      state := (ring, turned)
      records := [⟨.error, s!"no picture can be recycled, all {ring.capacity} are referenced"⟩] }

/-- Marks a picture as no longer referenced. -/
def release (handle : PictureHandle) : Operation PictureRing EncodeError Unit := do
  let ring ← Operation.read
  match ring.modify? handle fun picture => { picture with referenced := false } with
  | some released => Operation.write released
  | none => Operation.fail .invalidPictureHandle

/-- The ring without the picture in the slot with this index. -/
def vacate (ring : PictureRing) (index : Nat) : PictureRing :=
  { ring with
    slots := ring.slots.set index ⟨ring.generationAt index + 1, none⟩
    order := ring.order.filter fun occupied => occupied != index }

/-- Takes a picture that is no longer referenced out of the ring. -/
def evict (handle : PictureHandle) : Operation PictureRing EncodeError Picture := do
  let ring ← Operation.read
  match ring.get? handle with
  | none => Operation.fail .invalidPictureHandle
  | some picture =>
    if picture.referenced then Operation.fail (.pictureReferenced picture.poc)
    else
      Operation.write (ring.vacate handle.index)
      match ring.pictureAt? handle.index with
      | none => Operation.fail .invalidInternalState
      | some evicted =>
        Operation.log .trace s!"evicted picture of POC {evicted.poc}"
        pure evicted.withoutActivity

/-- The ring without any picture, referenced or not. -/
def clear (ring : PictureRing) : PictureRing :=
  { ring with
    slots := ring.slots.map fun slot => ⟨slot.generation + 1, none⟩
    order := [] }

end PictureRing

end EncoderControl
