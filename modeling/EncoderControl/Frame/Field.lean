import EncoderControl.Error
import EncoderControl.Limits

/-!
# Fields of interlaced frames

An interlaced frame carries two fields on alternating lines: the top field on lines 0, 2, 4, … and
the bottom field on lines 1, 3, 5, …. Separation copies the lines of one field, one after the
other, and stops at the first line that is cut short on either side. The field is allocated as large
as the frame declares it to be, whatever planes the frame has.
-/

namespace EncoderControl

namespace Plane

/-- Copies `count` samples of `source`, from index `start` on, over those of `target` from index
`into` on. Indices outside of `target` are skipped. -/
def copySamples (source : Plane) (start into : Nat) : Nat → Plane → Plane
  | 0, target => target
  | count + 1, target =>
    copySamples source (start + 1) (into + 1) count
      (target.setIfInBounds into (source.getD start 0))

/-- Copies up to `lines` lines of `width` samples. Lines are `stride` apart in `target` and twice
as far apart in `source`; the first of them starts at `start` and `into`. -/
def copyAlternateLines (source : Plane) (stride width : Nat) :
    (lines start into : Nat) → Plane → Plane
  | 0, _, _, target => target
  | lines + 1, start, into, target =>
    if source.size < start + width ∨ target.size < into + width then target
    else
      copyAlternateLines source stride width lines (start + 2 * stride) (into + stride)
        (copySamples source start into width target)

/-- Copies one field of the interlaced plane `source` into `target`. The frame is `height` lines
high, its field half of that; lines are `width` samples long and `stride` samples apart. -/
def separateField (source target : Plane) (stride width height : Nat) (top : Bool) : Plane :=
  copyAlternateLines source stride width (height / 2) (if top then 0 else stride) 0 target

/-- Copying samples overwrites others and adds none. -/
@[simp] theorem size_copySamples (source : Plane) (start into count : Nat) (target : Plane) :
    (copySamples source start into count target).size = target.size := by
  induction count generalizing start into target with
  | zero => rfl
  | succ count inductionHypothesis => simp [copySamples, inductionHypothesis]

/-- Copying lines overwrites samples and adds none. -/
@[simp] theorem size_copyAlternateLines (source : Plane) (stride width lines start into : Nat)
    (target : Plane) :
    (copyAlternateLines source stride width lines start into target).size = target.size := by
  induction lines generalizing start into target with
  | zero => rfl
  | succ lines inductionHypothesis =>
    rw [copyAlternateLines]
    split
    · rfl
    · simp [inductionHypothesis]

/-- Separation overwrites samples and never resizes the plane it writes to. -/
@[simp] theorem size_separateField (source target : Plane) (stride width height : Nat)
    (top : Bool) :
    (separateField source target stride width height top).size = target.size := by
  simp [separateField]

end Plane

namespace Frame

/-- Size of one field of a frame of this size. -/
def fieldResolution (frame : Frame) : Resolution where
  width := frame.resolution.width
  height := frame.resolution.height / 2

/-- The field of `frame` selected by `top`, given that it can be allocated. A frame with more planes
than its format has leaves a plane without a place to go, so it has no fields. -/
def field? (frame : Frame) (top : Bool) : Option Frame :=
  if frame.planes.length ≤ frame.format.numPlanes then
    let blankField := blank frame.fieldResolution frame.format
    some { blankField with
      planes := blankField.planes.mapIdx fun plane target =>
        match frame.planes[plane]? with
        | none => target
        | some source =>
          let size := frame.planeSize plane
          Plane.separateField source target size.width size.width size.height top }
  else
    none

/-- Takes the field of `frame` selected by `top`. A blank field of the declared size is allocated
before the planes of the frame are looked at. -/
def takeField (frame : Frame) (top : Bool) : Except Fault Frame :=
  if Allocatable frame.fieldResolution frame.format then
    match frame.field? top with
    | some field => .ok field
    | none => .error .surplusPlane
  else
    .error .capacityOverflow

/-- A field is taken if it can be allocated and every plane of the frame has a place in it. -/
theorem takeField_eq_ok_iff {frame field : Frame} {top : Bool} :
    frame.takeField top = .ok field ↔
      Allocatable frame.fieldResolution frame.format ∧ frame.field? top = some field := by
  unfold takeField
  split
  · rename_i allocatable
    cases frame.field? top <;> simp [allocatable]
  · rename_i oversized
    simp [oversized]

/-- A field that is taken is the one of the frame. -/
theorem field?_of_takeField {frame field : Frame} {top : Bool}
    (taken : frame.takeField top = .ok field) : frame.field? top = some field :=
  (takeField_eq_ok_iff.mp taken).2

/-- Only planes that the format does not have keep a frame from having fields. -/
theorem field?_eq_none_iff {frame : Frame} {top : Bool} :
    frame.field? top = none ↔ frame.format.numPlanes < frame.planes.length := by
  unfold field?
  split <;> simp <;> omega

/-- What keeps a field from being taken: its size, or else a plane without a place. -/
theorem takeField_eq_error_iff {frame : Frame} {top : Bool} {fault : Fault} :
    frame.takeField top = .error fault ↔
      ¬Allocatable frame.fieldResolution frame.format ∧ fault = .capacityOverflow ∨
        Allocatable frame.fieldResolution frame.format ∧
          frame.format.numPlanes < frame.planes.length ∧ fault = .surplusPlane := by
  have spare : frame.field? top = none ↔ frame.format.numPlanes < frame.planes.length :=
    field?_eq_none_iff
  rw [← spare]
  unfold takeField
  split
  · rename_i allocatable
    cases frame.field? top <;> simp [allocatable, eq_comm]
  · rename_i oversized
    simp [oversized, eq_comm]

/-- Whatever keeps one field from being taken keeps the other one as well. -/
theorem takeField_of_error {frame : Frame} {top : Bool} {fault : Fault}
    (faults : frame.takeField top = .error fault) (other : Bool) :
    frame.takeField other = .error fault :=
  takeField_eq_error_iff.mpr (takeField_eq_error_iff.mp faults)

/-- Both fields of a frame can be taken, or none. -/
theorem exists_takeField_of_ok {frame field : Frame} {top : Bool}
    (taken : frame.takeField top = .ok field) (other : Bool) :
    ∃ otherField, frame.takeField other = .ok otherField := by
  cases answer : frame.takeField other with
  | ok otherField => exact ⟨otherField, rfl⟩
  | error fault =>
    rw [takeField_of_error answer top] at taken
    cases taken

end Frame

end EncoderControl
