import EncoderControl.Geometry

/-!
# Planar pictures

A frame holds up to three planes of 16-bit samples, row by row and without padding. A frame value
may carry planes that do not fit its declared size and format; `Frame.WellFormed` singles out those
that do, and every blank frame is one of them.
-/

namespace EncoderControl

/-- Samples of one plane, row by row. -/
abbrev Plane := Array UInt16

/-- A planar picture together with the size and the format it declares. -/
structure Frame where
  resolution : Resolution
  format : ChromaFormat
  planes : List Plane
deriving DecidableEq, Inhabited

namespace Frame

/-- Size that the plane with index `plane` has by declaration. -/
def planeSize (frame : Frame) (plane : Nat) : Resolution :=
  frame.format.planeSize frame.resolution plane

/-- Samples from one line of the plane to the next. Planes are tightly packed. -/
def stride (frame : Frame) (plane : Nat) : Nat :=
  (frame.planeSize plane).width

/-- A frame of the given size and format whose samples are all zero. -/
def blank (resolution : Resolution) (format : ChromaFormat) : Frame where
  resolution := resolution
  format := format
  planes := (List.range format.numPlanes).map fun plane =>
    Array.replicate (format.planeSize resolution plane).area 0

/-- Number of samples in each plane. -/
def planeLengths (frame : Frame) : List Nat :=
  frame.planes.map Array.size

/-- The planes have exactly the number and the lengths that size and format call for. -/
def WellFormed (frame : Frame) : Prop :=
  frame.planeLengths =
    (List.range frame.format.numPlanes).map fun plane => (frame.planeSize plane).area

instance (frame : Frame) : Decidable frame.WellFormed :=
  inferInstanceAs (Decidable (_ = _))

/-- Blank frames have exactly the planes their size and format call for. -/
theorem wellFormed_blank (resolution : Resolution) (format : ChromaFormat) :
    (blank resolution format).WellFormed := by
  simp [WellFormed, planeLengths, planeSize, blank, Function.comp_def]

end Frame

end EncoderControl
