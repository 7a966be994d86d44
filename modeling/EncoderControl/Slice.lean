import EncoderControl.ParameterSet.Pps

/-!
# Slices

What the control layer tells the coder about the slice that is coded next.
-/

namespace EncoderControl

/-- A slice about to be coded, with the parameter sets of its picture. -/
structure Slice where
  sliceType : SliceType
  poc : Int
  fieldPic : Bool := false
  /-- Index of the reference set that the slice was given, in the list of the sequence. -/
  referenceSet : Nat := 0
  sps : Sps
  pps : Pps

end EncoderControl
