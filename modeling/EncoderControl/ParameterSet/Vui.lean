import EncoderControl.ParameterSet.Hrd

/-!
# Video usability information

What a player should know about a stream beyond decoding it: the shape of samples, the colours, the
clock and the buffer model.
-/

namespace EncoderControl

/-- Video usability information of a sequence. -/
structure VuiParameters where
  aspectRatioInfoPresent : Bool := false
  aspectRatioIdc : Nat := 0
  sarWidth : Nat := 0
  sarHeight : Nat := 0
  overscanInfoPresent : Bool := false
  overscanAppropriate : Bool := false
  videoSignalTypePresent : Bool := false
  videoFormat : Nat := 0
  videoFullRange : Bool := false
  colourDescriptionPresent : Bool := false
  colourPrimaries : Nat := 0
  transferCharacteristics : Nat := 0
  matrixCoeffs : Nat := 0
  chromaLocInfoPresent : Bool := false
  chromaSampleLocTypeTopField : Nat := 0
  chromaSampleLocTypeBottomField : Nat := 0
  neutralChromaIndication : Bool := false
  fieldSeq : Bool := false
  frameFieldInfoPresent : Bool := false
  timingInfo : TimingInfo := {}
  hrdParametersPresent : Bool := false
  hrd : HrdParameters := {}
  bitstreamRestriction : Bool := false
  tilesFixedStructure : Bool := false
  motionVectorsOverPicBoundaries : Bool := false
  minSpatialSegmentationIdc : Nat := 0
  maxBytesPerPicDenom : Nat := 0
  maxBitsPerMinCuDenom : Nat := 0
  log2MaxMvLengthHorizontal : Nat := 0
  log2MaxMvLengthVertical : Nat := 0
deriving Inhabited

end EncoderControl
