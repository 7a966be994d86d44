import EncoderControl.Frame
import EncoderControl.ParameterSet.Pps

/-!
# Pictures in flight

A picture carries its source and reconstructed samples, the parameter sets it is coded with, and for
adaptive quantization the activity of its parts, one layer per depth of quantizer changes.
-/

namespace EncoderControl

/-- Activity of the partitions of a picture at one depth. -/
structure ActivityLayer where
  /-- Size of one partition in luma samples. -/
  partitionSize : Resolution
  /-- Number of partitions in each direction. -/
  numPartitions : Resolution
  activity : Array Float
  averageActivity : Float
deriving Inhabited

namespace ActivityLayer

/-- A layer of still unknown activity that covers the picture with partitions. -/
def ofPartitions (picture partitionSize : Resolution) : ActivityLayer :=
  let numPartitions := picture.inBlocksOf partitionSize
  { partitionSize := partitionSize
    numPartitions := numPartitions
    activity := Array.replicate numPartitions.area 0.0
    averageActivity := 0.0 }

/-- Like `ofPartitions`; empty partitions cover nothing. -/
def ofPartitions? (picture partitionSize : Resolution) : Option ActivityLayer :=
  if partitionSize.width = 0 ∨ partitionSize.height = 0 then none
  else some (ofPartitions picture partitionSize)

/-- Partitions of a coding tree unit divided `depth` times, down to single samples. -/
def partitionAt (ctu : Resolution) (depth : Nat) : Resolution where
  width := max 1 (ctu.width >>> depth)
  height := max 1 (ctu.height >>> depth)

/-- The layers of a picture, one for each depth of quantizer changes. -/
def allOf (sps : Sps) (pps : Pps) : List ActivityLayer :=
  (List.range (pps.maxCuDeltaQpDepth + 1)).map fun depth =>
    ofPartitions sps.resolution (partitionAt sps.maxCuSize depth)

end ActivityLayer

/-- A picture in flight. -/
structure Picture where
  /-- Position in output order. -/
  poc : Int
  /-- A picture still to be coded may predict from this one. -/
  referenced : Bool
  /-- The picture is coded. -/
  reconstructed : Bool
  fieldPic : Bool
  topField : Bool
  sps : Sps
  pps : Pps
  /-- Layers for adaptive quantization. There are none without it. -/
  activityLayers : List ActivityLayer
  /-- Source samples. -/
  orig : Frame
  /-- Reconstructed samples. -/
  reco : Frame
deriving Inhabited

namespace Picture

/-- A picture with storage of the size that its parameter sets call for. -/
def ofSets (sps : Sps) (pps : Pps) (adaptiveQp : Bool) : Picture where
  poc := 0
  referenced := true
  reconstructed := false
  fieldPic := false
  topField := false
  sps := sps
  pps := pps
  activityLayers := if adaptiveQp then ActivityLayer.allOf sps pps else []
  orig := .blank sps.resolution sps.chromaFormat
  reco := .blank sps.resolution sps.chromaFormat

/-- The picture without its activity layers. -/
def withoutActivity (picture : Picture) : Picture :=
  { picture with activityLayers := [] }

/-- The picture as it is when admitted at `poc`: referenced, not coded, and a whole frame. -/
def admittedAt (picture : Picture) (poc : Int) : Picture :=
  { picture with
    poc := poc
    referenced := true
    reconstructed := false
    fieldPic := false
    topField := false }

end Picture

end EncoderControl
