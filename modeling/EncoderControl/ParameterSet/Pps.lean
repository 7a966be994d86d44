import EncoderControl.ParameterSet.Sps

/-!
# Picture parameter sets

The properties that the pictures referring to the set share. Values that follow from others are set
together with them by the functions below.
-/

namespace EncoderControl

/-- A picture parameter set. -/
structure Pps where
  id : Nat := 0
  spsId : Nat := 0
  constrainedIntraPred : Bool := false
  useDeltaQp : Bool := false
  maxCuDeltaQpDepth : Nat := 0
  initQpMinus26 : Int := 0
  cbQpOffset : Int := 0
  crQpOffset : Int := 0
  sliceChromaQpOffsetsPresent : Bool := false
  entropyCodingSyncEnabled : Bool := false
  tilesEnabled : Bool := false
  uniformSpacing : Bool := false
  numTileColumnsMinus1 : Nat := 0
  numTileRowsMinus1 : Nat := 0
  columnWidths : List Nat := []
  rowHeights : List Nat := []
  loopFilterAcrossTiles : Bool := false
  weightedPred : Bool := false
  weightedBipred : Bool := false
  outputFlagPresent : Bool := false
  signDataHiding : Bool := false
  deblockingControlPresent : Bool := false
  deblockingOverrideEnabled : Bool := false
  deblockingDisabled : Bool := false
  betaOffsetDiv2 : Int := 0
  tcOffsetDiv2 : Int := 0
  log2ParallelMergeLevelMinus2 : Nat := 0
  cabacInitPresent : Bool := false
  loopFilterAcrossSlices : Bool := false
  numRefIdxL0DefaultActive : Nat := 0
  numRefIdxL1DefaultActive : Nat := 0
  transquantBypassEnabled : Bool := false
  transformSkipEnabled : Bool := false
  log2MaxTransformSkipBlockSize : Nat := 0
deriving DecidableEq, Inhabited

namespace Pps

/-- A set that refers to `sps` and has nothing else set. -/
def ofSps (sps : Sps) : Pps where
  spsId := sps.id

/-- Turns quantizer changes inside a picture on or off. The depth they reach means nothing when
they are off. -/
def withDeltaQp (pps : Pps) (enabled : Bool) (maxDepth : Nat) : Pps :=
  { pps with
    useDeltaQp := enabled
    maxCuDeltaQpDepth := if enabled then maxDepth else 0 }

/-- Sets how pictures are cut into tiles. Sizes are only kept when they are not uniform. -/
def withTiles (pps : Pps) (uniformSpacing : Bool) (columnsMinus1 rowsMinus1 : Nat)
    (columnWidths rowHeights : List Nat) (loopFilterAcrossTiles : Bool) : Pps :=
  { pps with
    tilesEnabled := 0 < columnsMinus1 || 0 < rowsMinus1
    uniformSpacing := uniformSpacing
    numTileColumnsMinus1 := columnsMinus1
    numTileRowsMinus1 := rowsMinus1
    columnWidths := if uniformSpacing then pps.columnWidths else columnWidths
    rowHeights := if uniformSpacing then pps.rowHeights else rowHeights
    loopFilterAcrossTiles := loopFilterAcrossTiles }

/-- Sets the deblocking filter. Its offsets mean nothing when it is disabled, and the controls are
signalled whenever one of them differs from what is inferred. -/
def withDeblocking (pps : Pps) (overrideEnabled disabled : Bool)
    (betaOffsetDiv2 tcOffsetDiv2 : Int) : Pps :=
  let beta := if disabled then 0 else betaOffsetDiv2
  let tc := if disabled then 0 else tcOffsetDiv2
  { pps with
    deblockingOverrideEnabled := overrideEnabled
    deblockingDisabled := disabled
    betaOffsetDiv2 := beta
    tcOffsetDiv2 := tc
    deblockingControlPresent := overrideEnabled || disabled || beta != 0 || tc != 0 }

/-- Sets whether and up to which block size transforms may be skipped. -/
def withTransformSkip (pps : Pps) (enabled : Bool) (log2MaxBlockSize : Nat) : Pps :=
  { pps with
    transformSkipEnabled := enabled
    log2MaxTransformSkipBlockSize := log2MaxBlockSize }

end Pps

end EncoderControl
