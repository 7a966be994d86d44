import EncoderControl.ParameterSet.Profile
import EncoderControl.ParameterSet.Vui
import EncoderControl.Gop

/-!
# Configuration

Everything that is fixed when a session starts, and the rate settings that may change while it
runs. The configuration is taken as it comes: what makes sense is checked where it is used.
-/

namespace EncoderControl

/-- Cost model of the rate-distortion decisions. -/
inductive CostMode where
  | standardLossy
  | sequenceLevelLossless
  | lossless
  | mixedLosslessLossy
deriving DecidableEq

namespace CostMode

instance : Inhabited CostMode := ⟨standardLossy⟩

/-- Whether every picture is coded without loss. -/
def isLossless : CostMode → Bool
  | sequenceLevelLossless | lossless => true
  | standardLossy | mixedLosslessLossy => false

end CostMode

/-- Optional coding features that are available. -/
structure Capabilities where
  scalingLists : Bool := true
  tilesAndWavefronts : Bool := true
  hrdSubPictures : Bool := true
  /-- A second picture parameter set may carry chroma offsets for wide colour gamuts. -/
  wcgChromaQpPps : Bool := true
  /-- The initial quantizer is derived from the base quantizer. -/
  adaptPpsQp : Bool := true
deriving DecidableEq, Inhabited

/-- How pictures are cut into tiles. -/
structure TileConfig where
  uniformSpacing : Bool := false
  numColumnsMinus1 : Nat := 0
  numRowsMinus1 : Nat := 0
  /-- Widths in coding tree units of all columns but the last one, for tiles of different size. -/
  columnWidths : List Nat := []
  /-- Heights in coding tree units of all rows but the last one, for tiles of different size. -/
  rowHeights : List Nat := []
  loopFilterAcrossTiles : Bool := false
  entropyCodingSync : Bool := false
deriving DecidableEq, Inhabited

/-- Where scaling lists come from. -/
inductive ScalingListMode where
  | off
  | default
  | file (path : String)
deriving DecidableEq

/-- Control of the chroma quantizers for wide colour gamuts. -/
structure WcgChromaQp where
  cbScale : Float
  crScale : Float
  scale : Float
  offset : Float
deriving Inhabited

/-- Which field of a frame comes first. -/
inductive FieldOrder where
  | topFieldFirst
  | bottomFieldFirst
deriving DecidableEq

/-- Whether the top field comes first. -/
def FieldOrder.isTopFieldFirst : FieldOrder → Bool
  | topFieldFirst => true
  | bottomFieldFirst => false

/-- Rate settings that may change during a session. -/
structure Tunings where
  /-- Bits per second. -/
  targetBitrate : Nat
  /-- Size of the coded picture buffer in bits. -/
  cpbSize : Nat
  /-- Nominal frames per second. -/
  frameRate : Nat
deriving DecidableEq, Inhabited

/-- Text of rate settings, as it stands in records. -/
def Tunings.text (tunings : Tunings) : String :=
  s!"Tunings \x7b target_bitrate: {tunings.targetBitrate}, cpb_size: {tunings.cpbSize}, " ++
    s!"frame_rate: {tunings.frameRate} \x7d"

/-- A low delay GOP with a hierarchy of four pictures. -/
def GopEntry.lowDelayTable : List GopEntry :=
  [ .ofDeltas 1 .b 5 [-1, -5, -9, -13],
    { GopEntry.ofDeltas 2 .b 4 [-1, -2, -6, -10] with prediction := .auto },
    { GopEntry.ofDeltas 3 .b 5 [-1, -3, -7, -11] with prediction := .auto },
    { GopEntry.ofDeltas 4 .b 1 [-1, -4, -8, -12] with prediction := .auto } ]

/-- Configuration of an encoder. -/
structure Config where
  resolution : Resolution := ⟨416, 240⟩
  chromaFormat : ChromaFormat := .yuv420
  bitDepthLuma : Nat := 8
  bitDepthChroma : Nat := 8
  profile : Profile := .main
  tier : Tier := .main
  level : Level := .l4
  progressiveSource : Bool := true
  interlacedSource : Bool := false
  frameOnlyConstraint : Bool := true
  /-- Size of a coding tree unit. -/
  maxCuSize : Resolution := ⟨64, 64⟩
  maxTotalCuDepth : Nat := 4
  log2DiffMaxMinCodingBlockSize : Nat := 3
  quadtreeTuLog2MaxSize : Nat := 5
  quadtreeTuLog2MinSize : Nat := 2
  gopSize : Nat := 4
  /-- The entries of the GOP, followed by `extraSets` entries that only contribute reference
  sets. -/
  gopList : List GopEntry := GopEntry.lowDelayTable
  extraSets : Nat := 0
  /-- Pictures from one intra picture to the next; negative for a single intra picture. -/
  intraPeriod : Int := -1
  decodingRefreshType : Nat := 0
  maxTemporalLayers : Nat := 1
  maxDecPicBuffering : Vector Nat EncoderControl.maxTemporalLayers := .replicate _ 5
  numReorderPics : Vector Nat EncoderControl.maxTemporalLayers := .replicate _ 0
  baseQp : Int := 32
  intraQpOffset : Int := 0
  /-- Output position from which on `switchDqp` is added to the quantizer. -/
  switchPoc : Option Int := none
  switchDqp : Int := 0
  /-- Quantizer changes by output position. -/
  dqps : Option (List Int) := none
  maxDeltaQp : Int := 0
  maxCuDqpDepth : Nat := 0
  adaptiveQp : Bool := false
  lumaLevelToDeltaQp : Bool := false
  rateControl : Bool := false
  transquantBypass : Bool := false
  costMode : CostMode := .standardLossy
  cbQpOffset : Int := 0
  crQpOffset : Int := 0
  wcgChromaQp : Option WcgChromaQp := none
  targetBitrate : Nat := 0
  cpbSize : Nat := 0
  frameRate : Nat := 30
  temporalSubsampleRatio : Nat := 1
  vuiParametersPresent : Bool := false
  /-- Template of the usability information. Clock and buffer model are derived. -/
  vui : VuiParameters := {}
  bufferingPeriodSei : Bool := false
  pictureTimingSei : Bool := false
  decodingUnitInfoSei : Bool := false
  cpbSaturation : Bool := false
  /-- How pictures are cut into slices; 0 for a single one. -/
  sliceMode : Nat := 0
  sliceSegmentMode : Nat := 0
  loopFilterDisable : Bool := false
  loopFilterOffsetInPps : Bool := true
  loopFilterBetaOffsetDiv2 : Int := 0
  loopFilterTcOffsetDiv2 : Int := 0
  deblockingFilterMetric : Bool := false
  lfCrossSliceBoundary : Bool := true
  constrainedIntraPred : Bool := false
  sao : Bool := true
  tmvp : Bool := true
  weightedPred : Bool := false
  weightedBipred : Bool := false
  signDataHiding : Bool := true
  transformSkip : Bool := true
  log2MaxTransformSkipBlockSize : Nat := 2
  log2ParallelMergeLevelMinus2 : Nat := 0
  tiles : TileConfig := {}
  scalingList : ScalingListMode := .off
  capabilities : Capabilities := {}
  fieldCoding : Bool := false
  /-- Parallelism of the compressor. -/
  splitJobs : Nat := 1
  wppThreads : Nat := 1
  wppExtraLines : Nat := 0
deriving Inhabited

namespace Config

/-- The entries of the GOP itself. -/
def gopEntries (config : Config) : List GopEntry :=
  config.gopList.take config.gopSize

/-- Whether the messages asked for need parameters of the buffer model. -/
def needsHrd (config : Config) : Bool :=
  config.pictureTimingSei || config.decodingUnitInfoSei || config.cpbSaturation

/-- The chroma control for wide colour gamuts, when it is configured and available. -/
def activeWcg (config : Config) : Option WcgChromaQp :=
  if config.capabilities.wcgChromaQpPps then config.wcgChromaQp else none

/-- Whether a second picture parameter set with chroma offsets is in use. -/
def wcgEnabled (config : Config) : Bool :=
  config.activeWcg.isSome

/-- Quantizer change of the picture at an output position. There is none outside of the table. -/
def dqpAt (config : Config) (poc : Int) : Int :=
  if 0 ≤ poc then ((config.dqps.getD [])[poc.toNat]?).getD 0 else 0

/-- The present rate settings. -/
def tunings (config : Config) : Tunings where
  targetBitrate := config.targetBitrate
  cpbSize := config.cpbSize
  frameRate := config.frameRate

/-- The configuration with other rate settings. -/
def tuned (config : Config) (tunings : Tunings) : Config :=
  { config with
    targetBitrate := tunings.targetBitrate
    cpbSize := tunings.cpbSize
    frameRate := tunings.frameRate }

end Config

end EncoderControl
