import EncoderControl.Bounds
import EncoderControl.Config.Tiles
import EncoderControl.Journal
import EncoderControl.ParameterSet.Pps

/-!
# The picture parameter sets of a configuration

Each picture parameter set carries the quantizer, tile and filter settings of the pictures that
refer to it. With wide colour gamut control the id of a set is the number of quantizer steps that
its pictures stand above the base quantizer, and `Config.ppsIdAt` names the set of each picture.
-/

namespace EncoderControl

/-- The nearest integer of 32 bits; halves go away from zero. -/
def roundHalfAway (value : Float) : Int :=
  if value < 0.0 then (value - 0.5).toInt32.toInt else (value + 0.5).toInt32.toInt

namespace Config

/-- Largest number of references of a picture. -/
def maxActiveReferences : Nat := 16

/-- Numbers of active references of the entries, from the entry with the given index on. -/
def activeReferences (index : Nat) : List GopEntry → Except EncodeError (List Nat)
  | [] => .ok []
  | entry :: later =>
    if 0 ≤ entry.numRefPicsActive ∧ entry.numRefPicsActive ≤ maxActiveReferences then do
      let counts ← activeReferences (index + 1) later
      pure (entry.numRefPicsActive.toNat :: counts)
    else
      .error (.invalidGopEntry (.activeReferences index entry.numRefPicsActive))

/-- The most frequent one of the numbers up to `limit`; of equally frequent ones the smallest. -/
def mostFrequent (values : List Nat) : (limit : Nat) → Nat
  | 0 => 0
  | limit + 1 =>
    let best := mostFrequent values limit
    if values.count best < values.count (limit + 1) then limit + 1 else best

/-- The most frequent number of active references in the GOP. The largest one cannot be signalled
as the default. -/
def defaultActiveReferences (config : Config) : Except EncodeError Nat := do
  let counts ← activeReferences 0 config.gopEntries
  let best := mostFrequent counts maxActiveReferences
  if maxActiveReferences ≤ best then .error (.invalidGopEntry (.defaultActive best))
  else pure best

/-- Whether quantizer changes inside a picture have to be signalled. -/
def needsDeltaQp (config : Config) : Bool :=
  !config.costMode.isLossless &&
    (0 < config.maxCuDqpDepth || config.maxDeltaQp != 0 || config.adaptiveQp ||
      config.lumaLevelToDeltaQp)

/-- Initial quantizer of slices, less 26. A GOP of 16 pictures starts two steps higher. -/
def initQpMinus26? (config : Config) (sps : Sps) : Option Int :=
  if config.capabilities.adaptPpsQp then
    clamp? (-26 + sps.qpBdOffsetLuma) 25 (config.baseQp - if config.gopSize = 16 then 24 else 26)
  else
    some 0

/-- Offset of one chroma plane for wide colour gamuts: never above the configured one, and within
twelve steps. -/
def wcgChromaOffset (scale chromaQp : Float) (configured : Int) : Int :=
  max (-12) (min 12 (min (roundHalfAway (scale * chromaQp)) 0 + configured))

/-- Offsets of the two chroma planes in the set `id`. -/
def chromaQpOffsets (config : Config) (id : Nat) : Int × Int :=
  match config.activeWcg with
  | some wcg =>
    let chromaQp := wcg.scale * Float.ofInt (config.baseQp + id) + wcg.offset
    (wcgChromaOffset wcg.cbScale chromaQp config.cbQpOffset,
      wcgChromaOffset wcg.crScale chromaQp config.crQpOffset)
  | none => (config.cbQpOffset, config.crQpOffset)

/-- The picture parameter set made of settled parts, without tiles. -/
def ppsOfParts (config : Config) (sps : Sps) (id defaultActive : Nat) (initQpMinus26 : Int) :
    Pps :=
  let base : Pps :=
    { Pps.ofSps sps with
      id := id
      constrainedIntraPred := config.constrainedIntraPred
      initQpMinus26 := initQpMinus26
      cbQpOffset := (config.chromaQpOffsets id).1
      crQpOffset := (config.chromaQpOffsets id).2
      sliceChromaQpOffsetsPresent := config.gopEntries.any fun entry =>
        entry.cbQpOffset != 0 || entry.crQpOffset != 0
      weightedPred := config.weightedPred
      weightedBipred := config.weightedBipred
      signDataHiding := config.signDataHiding
      log2ParallelMergeLevelMinus2 := config.log2ParallelMergeLevelMinus2
      cabacInitPresent := true
      loopFilterAcrossSlices := config.lfCrossSliceBoundary
      numRefIdxL0DefaultActive := defaultActive
      numRefIdxL1DefaultActive := defaultActive
      transquantBypassEnabled := config.transquantBypass }
  let quantized :=
    if config.rateControl then base.withDeltaQp true 0
    else base.withDeltaQp config.needsDeltaQp config.maxCuDqpDepth
  let overrideEnabled := config.deblockingFilterMetric || !config.loopFilterOffsetInPps
  let disabled := !config.deblockingFilterMetric && config.loopFilterDisable
  (quantized.withDeblocking overrideEnabled disabled config.loopFilterBetaOffsetDiv2
      config.loopFilterTcOffsetDiv2).withTransformSkip
    config.transformSkip config.log2MaxTransformSkipBlockSize

/-- Adds the tile layout, once it is found to fit the picture. -/
def addTiles (config : Config) (pps : Pps) : Except (Stop EncodeError) Pps :=
  if config.capabilities.tilesAndWavefronts then do
    config.checkTiles
    let tiles := config.tiles
    pure ({ pps with entropyCodingSyncEnabled := tiles.entropyCodingSync }.withTiles
      tiles.uniformSpacing tiles.numColumnsMinus1 tiles.numRowsMinus1 tiles.columnWidths
      tiles.rowHeights tiles.loopFilterAcrossTiles)
  else
    pure pps

/-- The picture parameter set `id` that refers to `sps`, or what stands in its way. -/
def pps? (config : Config) (sps : Sps) (id : Nat) : Except (Stop EncodeError) Pps := do
  let defaultActive ← config.defaultActiveReferences.mapError Stop.refused
  match config.initQpMinus26? sps with
  | none => .error (.fault .crossedBounds)
  | some initQpMinus26 => config.addTiles (config.ppsOfParts sps id defaultActive initQpMinus26)

/-- Builds the picture parameter set `id` that refers to `sps`. -/
def buildPps (config : Config) (sps : Sps) (id : Nat) : Logged (Stop EncodeError) Pps := do
  let pps ← Logged.ofExcept (config.pps? sps id)
  Logged.log .debug
    (s!"built PPS {pps.id}: dqp {pps.useDeltaQp} depth {pps.maxCuDeltaQpDepth} " ++
      s!"init_qp_minus26 {pps.initQpMinus26} chroma offsets {pps.cbQpOffset}/{pps.crQpOffset}")
  pure pps

/-- Id of the picture parameter set of the picture at `poc`: its quantizer change, one more from the
switch on. Without wide colour gamut control, and for an id that does not fit 8 bits, there is
none, which stands for the default set. -/
def ppsIdAt (config : Config) (poc : Int) : Option Nat :=
  if config.wcgEnabled then
    let switched := config.switchPoc.any fun switchPoc => switchPoc ≤ poc
    let id := config.dqpAt poc + if switched then 1 else 0
    if 0 ≤ id ∧ id < 256 then some id.toNat else none
  else
    none

end Config

end EncoderControl
