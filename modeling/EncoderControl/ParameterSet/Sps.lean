import EncoderControl.ParameterSet.Profile
import EncoderControl.ParameterSet.Vui
import EncoderControl.ReferenceSet

/-!
# Sequence parameter sets

The properties that all pictures of a sequence share. Values that follow from others are set
together with them by the functions below.
-/

namespace EncoderControl

/-- A sequence parameter set. -/
structure Sps where
  id : Nat := 0
  profileTierLevel : ProfileTierLevel := {}
  chromaFormat : ChromaFormat := default
  /-- Size of a picture in luma samples. -/
  resolution : Resolution := ⟨0, 0⟩
  /-- Size of a coding tree unit. -/
  maxCuSize : Resolution := ⟨0, 0⟩
  maxCodingDepth : Nat := 0
  log2DiffMaxMinCodingBlockSize : Nat := 0
  log2MinCodingBlockSize : Nat := 0
  quadtreeTuLog2MaxSize : Nat := 0
  quadtreeTuLog2MinSize : Nat := 0
  bitDepthLuma : Nat := 0
  bitDepthChroma : Nat := 0
  /-- How far the range of luma quantizers reaches below zero. -/
  qpBdOffsetLuma : Int := 0
  qpBdOffsetChroma : Int := 0
  maxTLayers : Nat := 0
  temporalIdNesting : Bool := false
  maxDecPicBuffering : Vector Nat maxTemporalLayers := .replicate maxTemporalLayers 0
  numReorderPics : Vector Nat maxTemporalLayers := .replicate maxTemporalLayers 0
  temporalMvpEnabled : Bool := false
  saoEnabled : Bool := false
  scalingListEnabled : Bool := false
  numLongTermRefPics : Nat := 0
  vuiPresent : Bool := false
  /-- Kept also when it is not signalled: rate control reads the buffer model in it. -/
  vui : VuiParameters := {}
  /-- Reference sets that pictures choose from. -/
  referenceSets : List ReferenceSet := []
deriving Inhabited

namespace Sps

/-- Sets the size of the coding tree units and how deep they are divided. Sizes are powers of two;
of any other size the logarithm is rounded down. -/
def withCodingBlocks (sps : Sps) (maxCuSize : Resolution) (maxDepth log2DiffMaxMin : Nat) : Sps :=
  { sps with
    maxCuSize := maxCuSize
    maxCodingDepth := maxDepth
    log2DiffMaxMinCodingBlockSize := log2DiffMaxMin
    log2MinCodingBlockSize := Nat.log2 (maxCuSize.width >>> log2DiffMaxMin) }

/-- How far the range of quantizers reaches below zero for samples of this depth: six steps for
every bit beyond eight. Depths count as signed numbers of 32 bits. -/
def qpBdOffset (bitDepth : Nat) : Int :=
  6 * (Int.bmod bitDepth UInt32.size - 8)

/-- Sets the bit depths and what follows from them for quantizers. -/
def withBitDepth (sps : Sps) (luma chroma : Nat) : Sps :=
  { sps with
    bitDepthLuma := luma
    bitDepthChroma := chroma
    qpBdOffsetLuma := qpBdOffset luma
    qpBdOffsetChroma := qpBdOffset chroma }

/-- The first `count` elements of `source` in place of those of `target`. -/
def overwriteFirst {α : Type} {size : Nat} (count : Nat) (source target : Vector α size) :
    Vector α size :=
  Vector.ofFn fun index => if index.val < count then source[index] else target[index]

/-- Sets the number of temporal layers and the buffering needs of the layers there are. -/
def withTemporalLayers (sps : Sps) (count : Nat)
    (maxDecPicBuffering numReorderPics : Vector Nat maxTemporalLayers) : Sps :=
  { sps with
    maxTLayers := count
    temporalIdNesting := count == 1
    maxDecPicBuffering := overwriteFirst count maxDecPicBuffering sps.maxDecPicBuffering
    numReorderPics := overwriteFirst count numReorderPics sps.numReorderPics }

end Sps

end EncoderControl
