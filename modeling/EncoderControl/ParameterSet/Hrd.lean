/-!
# Timing and buffer model parameters

The clock of a stream and the parameters of its hypothetical reference decoder. Rates and buffer
sizes are signalled as a value and a common scale; `HrdParameters.bitRate` and
`HrdParameters.cpbSize` read them back.
-/

namespace EncoderControl

/-- Number of temporal layers that parameter sets have room for. -/
abbrev maxTemporalLayers : Nat := 7

/-- Number of alternative buffer specifications per temporal layer. -/
abbrev maxCpbCount : Nat := 32

/-- Clock of a stream. -/
structure TimingInfo where
  present : Bool := false
  /-- Clock units that make up one tick. -/
  numUnitsInTick : Nat := 0
  /-- Clock units that pass in one second. -/
  timeScale : Nat := 0
  pocProportional : Bool := false
  numTicksPocDiffOneMinus1 : Nat := 0
deriving DecidableEq, Inhabited

/-- Buffer specifications of one temporal layer. -/
structure SubLayerHrd where
  bitRateValueMinus1 : Vector Nat maxCpbCount := .replicate maxCpbCount 0
  cpbSizeValueMinus1 : Vector Nat maxCpbCount := .replicate maxCpbCount 0
  cpbSizeDuValueMinus1 : Vector Nat maxCpbCount := .replicate maxCpbCount 0
  bitRateDuValueMinus1 : Vector Nat maxCpbCount := .replicate maxCpbCount 0
  cbr : Vector Bool maxCpbCount := .replicate maxCpbCount false
deriving Inhabited

/-- Parameters of the hypothetical reference decoder. -/
structure HrdParameters where
  nalPresent : Bool := false
  vclPresent : Bool := false
  subPicPresent : Bool := false
  tickDivisorMinus2 : Nat := 0
  duCpbRemovalDelayIncrementLengthMinus1 : Nat := 0
  subPicCpbParamsInPicTimingSei : Bool := false
  dpbOutputDelayDuLengthMinus1 : Nat := 0
  bitRateScale : Nat := 0
  cpbSizeScale : Nat := 0
  cpbSizeDuScale : Nat := 0
  initialCpbRemovalDelayLengthMinus1 : Nat := 23
  auCpbRemovalDelayLengthMinus1 : Nat := 23
  dpbOutputDelayLengthMinus1 : Nat := 23
  fixedPicRateGeneral : Vector Bool maxTemporalLayers := .replicate maxTemporalLayers false
  fixedPicRateWithinCvs : Vector Bool maxTemporalLayers := .replicate maxTemporalLayers false
  elementalDurationInTcMinus1 : Vector Nat maxTemporalLayers := .replicate maxTemporalLayers 0
  lowDelay : Vector Bool maxTemporalLayers := .replicate maxTemporalLayers false
  cpbCntMinus1 : Vector Nat maxTemporalLayers := .replicate maxTemporalLayers 0
  nal : Vector SubLayerHrd maxTemporalLayers := .replicate maxTemporalLayers {}
  vcl : Vector SubLayerHrd maxTemporalLayers := .replicate maxTemporalLayers {}
deriving Inhabited

/-- Bits of the unit of bit rates at scale zero, as a power of two. -/
def bitRateShift : Nat := 6

/-- Bits of the unit of buffer sizes at scale zero, as a power of two. -/
def cpbSizeShift : Nat := 4

namespace SubLayerHrd

/-- Bits per second of the first buffer specification: its value in units of the scale. The result
is a 64-bit quantity. -/
def bitRate (subLayer : SubLayerHrd) (scale : Nat) : Nat :=
  ((subLayer.bitRateValueMinus1[0] + 1) <<< (bitRateShift + scale)) % UInt64.size

/-- Bits held by the buffer of the first specification: its value in units of the scale. The result
is a 64-bit quantity. -/
def cpbSize (subLayer : SubLayerHrd) (scale : Nat) : Nat :=
  ((subLayer.cpbSizeValueMinus1[0] + 1) <<< (cpbSizeShift + scale)) % UInt64.size

end SubLayerHrd

namespace HrdParameters

/-- Bit rate of a temporal layer, as signalled for NAL units. -/
def bitRate (hrd : HrdParameters) (layer : Fin maxTemporalLayers) : Nat :=
  (hrd.nal[layer]).bitRate hrd.bitRateScale

/-- Buffer size of a temporal layer, as signalled for NAL units. -/
def cpbSize (hrd : HrdParameters) (layer : Fin maxTemporalLayers) : Nat :=
  (hrd.nal[layer]).cpbSize hrd.cpbSizeScale

end HrdParameters

end EncoderControl
