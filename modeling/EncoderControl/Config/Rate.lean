import EncoderControl.Config
import EncoderControl.Error
import EncoderControl.Journal

/-!
# Clock and buffer model of a configuration

The rate settings give the clock of the stream and the parameters of its buffer model, the same for
every temporal layer. A rate is signalled as a value in units that grow with the number of its
trailing zero bits. Values are rounded down to whole units and stored less one, a value of zero
like a value of one.
-/

namespace EncoderControl

/-- Number of trailing zero bits. Zero has none. -/
def trailingZeros (value : Nat) : Nat :=
  if value = 0 ∨ value % 2 = 1 then 0 else trailingZeros (value / 2) + 1
termination_by value
decreasing_by omega

/-- Clock units of one tick and of one second for a nominal frame rate. Rates without an entry
of their own are taken for 59.94 frames per second. -/
def nominalClock : (frameRate : Nat) → Nat × Nat
  | 24 => (1125000, 27000000)
  | 25 => (1080000, 27000000)
  | 30 => (900900, 27000000)
  | 50 => (540000, 27000000)
  | 60 => (450450, 27000000)
  | _ => (1001, 60000)

/-- The clock for a nominal frame rate of which only every `ratio`-th frame is coded. The tick grows
by that factor; when its units no longer fit 32 bits, the units per second shrink instead. -/
def TimingInfo.ofFrameRate (frameRate ratio : Nat) : TimingInfo :=
  let units := (nominalClock frameRate).1
  let scale := (nominalClock frameRate).2
  if ratio ≤ 1 then { present := true, numUnitsInTick := units, timeScale := scale }
  else if units * ratio < UInt32.size then
    { present := true, numUnitsInTick := units * ratio, timeScale := scale }
  else { present := true, numUnitsInTick := units, timeScale := scale / ratio }

/-- A clock together with a buffer model. -/
structure DerivedTiming where
  timingInfo : TimingInfo
  hrd : HrdParameters
deriving Inhabited

namespace HrdParameters

/-- Scale of a quantity whose unit has `shift` bits at scale zero: as large as its trailing zero
bits allow. -/
def scaleOf (quantity shift : Nat) : Nat :=
  trailingZeros quantity - shift

/-- A quantity in units of its scale, rounded down. -/
def valueOf (quantity shift : Nat) : Nat :=
  quantity >>> (shift + scaleOf quantity shift)

/-- A temporal layer with a single buffer specification. Sub-pictures take the bit rate for their
buffer size and the buffer size for their bit rate. -/
def singleSpecification (bitRateValue cpbSizeValue : Nat) : SubLayerHrd :=
  let only (value : Nat) : Vector Nat maxCpbCount :=
    Vector.ofFn fun index => if index.val = 0 then value - 1 else 0
  { bitRateValueMinus1 := only bitRateValue
    cpbSizeValueMinus1 := only cpbSizeValue
    cpbSizeDuValueMinus1 := only bitRateValue
    bitRateDuValueMinus1 := only cpbSizeValue }

/-- The buffer model for a rate and a buffer size. -/
def ofRate (bitRate cpbSize : Nat) (randomAccess subPictures : Bool) : HrdParameters :=
  let delayLengthMinus1 := if randomAccess then 5 else 9
  let layer := singleSpecification (valueOf bitRate bitRateShift) (valueOf cpbSize cpbSizeShift)
  { nalPresent := 0 < bitRate
    vclPresent := 0 < bitRate
    subPicPresent := subPictures
    tickDivisorMinus2 := if subPictures then 100 - 2 else 0
    duCpbRemovalDelayIncrementLengthMinus1 := if subPictures then 7 else 0
    subPicCpbParamsInPicTimingSei := subPictures
    dpbOutputDelayDuLengthMinus1 := if subPictures then 5 + 7 else 0
    bitRateScale := scaleOf bitRate bitRateShift
    cpbSizeScale := scaleOf cpbSize cpbSizeShift
    cpbSizeDuScale := 6
    initialCpbRemovalDelayLengthMinus1 := 15
    auCpbRemovalDelayLengthMinus1 := delayLengthMinus1
    dpbOutputDelayLengthMinus1 := delayLengthMinus1
    fixedPicRateGeneral := .replicate maxTemporalLayers true
    fixedPicRateWithinCvs := .replicate maxTemporalLayers true
    nal := .replicate maxTemporalLayers layer
    vcl := .replicate maxTemporalLayers layer }

end HrdParameters

namespace Config

/-- Whether the buffer model reaches below whole pictures. -/
def usesSubPictures (config : Config) : Bool :=
  config.capabilities.hrdSubPictures && (0 < config.sliceMode || 0 < config.sliceSegmentMode)

/-- The clock and the buffer model that the rate settings call for. -/
def timing (config : Config) : DerivedTiming where
  timingInfo := .ofFrameRate config.frameRate config.temporalSubsampleRatio
  hrd := .ofRate config.targetBitrate config.cpbSize (0 < config.intraPeriod)
    config.usesSubPictures

/-- Derives clock and buffer model, when usability information or buffer saturation asks for them.
An empty buffer is refused whether they are asked for or not. -/
def deriveTiming (config : Config) : Logged EncodeError (Option DerivedTiming) := do
  if config.cpbSize = 0 then
    Logged.log .error "HRD parameters requested with a zero CPB size"
    Logged.fail (.invalidConfig .zeroCpbSize)
  else if !config.vuiParametersPresent && !config.cpbSaturation then
    pure none
  else
    let derived := config.timing
    let tick := derived.timingInfo
    Logged.log .debug
      (s!"derived HRD: tick {tick.numUnitsInTick}/{tick.timeScale} " ++
        s!"bit_rate_scale {derived.hrd.bitRateScale} cpb_size_scale {derived.hrd.cpbSizeScale}")
    pure (some derived)

end Config

end EncoderControl
