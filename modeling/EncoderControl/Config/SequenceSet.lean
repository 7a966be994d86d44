import EncoderControl.Config.Rate
import EncoderControl.ParameterSet.Sps

/-!
# The sequence parameter set of a configuration

The conformance point, the coding tools and the usability information of the sequence. Clock and
buffer model are derived whenever a message to the decoder needs them, and are only announced then.
-/

namespace EncoderControl.Config

/-- The conformance point. Streams of the 8-bit profile are decodable by the 10-bit one and the
other way round when they keep to 8 bits. -/
def profileTierLevel (config : Config) : ProfileTierLevel :=
  let own : ProfileTierLevel :=
    { profile := config.profile
      tier := config.tier
      level := config.level
      progressiveSource := config.progressiveSource
      interlacedSource := config.interlacedSource
      frameOnly := config.frameOnlyConstraint
      bitDepth := max config.bitDepthLuma config.bitDepthChroma
      chromaFormat := config.chromaFormat }
  let constraints := own.setCompatible config.profile
  match config.profile with
  | .main => constraints.setCompatible .main10
  | .main10 =>
    if config.bitDepthLuma = 8 ∧ config.bitDepthChroma = 8 then constraints.setCompatible .main
    else constraints
  | _ => constraints

/-- Whether scaling lists are used. Lists from a file are refused. -/
def scalingListEnabled (config : Config) : Logged EncodeError Bool :=
  if config.capabilities.scalingLists then
    match config.scalingList with
    | .off => pure false
    | .default => pure true
    | .file path => do
      Logged.log .error s!"scaling list file {path} cannot be loaded"
      Logged.fail .unsupportedScalingList
  else
    pure false

/-- The usability information with the derived clock and buffer model, if there are any. The
buffer model is announced when a message to the decoder refers to it. -/
def vuiWith (config : Config) (derived : Option DerivedTiming) : VuiParameters :=
  let announced :=
    { config.vui with
      fieldSeq := false
      hrdParametersPresent :=
        config.bufferingPeriodSei || config.pictureTimingSei || config.decodingUnitInfoSei }
  match derived with
  | some timing => { announced with timingInfo := timing.timingInfo, hrd := timing.hrd }
  | none => announced

/-- The usability information of the sequence. -/
def buildVui (config : Config) : Logged EncodeError VuiParameters := do
  if config.needsHrd then
    let derived ← config.deriveTiming
    pure (config.vuiWith derived)
  else
    pure (config.vuiWith none)

/-- The sequence parameter set made of settled parts. -/
def spsOfParts (config : Config) (id : Nat) (scalingList : Bool) (vui : VuiParameters)
    (referenceSets : List ReferenceSet) : Sps :=
  let base : Sps :=
    { id := id
      profileTierLevel := config.profileTierLevel
      chromaFormat := config.chromaFormat
      resolution := config.resolution
      quadtreeTuLog2MaxSize := config.quadtreeTuLog2MaxSize
      quadtreeTuLog2MinSize := config.quadtreeTuLog2MinSize
      temporalMvpEnabled := config.tmvp
      saoEnabled := config.sao
      scalingListEnabled := scalingList
      vuiPresent := config.vuiParametersPresent
      vui := vui
      referenceSets := referenceSets }
  ((base.withCodingBlocks config.maxCuSize config.maxTotalCuDepth
      config.log2DiffMaxMinCodingBlockSize).withBitDepth
    config.bitDepthLuma config.bitDepthChroma).withTemporalLayers
    config.maxTemporalLayers config.maxDecPicBuffering config.numReorderPics

/-- Builds the sequence parameter set with the given reference sets. -/
def buildSps (config : Config) (id : Nat) (referenceSets : List ReferenceSet) :
    Logged EncodeError Sps := do
  let scalingList ← config.scalingListEnabled
  let vui ← config.buildVui
  let sps := config.spsOfParts id scalingList vui referenceSets
  Logged.log .debug
    (s!"built SPS {sps.id}: {sps.resolution.width}x{sps.resolution.height} " ++
      s!"ctu {sps.maxCuSize.width} rps {sps.referenceSets.length}")
  pure sps

end EncoderControl.Config
