import EncoderControl.Compressor
import EncoderControl.Config.PictureSet
import EncoderControl.Config.SequenceSet
import EncoderControl.Frame.Field
import EncoderControl.ParameterSet.Store
import EncoderControl.ReferenceSet.Plan
import EncoderControl.Scheduler

/-!
# Encoding sessions

A session takes pictures in output order, keeps them in the ring until a batch is due and hands the
batch to the compressor. An input that does not fit is refused without consequence; any other
failure while a picture is admitted or coded ends the session for good. A fault is no answer, so
nothing is said about the session after it.
-/

namespace EncoderControl

/-- Whether a session can go on. -/
inductive SessionStatus where
  | active
  | failed
  | destroyed
deriving DecidableEq, Inhabited

/-- Text of a status, as it stands in records. -/
def SessionStatus.text : SessionStatus → String
  | active => "Active"
  | failed => "Failed"
  | destroyed => "Destroyed"

/-- An encoding session. -/
structure Session (κ γ η : Type) where
  config : Config
  spsStore : ParameterStore Sps
  ppsStore : ParameterStore Pps
  scheduler : Scheduler
  selector : SetSelector
  /-- Differences found while building the reference sets. -/
  inconsistencies : List Inconsistency
  bench : Bench κ γ η
  status : SessionStatus

namespace Session

variable {κ γ η ρ α : Type}

/-- Id of the one sequence parameter set of a session. -/
def spsId : Nat := 0

/-- Pictures that the ring of a session has room for: a whole GOP, what the decoder buffers, and two
in transit. -/
def ringCapacity (config : Config) : Nat :=
  config.gopSize + config.maxDecPicBuffering[6] + 2

/-- Builds the picture parameter sets: set 0, and set 1 with wide colour gamut control. -/
def buildPpsStore (config : Config) (sps : Sps) :
    Logged (Stop EncodeError) (ParameterStore Pps) := do
  let first ← config.buildPps sps 0
  let store := ParameterStore.empty.insert 0 first
  if config.wcgEnabled then
    let second ← config.buildPps sps 1
    pure (store.insert 1 second)
  else
    pure store

/-- Starts a session with a compressor in the state `own`. -/
def create [CostEvaluator γ] (config : Config) (own : κ) (factory : LaneFactory γ η) :
    Logged (Stop EncodeError) (Session κ γ η) := do
  if config.fieldCoding ∧ config.gopSize = 0 then
    Logged.fail (.refused (.invalidConfig .fieldsWithoutGop))
  else
    let plan ← (ReferencePlan.build config.gopList config.gopSize config.extraSets
      config.fieldCoding).mapError .refused
    let sps ← (config.buildSps spsId plan.sets).mapError .refused
    let ppsStore ← buildPpsStore config sps
    let lanes ← Lane.makeAll config sps factory
    let capacity := ringCapacity config
    Logged.log .debug
      (s!"created session: {config.resolution.width}x{config.resolution.height} " ++
        s!"gop {config.gopSize} ring capacity {capacity} pps count {ppsStore.size}")
    pure
      { config := config
        spsStore := ParameterStore.empty.insert spsId sps
        ppsStore := ppsStore
        scheduler := { gopSize := config.gopSize }
        selector := .ofConfig config
        inconsistencies := plan.inconsistencies
        bench :=
          { own := own
            ring := .empty capacity config.adaptiveQp
            quantizer := { config := config }
            lanes := lanes }
        status := .active }

/-- A session together with the caller's list of reconstructions. -/
abbrev Desk (κ γ η ρ : Type) := Session κ γ η × List ρ

/-- A step of a session. -/
abbrev Step (κ γ η ρ ε α : Type) := Operation (Desk κ γ η ρ) ε α

/-- The session of the present state. -/
def current {ε : Type} : Step κ γ η ρ ε (Session κ γ η) := do
  let desk ← Operation.read
  pure desk.1

/-- Changes the session and leaves the reconstructions alone. -/
def change {ε : Type} (update : Session κ γ η → Session κ γ η) : Step κ γ η ρ ε Unit :=
  Operation.update fun desk => (update desk.1, desk.2)

/-- A step of the ring as a step of the session. -/
def onRing {ε : Type} (operation : Operation (PictureRing × List ρ) ε α) : Step κ γ η ρ ε α :=
  operation.onPart (fun desk => (desk.1.bench.ring, desk.2)) fun desk part =>
    ({ desk.1 with bench := { desk.1.bench with ring := part.1 } }, part.2)

/-- A step of the scheduler as a step of the session. -/
def onScheduler {ε : Type}
    (operation : Operation (Scheduler × (Bench κ γ η × List ρ)) ε α) : Step κ γ η ρ ε α :=
  operation.onPart (fun desk => (desk.1.scheduler, desk.1.bench, desk.2)) fun desk part =>
    ({ desk.1 with scheduler := part.1, bench := part.2.1 }, part.2.2)

/-- Refuses to go on with a session that ended. -/
def checkActive : Step κ γ η ρ EncodeError Unit := do
  let session ← current
  if session.status = .active then
    pure ()
  else
    Operation.log .error s!"session is no longer usable ({session.status.text})"
    Operation.fail .invalidInternalState

/-- Whether the failure leaves the session usable: the caller may go on with another input. -/
def isRecoverable : EncodeError → Bool
  | .invalidInput _ => true
  | _ => false

/-- Ends the session when the step is refused, unless another input may succeed. -/
def guardFailure (step : Step κ γ η ρ (Stop EncodeError) α) : Step κ γ η ρ (Stop EncodeError) α :=
  fun desk =>
  let reply := step desk
  match reply.outcome with
  | .ok _ | .error (.fault _) => reply
  | .error (.refused error) =>
    if isRecoverable error then reply
    else
      { outcome := .error (.refused error)
        state := ({ reply.state.1 with status := .failed }, reply.state.2)
        records := reply.records ++ [⟨.error, "encoding failed: " ++ error.message⟩] }

/-- The sequence parameter set in force. -/
def activeSps : Step κ γ η ρ EncodeError Sps := do
  let session ← current
  match session.spsStore.get? spsId with
  | some sps => pure sps
  | none =>
    Operation.log .error s!"SPS {spsId} is missing"
    Operation.fail (.unresolvedParameterSet spsId)

/-- The picture parameter set of the picture at `poc`: the one with the id that the configuration
names for it, else the first one. -/
def ppsAt (session : Session κ γ η) (poc : Int) : Except EncodeError Pps :=
  match session.config.ppsIdAt poc with
  | some id =>
    match session.ppsStore.get? id with
    | some pps => .ok pps
    | none => .error (.unresolvedParameterSet id)
  | none =>
    match session.ppsStore.first? with
    | some pps => .ok pps
    | none => .error (.unresolvedParameterSet 0)

/-- The picture parameter set of the picture that is admitted next. -/
def resolvePps : Step κ γ η ρ EncodeError Pps := do
  let session ← current
  let poc := session.bench.ring.pocLast + 1
  match session.ppsAt poc with
  | .ok pps => pure pps
  | .error error =>
    Operation.log .error s!"no PPS for POC {poc}: {error.message}"
    Operation.fail error

/-- The picture with its source samples, marked as the given field if it is one. -/
def withInput (input : Frame) (field : Option Bool) (picture : Picture) : Picture :=
  match field with
  | some top => { picture with orig := input, fieldPic := true, topField := top }
  | none => { picture with orig := input }

/-- Admits one frame or field. Its declared size and format must be those of the sequence. -/
def receive (input : Frame) (field : Option Bool) : Step κ γ η ρ EncodeError Unit := do
  let sps ← activeSps
  let pps ← resolvePps
  if input.resolution ≠ sps.resolution ∨ input.format ≠ sps.chromaFormat then
    Operation.fail
      (.invalidInput (.mismatch input.format input.resolution sps.chromaFormat sps.resolution))
  else
    let handle ← onRing (PictureRing.acquire sps pps)
    let session ← current
    match session.bench.ring.modify? handle (withInput input field) with
    | none => Operation.fail .invalidInternalState
    | some ring =>
      change fun session =>
        { session with
          bench := { session.bench with ring := ring }
          scheduler := session.scheduler.receive }

/-- Hands the waiting pictures to the compressor if a batch is due, and answers with their
number. -/
def submit (compressor : Compressor κ γ η ρ) (flush : Bool) (mode : CodingMode) (fieldNum : Nat) :
    Step κ γ η ρ (Stop EncodeError) Nat := do
  let sps ← activeSps.mapError .refused
  let session ← current
  let pocLast := session.bench.ring.pocLast
  let code (numPics : Nat) : Operation (Bench κ γ η × List ρ) (Stop EncodeError) Unit :=
    (compressor.codeBatch ⟨pocLast, numPics, mode, sps, session.selector⟩).mapError
      (Stop.map .compressor)
  match mode with
  | .frame => onScheduler (Scheduler.submitFrame flush code)
  | .field _ => onScheduler (Scheduler.submitField flush fieldNum pocLast code)

/-- Admits a frame or field, if there is one, and codes a batch if one is due. -/
def receiveAndSubmit (compressor : Compressor κ γ η ρ) (input : Option Frame) (field : Option Bool)
    (flush : Bool) (mode : CodingMode) (fieldNum : Nat) : Step κ γ η ρ (Stop EncodeError) Nat :=
  guardFailure do
    match input with
    | some frame => (receive frame field).mapError .refused
    | none => pure ()
    submit compressor flush mode fieldNum

/-- Takes a frame, if there is one, and answers with the number of pictures coded in a batch. With
`flush` all waiting pictures are coded. -/
def encode (compressor : Compressor κ γ η ρ) (input : Option Frame) (flush : Bool) :
    Step κ γ η ρ (Stop EncodeError) Nat := do
  checkActive.mapError .refused
  receiveAndSubmit compressor input none flush .frame 0

/-- Takes one field of an interlaced frame, the first one or the second one by `fieldNum`. -/
def encodeField (compressor : Compressor κ γ η ρ) (input : Option Frame) (flush : Bool)
    (order : FieldOrder) (fieldNum : Nat) : Step κ γ η ρ (Stop EncodeError) Nat := do
  let top := order.isTopFieldFirst == (fieldNum == 0)
  let mode := CodingMode.field order.isTopFieldFirst
  match input with
  | none => receiveAndSubmit compressor none (some top) flush mode fieldNum
  | some frame =>
    match frame.takeField top with
    | .error fault => Operation.fail (.fault fault)
    | .ok field => receiveAndSubmit compressor (some field) (some top) flush mode fieldNum

/-- Takes an interlaced frame of twice the configured height, if there is one, and answers with the
number of fields coded in batches. -/
def encodeFields (compressor : Compressor κ γ η ρ) (input : Option Frame) (flush : Bool)
    (order : FieldOrder) : Step κ γ η ρ (Stop EncodeError) Nat := do
  checkActive.mapError .refused
  let session ← current
  if session.config.fieldCoding then
    let first ← encodeField compressor input flush order 0
    let second ← encodeField compressor input flush order 1
    pure (first + second)
  else
    Operation.fail (.refused (.invalidConfig .fieldsOnFrameSession))

/-- Changes the rate settings. The sequence parameter set is built anew, and nothing changes when
that fails. -/
def tune (tunings : Tunings) : Step κ γ η ρ EncodeError Unit := do
  checkActive
  let session ← current
  if tunings = session.config.tunings then
    pure ()
  else
    Operation.log .debug ("tuning: " ++ tunings.text)
    let config := session.config.tuned tunings
    let present ← activeSps
    let sps ← Operation.ofLogged (config.buildSps spsId present.referenceSets)
    change fun session =>
      { session with config := config, spsStore := session.spsStore.insert spsId sps }

/-- Ends the session: the ring and the parameter sets are gone. -/
def destroy {ε : Type} : Step κ γ η ρ ε Unit := do
  let session ← current
  Operation.log .debug s!"destroying session after {session.scheduler.numCoded} pictures"
  change fun session =>
    { session with
      spsStore := .empty
      ppsStore := .empty
      bench := { session.bench with ring := session.bench.ring.clear }
      status := .destroyed }

/-- The sequence parameter set in force, if the session has not ended. -/
def sps? (session : Session κ γ η) : Option Sps :=
  session.spsStore.get? spsId

/-- Asks whether the sequence parameter set `id` changed since it was last asked for. -/
def spsNeedsWriting {ε : Type} (id : Nat) : Step κ γ η ρ ε Bool := do
  let session ← current
  change fun session => { session with spsStore := session.spsStore.markWritten id }
  pure (session.spsStore.needsWriting id)

/-- Asks whether the picture parameter set `id` changed since it was last asked for. -/
def ppsNeedsWriting {ε : Type} (id : Nat) : Step κ γ η ρ ε Bool := do
  let session ← current
  change fun session => { session with ppsStore := session.ppsStore.markWritten id }
  pure (session.ppsStore.needsWriting id)

end Session

end EncoderControl
