import EncoderControl.Geometry

/-!
# Failures

An operation that cannot do what it is asked for answers with an `EncodeError`, which names the
cause; `EncodeError.message` is the one place where causes become text. A `Fault` is something
else: a precondition is broken in a way that leaves no answer at all. `Stop` covers refusals and
faults.
-/

namespace EncoderControl

/-- The two directions in which a picture is cut into tiles. -/
inductive TileAxis where
  | columns
  | rows
deriving DecidableEq

/-- Why a picture cannot be cut as configured. -/
inductive TileDefect where
  /-- More tiles than the format allows. -/
  | tooMany (count : Nat)
  /-- More tiles than the picture has blocks in this direction. -/
  | moreThanBlocks (extent count : Nat)
  /-- Fewer sizes than tiles that need one. -/
  | missingSizes (given count : Nat)
  /-- The sizes leave no room for the last tile. -/
  | noRoom (total extent : Nat)
deriving DecidableEq

/-- What is wrong with the GOP table. -/
inductive GopDefect where
  /-- The table is too short. -/
  | tooShort (configured needed : Nat)
  /-- The first entry asks for prediction from a set before it. -/
  | noReferenceSet (index : Nat)
  /-- The number of active references of an entry is out of range. -/
  | activeReferences (index : Nat) (active : Int)
  /-- The most frequent number of active references cannot be signalled as the default one. -/
  | defaultActive (active : Nat)
deriving DecidableEq

/-- What is wrong with the configuration as a whole. -/
inductive ConfigDefect where
  /-- HRD parameters are asked for without a coded picture buffer. -/
  | zeroCpbSize
  /-- Field coding with an empty GOP. -/
  | fieldsWithoutGop
  /-- Fields are handed to a session that codes frames. -/
  | fieldsOnFrameSession
deriving DecidableEq

/-- Why an input picture is refused. -/
inductive InputDefect where
  /-- The picture has another format or another size than the sequence. -/
  | mismatch (format : ChromaFormat) (size : Resolution)
      (expectedFormat : ChromaFormat) (expectedSize : Resolution)
  /-- A reason given by whoever codes the pictures. -/
  | other (reason : String)
deriving DecidableEq

/-- Failures of the compressor that codes a batch of pictures. -/
inductive CompressorError where
  /-- A picture of the batch has left the ring. -/
  | missingPicture
  /-- A failure of the compressor's own, in its own words. -/
  | other (text : String)
deriving DecidableEq

/-- Causes for which an operation is refused. -/
inductive EncodeError where
  | unresolvedParameterSet (id : Nat)
  | tileLayout (axis : TileAxis) (defect : TileDefect)
  | unsupportedScalingList
  | invalidGopEntry (defect : GopDefect)
  | invalidConfig (defect : ConfigDefect)
  | invalidInput (defect : InputDefect)
  | ringExhausted (capacity : Nat)
  | pictureReferenced (poc : Int)
  | invalidPictureHandle
  | invalidInternalState
  | compressor (error : CompressorError)
deriving DecidableEq

/-- Broken preconditions that leave an operation without an answer. -/
inductive Fault where
  /-- A picture is divided into blocks of size zero. -/
  | emptyBlock
  /-- A value is clamped into an empty range. -/
  | crossedBounds
  /-- A frame has a plane that its format has no place for. -/
  | surplusPlane
  /-- More storage is asked for at once than there are addresses for. -/
  | capacityOverflow
  /-- The result of an operation is not one of its machine word. -/
  | wordOverflow
deriving DecidableEq

/-- Ways in which an operation ends without a value, when refusals are of the type `ε`. -/
inductive Stop (ε : Type) where
  | refused (error : ε)
  | fault (fault : Fault)
deriving DecidableEq

/-- Restates a refusal. A fault stays what it is. -/
def Stop.map {ε ε' : Type} (restate : ε → ε') : Stop ε → Stop ε'
  | .refused error => .refused (restate error)
  | .fault broken => .fault broken

@[simp] theorem Stop.map_refused {ε ε' : Type} (restate : ε → ε') (error : ε) :
    (Stop.refused error).map restate = .refused (restate error) := rfl

@[simp] theorem Stop.map_fault {ε ε' : Type} (restate : ε → ε') (broken : Fault) :
    (Stop.fault broken : Stop ε).map restate = .fault broken := rfl

namespace TileDefect

/-- Text of a defect in the way a picture is cut along `axis`. -/
def message (axis : TileAxis) (defect : TileDefect) : String :=
  match axis, defect with
  | .columns, tooMany count => s!"{count} columns exceed the maximum allowed number of columns"
  | .columns, moreThanBlocks extent count =>
    s!"a picture {extent} CTUs wide cannot have {count} columns"
  | .columns, missingSizes given count => s!"{given} column widths given for {count} columns"
  | .columns, noRoom total extent =>
    s!"columns of {total} CTUs do not fit a picture {extent} CTUs wide"
  | .rows, tooMany count => s!"{count} rows exceed the maximum allowed number of rows"
  | .rows, moreThanBlocks extent count =>
    s!"a picture {extent} CTUs high cannot have {count} rows"
  | .rows, missingSizes given count => s!"{given} row heights given for {count} rows"
  | .rows, noRoom total extent =>
    s!"rows of {total} CTUs do not fit a picture {extent} CTUs high"

end TileDefect

/-- Text of a defect of the GOP table. -/
def GopDefect.message : GopDefect → String
  | tooShort configured needed => s!"{configured} entries configured, {needed} needed"
  | noReferenceSet index => s!"entry {index} uses inter RPS prediction without a reference set"
  | activeReferences index active => s!"entry {index} has {active} active references"
  | defaultActive active => s!"{active} default active references cannot be signalled"

/-- Text of a defect of the configuration. -/
def ConfigDefect.message : ConfigDefect → String
  | zeroCpbSize => "CPB size may not be zero when HRD parameters are required"
  | fieldsWithoutGop => "field coding needs a GOP size of at least 1"
  | fieldsOnFrameSession => "field input on a session set up for frames"

/-- Text of the reason to refuse an input picture. -/
def InputDefect.message : InputDefect → String
  | mismatch format size expectedFormat expectedSize =>
    let given := format.name
    let expected := expectedFormat.name
    s!"{given} {size.width}x{size.height} does not match {expected} " ++
      s!"{expectedSize.width}x{expectedSize.height}"
  | other reason => reason

/-- Text of a failure of the compressor. -/
def CompressorError.message : CompressorError → String
  | missingPicture => "the picture referenced by the GOP is no longer in the ring"
  | other text => text

/-- Text of a failure, as shown to whoever made the call. -/
def EncodeError.message : EncodeError → String
  | unresolvedParameterSet id => s!"no parameter set with id {id} could be resolved"
  | tileLayout .columns defect => "invalid tile columns: " ++ defect.message .columns
  | tileLayout .rows defect => "invalid tile rows: " ++ defect.message .rows
  | unsupportedScalingList => "unsupported scaling list mode"
  | invalidGopEntry defect => "invalid GOP entry: " ++ defect.message
  | invalidConfig defect => "invalid configuration: " ++ defect.message
  | invalidInput defect => "invalid input picture: " ++ defect.message
  | ringExhausted capacity => s!"all {capacity} pictures of the ring are still referenced"
  | pictureReferenced poc => s!"picture with POC {poc} is still referenced"
  | invalidPictureHandle => "stale or unknown picture handle"
  | invalidInternalState => "invalid internal state. This is likely a bug."
  | compressor error => error.message

end EncoderControl
