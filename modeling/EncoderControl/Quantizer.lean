import EncoderControl.Bounds
import EncoderControl.Config
import EncoderControl.Error
import EncoderControl.Journal
import EncoderControl.Slice

/-!
# Quantizer decision

The quantizer of a picture starts from the base value and collects offsets: of the switch, once the
switch position was coded, of the output position, and of the position in the GOP or of intra
pictures. The result is brought into the range that the bit depth allows. A bit depth so far out of
all bounds that its range is empty allows none, and the decision ends in a fault.
-/

namespace EncoderControl

/-- Quantizer of lossless coding, where only the cost model reads it. -/
def losslessQp : Int := 4

/-- The highest quantizer. -/
def maxQp : Int := 51

/-- The offset of the switch. Once active it stays so for all pictures coded later. -/
inductive SwitchLatch where
  | inactive
  | active (offset : Int)
deriving DecidableEq, Inhabited

/-- What the switch adds to the quantizer. -/
def SwitchLatch.offset : SwitchLatch → Int
  | inactive => 0
  | active offset => offset

/-- Decides the quantizer of each picture from the settings fixed at the start and the switch. -/
structure Quantizer where
  config : Config
  latch : SwitchLatch := .inactive
deriving Inhabited

namespace Quantizer

/-- Steps that the model of an entry adds for a quantizer: the linear function of the quantizer
rounded to the nearest integer, at least zero and at most three. A value that is not a number adds
nothing. -/
def modelSteps (entry : GopEntry) (qp : Int) : Int :=
  let value := Float.ofInt qp * entry.qpModelScale + entry.qpModelOffset + 0.5
  (if 1.0 ≤ value then 1 else 0) + (if 2.0 ≤ value then 1 else 0) + (if 3.0 ≤ value then 1 else 0)

/-- Whether a picture that collected `qp` so far keeps it in order to stay lossless: it has the
lowest quantizer, bypasses the transform, and nothing varies quantizers inside pictures. -/
def keepsLossless (config : Config) (slice : Slice) (qp : Int) : Bool :=
  config.maxDeltaQp == 0 && !config.lumaLevelToDeltaQp && qp == -slice.sps.qpBdOffsetLuma &&
    slice.pps.transquantBypassEnabled

/-- What the position in the GOP adds to the quantizer of a picture that collected `qp` so far.
Intra pictures have an offset of their own, and a position past the table adds nothing. -/
def positionOffset (config : Config) (gopIndex : Nat) (slice : Slice) (qp : Int) : Int :=
  if slice.sliceType.isIntra then config.intraQpOffset
  else if keepsLossless config slice qp then 0
  else
    match config.gopList[gopIndex]? with
    | some entry => entry.qpOffset + modelSteps entry (qp + entry.qpOffset)
    | none => 0

/-- The state of the switch once the picture at `poc` is decided. Lossless coding leaves it
alone. -/
def latchAt (quantizer : Quantizer) (poc : Int) : SwitchLatch :=
  if quantizer.config.costMode ≠ .lossless ∧ quantizer.config.switchPoc = some poc then
    .active quantizer.config.switchDqp
  else
    quantizer.latch

/-- The quantizer before it is brought into range. -/
def unboundedQp (quantizer : Quantizer) (gopIndex : Nat) (slice : Slice) : Int :=
  let config := quantizer.config
  if config.costMode = .lossless then losslessQp
  else
    let qp := config.baseQp + (quantizer.latchAt slice.poc).offset + config.dqpAt slice.poc
    qp + positionOffset config gopIndex slice qp

/-- A quantizer brought into the range that the bit depth of the sequence allows. -/
def bounded? (sps : Sps) (qp : Int) : Option Int :=
  clamp? (-sps.qpBdOffsetLuma) maxQp qp

/-- The quantizer of the slice, which stands at `gopIndex` in its GOP. -/
def qp? (quantizer : Quantizer) (gopIndex : Nat) (slice : Slice) : Option Int :=
  bounded? slice.sps (quantizer.unboundedQp gopIndex slice)

/-- Decides the quantizer of the slice and keeps the switch up to date. Nothing is ever refused. -/
def decide {ε : Type} (gopIndex : Nat) (slice : Slice) : Operation Quantizer (Stop ε) Int := do
  let quantizer ← Operation.read
  Operation.write { quantizer with latch := quantizer.latchAt slice.poc }
  match quantizer.qp? gopIndex slice with
  | none => Operation.fail (.fault .crossedBounds)
  | some qp =>
    Operation.log .trace
      s!"QP {qp} for POC {slice.poc} ({slice.sliceType.name}, GOP index {gopIndex})"
    pure qp

end Quantizer

end EncoderControl
