import EncoderControl.Lane
import EncoderControl.Quantizer
import EncoderControl.ReferenceSet.Selector
import EncoderControl.Ring

/-!
# Compressors

A compressor codes the batches of a session. It is told which pictures the batch consists of, and
works on the bench that the session keeps for it: the ring, the quantizer, the lanes and its own
state, together with the caller's list of reconstructions. All it does is a step on these, so two
runs on equal benches do the same. It may refuse a batch, and a fault it runs into ends the call.
-/

namespace EncoderControl

/-- How the pictures of a batch are coded. -/
inductive CodingMode where
  | frame
  | field (topFieldFirst : Bool)
deriving DecidableEq

/-- What a compressor is told about a batch. -/
structure Batch where
  /-- Output position of the last picture. -/
  pocLast : Int
  numPics : Nat
  mode : CodingMode
  sps : Sps
  selector : SetSelector

/-- What a compressor with states of the type `κ` works on. -/
structure Bench (κ γ η : Type) where
  own : κ
  ring : PictureRing
  quantizer : Quantizer
  lanes : List (Lane γ η)

/-- Codes batches. Reconstructions are of the type `ρ`. -/
structure Compressor (κ γ η ρ : Type) where
  codeBatch : Batch → Operation (Bench κ γ η × List ρ) (Stop CompressorError) Unit

end EncoderControl
