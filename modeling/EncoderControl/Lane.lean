import EncoderControl.Config
import EncoderControl.Journal
import EncoderControl.Slice

/-!
# Lanes of parallel coding

A compressor spreads its work over lanes. Each lane has a cost evaluator and an entropy estimator of
its own, so that no lane reads what another one is changing.
-/

namespace EncoderControl

/-- Evaluators of rate-distortion costs. -/
class CostEvaluator (γ : Type) where
  setCostMode : CostMode → γ → γ
  /-- Sets the weight of bits against distortion. -/
  setLambda : Float → γ → γ
  cost : γ → (distortion bits : Nat) → Float

/-- Entropy coders that estimate the rate of coding decisions. -/
class EntropyEstimator (η : Type) where
  /-- Starts over with a slice. -/
  reset : Slice → η → η
  /-- Bits spent since the last start. -/
  estimatedBits : η → Nat

/-- Makes the private state of each lane. -/
structure LaneFactory (γ η : Type) where
  costEvaluator : (lane : Nat) → γ
  entropyEstimator : (lane : Nat) → Sps → η

/-- Private coding state of one lane. -/
structure Lane (γ η : Type) where
  id : Nat
  cost : γ
  entropy : η

namespace Lane

variable {γ η : Type}

/-- Text of a lane, as it stands in records. -/
def text (lane : Lane γ η) : String :=
  s!"EncodeStack \x7b id: {lane.id} \x7d"

/-- Number of lanes: one per job and wavefront row in flight. Rows are counted in 32 bits and stop
at the largest count; there is at least one job and one row. -/
def count (splitJobs wppThreads wppExtraLines : Nat) : Nat :=
  max 1 splitJobs * max 1 (min (wppThreads + wppExtraLines) (UInt32.size - 1))

/-- A lane with a fresh state for the cost model of the configuration. -/
def make [CostEvaluator γ] (config : Config) (sps : Sps) (factory : LaneFactory γ η) (id : Nat) :
    Lane γ η where
  id := id
  cost := CostEvaluator.setCostMode config.costMode (factory.costEvaluator id)
  entropy := factory.entropyEstimator id sps

/-- Makes all lanes of a configuration. -/
def makeAll [CostEvaluator γ] {ε : Type} (config : Config) (sps : Sps)
    (factory : LaneFactory γ η) : Logged ε (List (Lane γ η)) := do
  let lanes := count config.splitJobs config.wppThreads config.wppExtraLines
  Logged.log .debug s!"creating {lanes} encode stacks"
  pure ((List.range lanes).map (make config sps factory))

end Lane

end EncoderControl
