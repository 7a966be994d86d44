import EncoderControl.Proofs.ParameterSet.Composition
import EncoderControl.Proofs.Session.Retuning
import EncoderControl.Quantizer

/-!
# The initial quantizer

Slices start from the quantizer of their picture parameter set, 26 more than the number signalled
there, and that is to be the base quantizer. Quantizers reach below zero by the offset of the bit
depth, so that the decision for a slice bounds them by the negated offset. The bounds of the initial
quantizer have the offset itself in its place. Without an offset that is the same; with one, base
quantizers below the offset are not reached, and all those start from the offset.
-/

namespace EncoderControl

namespace Sps

/-- From eight to sixteen bits, every bit beyond the eighth counts for six steps. -/
theorem qpBdOffset_of_depth {bitDepth : Nat} (least : 8 ≤ bitDepth) (most : bitDepth ≤ 16) :
    qpBdOffset bitDepth = 6 * (bitDepth - 8) := by
  change 6 * (Int.bmod bitDepth 4294967296 - 8) = _
  rw [Int.bmod_def]
  omega

end Sps

namespace Config

variable {config : Config} {sps : Sps} {initQp : Int}

/-- The initial quantizer is the base quantizer brought into its bounds, for GOPs of all sizes but
one. -/
theorem initQpMinus26?_eq_some (adapts : config.capabilities.adaptPpsQp = true)
    (ordinary : config.gopSize ≠ 16) (initial : config.initQpMinus26? sps = some initQp) :
    26 + initQp = max sps.qpBdOffsetLuma (min 51 config.baseQp) := by
  unfold initQpMinus26? clamp? at initial
  rw [if_pos adapts, if_neg ordinary] at initial
  split at initial
  · obtain rfl := Option.some.inj initial
    omega
  · cases initial

/-- Where slices start from. Take any configuration with a derived initial quantizer, from eight to
sixteen luma bits and a GOP of any size but 16, whose base quantizer lies in the range of quantizers
of slices. Every picture parameter set that is built for its sequence parameter set starts slices
from the base quantizer or from the offset of the bit depth, whichever is greater: so from the base
quantizer exactly if it is not less than the offset. -/
theorem slices_start_from_base_iff (adapts : config.capabilities.adaptPpsQp = true)
    (ordinary : config.gopSize ≠ 16) (least : 8 ≤ config.bitDepthLuma)
    (most : config.bitDepthLuma ≤ 16) {spsId : Nat} {sets : List ReferenceSet}
    (builtSps : (config.buildSps spsId sets).outcome = .ok sps)
    (above : -sps.qpBdOffsetLuma ≤ config.baseQp) (below : config.baseQp ≤ maxQp)
    {ppsId : Nat} {pps : Pps} (builtPps : (config.buildPps sps ppsId).outcome = .ok pps) :
    sps.qpBdOffsetLuma = 6 * (config.bitDepthLuma - 8) ∧
      26 + pps.initQpMinus26 = max sps.qpBdOffsetLuma config.baseQp ∧
      (26 + pps.initQpMinus26 = config.baseQp ↔ sps.qpBdOffsetLuma ≤ config.baseQp) := by
  have offset : sps.qpBdOffsetLuma = 6 * (config.bitDepthLuma - 8) :=
    (settled_of_buildSps builtSps).2.trans (Sps.qpBdOffset_of_depth least most)
  have start := initQpMinus26?_eq_some adapts ordinary (initQp_of_buildPps builtPps)
  have bounded : min 51 config.baseQp = config.baseQp := Int.min_eq_right below
  rw [bounded] at start
  refine ⟨offset, start, ?_⟩
  rw [start]
  omega

/-- A configuration for ten bits, with the given base quantizer. -/
def tenBitConfig (baseQp : Int) : Config where
  bitDepthLuma := 10
  bitDepthChroma := 10
  baseQp := baseQp

/-- The least base quantizer that ten bits leave as it is. -/
theorem slices_start_from_base_iff_tenBits :
    ∃ sps pps, ((tenBitConfig 12).buildSps 0 []).outcome = .ok sps ∧
      ((tenBitConfig 12).buildPps sps 0).outcome = .ok pps ∧
      sps.qpBdOffsetLuma = 12 ∧ 26 + pps.initQpMinus26 = 12 := by
  have builtSps : ((tenBitConfig 12).buildSps 0 []).outcome =
      .ok ((tenBitConfig 12).spsOfParts 0 false ((tenBitConfig 12).vuiWith none) []) := rfl
  obtain ⟨pps, builtPps⟩ : ∃ pps, ((tenBitConfig 12).buildPps
      ((tenBitConfig 12).spsOfParts 0 false ((tenBitConfig 12).vuiWith none) []) 0).outcome =
        .ok pps := ⟨_, rfl⟩
  obtain ⟨offset, -, startsFromBase⟩ := slices_start_from_base_iff rfl (by decide) (by decide)
    (by decide) builtSps (by decide) (by decide) builtPps
  exact ⟨_, pps, builtSps, builtPps, offset, startsFromBase.mpr (by decide)⟩

/-- With ten bits the range of quantizers reaches down to -12, but slices of the base quantizer 0
start from 12. -/
theorem tenBits_raise_initial_quantizer :
    let config := tenBitConfig 0
    config.capabilities.adaptPpsQp = true ∧ config.gopSize ≠ 16 ∧
      8 ≤ config.bitDepthLuma ∧ config.bitDepthLuma ≤ 16 ∧
      ∃ sps pps, (config.buildSps 0 []).outcome = .ok sps ∧
        (config.buildPps sps 0).outcome = .ok pps ∧
        -sps.qpBdOffsetLuma ≤ config.baseQp ∧ config.baseQp ≤ maxQp ∧
        26 + pps.initQpMinus26 = 12 ∧ 26 + pps.initQpMinus26 ≠ config.baseQp := by
  refine ⟨rfl, by decide, by decide, by decide, _, _, rfl, rfl, ?_⟩
  decide

end Config

end EncoderControl
