import EncoderControl.Proofs.Rate.Derivation

/-!
# Scaled quantities

A bit rate or a buffer size is signalled as a number of units, and the unit grows with the trailing
zero bits of the quantity. Growing the unit loses nothing, so the quantity is only ever rounded down
to units of scale zero. A quantity below one such unit cannot be rounded down: no value stands for
less than one unit, and one unit is what is read back.
-/

namespace EncoderControl

/-- Zero counts as having no trailing zeros. -/
@[simp] theorem trailingZeros_zero : trailingZeros 0 = 0 := by
  rw [trailingZeros, if_pos (.inl rfl)]

/-- A number is a multiple of the power of two that its trailing zero bits make up. -/
theorem one_shiftLeft_trailingZeros_dvd (value : Nat) : 1 <<< trailingZeros value ∣ value := by
  fun_induction trailingZeros value with
  | case1 value odd => exact Nat.one_dvd value
  | case2 value even inductionHypothesis =>
    have halves : 2 * (value / 2) = value := by omega
    have doubled := Nat.mul_dvd_mul_left 2 inductionHypothesis
    rwa [halves, ← Nat.shiftLeft_succ] at doubled

namespace HrdParameters

/-- A quantity as it is read back: one more than its stored value, in units of its scale. -/
def readBack (quantity shift : Nat) : Nat :=
  (valueOf quantity shift - 1 + 1) <<< (shift + scaleOf quantity shift)

/-- A power of two divides the larger ones. -/
theorem one_shiftLeft_dvd_add (bits more : Nat) : 1 <<< bits ∣ 1 <<< (bits + more) := by
  rw [Nat.one_shiftLeft, Nat.one_shiftLeft]
  exact Nat.pow_dvd_pow 2 (Nat.le_add_right bits more)

/-- The unit is the one of scale zero, or the quantity consists of whole units. -/
theorem scaleOf_eq_zero_or_dvd (quantity shift : Nat) :
    scaleOf quantity shift = 0 ∨
      0 < quantity ∧ 1 <<< (shift + scaleOf quantity shift) ∣ quantity := by
  rcases Nat.le_total (trailingZeros quantity) shift with few | many
  · exact .inl (Nat.sub_eq_zero_of_le few)
  · have whole : shift + scaleOf quantity shift = trailingZeros quantity :=
      Nat.add_sub_cancel' many
    rcases Nat.eq_zero_or_pos quantity with rfl | positive
    · exact .inl (by rw [scaleOf, trailingZeros_zero, Nat.zero_sub])
    · rw [whole]
      exact .inr ⟨positive, one_shiftLeft_trailingZeros_dvd quantity⟩

/-- At its own scale a quantity is rounded down to whole units, but never to none. -/
theorem readBack_eq_max (quantity shift : Nat) :
    readBack quantity shift =
      max (1 <<< (shift + scaleOf quantity shift))
        (quantity - quantity % 1 <<< (shift + scaleOf quantity shift)) := by
  unfold readBack valueOf
  generalize shift + scaleOf quantity shift = bits
  rw [Nat.shiftRight_eq_div_pow, Nat.shiftLeft_eq, Nat.one_shiftLeft,
    ← Nat.div_mul_self_eq_mod_sub_self]
  rcases Nat.eq_zero_or_pos (quantity / 2 ^ bits) with none | some
  · rw [none, Nat.zero_mul, Nat.max_zero, Nat.zero_sub, Nat.zero_add, Nat.one_mul]
  · rw [Nat.sub_add_cancel some]
    exact (Nat.max_eq_right (Nat.le_mul_of_pos_left _ some)).symm

variable {quantity shift : Nat}

/-- Less than one unit is read back as one unit. -/
theorem readBack_of_lt (below : quantity < 1 <<< shift) :
    readBack quantity shift = 1 <<< shift := by
  have flat : scaleOf quantity shift = 0 := by
    rcases scaleOf_eq_zero_or_dvd quantity shift with flat | ⟨positive, whole⟩
    · exact flat
    · have units := Nat.dvd_trans (one_shiftLeft_dvd_add shift _) whole
      exact absurd (Nat.le_of_dvd positive units) (Nat.not_le_of_lt below)
  rw [readBack_eq_max, flat, Nat.add_zero, Nat.mod_eq_of_lt below, Nat.sub_self, Nat.max_zero]

/-- One unit and more is rounded down to whole units of scale zero, whatever the scale is. -/
theorem readBack_of_le (reaches : 1 <<< shift ≤ quantity) :
    readBack quantity shift = quantity - quantity % 1 <<< shift := by
  rw [readBack_eq_max]
  rcases scaleOf_eq_zero_or_dvd quantity shift with flat | ⟨positive, whole⟩
  · rw [flat, Nat.add_zero, ← Nat.div_mul_self_eq_mod_sub_self]
    have unit : 0 < 1 <<< shift := by rw [Nat.one_shiftLeft]; exact Nat.two_pow_pos shift
    exact Nat.max_eq_right (Nat.le_mul_of_pos_left _ (Nat.div_pos reaches unit))
  · have units := Nat.dvd_trans (one_shiftLeft_dvd_add shift _) whole
    rw [Nat.mod_eq_zero_of_dvd whole, Nat.mod_eq_zero_of_dvd units, Nat.sub_zero]
    exact Nat.max_eq_right (Nat.le_of_dvd positive whole)

/-- What is read back keeps within the quantity exactly from one unit on. -/
theorem readBack_le_iff : readBack quantity shift ≤ quantity ↔ 1 <<< shift ≤ quantity := by
  rcases Nat.lt_or_ge quantity (1 <<< shift) with below | reaches
  · rw [readBack_of_lt below]
  · rw [readBack_of_le reaches]
    exact iff_of_true (Nat.sub_le _ _) reaches

/-! ### Signalled quantities -/

/-- The buffer specifications of a temporal layer, for NAL units and for VCL units. -/
def specifications (hrd : HrdParameters) (layer : Fin maxTemporalLayers) : List SubLayerHrd :=
  [hrd.nal.get layer, hrd.vcl.get layer]

variable {config : Config} {layer : Fin maxTemporalLayers} {subLayer : SubLayerHrd}

/-- All layers have the same specification, and NAL units have the same one as VCL units. -/
theorem eq_singleSpecification (member : subLayer ∈ config.timing.hrd.specifications layer) :
    subLayer = singleSpecification (valueOf config.targetBitrate bitRateShift)
      (valueOf config.cpbSize cpbSizeShift) := by
  simp only [specifications, List.mem_cons, List.not_mem_nil, or_false] at member
  rcases member with rfl | rfl <;> exact Vector.getElem_replicate layer.isLt

/-- Every specification signals the target rate as it reads back. -/
theorem bitRate_of_mem (member : subLayer ∈ config.timing.hrd.specifications layer) :
    subLayer.bitRate config.timing.hrd.bitRateScale =
      readBack config.targetBitrate bitRateShift % UInt64.size := by
  have scale : config.timing.hrd.bitRateScale = scaleOf config.targetBitrate bitRateShift := rfl
  rw [eq_singleSpecification member, scale, SubLayerHrd.bitRate, readBack]
  simp [singleSpecification]

/-- Every specification signals the buffer size as it reads back. -/
theorem cpbSize_of_mem (member : subLayer ∈ config.timing.hrd.specifications layer) :
    subLayer.cpbSize config.timing.hrd.cpbSizeScale =
      readBack config.cpbSize cpbSizeShift % UInt64.size := by
  have scale : config.timing.hrd.cpbSizeScale = scaleOf config.cpbSize cpbSizeShift := rfl
  rw [eq_singleSpecification member, scale, SubLayerHrd.cpbSize, readBack]
  simp [singleSpecification]

/-- In 64 bits too, what is read back keeps within the quantity exactly from one unit on, and is one
unit below. -/
theorem readBack_mod_le_iff (quantity shift : Nat) (fits : 1 <<< shift < UInt64.size) :
    (readBack quantity shift % UInt64.size ≤ quantity ↔ 1 <<< shift ≤ quantity) ∧
      (quantity < 1 <<< shift → readBack quantity shift % UInt64.size = 1 <<< shift) := by
  have single (below : quantity < 1 <<< shift) :
      readBack quantity shift % UInt64.size = 1 <<< shift := by
    rw [readBack_of_lt below, Nat.mod_eq_of_lt fits]
  refine ⟨?_, single⟩
  rcases Nat.lt_or_ge quantity (1 <<< shift) with below | reaches
  · rw [single below]
  · exact iff_of_true (Nat.le_trans (Nat.mod_le ..) (readBack_le_iff.mpr reaches)) reaches

/-- The signalled rate keeps within the configured one exactly when that is at least 64, the unit of
scale zero, and the signalled buffer size keeps within the configured one exactly when that is at
least 16. A smaller rate is signalled as 64 and a smaller buffer as 16. This holds for NAL units and
VCL units alike, in every temporal layer. -/
theorem signalled_rates_within_iff {derived : DerivedTiming}
    (derives : config.deriveTiming.outcome = .ok (some derived)) (layer : Fin maxTemporalLayers) :
    ∀ subLayer ∈ derived.hrd.specifications layer,
      (subLayer.bitRate derived.hrd.bitRateScale ≤ config.targetBitrate ↔
        64 ≤ config.targetBitrate) ∧
      (config.targetBitrate < 64 → subLayer.bitRate derived.hrd.bitRateScale = 64) ∧
      (subLayer.cpbSize derived.hrd.cpbSizeScale ≤ config.cpbSize ↔ 16 ≤ config.cpbSize) ∧
      (config.cpbSize < 16 → subLayer.cpbSize derived.hrd.cpbSizeScale = 16) := by
  obtain ⟨-, -, rfl⟩ := Config.deriveTiming_eq_ok_some_iff.mp derives
  intro subLayer member
  rw [bitRate_of_mem member, cpbSize_of_mem member]
  have rate := readBack_mod_le_iff config.targetBitrate bitRateShift (by decide)
  have size := readBack_mod_le_iff config.cpbSize cpbSizeShift (by decide)
  exact ⟨rate.1, rate.2, size.1, size.2⟩

/-- A configuration that asks for a clock and a buffer model. -/
def rateConfig (targetBitrate cpbSize : Nat) : Config where
  targetBitrate := targetBitrate
  cpbSize := cpbSize
  vuiParametersPresent := true

/-- Two megabits per second are kept to, and a buffer of 15 bits is signalled as 16. -/
theorem signalled_rates_within_iff_smallBuffer :
    let config := rateConfig 2000000 15
    config.deriveTiming.outcome = .ok (some config.timing) ∧
      ∀ layer, ∀ subLayer ∈ config.timing.hrd.specifications layer,
        subLayer.bitRate config.timing.hrd.bitRateScale ≤ 2000000 ∧
          subLayer.cpbSize config.timing.hrd.cpbSizeScale = 16 := by
  intro config
  have derives : config.deriveTiming.outcome = .ok (some config.timing) := rfl
  refine ⟨derives, fun layer subLayer member => ?_⟩
  obtain ⟨rate, -, -, size⟩ := signalled_rates_within_iff derives layer subLayer member
  exact ⟨rate.mpr (by decide), size (by decide)⟩

/-- A rate of 63 bits per second and a buffer of 15 bits are both exceeded, in every layer. -/
theorem subUnit_rates_signalled_above :
    let config := rateConfig 63 15
    ∃ derived, config.deriveTiming.outcome = .ok (some derived) ∧ 0 < config.targetBitrate ∧
      ∀ layer, config.targetBitrate < derived.hrd.bitRate layer ∧
        config.cpbSize < derived.hrd.cpbSize layer := by
  intro config
  refine ⟨config.timing, rfl, by decide, fun layer => ?_⟩
  have member : config.timing.hrd.nal[layer] ∈ config.timing.hrd.specifications layer := .head _
  rw [bitRate, cpbSize, bitRate_of_mem member, cpbSize_of_mem member,
    (readBack_mod_le_iff _ _ (by decide)).2 (by decide),
    (readBack_mod_le_iff _ _ (by decide)).2 (by decide)]
  decide

end HrdParameters

end EncoderControl
