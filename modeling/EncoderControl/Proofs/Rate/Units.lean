import EncoderControl.Proofs.Rate.Scaling

/-!
# Units and their limits

The scale of a quantity follows its trailing zero bits and not its magnitude. That is why a quantity
of one unit of scale zero or more is read back exactly up to that unit, and why at any other scale
its value is odd: no bit of it is left to the scale. It is also why nothing keeps the scale within
the four bits that it is written with: a quantity that is a multiple of a large power of two has a
scale too large for them.
-/

namespace EncoderControl

/-- An odd value has no trailing zeros. -/
theorem trailingZeros_of_odd {value : Nat} (odd : value % 2 = 1) : trailingZeros value = 0 := by
  rw [trailingZeros, if_pos (.inr odd)]

/-- Doubling adds one trailing zero. -/
theorem trailingZeros_two_mul {half : Nat} (positive : 0 < half) :
    trailingZeros (2 * half) = trailingZeros half + 1 := by
  have even : ¬(2 * half = 0 ∨ 2 * half % 2 = 1) := by omega
  rw [trailingZeros, if_neg even, Nat.mul_div_cancel_left half Nat.two_pos]

/-- The trailing zero bits make up the largest power of two that divides a number. -/
theorem one_shiftLeft_dvd_iff {bits value : Nat} :
    1 <<< bits ∣ value ↔ value = 0 ∨ bits ≤ trailingZeros value := by
  induction bits generalizing value with
  | zero => exact iff_of_true (Nat.one_dvd value) (.inr (Nat.zero_le _))
  | succ bits inductionHypothesis =>
    rw [Nat.shiftLeft_succ]
    rcases Nat.mod_two_eq_zero_or_one value with even | odd
    · obtain ⟨half, rfl⟩ := Nat.dvd_of_mod_eq_zero even
      rw [Nat.mul_dvd_mul_iff_left Nat.two_pos, inductionHypothesis]
      rcases Nat.eq_zero_or_pos half with rfl | positive
      · simp
      · rw [trailingZeros_two_mul positive]
        omega
    · rw [trailingZeros_of_odd odd]
      refine iff_of_false (fun divides => ?_) (by omega)
      have even := Nat.mod_eq_zero_of_dvd (Nat.dvd_trans (Nat.dvd_mul_right 2 _) divides)
      omega

/-- A number of so many bits has fewer trailing zero bits. -/
theorem trailingZeros_lt {bits value : Nat} (positive : 0 < value) (fits : value < 1 <<< bits) :
    trailingZeros value < bits := by
  refine Nat.lt_of_not_le fun many => ?_
  have divides : 1 <<< bits ∣ value := one_shiftLeft_dvd_iff.mpr (.inr many)
  exact absurd (Nat.le_of_dvd positive divides) (Nat.not_le_of_lt fits)

namespace HrdParameters

variable {quantity shift : Nat}

/-- A scale keeps to a limit unless the quantity is a multiple of the unit beyond that limit. -/
theorem scaleOf_le_iff {limit : Nat} :
    scaleOf quantity shift ≤ limit ↔ quantity = 0 ∨ ¬1 <<< (shift + limit + 1) ∣ quantity := by
  rw [scaleOf, one_shiftLeft_dvd_iff]
  rcases Nat.eq_zero_or_pos quantity with rfl | positive
  · simp
  · omega

/-- No shift by a unit leaves the word that the quantity fits. -/
theorem shift_add_scaleOf_lt {bits : Nat} (word : shift < bits) (fits : quantity < 1 <<< bits) :
    shift + scaleOf quantity shift < bits := by
  rcases Nat.eq_zero_or_pos quantity with rfl | positive
  · simpa [scaleOf] using word
  · have few := trailingZeros_lt positive fits
    rw [scaleOf]
    omega

/-- A quantity that has grown its unit is an odd number of units. -/
theorem valueOf_mod_two (grown : 0 < scaleOf quantity shift) : valueOf quantity shift % 2 = 1 := by
  have whole : shift + scaleOf quantity shift = trailingZeros quantity := by
    rw [scaleOf] at grown ⊢
    omega
  have some : quantity ≠ 0 := by
    rintro rfl
    simp [scaleOf] at grown
  rw [valueOf, whole, Nat.shiftRight_eq_div_pow, ← Nat.one_shiftLeft]
  refine Nat.mod_two_ne_zero.mp fun even => ?_
  -- An even number of units would be a whole number of units twice as large.
  have units : quantity / 1 <<< trailingZeros quantity * 1 <<< trailingZeros quantity = quantity :=
    Nat.div_mul_cancel (one_shiftLeft_trailingZeros_dvd quantity)
  have larger : 1 <<< (trailingZeros quantity + 1) ∣ quantity := by
    have doubled := Nat.mul_dvd_mul_right (Nat.dvd_of_mod_eq_zero even)
      (1 <<< trailingZeros quantity)
    rwa [units, ← Nat.shiftLeft_succ] at doubled
  rcases one_shiftLeft_dvd_iff.mp larger with none | more
  · exact some none
  · exact Nat.not_succ_le_self _ more

/-- How a quantity comes back that is written as a value and a scale. -/
structure ReadsBack (quantity shift : Nat) : Prop where
  /-- Words of 32 bits can be shifted by the unit. -/
  shift_lt : shift + scaleOf quantity shift < 32
  rounded : readBack quantity shift % UInt64.size = quantity - quantity % 1 <<< shift
  exact : 1 <<< shift ∣ quantity → readBack quantity shift % UInt64.size = quantity
  /-- A value whose unit has grown is odd, so it could not have grown further. -/
  odd : 0 < scaleOf quantity shift → (valueOf quantity shift - 1 + 1) % 2 = 1

/-- A quantity of 32 bits that reaches one unit of scale zero is only rounded down to these units,
whatever its scale is. -/
theorem readsBack_of_le (reaches : 1 <<< shift ≤ quantity) (word : shift < 32)
    (fits : quantity < UInt32.size) : ReadsBack quantity shift := by
  have rounded : readBack quantity shift % UInt64.size = quantity - quantity % 1 <<< shift := by
    rw [readBack_of_le reaches]
    have words : UInt32.size < UInt64.size := by decide
    exact Nat.mod_eq_of_lt (by omega)
  refine ⟨shift_add_scaleOf_lt word fits, rounded, fun whole => ?_, fun grown => ?_⟩
  · rw [rounded, Nat.mod_eq_zero_of_dvd whole, Nat.sub_zero]
  · have odd := valueOf_mod_two grown
    rwa [Nat.sub_add_cancel (by omega)]

/-! ### Temporal layers -/

/-- All parameters of one temporal layer. -/
structure AtLayer where
  fixedPicRateGeneral : Bool
  fixedPicRateWithinCvs : Bool
  elementalDurationInTcMinus1 : Nat
  lowDelay : Bool
  cpbCntMinus1 : Nat
  nal : SubLayerHrd
  vcl : SubLayerHrd

/-- The parameters of a temporal layer. -/
def atLayer (hrd : HrdParameters) (layer : Fin maxTemporalLayers) : AtLayer where
  fixedPicRateGeneral := hrd.fixedPicRateGeneral.get layer
  fixedPicRateWithinCvs := hrd.fixedPicRateWithinCvs.get layer
  elementalDurationInTcMinus1 := hrd.elementalDurationInTcMinus1.get layer
  lowDelay := hrd.lowDelay.get layer
  cpbCntMinus1 := hrd.cpbCntMinus1.get layer
  nal := hrd.nal.get layer
  vcl := hrd.vcl.get layer

variable {config : Config} {layer : Fin maxTemporalLayers} {subLayer : SubLayerHrd}

/-- No temporal layer is told from another one. -/
theorem atLayer_timing (config : Config) (layer other : Fin maxTemporalLayers) :
    config.timing.hrd.atLayer layer = config.timing.hrd.atLayer other := by
  have same {α : Type} (value : α) : (Vector.replicate maxTemporalLayers value).get layer =
      (Vector.replicate maxTemporalLayers value).get other :=
    (Vector.getElem_replicate layer.isLt).trans (Vector.getElem_replicate other.isLt).symm
  rw [atLayer, atLayer, AtLayer.mk.injEq]
  exact ⟨same true, same true, same 0, same false, same 0, same _, same _⟩

/-- Every specification carries the target rate in units. -/
theorem bitRateValueMinus1_of_mem
    (member : subLayer ∈ config.timing.hrd.specifications layer) :
    subLayer.bitRateValueMinus1[0] = valueOf config.targetBitrate bitRateShift - 1 := by
  rw [eq_singleSpecification member]
  simp [singleSpecification]

/-- Every specification carries the buffer size in units. -/
theorem cpbSizeValueMinus1_of_mem
    (member : subLayer ∈ config.timing.hrd.specifications layer) :
    subLayer.cpbSizeValueMinus1[0] = valueOf config.cpbSize cpbSizeShift - 1 := by
  rw [eq_singleSpecification member]
  simp [singleSpecification]

/-- Rates come back as they were configured, but for the rounding to units of scale zero: a rate of
at least 64 comes back as the multiple of 64 below it, a buffer of at least 16 as the multiple of 16
below it, and multiples come back exactly. No word of 32 bits is shifted by its whole width for it,
and values whose scale is not zero are odd. This holds for NAL units and VCL units alike, and all
temporal layers have the same parameters. -/
theorem rates_read_back_in_whole_units {derived : DerivedTiming}
    (derives : config.deriveTiming.outcome = .ok (some derived))
    (rate : 64 ≤ config.targetBitrate) (rateFits : config.targetBitrate < UInt32.size)
    (size : 16 ≤ config.cpbSize) (sizeFits : config.cpbSize < UInt32.size) :
    let hrd := derived.hrd
    bitRateShift + hrd.bitRateScale < 32 ∧ cpbSizeShift + hrd.cpbSizeScale < 32 ∧
    (∀ layer, ∀ subLayer ∈ hrd.specifications layer,
      subLayer.bitRate hrd.bitRateScale = config.targetBitrate - config.targetBitrate % 64 ∧
      subLayer.cpbSize hrd.cpbSizeScale = config.cpbSize - config.cpbSize % 16 ∧
      (64 ∣ config.targetBitrate → subLayer.bitRate hrd.bitRateScale = config.targetBitrate) ∧
      (16 ∣ config.cpbSize → subLayer.cpbSize hrd.cpbSizeScale = config.cpbSize) ∧
      (0 < hrd.bitRateScale → (subLayer.bitRateValueMinus1[0] + 1) % 2 = 1) ∧
      (0 < hrd.cpbSizeScale → (subLayer.cpbSizeValueMinus1[0] + 1) % 2 = 1)) ∧
    ∀ layer other, hrd.atLayer layer = hrd.atLayer other := by
  obtain ⟨-, -, rfl⟩ := Config.deriveTiming_eq_ok_some_iff.mp derives
  have rates : ReadsBack config.targetBitrate bitRateShift :=
    readsBack_of_le rate (by decide) rateFits
  have sizes : ReadsBack config.cpbSize cpbSizeShift := readsBack_of_le size (by decide) sizeFits
  refine ⟨rates.shift_lt, sizes.shift_lt, fun layer subLayer member => ?_, atLayer_timing config⟩
  rw [bitRate_of_mem member, cpbSize_of_mem member, bitRateValueMinus1_of_mem member,
    cpbSizeValueMinus1_of_mem member]
  exact ⟨rates.rounded, sizes.rounded, rates.exact, sizes.exact, rates.odd, sizes.odd⟩

/-- The largest power of two among the rates comes back exactly, and a buffer of 1000 bits as one of
992. -/
theorem rates_read_back_in_whole_units_largeRate :
    let config := rateConfig 2147483648 1000
    config.deriveTiming.outcome = .ok (some config.timing) ∧
      ∀ layer, ∀ subLayer ∈ config.timing.hrd.specifications layer,
        subLayer.bitRate config.timing.hrd.bitRateScale = 2147483648 ∧
          subLayer.cpbSize config.timing.hrd.cpbSizeScale = 992 := by
  intro config
  have derives : config.deriveTiming.outcome = .ok (some config.timing) := rfl
  refine ⟨derives, fun layer subLayer member => ?_⟩
  obtain ⟨-, -, layers, -⟩ := rates_read_back_in_whole_units derives (by decide) (by decide)
    (by decide) (by decide)
  obtain ⟨-, size, rate, -⟩ := layers layer subLayer member
  exact ⟨rate (by decide), size.trans (by decide)⟩

/-! ### The room for a scale -/

/-- The largest scale that four bits have room for. -/
def maxScale : Nat := 15

/-- The four bits that a scale is written with have room for the scale of a rate exactly when there
is none or it is not a multiple of 2 ^ 22, and for the scale of a buffer exactly when its size is
not a multiple of 2 ^ 20. Scales of quantities of 32 bits are never larger than 25 and 27. -/
theorem scales_have_room_iff {derived : DerivedTiming}
    (derives : config.deriveTiming.outcome = .ok (some derived)) :
    (derived.hrd.bitRateScale ≤ maxScale ↔
      config.targetBitrate = 0 ∨ ¬4194304 ∣ config.targetBitrate) ∧
    (derived.hrd.cpbSizeScale ≤ maxScale ↔ ¬1048576 ∣ config.cpbSize) ∧
    (config.targetBitrate < UInt32.size → derived.hrd.bitRateScale ≤ 25) ∧
    (config.cpbSize < UInt32.size → derived.hrd.cpbSizeScale ≤ 27) := by
  obtain ⟨some, -, rfl⟩ := Config.deriveTiming_eq_ok_some_iff.mp derives
  have rate : scaleOf config.targetBitrate bitRateShift ≤ maxScale ↔ _ := scaleOf_le_iff
  have size : scaleOf config.cpbSize cpbSizeShift ≤ maxScale ↔ _ := scaleOf_le_iff
  refine ⟨rate, size.trans (or_iff_right (Nat.ne_of_gt some)), fun fits => ?_, fun fits => ?_⟩
  · have word : bitRateShift + scaleOf config.targetBitrate bitRateShift < 32 :=
      shift_add_scaleOf_lt (by decide) fits
    exact Nat.le_of_lt_succ (Nat.add_lt_add_iff_left.mp word)
  · have word : cpbSizeShift + scaleOf config.cpbSize cpbSizeShift < 32 :=
      shift_add_scaleOf_lt (by decide) fits
    exact Nat.le_of_lt_succ (Nat.add_lt_add_iff_left.mp word)

/-- A rate of 2 ^ 21 has the largest scale that there is room for, and a buffer of 2 ^ 20 bits has
the first one that is too large. -/
theorem scales_have_room_iff_powersOfTwo :
    let config := rateConfig 2097152 1048576
    config.deriveTiming.outcome = .ok (some config.timing) ∧
      config.timing.hrd.bitRateScale ≤ maxScale ∧ ¬config.timing.hrd.cpbSizeScale ≤ maxScale := by
  intro config
  have derives : config.deriveTiming.outcome = .ok (some config.timing) := rfl
  obtain ⟨rate, size, -, -⟩ := scales_have_room_iff derives
  exact ⟨derives, rate.mpr (by decide), mt size.mp (by decide)⟩

/-- At 2 ^ 22 bits per second with a buffer of 2 ^ 20 bits there is room for neither scale. -/
theorem powersOfTwo_have_no_room :
    ∃ derived, (rateConfig 4194304 1048576).deriveTiming.outcome = .ok (some derived) ∧
      maxScale < derived.hrd.bitRateScale ∧ maxScale < derived.hrd.cpbSizeScale := by
  refine ⟨(rateConfig 4194304 1048576).timing, rfl, ?_, ?_⟩
  · have exceeds : ¬scaleOf 4194304 bitRateShift ≤ maxScale := mt scaleOf_le_iff.mp (by decide)
    exact Nat.lt_of_not_le exceeds
  · have exceeds : ¬scaleOf 1048576 cpbSizeShift ≤ maxScale := mt scaleOf_le_iff.mp (by decide)
    exact Nat.lt_of_not_le exceeds

end HrdParameters

end EncoderControl
