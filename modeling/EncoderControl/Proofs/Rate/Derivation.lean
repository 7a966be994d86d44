import EncoderControl.Config.SequenceSet

/-!
# When clock and buffer model are derived

The usability information starts from a template. Whether its clock and buffer model are derived
and whether a buffer model is announced are two decisions about the messages asked for, and they do
not ask for the same messages: buffering period messages announce a buffer model, but have none
derived. So an announced model is the derived one unless these are the only messages.
-/

namespace EncoderControl

namespace Config

variable {config : Config} {id : Nat} {sets : List ReferenceSet} {sps : Sps}

/-- Timing is refused for an empty buffer. Otherwise it is derived where usability information or
the saturation of the buffer asks for it. -/
theorem outcome_deriveTiming (config : Config) :
    config.deriveTiming.outcome =
      if config.cpbSize = 0 then .error (.invalidConfig .zeroCpbSize)
      else if config.vuiParametersPresent || config.cpbSaturation then .ok (some config.timing)
      else .ok none := by
  unfold deriveTiming
  by_cases empty : config.cpbSize = 0
  · rw [if_pos empty, if_pos empty]
    rfl
  · rw [if_neg empty, if_neg empty]
    cases config.vuiParametersPresent <;> cases config.cpbSaturation <;> rfl

/-- What is derived is what the rate settings call for, and never for an empty buffer. -/
theorem deriveTiming_eq_ok_some_iff {derived : DerivedTiming} :
    config.deriveTiming.outcome = .ok (some derived) ↔
      0 < config.cpbSize ∧ (config.vuiParametersPresent || config.cpbSaturation) = true ∧
        config.timing = derived := by
  rw [outcome_deriveTiming, Nat.pos_iff_ne_zero]
  by_cases empty : config.cpbSize = 0
  · simp [empty]
  · cases config.vuiParametersPresent || config.cpbSaturation <;> simp [empty]

/-- A sequence parameter set is made of the parts that its configuration settles. -/
theorem exists_of_buildSps (built : (config.buildSps id sets).outcome = .ok sps) :
    ∃ scalingList vui, config.scalingListEnabled.outcome = .ok scalingList ∧
      config.buildVui.outcome = .ok vui ∧ sps = config.spsOfParts id scalingList vui sets := by
  simp only [buildSps, Logged.outcome_bind_eq_ok_iff] at built
  obtain ⟨scalingList, lists, vui, usability, _, -, done⟩ := built
  exact ⟨scalingList, vui, lists, usability, (Except.ok.inj done).symm⟩

/-- The messages that need a buffer model have it derived, and nothing else has. -/
theorem exists_of_buildVui {vui : VuiParameters} (built : config.buildVui.outcome = .ok vui) :
    ∃ derived, vui = config.vuiWith derived ∧
      (if config.needsHrd then config.deriveTiming.outcome = .ok derived else derived = none) := by
  unfold buildVui at built
  cases needed : config.needsHrd with
  | true =>
    rw [needed, if_pos rfl, Logged.outcome_bind_eq_ok_iff] at built
    obtain ⟨derived, derives, done⟩ := built
    exact ⟨derived, (Except.ok.inj done).symm, derives⟩
  | false =>
    rw [needed] at built
    exact ⟨none, (Except.ok.inj built).symm, rfl⟩

/-- Signalled usability information of messages that need a buffer model carries the derived clock
and model. -/
theorem derived_of_needsHrd (built : (config.buildSps id sets).outcome = .ok sps)
    (signalled : sps.vuiPresent = true) (needed : config.needsHrd = true) :
    config.deriveTiming.outcome = .ok (some ⟨sps.vui.timingInfo, sps.vui.hrd⟩) := by
  obtain ⟨scalingList, vui, -, usability, rfl⟩ := exists_of_buildSps built
  obtain ⟨derived, rfl, derives⟩ := exists_of_buildVui usability
  have present : config.vuiParametersPresent = true := signalled
  rw [needed, if_pos rfl] at derives
  cases derived with
  | some timing => exact derives
  | none =>
    rw [outcome_deriveTiming, present] at derives
    split at derives <;> cases derives

/-- Without such messages, template and announcement stay as the configuration has them. -/
theorem template_of_not_needsHrd (built : (config.buildSps id sets).outcome = .ok sps)
    (unneeded : config.needsHrd = false) :
    sps.vui.timingInfo = config.vui.timingInfo ∧ sps.vui.hrd = config.vui.hrd ∧
      sps.vui.hrdParametersPresent = config.bufferingPeriodSei := by
  obtain ⟨scalingList, vui, -, usability, rfl⟩ := exists_of_buildSps built
  obtain ⟨derived, rfl, derives⟩ := exists_of_buildVui usability
  rw [unneeded, if_neg Bool.false_ne_true] at derives
  rw [derives]
  simp only [needsHrd, Bool.or_eq_false_iff] at unneeded
  refine ⟨rfl, rfl, ?_⟩
  change (config.bufferingPeriodSei || config.pictureTimingSei || config.decodingUnitInfoSei) = _
  rw [unneeded.1.1, unneeded.1.2, Bool.or_false, Bool.or_false]

/-- When a buffer model is announced in usability information that is signalled, clock and model
are the derived ones exactly when a message needs them or buffer saturation is on, or when the
template happens to be what would be derived. Otherwise buffering period messages are the only ones
asked for: clock and model are those of the template, and an empty buffer goes unnoticed. -/
theorem announced_model_is_derived_iff (built : (config.buildSps id sets).outcome = .ok sps)
    (signalled : sps.vuiPresent = true) (announced : sps.vui.hrdParametersPresent = true) :
    (config.deriveTiming.outcome = .ok (some ⟨sps.vui.timingInfo, sps.vui.hrd⟩) ↔
      config.needsHrd = true ∨
        0 < config.cpbSize ∧ config.timing = ⟨config.vui.timingInfo, config.vui.hrd⟩) ∧
    (config.needsHrd = true → 0 < config.cpbSize) ∧
    (config.needsHrd = false → config.bufferingPeriodSei = true ∧
      sps.vui.timingInfo = config.vui.timingInfo ∧ sps.vui.hrd = config.vui.hrd) := by
  cases needed : config.needsHrd with
  | true =>
    have derives := derived_of_needsHrd built signalled needed
    exact ⟨iff_of_true derives (.inl rfl), fun _ => (deriveTiming_eq_ok_some_iff.mp derives).1,
      fun same => nomatch same⟩
  | false =>
    obtain ⟨clock, model, flag⟩ := template_of_not_needsHrd built needed
    obtain ⟨scalingList, vui, -, -, rfl⟩ := exists_of_buildSps built
    have present : config.vuiParametersPresent = true := signalled
    refine ⟨?_, fun same => absurd same Bool.false_ne_true,
      fun _ => ⟨flag.symm.trans announced, clock, model⟩⟩
    rw [deriveTiming_eq_ok_some_iff, clock, model, present]
    simp

/-- Buffering period messages for a rate of two megabits per second. -/
def bufferingPeriodConfig (cpbSize : Nat) : Config where
  targetBitrate := 2000000
  cpbSize := cpbSize
  vuiParametersPresent := true
  bufferingPeriodSei := true

/-- Picture timing messages besides have the model derived. -/
theorem announced_model_is_derived_iff_pictureTiming :
    let config := { bufferingPeriodConfig 2000000 with pictureTimingSei := true }
    ∃ sps, (config.buildSps 0 []).outcome = .ok sps ∧ sps.vuiPresent = true ∧
      sps.vui.hrdParametersPresent = true ∧
      config.deriveTiming.outcome = .ok (some ⟨sps.vui.timingInfo, sps.vui.hrd⟩) := by
  intro config
  have built : (config.buildSps 0 []).outcome =
      .ok (config.spsOfParts 0 false (config.vuiWith (some config.timing)) []) := rfl
  exact ⟨_, built, rfl, rfl, (announced_model_is_derived_iff built rfl rfl).1.mpr (.inl rfl)⟩

/-- Buffering period messages alone announce a model that is not the derived one, and announce one
also where an empty buffer stands in the way of deriving any. -/
theorem bufferingPeriod_announces_template :
    (∃ sps, ((bufferingPeriodConfig 2000000).buildSps 0 []).outcome = .ok sps ∧
      sps.vuiPresent = true ∧ sps.vui.hrdParametersPresent = true ∧
      (bufferingPeriodConfig 2000000).deriveTiming.outcome ≠
        .ok (some ⟨sps.vui.timingInfo, sps.vui.hrd⟩)) ∧
    ∃ sps, ((bufferingPeriodConfig 0).buildSps 0 []).outcome = .ok sps ∧
      sps.vuiPresent = true ∧ sps.vui.hrdParametersPresent = true ∧
      (bufferingPeriodConfig 0).deriveTiming.outcome =
        .error (.invalidConfig .zeroCpbSize) := by
  refine ⟨⟨_, rfl, rfl, rfl, fun derives => ?_⟩, _, rfl, rfl, rfl, rfl⟩
  have same := (deriveTiming_eq_ok_some_iff.mp derives).2.2
  have present : true = false := congrArg (·.timingInfo.present) same
  cases present

end Config

end EncoderControl
