import EncoderControl.Proofs.Session.Creation

/-!
# New sessions with other rate settings

The rate settings reach a session in one place only, the clock and the buffer model of the sequence
parameter set. So a session that is created with other rate settings is the one created before with
that set built anew, apart from what belongs to its lanes and its quantizer.
-/

namespace EncoderControl

namespace Config

variable {config : Config} {id : Nat} {sets : List ReferenceSet} {sps : Sps}

/-- The rate settings in force change nothing. -/
@[simp] theorem tuned_tunings (config : Config) : config.tuned config.tunings = config := rfl

/-- A sequence parameter set has the id it was built with and the quantizer range of its bit
depth. -/
theorem settled_of_buildSps (built : (config.buildSps id sets).outcome = .ok sps) :
    sps.id = id ∧ sps.qpBdOffsetLuma = Sps.qpBdOffset config.bitDepthLuma := by
  obtain ⟨scalingList, vui, -, -, rfl⟩ := exists_of_buildSps built
  exact ⟨rfl, rfl⟩

/-- A picture parameter set takes the id and the quantizer range from the sequence parameter set,
and nothing from the rate settings. -/
theorem buildPps_tuned (config : Config) (tunings : Tunings) {sps other : Sps}
    (sameId : other.id = sps.id) (sameRange : other.qpBdOffsetLuma = sps.qpBdOffsetLuma) :
    (config.tuned tunings).buildPps other = config.buildPps sps := by
  have untuned : (config.tuned tunings).buildPps other = config.buildPps other := rfl
  rw [untuned]
  funext id
  simp only [buildPps, pps?, initQpMinus26?, ppsOfParts, Pps.ofSps, sameId, sameRange]

end Config

namespace Session

variable {κ γ η : Type} [CostEvaluator γ] {config : Config} {own : κ} {factory : LaneFactory γ η}
  {session : Session κ γ η}

/-- Rate settings do not reach the picture parameter sets. -/
theorem buildPpsStore_tuned (config : Config) (tunings : Tunings) {sps other : Sps}
    (sameId : other.id = sps.id) (sameRange : other.qpBdOffsetLuma = sps.qpBdOffsetLuma) :
    buildPpsStore (config.tuned tunings) other = buildPpsStore config sps := by
  have wideGamut : (config.tuned tunings).wcgEnabled = config.wcgEnabled := rfl
  simp only [buildPpsStore, config.buildPps_tuned tunings sameId sameRange, wideGamut]

/-- Other rate settings make no difference to a new session but for the sequence parameter set, its
lanes and the settings that its quantizer keeps. Where that set can be built with them, the session
can be created with them. -/
theorem create_tuned (created : (create config own factory).outcome = .ok session)
    {present : Sps} (inForce : session.spsStore.get? spsId = some present) {tunings : Tunings}
    {sps : Sps}
    (built : ((config.tuned tunings).buildSps spsId present.referenceSets).outcome = .ok sps)
    (otherOwn : κ) (otherFactory : LaneFactory γ η) :
    ∃ fresh, (create (config.tuned tunings) otherOwn otherFactory).outcome = .ok fresh ∧
      fresh.config = config.tuned tunings ∧
      fresh.spsStore = session.spsStore.insert spsId sps ∧
      fresh.ppsStore = session.ppsStore ∧ fresh.selector = session.selector ∧
      fresh.inconsistencies = session.inconsistencies := by
  have fields := gop_of_create created
  obtain ⟨plan, first, ppsStore, lanes, planned, builtFirst, stored, rfl⟩ :=
    exists_of_create created
  obtain rfl : first = present := Option.some.inj inForce
  rw [referenceSets_of_buildSps builtFirst] at built
  obtain ⟨firstId, firstRange⟩ := Config.settled_of_buildSps builtFirst
  obtain ⟨id, range⟩ := Config.settled_of_buildSps built
  rw [← buildPpsStore_tuned config tunings (id.trans firstId.symm)
    (range.trans firstRange.symm)] at stored
  obtain ⟨otherLanes, fresh⟩ := create_of_parts (config.tuned tunings)
    (fun coded => Nat.ne_of_gt (fields coded)) planned built stored otherOwn otherFactory
  exact ⟨_, fresh, rfl, rfl, rfl, rfl, rfl⟩

end Session

end EncoderControl
