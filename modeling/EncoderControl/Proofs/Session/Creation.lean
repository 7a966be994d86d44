import EncoderControl.Proofs.Rate.Derivation
import EncoderControl.Session

/-!
# New sessions

Creating a session builds the reference sets, then the parameter sets that carry them, then the
lanes. A session that comes out of this starts with an empty ring.
-/

namespace EncoderControl

namespace Session

variable {κ γ η : Type} [CostEvaluator γ] {config : Config} {own : κ} {factory : LaneFactory γ η}
  {session : Session κ γ η}

/-- Restating failures says nothing about a computation that succeeds. -/
theorem outcome_mapError_eq_ok_iff {ε ε' α : Type} {restate : ε → ε'} {computation : Logged ε α}
    {value : α} :
    (computation.mapError restate).outcome = .ok value ↔ computation.outcome = .ok value := by
  rw [Logged.outcome_mapError]
  cases computation.outcome with
  | ok found =>
    change (Except.ok found : Except ε' α) = .ok value ↔ _
    rw [Except.ok.injEq, Except.ok.injEq]
  | error failure =>
    change (Except.error (restate failure) : Except ε' α) = .ok value ↔ _
    simp only [reduceCtorEq]

/-- A session that was created has the parameter sets of its configuration and an empty ring. -/
theorem exists_of_create (created : (create config own factory).outcome = .ok session) :
    ∃ plan sps ppsStore lanes,
      (ReferencePlan.build config.gopList config.gopSize config.extraSets
        config.fieldCoding).outcome = .ok plan ∧
      (config.buildSps spsId plan.sets).outcome = .ok sps ∧
      (buildPpsStore config sps).outcome = .ok ppsStore ∧
      session =
        { config := config
          spsStore := ParameterStore.empty.insert spsId sps
          ppsStore := ppsStore
          scheduler := { gopSize := config.gopSize }
          selector := .ofConfig config
          inconsistencies := plan.inconsistencies
          bench :=
            { own := own
              ring := .empty (ringCapacity config) config.adaptiveQp
              quantizer := { config := config }
              lanes := lanes }
          status := .active } := by
  unfold create at created
  split at created
  · cases created
  · simp only [Logged.outcome_bind_eq_ok_iff, outcome_mapError_eq_ok_iff] at created
    obtain ⟨plan, planned, sps, built, ppsStore, stored, lanes, -, -, -, done⟩ := created
    exact ⟨plan, sps, ppsStore, lanes, planned, built, stored, (Except.ok.inj done).symm⟩

/-- A session can be created if all of its parts can be built. -/
theorem create_of_parts (config : Config) {plan : ReferencePlan} {sps : Sps}
    {ppsStore : ParameterStore Pps}
    (allowed : config.fieldCoding = true → config.gopSize ≠ 0)
    (planned : (ReferencePlan.build config.gopList config.gopSize config.extraSets
      config.fieldCoding).outcome = .ok plan)
    (built : (config.buildSps spsId plan.sets).outcome = .ok sps)
    (stored : (buildPpsStore config sps).outcome = .ok ppsStore) (own : κ)
    (factory : LaneFactory γ η) :
    ∃ lanes, (create config own factory).outcome = .ok
      { config := config
        spsStore := ParameterStore.empty.insert spsId sps
        ppsStore := ppsStore
        scheduler := { gopSize := config.gopSize }
        selector := .ofConfig config
        inconsistencies := plan.inconsistencies
        bench :=
          { own := own
            ring := .empty (ringCapacity config) config.adaptiveQp
            quantizer := { config := config }
            lanes := lanes }
        status := .active } := by
  let lanes := (List.range
    (Lane.count config.splitJobs config.wppThreads config.wppExtraLines)).map
      (Lane.make config sps factory)
  refine ⟨lanes, ?_⟩
  unfold create
  rw [if_neg fun fields => allowed fields.1 fields.2]
  simp only [Logged.outcome_bind_eq_ok_iff, outcome_mapError_eq_ok_iff]
  exact ⟨plan, planned, sps, built, ppsStore, stored, _, rfl, (), rfl, rfl⟩

/-- No session codes fields without a GOP. -/
theorem gop_of_create (created : (create config own factory).outcome = .ok session)
    (fields : config.fieldCoding = true) : 1 ≤ config.gopSize := by
  unfold create at created
  split at created
  · cases created
  · rename_i allowed
    exact Nat.pos_of_ne_zero fun noGop => allowed ⟨fields, noGop⟩

/-- A sequence parameter set carries the reference sets that it was built with. -/
theorem referenceSets_of_buildSps {id : Nat} {sets : List ReferenceSet} {sps : Sps}
    (built : (config.buildSps id sets).outcome = .ok sps) : sps.referenceSets = sets := by
  obtain ⟨scalingList, vui, -, -, rfl⟩ := Config.exists_of_buildSps built
  rfl

/-! ### A small session -/

/-- Costs that are never asked for. -/
instance : CostEvaluator Unit where
  setCostMode _ := id
  setLambda _ := id
  cost _ _ _ := 0

/-- A configuration for gray pictures of four samples, coded in groups of two. -/
def smallConfig : Config where
  resolution := ⟨2, 2⟩
  chromaFormat := .monochrome
  gopSize := 2
  cpbSize := 1

/-- Lanes without any state. -/
def plainFactory : LaneFactory Unit Unit where
  costEvaluator _ := ()
  entropyEstimator _ _ := ()

/-- The session that the small configuration gives. -/
def smallSession (own : κ) : Session κ Unit Unit :=
  (create smallConfig own plainFactory).outcome.toOption.get rfl

/-- The small configuration gives the small session. -/
theorem create_smallConfig (own : κ) :
    (create smallConfig own plainFactory).outcome = .ok (smallSession own) := rfl

end Session

end EncoderControl
