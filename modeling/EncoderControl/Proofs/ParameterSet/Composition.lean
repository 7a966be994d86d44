import EncoderControl.Config.PictureSet

/-!
# How picture parameter sets are put together

A picture parameter set is made of parts that are settled one after the other: the default number of
active references, the initial quantizer, and the tile layout. Adding tiles leaves all other parts
as they were settled.
-/

namespace EncoderControl

namespace Config

variable {config : Config} {sps : Sps} {id : Nat} {pps : Pps}

/-- A picture parameter set that was built has all of its parts settled. -/
theorem exists_of_buildPps (built : (config.buildPps sps id).outcome = .ok pps) :
    ∃ defaultActive initQp, config.defaultActiveReferences = .ok defaultActive ∧
      config.initQpMinus26? sps = some initQp ∧
      config.addTiles (config.ppsOfParts sps id defaultActive initQp) = .ok pps := by
  simp only [buildPps, Logged.outcome_bind_eq_ok_iff, Logged.outcome_ofExcept] at built
  obtain ⟨made, done, -, -, same⟩ := built
  cases same
  unfold pps? at done
  cases active : config.defaultActiveReferences with
  | error failure => rw [active] at done; cases done
  | ok defaultActive =>
    rw [active] at done
    cases initial : config.initQpMinus26? sps with
    | none => rw [initial] at done; cases done
    | some initQp =>
      rw [initial] at done
      exact ⟨defaultActive, initQp, rfl, rfl, done⟩

/-- Parts that are settled before keep their values when tiles are added. -/
theorem kept_of_addTiles {base : Pps} (added : config.addTiles base = .ok pps) :
    pps.id = base.id ∧ pps.initQpMinus26 = base.initQpMinus26 := by
  unfold addTiles at added
  split at added
  · cases checked : config.checkTiles with
    | error stop => rw [checked] at added; cases added
    | ok => rw [checked] at added; cases added; exact ⟨rfl, rfl⟩
  · cases added; exact ⟨rfl, rfl⟩

/-- The parts stand in the set as they were settled. -/
theorem settled_ppsOfParts (config : Config) (sps : Sps) (id defaultActive : Nat) (initQp : Int) :
    let base := config.ppsOfParts sps id defaultActive initQp
    base.id = id ∧ base.initQpMinus26 = initQp := by
  unfold ppsOfParts
  dsimp only
  split <;> exact ⟨rfl, rfl⟩

/-- A picture parameter set has the id that it is built for. -/
theorem id_of_buildPps (built : (config.buildPps sps id).outcome = .ok pps) : pps.id = id := by
  obtain ⟨defaultActive, initQp, -, -, added⟩ := exists_of_buildPps built
  exact (kept_of_addTiles added).1.trans (settled_ppsOfParts ..).1

/-- A picture parameter set carries the initial quantizer of its configuration. -/
theorem initQp_of_buildPps (built : (config.buildPps sps id).outcome = .ok pps) :
    config.initQpMinus26? sps = some pps.initQpMinus26 := by
  obtain ⟨defaultActive, initQp, -, initial, added⟩ := exists_of_buildPps built
  have carried : pps.initQpMinus26 = initQp :=
    (kept_of_addTiles added).2.trans (settled_ppsOfParts ..).2
  rw [carried, initial]

end Config

end EncoderControl
