import EncoderControl.Proofs.Session.Filling

/-!
# Room for what is announced

The sequence parameter set announces the buffering of the highest temporal layer that there is,
whereas the ring has room for that of the last layer that there can be. So a compressor that keeps
as many pictures as are announced may run out of places. It does not if the announced number exceeds
the other one by two at most, and above that there are calls that exhaust the ring.
-/

namespace EncoderControl

/-- A handover that is modest stays so with more room. -/
theorem Handover.Modest.mono {κ γ η ρ : Type} {handover : Handover κ γ η ρ} {room more : Nat}
    (modest : handover.Modest room) (le : room ≤ more) : handover.Modest more :=
  ⟨modest.edits, modest.referenced.trans le⟩

/-- The sequence parameter set announces the buffering of the temporal layers that there are. -/
theorem Config.maxDecPicBuffering_of_buildSps {config : Config} {id : Nat}
    {sets : List ReferenceSet} {sps : Sps} (built : (config.buildSps id sets).outcome = .ok sps)
    (layer : Fin EncoderControl.maxTemporalLayers) (inUse : layer.val < config.maxTemporalLayers) :
    sps.maxDecPicBuffering.get layer = config.maxDecPicBuffering.get layer := by
  obtain ⟨scalingList, vui, -, -, rfl⟩ := exists_of_buildSps built
  exact (Vector.getElem_ofFn layer.isLt).trans (if_pos inUse)

namespace Session

variable {κ γ η ρ : Type} [CostEvaluator γ]

/-- Whatever the compressor does, as long as it admits no pictures and leaves at most `limit` of
them referenced whenever it is called, no call is refused for want of a place in the ring. -/
def HasRoomFor (session : Session (Traced κ γ η ρ) γ η) (output : List ρ) (limit : Nat) : Prop :=
  ∀ (compressor : Compressor κ γ η ρ) (turns : List (Turn (Traced κ γ η ρ) γ η ρ))
    (desk : Desk (Traced κ γ η ρ) γ η ρ), Runs compressor.traced (session, output) turns desk →
    (∀ handover ∈ desk.1.handovers, handover.Modest limit) →
    ∀ capacity, .refused (.ringExhausted capacity) ∉ stopsIn turns

section Created

variable {config : Config} {own : κ} {factory : LaneFactory γ η}
  {session : Session (Traced κ γ η ρ) γ η} {sps : Sps} {limit : Nat}

/-- A new session has handed nothing over. -/
theorem handovers_of_create (created : (create config (own, []) factory).outcome = .ok session) :
    session.handovers = [] := by
  obtain ⟨plan, sps, ppsStore, lanes, -, -, -, rfl⟩ := exists_of_create created
  rfl

/-- Without wide colour gamut control all pictures have the same parameter set. -/
theorem exists_ppsAt_of_create (created : (create config (own, []) factory).outcome = .ok session)
    (plain : config.wcgEnabled = false) (poc : Int) : ∃ pps, session.ppsAt poc = .ok pps := by
  obtain ⟨plan, sps, ppsStore, lanes, -, -, stored, rfl⟩ := exists_of_create created
  simp only [buildPpsStore, plain, Bool.false_eq_true, if_false,
    Logged.outcome_bind_eq_ok_iff] at stored
  obtain ⟨first, -, done⟩ := stored
  cases done
  exact ⟨first, by simp [ppsAt, Config.ppsIdAt, plain]; rfl⟩

/-- There is room for as many pictures as the ring was made for. -/
theorem hasRoomFor_of_le (created : (create config (own, []) factory).outcome = .ok session)
    (gop : 1 ≤ config.gopSize) (output : List ρ) (le : limit ≤ config.maxDecPicBuffering[6] + 2) :
    session.HasRoomFor output limit := by
  intro compressor turns desk run modest capacity
  obtain ⟨plan, sps, ppsStore, lanes, -, -, -, rfl⟩ := exists_of_create created
  have discipline : Discipline compressor _ _ _
      (Handover.Modest (config.maxDecPicBuffering[6] + 2)) False := roomy_discipline compressor gop
  refine (discipline.run run rfl ⟨?_, gop⟩ fun handover member =>
    (modest handover member).mono le).1.crowded capacity
  exact
    { consistent := PictureRing.consistent_empty ..
      gop := rfl
      capacity := Nat.add_assoc ..
      waiting := Nat.zero_le _
      referenced := Nat.zero_le _ }

/-- There is no room for more pictures, provided that each picture finds its parameter set. -/
theorem not_hasRoomFor_of_lt (created : (create config (own, []) factory).outcome = .ok session)
    (gop : 1 ≤ config.gopSize) (output : List ρ) (present : session.sps? = some sps)
    (resolves : ∀ poc, ∃ pps, session.ppsAt poc = .ok pps)
    (scarce : config.maxDecPicBuffering[6] + 2 < limit) : ¬session.HasRoomFor output limit := by
  intro enough
  have empty : Filled sps (ringCapacity config) config.gopSize limit 0 0 (session, output) := by
    obtain ⟨plan, sps, ppsStore, lanes, -, -, -, rfl⟩ := exists_of_create created
    exact
      { active := rfl
        present := present
        resolves := resolves
        consistent := PictureRing.consistent_empty ..
        capacity := rfl
        gop := rfl
        referenced := fun _ member => absurd member List.not_mem_nil
        pictures := rfl
        waiting := rfl
        modest := fun _ member => absurd member List.not_mem_nil }
  have few : ringCapacity config < config.gopSize + limit := by
    unfold ringCapacity
    omega
  obtain ⟨turns, desk, run, modest, exhausted⟩ := empty.exists_exhausted gop few
  exact enough idling turns desk run modest _ exhausted

end Created

/-- The ring of a session has room for the buffering that is announced, unless the ring was made
for less. For every configuration with a GOP and with temporal layers up to `top` that a session is
created from, the sequence parameter set announces a number of buffered pictures for the layer
`top`. If that is at most what the configuration says of the last of all possible layers, and two,
then no calls exhaust the ring while no more pictures than announced are left referenced. If it is
more, and each picture finds its parameter set, then some calls do. -/
theorem room_for_announced_buffering (config : Config) (own : κ) (factory : LaneFactory γ η)
    {session : Session (Traced κ γ η ρ) γ η}
    (created : (create config (own, []) factory).outcome = .ok session)
    (gop : 1 ≤ config.gopSize) (top : Fin maxTemporalLayers)
    (layers : config.maxTemporalLayers = top.val + 1) (output : List ρ) :
    ∃ sps, session.sps? = some sps ∧ sps.maxTLayers = top.val + 1 ∧
      let announced := sps.maxDecPicBuffering.get top
      announced = config.maxDecPicBuffering.get top ∧
        (announced ≤ config.maxDecPicBuffering[6] + 2 → session.HasRoomFor output announced) ∧
        (config.maxDecPicBuffering[6] + 2 < announced →
          (∀ poc, ∃ pps, session.ppsAt poc = .ok pps) → ¬session.HasRoomFor output announced) := by
  obtain ⟨sps, present, built⟩ : ∃ sps, session.sps? = some sps ∧
      ∃ sets, (config.buildSps spsId sets).outcome = .ok sps := by
    obtain ⟨plan, sps, ppsStore, lanes, -, built, -, rfl⟩ := exists_of_create created
    exact ⟨sps, rfl, plan.sets, built⟩
  obtain ⟨sets, built⟩ := built
  have counted : sps.maxTLayers = config.maxTemporalLayers := by
    obtain ⟨scalingList, vui, -, -, rfl⟩ := Config.exists_of_buildSps built
    rfl
  refine ⟨sps, present, counted.trans layers,
    Config.maxDecPicBuffering_of_buildSps built top (by omega), ?_, ?_⟩
  · exact hasRoomFor_of_le created gop output
  · exact fun scarce resolves => not_hasRoomFor_of_lt created gop output present resolves scarce

/-! ### A ring that is too small -/

/-- A configuration of one temporal layer with three buffered pictures, and none in layers that it
does not have. -/
def narrowConfig : Config :=
  { smallConfig with gopSize := 1, maxDecPicBuffering := #v[3, 0, 0, 0, 0, 0, 0] }

/-- The session that the narrow configuration gives. -/
def narrowSession : Session (Traced Unit Unit Unit Unit) Unit Unit :=
  (create narrowConfig ((), []) plainFactory).outcome.toOption.get rfl

/-- The narrow configuration gives the narrow session. -/
theorem create_narrowConfig :
    (create narrowConfig ((), []) plainFactory).outcome = .ok narrowSession := rfl

/-- Three pictures are announced, and there is no room for them. -/
theorem room_for_announced_buffering_narrowConfig :
    ∃ sps, narrowSession.sps? = some sps ∧ sps.maxDecPicBuffering.get 0 = 3 ∧
      ¬narrowSession.HasRoomFor [] 3 := by
  obtain ⟨sps, present, -, announced, -, scarce⟩ := room_for_announced_buffering narrowConfig ()
    plainFactory create_narrowConfig (by decide) 0 rfl []
  have three : sps.maxDecPicBuffering.get 0 = 3 := announced
  rw [three] at scarce
  exact ⟨sps, present, three, scarce (by decide) (exists_ppsAt_of_create create_narrowConfig rfl)⟩

/-- Four frames, one after the other. -/
def narrowCalls : List Call :=
  List.replicate 4 (.encode (some (.blank ⟨2, 2⟩ .monochrome)) false)

/-- A compressor that keeps three pictures, as announced, exhausts the ring. -/
theorem narrowCalls_exhaust_ring :
    let start : Desk (Traced Unit Unit Unit Unit) Unit Unit Unit := (narrowSession, [])
    let turns := turnsOf idling.traced start narrowCalls
    let desk := deskAfter idling.traced start narrowCalls
    (create narrowConfig ((), []) plainFactory).outcome = .ok narrowSession ∧
      1 ≤ narrowConfig.gopSize ∧ narrowConfig.maxTemporalLayers = 1 ∧
      narrowSession.sps?.map (fun sps => (sps.maxTLayers, sps.maxDecPicBuffering.get 0)) =
        some (1, 3) ∧
      Runs idling.traced start turns desk ∧
      (∀ handover ∈ desk.1.handovers, handover.Modest 3) ∧
      .refused (.ringExhausted 3) ∈ stopsIn turns := by
  intro start turns desk
  have run : Runs idling.traced start turns desk :=
    .ofCalls _ _ _ (by decide +kernel)
  have few : ∀ handover ∈ desk.1.handovers, handover.left.1.ring.numReferenced ≤ 3 := by
    decide +kernel
  refine ⟨create_narrowConfig, by decide, rfl, by decide +kernel, run, fun handover member => ?_,
    by decide +kernel⟩
  have untouched := left_of_mem_handovers run (handovers_of_create create_narrowConfig) member
  exact ⟨⟨[], by rw [untouched]; rfl⟩, few handover member⟩

end Session

end EncoderControl
