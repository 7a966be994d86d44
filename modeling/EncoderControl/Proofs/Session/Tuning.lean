import EncoderControl.Proofs.ParameterSet.Lookups
import EncoderControl.Proofs.Session.Handovers
import EncoderControl.Proofs.Session.Lifetime
import EncoderControl.Proofs.Session.Retuning

/-!
# Changing the rate settings

A change of the rate settings builds the sequence parameter set anew and keeps all else that was
settled when the session was created. It comes to the same as starting over: until the session is
destroyed it has the configuration, parameter sets and reference sets of the session that is created
with its present rate settings. Only what depends on the pictures taken so far may differ, and which
sets are still to be written.
-/

namespace EncoderControl

namespace Session

variable {κ γ η ρ : Type}

/-- Two sessions have the same configuration, and the same has been settled by it. Which sets are
still to be written does not count. -/
structure SameSettings (session other : Session κ γ η) : Prop where
  config : session.config = other.config
  spsSets : ∀ id, session.spsStore.get? id = other.spsStore.get? id
  ppsSets : ∀ id, session.ppsStore.get? id = other.ppsStore.get? id
  selector : session.selector = other.selector
  inconsistencies : session.inconsistencies = other.inconsistencies

/-- Sessions that have the settings of a third one share them. -/
theorem SameSettings.trans {first second third : Session κ γ η}
    (before : SameSettings first second) (after : SameSettings second third) :
    SameSettings first third where
  config := before.config.trans after.config
  spsSets id := (before.spsSets id).trans (after.spsSets id)
  ppsSets id := (before.ppsSets id).trans (after.ppsSets id)
  selector := before.selector.trans after.selector
  inconsistencies := before.inconsistencies.trans after.inconsistencies

/-- A session that keeps its settings has the same ones. -/
theorem KeepsSettings.sameSettings {before after : Session κ γ η}
    (kept : KeepsSettings before after) : SameSettings after before where
  config := kept.config
  spsSets id := congrArg (·.get? id) kept.spsStore
  ppsSets id := congrArg (·.get? id) kept.ppsStore
  selector := kept.selector
  inconsistencies := kept.inconsistencies

/-! ### What leaves the settings alone -/

section Kept

variable (compressor : Compressor κ γ η ρ)

/-- Taking frames or fields leaves the settings alone, whatever comes of it. -/
theorem sameSettings_perform (call : Call) (other : ∀ tunings, call ≠ .tune tunings)
    (desk : Desk κ γ η ρ) : SameSettings (perform compressor call desk).state.1 desk.1 := by
  have performed := perform_cases compressor call desk
  generalize (perform compressor call desk).outcome = outcome at performed
  generalize (perform compressor call desk).state = state at performed
  cases performed with
  | upfront => exact (KeepsSettings.refl _).sameSettings
  | fed => exact (keepsSettings_feedAll compressor call.feedings desk).sameSettings
  | tuned tunings => exact absurd rfl (other tunings)

end Kept

/-! ### What changes the rate settings -/

/-- The rate settings that an event brought, if they were accepted. -/
def Event.accepted? (event : Event κ γ η ρ) : Option Tunings :=
  match event.use, event.reply.outcome with
  | .call (.tune tunings), .ok _ => some tunings
  | _, _ => none

/-- What a use may do to the settings, with the rate settings that it had accepted. -/
inductive Resettled (desk : Desk κ γ η ρ) : Option Tunings → Desk κ γ η ρ → Prop where
  | kept {after : Desk κ γ η ρ} (same : SameSettings after.1 desk.1) : Resettled desk none after
  | unchanged : Resettled desk (some desk.1.config.tunings) desk
  | changed (tunings : Tunings) {present sps : Sps}
      (inForce : desk.1.spsStore.get? spsId = some present)
      (built : ((desk.1.config.tuned tunings).buildSps spsId present.referenceSets).outcome =
        .ok sps) :
      Resettled desk (some tunings) (retuned desk tunings sps)

/-- Rate settings that are refused change nothing. -/
theorem tune_of_error {tunings : Tunings} {desk : Desk κ γ η ρ} {error : EncodeError}
    (refused : (tune tunings desk).outcome = .error error) : (tune tunings desk).state = desk := by
  by_cases active : desk.1.status = .active
  · have tuned := tune_cases tunings active
    rw [refused] at tuned
    generalize (tune tunings desk).state = state at tuned ⊢
    cases tuned with
    | refused => rfl
  · exact (tune_of_ended tunings active).2

/-- A change of the rate settings resettles the session by what it accepts. -/
theorem resettled_tune (compressor : Compressor κ γ η ρ) (tunings : Tunings)
    (desk : Desk κ γ η ρ) :
    let use := Use.call (.tune tunings)
    let event : Event κ γ η ρ := ⟨use, desk, use.perform compressor desk⟩
    Resettled desk event.accepted? event.reply.state := by
  intro use event
  obtain ⟨outcome, state⟩ := perform_call compressor (.tune tunings) desk
  obtain ⟨answer, left⟩ := perform_tune compressor tunings desk
  have accepted : event.accepted? = (tune tunings desk).outcome.toOption.map fun _ => tunings := by
    simp only [Event.accepted?, event, use, outcome, answer]
    cases (tune tunings desk).outcome <;> rfl
  have after : event.reply.state = (tune tunings desk).state := state.trans left
  rw [accepted, after]
  cases ends : (tune tunings desk).outcome with
  | error error =>
    rw [tune_of_error ends]
    exact .kept (KeepsSettings.refl _).sameSettings
  | ok =>
    have active : desk.1.status = .active := by
      by_contra ended
      rw [(tune_of_ended tunings ended).1] at ends
      cases ends
    have tuned := tune_cases tunings active
    rw [ends] at tuned
    generalize (tune tunings desk).state = state at tuned ⊢
    cases tuned with
    | unchanged same => rw [same]; exact .unchanged
    | changed present sps inForce built => exact .changed tunings inForce built

/-- Every use short of destroying the session keeps the settings or puts the rate settings that it
had accepted in force. -/
theorem resettled (compressor : Compressor κ γ η ρ) {use : Use} (goesOn : use ≠ .destroy)
    (desk : Desk κ γ η ρ) :
    let event : Event κ γ η ρ := ⟨use, desk, use.perform compressor desk⟩
    Resettled desk event.accepted? event.reply.state := by
  intro event
  cases use with
  | call call =>
    cases call with
    | tune tunings => exact resettled_tune compressor tunings desk
    | encode input flush =>
      have same := sameSettings_perform compressor (.encode input flush) nofun desk
      rw [← (perform_call compressor _ desk).2] at same
      exact .kept same
    | encodeFields input flush order =>
      have same := sameSettings_perform compressor (.encodeFields input flush order) nofun desk
      rw [← (perform_call compressor _ desk).2] at same
      exact .kept same
  | askSps id =>
    exact .kept
      ⟨rfl, fun other => desk.1.spsStore.get?_markWritten id other, fun _ => rfl, rfl, rfl⟩
  | askPps id =>
    exact .kept
      ⟨rfl, fun _ => rfl, fun other => desk.1.ppsStore.get?_markWritten id other, rfl, rfl⟩
  | destroy => exact absurd rfl goesOn

/-! ### Starting over -/

section StartingOver

variable [CostEvaluator γ]

/-- The settings of the session are those of a new one with the same configuration, which can be
created. -/
def UpToDate (session : Session κ γ η) : Prop :=
  ∀ (own : κ) (factory : LaneFactory γ η), ∃ fresh,
    (create session.config own factory).outcome = .ok fresh ∧ SameSettings session fresh

/-- What a use does to the settings leaves a session up to date, with the rate settings that were
accepted. -/
theorem Resettled.upToDate {desk after : Desk κ γ η ρ} {accepted : Option Tunings}
    (resettled : Resettled desk accepted after) (before : UpToDate desk.1) :
    after.1.config = desk.1.config.tuned (accepted.getD desk.1.config.tunings) ∧
      UpToDate after.1 := by
  cases resettled with
  | kept same =>
    refine ⟨same.config.trans (Config.tuned_tunings _).symm, fun own factory => ?_⟩
    obtain ⟨fresh, created, agrees⟩ := before own factory
    exact ⟨fresh, by rw [same.config, created], same.trans agrees⟩
  | unchanged => exact ⟨(Config.tuned_tunings _).symm, before⟩
  | changed tunings inForce built =>
    refine ⟨rfl, fun own factory => ?_⟩
    -- Retuning the session that is created with the old rate settings gives the one that is created
    -- with the new ones, so it is enough that the two sessions before agree.
    obtain ⟨fresh, created, agrees⟩ := before own factory
    rw [agrees.spsSets] at inForce
    obtain ⟨anew, createdAnew, config, spsStore, ppsStore, selector, inconsistencies⟩ :=
      create_tuned created inForce built own factory
    refine ⟨anew, createdAnew, config.symm, fun id => ?_, fun id => ?_, ?_, ?_⟩
    · rw [spsStore, ParameterStore.get?_insert, ← agrees.spsSets]
      exact ParameterStore.get?_insert ..
    · rw [ppsStore]
      exact agrees.ppsSets id
    · rw [selector]
      exact agrees.selector
    · rw [inconsistencies]
      exact agrees.inconsistencies

end StartingOver

/-- The small configuration with picture timing messages, which need a buffer model. -/
def timedConfig : Config :=
  { smallConfig with vuiParametersPresent := true, pictureTimingSei := true }

/-- The session that this configuration gives. -/
def timedSession : Session Unit Unit Unit :=
  (create timedConfig () plainFactory).outcome.toOption.get rfl

end Session

end EncoderControl
