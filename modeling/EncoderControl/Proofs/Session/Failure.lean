import EncoderControl.Proofs.Session.Handovers
import EncoderControl.Proofs.Session.Lifetime

/-!
# Failures are final

A session ends when it is destroyed, and when a picture could not be admitted or coded for a reason
that another input would not cure. It may end halfway through a call, between the two fields of a
frame. What every single feeding leaves of the session decides what a call leaves of it, and once
the session has ended nothing can revive it.
-/

namespace EncoderControl

namespace Operation

/-- A sequence that fails does so in its first step, or in the second one after the first. -/
theorem bind_failed {σ ε α β : Type} {first : Operation σ ε α} {next : α → Operation σ ε β}
    {state : σ} {failure : ε} (fails : ((first >>= next) state).outcome = .error failure) :
    (first state).outcome = .error failure ∨
      ∃ value, (first state).outcome = .ok value ∧
        (next value (first state).state).outcome = .error failure := by
  cases reached : (first state).outcome with
  | error other =>
    rw [bind_apply_of_error reached] at fails
    cases fails
    exact .inl rfl
  | ok value =>
    rw [bind_apply_of_ok reached] at fails
    exact .inr ⟨value, rfl, fails⟩

end Operation

namespace Session

variable {κ γ η ρ α β : Type}

/-- The step was refused, and not for its input. -/
def Fatal (outcome : Except (Stop EncodeError) α) : Prop :=
  ∃ error, outcome = .error (.refused error) ∧ ∀ defect, error ≠ .invalidInput defect

/-- Whether an active session takes pictures by a call. -/
def Call.TakesPictures (config : Config) : Call → Prop
  | .encode .. => True
  | .encodeFields .. => config.fieldCoding = true
  | .tune _ => False

/-- A call failed while it took pictures or had them coded, and not for its input. -/
def Event.Fails (event : Event κ γ η ρ) : Prop :=
  ∃ call, event.use = .call call ∧ call.TakesPictures event.before.1.config ∧
    Fatal event.reply.outcome

/-- The session ended, at the latest. -/
def Event.IsFinal (event : Event κ γ η ρ) : Prop :=
  event.use = .destroy ∨ event.Fails

/-! ### What becomes of an active session -/

/-- What a step leaves of a session: it fails with a fatal outcome and goes on with any other one.
That the session had ended before is never what is reported. -/
structure Fate (before : Session κ γ η) (outcome : Except (Stop EncodeError) α)
    (after : Session κ γ η) : Prop where
  kept : ¬Fatal outcome → after.status = before.status
  failed : Fatal outcome → after.status = .failed
  sound : outcome ≠ .error (.refused .invalidInternalState)

/-- Restating an answer makes no failure fatal, or less so. -/
theorem fatal_map (restate : α → β) (outcome : Except (Stop EncodeError) α) :
    Fatal (outcome.map restate) ↔ Fatal outcome := by
  cases outcome <;> simp [Fatal, Except.map]

section Fate

variable {before between after : Session κ γ η} {outcome : Except (Stop EncodeError) α}

/-- An answer lets the session go on. -/
theorem Fate.ofOk (value : α) (status : after.status = before.status) :
    Fate before (.ok value : Except (Stop EncodeError) α) after :=
  ⟨fun _ => status, fun ⟨_, same, _⟩ => (by cases same), fun same => (by cases same)⟩

/-- A fault ends the call and leaves the session as it is. -/
theorem Fate.ofFault (fault : Fault) (status : after.status = before.status) :
    Fate before (.error (.fault fault) : Except (Stop EncodeError) α) after :=
  ⟨fun _ => status, fun ⟨_, same, _⟩ => (by cases same), fun same => (by cases same)⟩

/-- A refusal that blames neither the input nor an earlier end. -/
theorem Fate.ofRefusal {error : EncodeError} (fatal : ∀ defect, error ≠ .invalidInput defect)
    (other : error ≠ .invalidInternalState) (status : after.status = .failed) :
    Fate before (.error (.refused error) : Except (Stop EncodeError) α) after where
  kept notFatal := absurd ⟨error, rfl, fatal⟩ notFatal
  failed _ := status
  sound same := other (by cases same; rfl)

/-- Restating an answer does not change what becomes of the session. -/
theorem Fate.map (fate : Fate before outcome after) (restate : α → β) :
    Fate before (outcome.map restate) after where
  kept notFatal := fate.kept (mt (fatal_map restate outcome).mpr notFatal)
  failed fatal := fate.failed ((fatal_map restate outcome).mp fatal)
  sound same := by
    cases outcome with
    | ok value => cases same
    | error stop => cases same; exact fate.sound rfl

/-- What happens later decides, when the session went on until then. -/
theorem Fate.ofLater (status : between.status = before.status) (fate : Fate between outcome after) :
    Fate before outcome after :=
  ⟨fun notFatal => (fate.kept notFatal).trans status, fate.failed, fate.sound⟩

end Fate

/-- A feeding ends a session when it fails fatally, and only then. -/
theorem fate_feed (compressor : Compressor κ γ η ρ) (feeding : Feeding) (desk : Desk κ γ η ρ) :
    Fate desk.1 (feed compressor feeding desk).outcome (feed compressor feeding desk).state.1 := by
  have fed := feed_cases compressor feeding desk
  generalize (feed compressor feeding desk).outcome = outcome at fed
  generalize (feed compressor feeding desk).state = state at fed
  cases fed with
  | refused input sps given present misfit =>
    refine ⟨fun _ => rfl, fun ⟨error, same, notInput⟩ => ?_, fun same => by cases same⟩
    cases same
    exact absurd rfl (notInput _)
  | unresolved id => exact .ofRefusal (by simp) (by simp) rfl
  | exhausted input given full => exact .ofRefusal (by simp) (by simp) rfl
  | waited loaded loads notDue => exact .ofOk 0 (status_of_loaded loads)
  | coded loaded sps loads present due codes =>
    have status := status_of_loaded loads
    exact .ofOk _ status
  | failed loaded sps error loads present due fails => exact .ofRefusal (by simp) (by simp) rfl
  | faulted loaded sps fault loads present due faults =>
    have status := status_of_loaded loads
    exact .ofFault fault status

/-- Several feedings stop with the first one that fails. -/
theorem fate_feedAll (compressor : Compressor κ γ η ρ) (feedings : List Feeding)
    (desk : Desk κ γ η ρ) :
    Fate desk.1 (feedAll compressor feedings desk).outcome
      (feedAll compressor feedings desk).state.1 := by
  induction feedings generalizing desk with
  | nil => exact .ofOk 0 rfl
  | cons feeding later inductionHypothesis =>
    have first := fate_feed compressor feeding desk
    cases answer : (feed compressor feeding desk).outcome with
    | error stop =>
      obtain ⟨outcome, state⟩ := feedAll_cons_of_error compressor later answer
      rw [outcome, state, ← answer]
      exact first
    | ok numPics =>
      obtain ⟨outcome, state⟩ := feedAll_cons_of_ok compressor later answer
      rw [outcome, state]
      have status := (received_feed_of_ok compressor feeding desk answer).2
      exact ((inductionHypothesis _).ofLater status).map _

/-- A call that takes pictures ends an active session when it fails, and only then. -/
theorem fate_perform (compressor : Compressor κ γ η ρ) {call : Call} {desk : Desk κ γ η ρ}
    (active : desk.1.status = .active) (takes : call.TakesPictures desk.1.config) :
    Fate desk.1 (perform compressor call desk).outcome (perform compressor call desk).state.1 := by
  cases call with
  | encode input flush =>
    obtain ⟨outcome, state⟩ := perform_encode_of_active compressor input flush active
    rw [outcome, state]
    exact fate_feedAll compressor _ desk
  | encodeFields input flush order =>
    rcases perform_encodeFields_of_fields compressor input flush order active takes with
      ⟨frame, top, fault, -, outcome, state⟩ | ⟨-, outcome, state⟩
    · rw [outcome, state]
      exact .ofFault fault rfl
    · rw [outcome, state]
      exact fate_feedAll compressor _ desk
  | tune tunings => exact takes.elim

/-- A change of the rate settings never fails for an earlier end of an active session. -/
theorem tune_of_active (tunings : Tunings) {desk : Desk κ γ η ρ}
    (active : desk.1.status = .active) :
    (tune tunings desk).state.1.status = .active ∧
      (tune tunings desk).outcome ≠ .error .invalidInternalState := by
  constructor
  · have tuned := tune_cases tunings active
    generalize (tune tunings desk).outcome = outcome at tuned
    generalize (tune tunings desk).state = state at tuned
    cases tuned <;> exact active
  · intro fails
    have checked : (checkActive desk).outcome = .ok () := by rw [checkActive_of_active active]
    unfold tune at fails
    rw [Operation.bind_apply_of_ok checked, checkActive_of_active active, current_bind_apply]
      at fails
    split at fails
    · cases fails
    rw [Operation.log_bind_apply] at fails
    rcases Operation.bind_failed fails with missing | ⟨present, -, fails⟩
    · cases found : desk.1.spsStore.get? spsId with
      | none =>
        rw [(activeSps_of_none found).1] at missing
        cases missing
      | some sps =>
        rw [activeSps_of_some found] at missing
        cases missing
    · rcases Operation.bind_failed fails with built | ⟨_, -, changed⟩
      · rcases buildSps_error built with other | other <;> cases other
      · cases changed

/-- Any other call leaves an active session active. -/
theorem perform_of_not_takesPictures (compressor : Compressor κ γ η ρ) {call : Call}
    {desk : Desk κ γ η ρ} (active : desk.1.status = .active)
    (takesNone : ¬call.TakesPictures desk.1.config) :
    (perform compressor call desk).state.1.status = .active ∧
      (perform compressor call desk).outcome ≠ .error (.refused .invalidInternalState) := by
  cases call with
  | encode input flush => exact absurd trivial takesNone
  | encodeFields input flush order =>
    obtain ⟨outcome, state⟩ := perform_encodeFields_of_active compressor input flush order active
    have frames : ¬desk.1.config.fieldCoding = true := takesNone
    rw [if_neg frames] at outcome state
    rw [outcome, state]
    exact ⟨active, fun same => by cases same⟩
  | tune tunings =>
    obtain ⟨status, sound⟩ := tune_of_active tunings active
    obtain ⟨outcome, state⟩ := perform_tune compressor tunings desk
    rw [outcome, state]
    refine ⟨status, fun same => sound ?_⟩
    cases answer : (tune tunings desk).outcome with
    | ok => rw [answer] at same; cases same
    | error error => rw [answer] at same; cases same; rfl

/-! ### Lifetimes -/

section Life

variable {compressor : Compressor κ γ η ρ} {use : Use} {desk : Desk κ γ η ρ}

/-- Nothing revives a session that ended. -/
theorem status_perform_of_ended (ended : desk.1.status ≠ .active) :
    (use.perform compressor desk).state.1.status ≠ .active := by
  cases use with
  | call call =>
    rw [(perform_call compressor call desk).2, (perform_of_ended compressor call ended).2]
    exact ended
  | askSps id | askPps id => exact ended
  | destroy => exact fun same => nomatch same

/-- The session has ended after an event that is final. -/
theorem Event.IsFinal.status (final : Event.IsFinal ⟨use, desk, use.perform compressor desk⟩) :
    (use.perform compressor desk).state.1.status ≠ .active := by
  by_cases active : desk.1.status = .active
  · rcases final with destroyed | ⟨call, same, takes, fatal⟩
    · cases destroyed
      exact fun same => nomatch same
    · cases same
      obtain ⟨outcome, state⟩ := perform_call compressor call desk
      have failed := (fate_perform compressor active takes).failed
        ((fatal_map Answer.coded _).mp (outcome ▸ fatal))
      rw [state, failed]
      exact fun same => nomatch same
  · exact status_perform_of_ended active

/-- The session has ended once an event of its lifetime was final. -/
theorem Life.ended {start : Desk κ γ η ρ} {events : List (Event κ γ η ρ)}
    (life : Life compressor start events desk) (final : ∃ event ∈ events, event.IsFinal) :
    desk.1.status ≠ .active := by
  induction life with
  | start => obtain ⟨_, member, -⟩ := final; exact absurd member List.not_mem_nil
  | use prior answered use inductionHypothesis =>
    obtain ⟨event, member, final⟩ := final
    rcases List.mem_append.mp member with earlier | last
    · exact status_perform_of_ended (inductionHypothesis ⟨event, earlier, final⟩)
    · rw [List.mem_singleton.mp last] at final
      exact final.status

/-- A session that has ended refuses every call, and nothing changes. -/
theorem call_of_ended (call : Call) (ended : desk.1.status ≠ .active) :
    ((Use.call call).perform compressor desk).outcome =
        .error (.refused .invalidInternalState) ∧
      ((Use.call call).perform compressor desk).state = desk := by
  obtain ⟨outcome, state⟩ := perform_call compressor call desk
  obtain ⟨refused, kept⟩ := perform_of_ended compressor call ended
  exact ⟨by rw [outcome, refused]; rfl, state.trans kept⟩

/-- A session that is active ends with the calls that fail. -/
theorem call_of_active (call : Call) (active : desk.1.status = .active) :
    let event : Event κ γ η ρ := ⟨.call call, desk, (Use.call call).perform compressor desk⟩
    event.reply.outcome ≠ .error (.refused .invalidInternalState) ∧
      (event.reply.state.1.status = .active ↔ ¬event.Fails) := by
  intro event
  obtain ⟨outcome, state⟩ := perform_call compressor call desk
  have failsIff : event.Fails ↔ call.TakesPictures desk.1.config ∧ Fatal event.reply.outcome :=
    ⟨fun ⟨_, same, both⟩ => by cases same; exact both, fun both => ⟨call, rfl, both⟩⟩
  rw [failsIff]
  by_cases takes : call.TakesPictures desk.1.config
  · have fate := (fate_perform compressor active takes).map Answer.coded
    rw [← outcome, ← state] at fate
    refine ⟨fate.sound, fun status both => ?_, fun spared => ?_⟩
    · have failed := fate.failed both.2
      rw [failed] at status
      cases status
    · exact (fate.kept fun fatal => spared ⟨takes, fatal⟩).trans active
  · obtain ⟨status, sound⟩ := perform_of_not_takesPictures compressor active takes
    refine ⟨fun same => ?_, fun _ both => takes both.1, fun _ => state ▸ status⟩
    rw [outcome] at same
    cases answer : (perform compressor call desk).outcome with
    | ok numPics => rw [answer] at same; cases same
    | error stop => rw [answer] at same; cases same; exact sound answer

end Life

/-- Failures are final, and nothing else is. In every lifetime, once the session was destroyed or a
call failed while pictures were admitted or coded, other than for its input, every later call is
refused for this and leaves all as it was: the session, the reconstructions and the trace of the
compressor, which therefore was not called. A call on an active session is never refused for this,
and ends the session only by such a failure: neither an input that is refused, nor a change of the
rate settings, nor field input on a session that codes frames does. -/
theorem failures_are_final (compressor : Compressor κ γ η ρ)
    {start desk : Desk (Traced κ γ η ρ) γ η ρ} {events : List (Event (Traced κ γ η ρ) γ η ρ)}
    (life : Life compressor.traced start events desk) :
    (events.Pairwise fun ending later => ending.IsFinal → ∀ call, later.use = .call call →
      later.reply.outcome = .error (.refused .invalidInternalState) ∧
        later.reply.state = later.before) ∧
    ∀ event ∈ events, ∀ call, event.use = .call call → event.before.1.status = .active →
      event.reply.outcome ≠ .error (.refused .invalidInternalState) ∧
        (event.reply.state.1.status = .active ↔ ¬event.Fails) := by
  induction life with
  | start => exact ⟨.nil, fun _ member => absurd member List.not_mem_nil⟩
  | use prior answered use inductionHypothesis =>
    obtain ⟨final, spared⟩ := inductionHypothesis
    constructor
    · refine List.pairwise_append.mpr ⟨final, List.pairwise_singleton .., ?_⟩
      intro ending member last same isFinal call called
      cases List.mem_singleton.mp same
      cases called
      exact call_of_ended call (prior.ended ⟨ending, member, isFinal⟩)
    · intro event member call called active
      rcases List.mem_append.mp member with earlier | last
      · exact spared event earlier call called active
      · cases List.mem_singleton.mp last
        cases called
        exact call_of_active call active

/-- A compressor that refuses every batch. -/
def refusing : Compressor Unit Unit Unit Unit where
  codeBatch _ := Operation.fail (.refused .missingPicture)

/-- An input that does not fit and fields where frames are coded leave a session as it is. The
second frame completes a batch, which is refused, and so is what comes after it. -/
def refusedUses : List Use :=
  [.call (.encode (some (.blank ⟨3, 2⟩ .monochrome)) false),
    .call (.encodeFields (some (.blank ⟨2, 4⟩ .monochrome)) false .topFieldFirst),
    .call (.encode (some (.blank ⟨2, 2⟩ .monochrome)) false),
    .call (.encode (some (.blank ⟨2, 2⟩ .monochrome)) false),
    .call (.tune ⟨1, 1, 1⟩), .askSps 0, .call (.encode none true), .destroy,
    .call (.encodeFields none true .topFieldFirst)]

/-- Three calls on the small session go on, two of which are refused. The fourth one fails, and all
that come later are refused. -/
theorem failures_are_final_refusedUses :
    let events := eventsOf refusing.traced smallDesk refusedUses
    Life refusing.traced smallDesk events (deskAfterUses refusing.traced smallDesk refusedUses) ∧
      (events.map fun event => event.reply.state.1.status) =
        [.active, .active, .active, .failed, .failed, .failed, .failed, .destroyed, .destroyed] ∧
      ∀ event ∈ events.drop 4, ∀ call, event.use = .call call →
        event.reply.outcome = .error (.refused .invalidInternalState) ∧
          event.reply.state = event.before := by
  intro events
  have life := Life.ofUses refusing.traced smallDesk refusedUses (by decide +kernel)
  refine ⟨life, by decide +kernel, fun event member => ?_⟩
  have final := (failures_are_final refusing life).1
  change events.Pairwise _ at final
  rw [← List.take_append_drop 4 events, List.pairwise_append] at final
  have failed : events[3].IsFinal :=
    .inr ⟨_, rfl, trivial, .compressor .missingPicture, by decide +kernel, by simp⟩
  exact final.2.2 events[3] (List.mem_take_iff_getElem.mpr ⟨3, by decide, rfl⟩) event member failed

end Session

end EncoderControl
