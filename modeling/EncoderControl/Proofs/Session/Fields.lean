import EncoderControl.Proofs.Session.Failure
import EncoderControl.Proofs.Session.Rejection

/-!
# Frames taken as fields

A frame is accepted when its first field is admitted, and as long as the session goes on its second
field then is admitted as well. So the fields that a session received are twice the frames that it
accepted, whatever was refused in between and whichever way the fields were batched.
-/

namespace EncoderControl

namespace Session

variable {κ γ η ρ : Type}

/-- The frame that a call brings to be taken as fields, with their order. -/
def Call.frames : Call → List (Frame × FieldOrder)
  | .encodeFields input _ order => input.toList.map fun frame => (frame, order)
  | .encode .. | .tune _ => []

/-- The frame of a call that takes fields, once a field of it was admitted. -/
def Turn.accepted (turn : Turn κ γ η ρ) : List (Frame × FieldOrder) :=
  if turn.before.1.received < turn.reply.state.1.received then turn.call.frames else []

/-- All frames that a run accepted, by their numbers. -/
def acceptedIn (turns : List (Turn κ γ η ρ)) : List (Frame × FieldOrder) :=
  turns.flatMap Turn.accepted

/-- The last call of a run accepts its frame after those of the earlier ones. -/
theorem acceptedIn_snoc (turns : List (Turn κ γ η ρ)) (turn : Turn κ γ η ρ) :
    acceptedIn (turns ++ [turn]) = acceptedIn turns ++ turn.accepted := by
  simp [acceptedIn]

/-- Nothing is accepted by a call that leaves the session as it is. -/
theorem Turn.accepted_of_kept {turn : Turn κ γ η ρ} (kept : turn.reply.state = turn.before) :
    turn.accepted = [] :=
  if_neg (by rw [kept]; exact Nat.lt_irrefl _)

section Counting

variable (compressor : Compressor κ γ η ρ) {desk : Desk κ γ η ρ} {numPics : Nat}

/-- Feedings that succeed admit all that they bring. -/
theorem received_feedAll_of_ok {feedings : List Feeding}
    (succeeds : (feedAll compressor feedings desk).outcome = .ok numPics) :
    (feedAll compressor feedings desk).state.1.received =
      desk.1.received + (feedings.filterMap Feeding.input).length := by
  induction feedings generalizing desk numPics with
  | nil => rfl
  | cons feeding later inductionHypothesis =>
    cases answer : (feed compressor feeding desk).outcome with
    | error stop =>
      rw [(feedAll_cons_of_error compressor later answer).1] at succeeds
      cases succeeds
    | ok first =>
      obtain ⟨outcome, state⟩ := feedAll_cons_of_ok compressor later answer
      have counted := (received_feed_of_ok compressor feeding desk answer).1
      rw [outcome] at succeeds
      cases rest : (feedAll compressor later (feed compressor feeding desk).state).outcome with
      | error stop => rw [rest] at succeeds; cases succeeds
      | ok value =>
        rw [state, inductionHypothesis rest, counted, filterMap_input_cons, List.length_append,
          Nat.add_assoc]

/-- The session has received at least what it had after the first feeding. -/
theorem received_feed_le_feedAll (feeding : Feeding) (later : List Feeding)
    (desk : Desk κ γ η ρ) :
    (feed compressor feeding desk).state.1.received ≤
      (feedAll compressor (feeding :: later) desk).state.1.received := by
  cases answer : (feed compressor feeding desk).outcome with
  | error stop => rw [(feedAll_cons_of_error compressor later answer).2]
  | ok first =>
    rw [(feedAll_cons_of_ok compressor later answer).2]
    exact received_le_feedAll compressor _ later

/-- A frame with fields is offered as two. -/
theorem Call.length_offered {call : Call} (fields : call.takesFields = true)
    (taken : call.feedings ≠ []) : call.offered.length = 2 * call.frames.length := by
  cases call with
  | encode input flush => cases fields
  | tune tunings => cases fields
  | encodeFields input flush order =>
    cases input with
    | none => rfl
    | some frame =>
      unfold Call.offered
      rw [Call.feedings] at taken ⊢
      split at taken
      · rfl
      · exact absurd rfl taken

/-- A call that succeeds accepts its frame, and admits two fields of it. -/
theorem accepted_of_ok {call : Call} (fields : call.takesFields = true) :
    let turn : Turn κ γ η ρ := ⟨call, desk, perform compressor call desk⟩
    turn.reply.outcome = .ok numPics → turn.accepted = call.frames ∧
      turn.reply.state.1.received = desk.1.received + 2 * call.frames.length := by
  intro turn succeeds
  have counted : turn.reply.state.1.received = desk.1.received + 2 * call.frames.length := by
    have performed := perform_cases compressor call desk
    change Performed compressor desk _ turn.reply.outcome turn.reply.state at performed
    rw [succeeds] at performed
    generalize turn.reply.state = state at performed ⊢
    generalize answer : (Except.ok numPics : Except (Stop EncodeError) Nat) = outcome at performed
    cases performed with
    | upfront call kind => cases answer
    | tuned => cases fields
    | fed call active suits =>
      rw [received_feedAll_of_ok compressor answer.symm,
        ← Call.length_offered fields (suits fields).2]
      rfl
  refine ⟨?_, counted⟩
  unfold Turn.accepted
  rw [counted]
  cases call.frames with
  | nil => exact ite_self _
  | cons frame later => exact if_pos (Nat.lt_add_of_pos_right (by simp))

/-- A call that takes fields and does not succeed has ended the session or left it as it is. -/
theorem kept_of_stop {call : Call} (fields : call.takesFields = true) {stop : Stop EncodeError}
    (stopped : (perform compressor call desk).outcome = .error stop)
    (answered : (perform compressor call desk).Answered)
    (active : (perform compressor call desk).state.1.status = .active) :
    (perform compressor call desk).state = desk := by
  by_cases before : desk.1.status = .active
  swap
  · exact (perform_of_ended compressor call before).2
  cases stop with
  | fault fault => exact absurd stopped (answered fault)
  | refused error =>
    by_cases takes : call.TakesPictures desk.1.config
    · have fate := fate_perform compressor before takes
      have spared : ¬Fatal (perform compressor call desk).outcome := fun fatal => by
        rw [fate.failed fatal] at active
        cases active
      have rejection : isRejection (perform compressor call desk).outcome = true := by
        rw [isRejection_iff, stopped]
        by_contra other
        exact spared ⟨error, stopped, fun defect same => other ⟨defect, by rw [same]⟩⟩
      exact (perform_of_rejection compressor rejection).1
    · cases call with
      | encodeFields input flush order =>
        have frames : ¬desk.1.config.fieldCoding = true := takes
        obtain ⟨-, state⟩ := perform_encodeFields_of_active compressor input flush order before
        rw [if_neg frames] at state
        exact state
      | encode input flush => cases fields
      | tune tunings => cases fields

end Counting

/-- An active session has received two fields of each frame that it accepted. -/
theorem Runs.received_eq {compressor : Compressor κ γ η ρ} {start desk : Desk κ γ η ρ}
    {turns : List (Turn κ γ η ρ)} (run : Runs compressor start turns desk)
    (fields : ∀ turn ∈ turns, turn.call.takesFields = true) (new : start.1.received = 0)
    (answered : ∀ turn ∈ turns, turn.reply.Answered) (active : desk.1.status = .active) :
    desk.1.received = 2 * (acceptedIn turns).length := by
  induction run with
  | start => exact new
  | @call turns desk prior priorAnswered call inductionHypothesis =>
    rw [List.forall_mem_append, List.forall_mem_singleton] at fields answered
    let turn : Turn κ γ η ρ := ⟨call, desk, perform compressor call desk⟩
    have before : desk.1.status = .active := by
      by_contra ended
      rw [(perform_of_ended compressor call ended).2] at active
      exact ended active
    have counted := inductionHypothesis fields.1 priorAnswered before
    rw [acceptedIn_snoc, List.length_append]
    cases answer : (perform compressor call desk).outcome with
    | error stop =>
      have kept := kept_of_stop compressor fields.2 answer answered.2 active
      rw [Turn.accepted_of_kept kept, kept, counted]
      rfl
    | ok numPics =>
      obtain ⟨accepted, received⟩ := accepted_of_ok compressor fields.2 answer
      rw [accepted, received, counted]
      exact (Nat.mul_add ..).symm

end Session

end EncoderControl
