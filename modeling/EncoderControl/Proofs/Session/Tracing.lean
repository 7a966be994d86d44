import EncoderControl.Proofs.Session.Handovers

/-!
# Tracing changes nothing else

A session with a traced compressor answers every call as the session without the trace does, and
leaves the same behind once the trace is taken away. What is proved about the handovers of a traced
compressor is therefore about the compressor itself. One step is compared with the other through the
view that takes the trace away; the rules below follow the way steps are put together.
-/

namespace EncoderControl

namespace Operation

variable {σ τ ε ε' α β : Type}

/-- One step does what the other one does, seen through `view`. -/
def Lifts (view : τ → σ) (lifted : Operation τ ε α) (step : Operation σ ε α) : Prop :=
  ∀ state, (lifted state).mapState view = step (view state)

section Lifts

variable {view : τ → σ}

/-- Answering does the same through every view. -/
theorem Lifts.pure (value : α) :
    Lifts view (Pure.pure value : Operation τ ε α) (Pure.pure value) := fun _ => rfl

/-- Failing does the same through every view. -/
theorem Lifts.fail (failure : ε) :
    Lifts view (Operation.fail failure : Operation τ ε α) (Operation.fail failure) := fun _ => rfl

/-- Logging does the same through every view. -/
theorem Lifts.log (severity : Severity) (text : String) :
    Lifts view (Operation.log severity text : Operation τ ε Unit) (Operation.log severity text) :=
  fun _ => rfl

/-- A change of the state does the same if the view takes it to the other change. -/
theorem Lifts.update {change : τ → τ} {plain : σ → σ}
    (same : ∀ state, view (change state) = plain (view state)) :
    Lifts view (Operation.update change : Operation τ ε Unit) (Operation.update plain) := by
  intro state
  simp only [update_apply, Reply.mapState, same]

/-- Reading the state does the same if what follows does for every state that is read. -/
theorem Lifts.read_bind {next : τ → Operation τ ε α} {plain : σ → Operation σ ε α}
    (rest : ∀ state, Lifts view (next state) (plain (view state))) :
    Lifts view (Operation.read >>= next) (Operation.read >>= plain) := by
  intro state
  rw [read_bind_apply, read_bind_apply]
  exact rest state state

/-- A computation without a state does the same through every view. -/
theorem Lifts.ofLogged (computation : Logged ε α) :
    Lifts view (Operation.ofLogged computation) (Operation.ofLogged computation) := fun _ => rfl

/-- Restating failures keeps steps alike. -/
theorem Lifts.mapError {lifted : Operation τ ε α} {step : Operation σ ε α}
    (lifts : Lifts view lifted step) (restate : ε → ε') :
    Lifts view (lifted.mapError restate) (step.mapError restate) := by
  intro state
  have same := lifts state
  simp only [Operation.mapError, ← same]
  rfl

/-- Steps that are alike make sequences that are alike. -/
theorem Lifts.bind {lifted : Operation τ ε α} {step : Operation σ ε α}
    {liftedNext : α → Operation τ ε β} {next : α → Operation σ ε β}
    (first : Lifts view lifted step)
    (second : ∀ value, Lifts view (liftedNext value) (next value)) :
    Lifts view (lifted >>= liftedNext) (step >>= next) := by
  intro state
  have same := first state
  cases reached : (lifted state).outcome with
  | ok value =>
    have reachedToo : (step (view state)).outcome = .ok value := by rw [← same]; exact reached
    rw [bind_apply_of_ok reached, bind_apply_of_ok reachedToo, ← same]
    have rest := second value (lifted state).state
    simp only [Reply.mapState] at rest ⊢
    rw [← rest]
  | error failure =>
    have reachedToo : (step (view state)).outcome = .error failure := by rw [← same]; exact reached
    rw [bind_apply_of_error reached, bind_apply_of_error reachedToo, ← same]
    rfl

/-- A step on a part lifts when the view acts on that part and leaves the rest alone. -/
theorem Lifts.onPart {σ' τ' : Type} {viewWhole : τ' → σ'} {lifted : Operation τ ε α}
    {step : Operation σ ε α} (lifts : Lifts view lifted step) {partOf : τ' → τ}
    {restore : τ' → τ → τ'} {partOf' : σ' → σ} {restore' : σ' → σ → σ'}
    (parts : ∀ whole, view (partOf whole) = partOf' (viewWhole whole))
    (restores : ∀ whole part,
      viewWhole (restore whole part) = restore' (viewWhole whole) (view part)) :
    Lifts viewWhole (lifted.onPart partOf restore) (step.onPart partOf' restore') := by
  intro whole
  have same := lifts (partOf whole)
  simp only [Operation.onPart, ← parts, ← same, Reply.mapState, restores]

end Lifts

end Operation

namespace Session

open Operation

variable {κ γ η ρ ε α : Type}

/-- The bench without the trace. -/
def untracedBench (found : Bench (Traced κ γ η ρ) γ η × List ρ) : Bench κ γ η × List ρ :=
  (found.1.withOwn found.1.own.1, found.2)

/-- The session without the trace. -/
def untraced (session : Session (Traced κ γ η ρ) γ η) : Session κ γ η where
  config := session.config
  spsStore := session.spsStore
  ppsStore := session.ppsStore
  scheduler := session.scheduler
  selector := session.selector
  inconsistencies := session.inconsistencies
  bench := session.bench.withOwn session.bench.own.1
  status := session.status

/-- The desk without the trace. -/
def untracedDesk (desk : Desk (Traced κ γ η ρ) γ η ρ) : Desk κ γ η ρ :=
  (desk.1.untraced, desk.2)

section Parts

variable (session : Session (Traced κ γ η ρ) γ η)

@[simp] theorem config_untraced : session.untraced.config = session.config := rfl

@[simp] theorem spsStore_untraced : session.untraced.spsStore = session.spsStore := rfl

@[simp] theorem ppsAt_untraced (poc : Int) : session.untraced.ppsAt poc = session.ppsAt poc := rfl

@[simp] theorem ring_untraced : session.untraced.bench.ring = session.bench.ring := rfl

@[simp] theorem status_untraced : session.untraced.status = session.status := rfl

end Parts

/-- A step of a traced session does what the step of the session without the trace does. -/
abbrev Erases (traced : Step (Traced κ γ η ρ) γ η ρ ε α) (plain : Step κ γ η ρ ε α) : Prop :=
  Lifts untracedDesk traced plain

/-- A step may look at the session if it does the same without the trace. -/
theorem erases_current_bind {next : Session (Traced κ γ η ρ) γ η → Step (Traced κ γ η ρ) γ η ρ ε α}
    {plain : Session κ γ η → Step κ γ η ρ ε α}
    (rest : ∀ session, Erases (next session) (plain session.untraced)) :
    Erases (current >>= next) (current >>= plain) := by
  intro desk
  rw [current_bind_apply, current_bind_apply]
  exact rest desk.1 desk

/-- A step may change the session if the trace does not matter to the change. -/
theorem erases_change {update : Session (Traced κ γ η ρ) γ η → Session (Traced κ γ η ρ) γ η}
    {plain : Session κ γ η → Session κ γ η}
    (same : ∀ session, (update session).untraced = plain session.untraced) :
    Erases (ε := ε) (change update) (change plain) := by
  intro desk
  simp only [change, Operation.update_apply, Reply.mapState, untracedDesk, same]

/-- A step of the ring does not see the trace. -/
theorem erases_onRing (operation : Operation (PictureRing × List ρ) ε α) :
    Erases (onRing operation : Step (Traced κ γ η ρ) γ η ρ ε α) (onRing operation) := by
  have same : Lifts id operation operation := fun _ => rfl
  exact same.onPart (fun _ => rfl) fun _ _ => rfl

/-- Ending a session that fails does not see the trace. -/
theorem erases_guardFailure {traced : Step (Traced κ γ η ρ) γ η ρ (Stop EncodeError) α}
    {plain : Step κ γ η ρ (Stop EncodeError) α} (erases : Erases traced plain) :
    Erases (guardFailure traced) (guardFailure plain) := by
  intro desk
  have same := erases desk
  simp only [guardFailure, ← same]
  obtain ⟨outcome, state, records⟩ := traced desk
  cases outcome with
  | ok value => rfl
  | error stop =>
    cases stop with
    | fault fault => rfl
    | refused error =>
      simp only [Reply.mapState]
      split <;> rfl

/-! ### The steps of a session -/

/-- Checking the status does not see the trace. -/
theorem erases_checkActive :
    Erases (checkActive : Step (Traced κ γ η ρ) γ η ρ EncodeError Unit) checkActive := by
  refine erases_current_bind fun session => ?_
  rw [status_untraced]
  split
  · exact .pure ()
  · exact (Lifts.log _ _).bind fun _ => .fail _

/-- Looking for the sequence parameter set does not see the trace. -/
theorem erases_activeSps :
    Erases (activeSps : Step (Traced κ γ η ρ) γ η ρ EncodeError Sps) activeSps := by
  refine erases_current_bind fun session => ?_
  rw [spsStore_untraced]
  cases session.spsStore.get? spsId with
  | some sps => exact .pure sps
  | none => exact (Lifts.log _ _).bind fun _ => .fail _

/-- Choosing the picture parameter set does not see the trace. -/
theorem erases_resolvePps :
    Erases (resolvePps : Step (Traced κ γ η ρ) γ η ρ EncodeError Pps) resolvePps := by
  refine erases_current_bind fun session => ?_
  rw [ring_untraced]
  simp only [ppsAt_untraced]
  cases session.ppsAt (session.bench.ring.pocLast + 1) with
  | ok pps => exact .pure pps
  | error error => exact (Lifts.log _ _).bind fun _ => .fail _

/-- An admission does not see the trace. -/
theorem erases_receive (input : Frame) (field : Option Bool) :
    Erases (receive input field : Step (Traced κ γ η ρ) γ η ρ EncodeError Unit)
      (receive input field) := by
  refine erases_activeSps.bind fun sps => erases_resolvePps.bind fun pps => ?_
  split
  · exact .fail _
  refine (erases_onRing _).bind fun handle => erases_current_bind fun session => ?_
  rw [ring_untraced]
  cases session.bench.ring.modify? handle (withInput input field) with
  | none => exact .fail _
  | some ring => exact erases_change fun _ => rfl

/-- A traced compressor codes a batch as the compressor itself does. -/
theorem lifts_traced (compressor : Compressor κ γ η ρ) (batch : Batch) :
    Lifts untracedBench (compressor.traced.codeBatch batch) (compressor.codeBatch batch) :=
  fun _ => rfl

/-- Coding a batch if one is due, with or without a trace. -/
theorem erases_submitBatch (due : Bool)
    {traced : Nat → Operation (Bench (Traced κ γ η ρ) γ η × List ρ) ε Unit}
    {plain : Nat → Operation (Bench κ γ η × List ρ) ε Unit}
    (lifts : ∀ numPics, Lifts untracedBench (traced numPics) (plain numPics)) :
    Erases (onScheduler (Scheduler.submit due traced))
      (onScheduler (Scheduler.submit due plain)) := by
  let viewWhole (whole : Scheduler × (Bench (Traced κ γ η ρ) γ η × List ρ)) :=
    (whole.1, untracedBench whole.2)
  have inner : Lifts viewWhole (Scheduler.submit due traced) (Scheduler.submit due plain) := by
    unfold Scheduler.submit
    cases due with
    | false => exact .pure 0
    | true =>
      refine .read_bind fun state => (Lifts.log _ _).bind fun _ => ?_
      have coded : Lifts viewWhole
          ((traced state.1.pending).onPart Prod.snd fun whole part => (whole.1, part))
          ((plain state.1.pending).onPart Prod.snd fun whole part => (whole.1, part)) :=
        (lifts state.1.pending).onPart (fun _ => rfl) fun _ _ => rfl
      have settled : Lifts (ε := ε) viewWhole
          (Operation.update fun whole => (whole.1.settle, whole.2))
          (Operation.update fun whole => (whole.1.settle, whole.2)) := .update fun _ => rfl
      exact coded.bind fun _ => settled.bind fun _ => .pure _
  exact inner.onPart (fun _ => rfl) fun _ _ => rfl

/-- Looking for a batch does the same with and without the trace. -/
theorem erases_submit (compressor : Compressor κ γ η ρ) (flush : Bool) (mode : CodingMode)
    (fieldNum : Nat) :
    Erases (submit compressor.traced flush mode fieldNum)
      (submit compressor flush mode fieldNum) := by
  refine (erases_activeSps.mapError Stop.refused).bind fun sps =>
    erases_current_bind fun session => ?_
  have codes (numPics : Nat) := (lifts_traced compressor
    ⟨session.bench.ring.pocLast, numPics, mode, sps, session.selector⟩).mapError
      (Stop.map EncodeError.compressor)
  cases mode with
  | frame =>
    exact fun desk => erases_submitBatch (desk.1.scheduler.isFrameBatchDue flush) codes desk
  | field top =>
    exact fun desk => erases_submitBatch
      (desk.1.scheduler.isFieldBatchDue flush fieldNum session.bench.ring.pocLast) codes desk

/-- A feeding does the same with and without the trace. -/
theorem erases_receiveAndSubmit (compressor : Compressor κ γ η ρ) (input : Option Frame)
    (field : Option Bool) (flush : Bool) (mode : CodingMode) (fieldNum : Nat) :
    Erases (receiveAndSubmit compressor.traced input field flush mode fieldNum)
      (receiveAndSubmit compressor input field flush mode fieldNum) := by
  refine erases_guardFailure ?_
  have submits : Erases (submit compressor.traced flush mode fieldNum)
      (submit compressor flush mode fieldNum) := erases_submit compressor flush mode fieldNum
  cases input with
  | none => exact submits
  | some frame =>
    exact ((erases_receive frame field).mapError Stop.refused).bind fun _ => submits

/-- Taking a field does the same with and without the trace. -/
theorem erases_encodeField (compressor : Compressor κ γ η ρ) (input : Option Frame) (flush : Bool)
    (order : FieldOrder) (fieldNum : Nat) :
    Erases (encodeField compressor.traced input flush order fieldNum)
      (encodeField compressor input flush order fieldNum) := by
  unfold encodeField
  cases input with
  | none => exact erases_receiveAndSubmit compressor _ _ _ _ _
  | some frame =>
    dsimp only
    cases frame.takeField (order.isTopFieldFirst == (fieldNum == 0)) with
    | error fault => exact .fail _
    | ok field => exact erases_receiveAndSubmit compressor _ _ _ _ _

/-- A change of the rate settings does not see the trace. -/
theorem erases_tune (tunings : Tunings) :
    Erases (tune tunings : Step (Traced κ γ η ρ) γ η ρ EncodeError Unit) (tune tunings) := by
  refine erases_checkActive.bind fun _ => erases_current_bind fun session => ?_
  rw [config_untraced]
  split
  · exact .pure ()
  · exact (Lifts.log _ _).bind fun _ => erases_activeSps.bind fun present =>
      (Lifts.ofLogged _).bind fun sps => erases_change fun _ => rfl

/-- Every call of a traced session answers and records what the call of the session without the
trace does, and leaves the same behind. -/
theorem erases_perform (compressor : Compressor κ γ η ρ) (call : Call) :
    Erases (perform compressor.traced call) (perform compressor call) := by
  cases call with
  | encode input flush =>
    exact (erases_checkActive.mapError Stop.refused).bind fun _ =>
      erases_receiveAndSubmit compressor _ _ _ _ _
  | encodeFields input flush order =>
    refine (erases_checkActive.mapError Stop.refused).bind fun _ =>
      erases_current_bind fun session => ?_
    rw [config_untraced]
    split
    · exact (erases_encodeField compressor _ _ _ _).bind fun first =>
        (erases_encodeField compressor _ _ _ _).bind fun second => .pure _
    · exact .fail _
  | tune tunings => exact ((erases_tune tunings).mapError Stop.refused).bind fun _ => .pure 0

/-! ### Whole runs -/

/-- The turn without the trace. -/
def Turn.untraced (turn : Turn (Traced κ γ η ρ) γ η ρ) : Turn κ γ η ρ :=
  ⟨turn.call, untracedDesk turn.before, turn.reply.mapState untracedDesk⟩

/-- Calls are answered with the trace exactly when they are without it. -/
theorem answered_untraced {turns : List (Turn (Traced κ γ η ρ) γ η ρ)} :
    (∀ turn ∈ turns.map Turn.untraced, turn.reply.Answered) ↔
      ∀ turn ∈ turns, turn.reply.Answered := by
  rw [List.forall_mem_map]
  rfl

/-- Whenever a session can be created it can be created with a trace. -/
theorem exists_create_traced [CostEvaluator γ] {config : Config} {own : κ}
    {factory : LaneFactory γ η} {session : Session κ γ η}
    (created : (create config own factory).outcome = .ok session) :
    ∃ traced : Session (Traced κ γ η ρ) γ η,
      (create config (own, []) factory).outcome = .ok traced ∧ traced.untraced = session := by
  unfold create at created ⊢
  split at created
  · cases created
  · rename_i codable
    rw [if_neg codable]
    simp only [Logged.outcome_bind_eq_ok_iff] at created ⊢
    obtain ⟨plan, planned, sps, built, ppsStore, stored, lanes, made, _, logged, done⟩ := created
    cases done
    exact ⟨_, ⟨plan, planned, sps, built, ppsStore, stored, lanes, made, _, logged, rfl⟩, rfl⟩

/-- Taking the trace away from a run leaves a run. -/
theorem Runs.untraced {compressor : Compressor κ γ η ρ} {start desk : Desk (Traced κ γ η ρ) γ η ρ}
    {turns : List (Turn (Traced κ γ η ρ) γ η ρ)} (run : Runs compressor.traced start turns desk) :
    Runs compressor (untracedDesk start) (turns.map Turn.untraced) (untracedDesk desk) := by
  induction run with
  | start => exact .start
  | @call turns desk prior answered call inductionHypothesis =>
    have same := erases_perform compressor call desk
    have next := inductionHypothesis.call (answered_untraced.mpr answered) call
    rw [← same] at next
    rw [List.map_append]
    exact next

/-- Every run is what is left of a traced one. -/
theorem Runs.exists_traced {compressor : Compressor κ γ η ρ}
    {start : Desk (Traced κ γ η ρ) γ η ρ} {turns : List (Turn κ γ η ρ)} {desk : Desk κ γ η ρ}
    (run : Runs compressor (untracedDesk start) turns desk) :
    ∃ tracedTurns tracedDesk, Runs compressor.traced start tracedTurns tracedDesk ∧
      tracedTurns.map Turn.untraced = turns ∧ untracedDesk tracedDesk = desk := by
  induction run with
  | start => exact ⟨[], start, .start, rfl, rfl⟩
  | @call turns desk prior answered call inductionHypothesis =>
    obtain ⟨tracedTurns, tracedDesk, tracedRun, rfl, rfl⟩ := inductionHypothesis
    have same := erases_perform compressor call tracedDesk
    refine ⟨_, _, tracedRun.call (answered_untraced.mp answered) call, ?_, ?_⟩
    · rw [List.map_append, ← same]
      rfl
    · rw [← same]
      rfl

end Session

end EncoderControl
