/-!
# Journaled computations

Every decision of the encoder leaves text records behind for whoever operates it. `Logged` pairs
the outcome of a computation with the records it made on the way; `Operation` does the same for a
step on a state, and keeps the state it reached also when it fails. Records never influence an
outcome: each component of a sequence is a function of the outcomes and states of its parts, and
the equations below say which.
-/

namespace EncoderControl

/-- How urgent a record is, the most urgent one first. -/
inductive Severity where
  | error
  | warn
  | debug
  | trace
deriving DecidableEq

/-- Position in the order of urgency, 0 being the most urgent one. -/
def Severity.rank : Severity → Nat
  | error => 0
  | warn => 1
  | debug => 2
  | trace => 3

/-- One line of the journal. -/
structure Record where
  severity : Severity
  text : String
deriving DecidableEq

/-- The records that are at least as urgent as `severity`. -/
def Record.upTo (severity : Severity) (records : List Record) : List Record :=
  records.filter fun record => record.severity.rank ≤ severity.rank

/-- A computation that succeeds or fails, and the records it made up to there. -/
structure Logged (ε α : Type) where
  outcome : Except ε α
  records : List Record

namespace Logged

variable {ε α β : Type}

/-- Runs the second computation on the result of the first one, unless that failed. -/
def bind (first : Logged ε α) (next : α → Logged ε β) : Logged ε β :=
  match first.outcome with
  | .ok value =>
    let second := next value
    ⟨second.outcome, first.records ++ second.records⟩
  | .error failure => ⟨.error failure, first.records⟩

instance : Monad (Logged ε) where
  pure value := ⟨.ok value, []⟩
  bind := bind

/-- Fails without a record. -/
def fail (failure : ε) : Logged ε α :=
  ⟨.error failure, []⟩

/-- Leaves one record. -/
def log (severity : Severity) (text : String) : Logged ε Unit :=
  ⟨.ok (), [⟨severity, text⟩]⟩

/-- Takes over an outcome that was reached without records. -/
def ofExcept (outcome : Except ε α) : Logged ε α :=
  ⟨outcome, []⟩

/-- Restates the failure, keeping value and records. -/
def mapError {ε' : Type} (restate : ε → ε') (computation : Logged ε α) : Logged ε' α :=
  ⟨computation.outcome.mapError restate, computation.records⟩

@[simp] theorem outcome_pure (value : α) : (pure value : Logged ε α).outcome = .ok value := rfl

@[simp] theorem outcome_fail (failure : ε) : (fail failure : Logged ε α).outcome = .error failure :=
  rfl

@[simp] theorem outcome_log (severity : Severity) (text : String) :
    (log severity text : Logged ε Unit).outcome = .ok () := rfl

@[simp] theorem outcome_ofExcept (outcome : Except ε α) : (ofExcept outcome).outcome = outcome :=
  rfl

/-- Restating a failure is all that becomes of the outcome. -/
@[simp] theorem outcome_mapError {ε' : Type} (restate : ε → ε') (computation : Logged ε α) :
    (computation.mapError restate).outcome = computation.outcome.mapError restate := rfl

/-- Sequencing acts on outcomes alone, whatever is recorded. -/
@[simp] theorem outcome_bind (first : Logged ε α) (next : α → Logged ε β) :
    (first >>= next).outcome = first.outcome >>= fun value => (next value).outcome := by
  change (bind first next).outcome = _
  unfold bind
  cases first.outcome <;> rfl

/-- A sequence succeeds when both of its parts do, the second one on the result of the first. -/
theorem outcome_bind_eq_ok_iff {first : Logged ε α} {next : α → Logged ε β} {result : β} :
    (first >>= next).outcome = .ok result ↔
      ∃ value, first.outcome = .ok value ∧ (next value).outcome = .ok result := by
  rw [outcome_bind]
  constructor
  · intro succeeds
    cases reached : first.outcome with
    | error failure => rw [reached] at succeeds; cases succeeds
    | ok value => exact ⟨value, rfl, by rwa [reached] at succeeds⟩
  · rintro ⟨value, reached, succeeds⟩
    rwa [reached]

/-- A sequence fails when either part does, the second one on the result of the first. -/
theorem outcome_bind_eq_error_iff {first : Logged ε α} {next : α → Logged ε β} {failure : ε} :
    (first >>= next).outcome = .error failure ↔
      first.outcome = .error failure ∨
        ∃ value, first.outcome = .ok value ∧ (next value).outcome = .error failure := by
  rw [outcome_bind]
  constructor
  · intro fails
    cases reached : first.outcome with
    | error other => rw [reached] at fails; cases fails; exact .inl rfl
    | ok value => rw [reached] at fails; exact .inr ⟨value, rfl, fails⟩
  · rintro (fails | ⟨value, reached, fails⟩)
    · rw [fails]; rfl
    · rwa [reached]

/-- Leaving records one after the other succeeds. -/
@[simp] theorem outcome_forM_log (severity : Severity) (text : α → String) (items : List α) :
    (items.forM fun item => (log severity (text item) : Logged ε Unit)).outcome = .ok () := by
  induction items with
  | nil => rfl
  | cons item later inductionHypothesis =>
    exact outcome_bind_eq_ok_iff.mpr ⟨(), rfl, inductionHypothesis⟩

end Logged

/-- What a step on a state answers, the state it leaves behind and the records it made. -/
@[ext]
structure Reply (σ ε α : Type) where
  outcome : Except ε α
  state : σ
  records : List Record

namespace Reply

variable {σ τ ε ε' α β : Type}

/-- Views the state that is left behind differently. -/
def mapState (view : σ → τ) (reply : Reply σ ε α) : Reply τ ε α :=
  ⟨reply.outcome, view reply.state, reply.records⟩

/-- Restates the failure. -/
def mapError (restate : ε → ε') (reply : Reply σ ε α) : Reply σ ε' α :=
  ⟨reply.outcome.mapError restate, reply.state, reply.records⟩

end Reply

/-- A step on a state. The state it reached stays in force also when the step fails. -/
def Operation (σ ε α : Type) := σ → Reply σ ε α

namespace Operation

variable {σ τ ε ε' α β : Type}

/-- Runs the second step where the first one ended, unless that failed. -/
def bind (first : Operation σ ε α) (next : α → Operation σ ε β) : Operation σ ε β := fun state =>
  let reply := first state
  match reply.outcome with
  | .ok value =>
    let second := next value reply.state
    ⟨second.outcome, second.state, reply.records ++ second.records⟩
  | .error failure => ⟨.error failure, reply.state, reply.records⟩

instance : Monad (Operation σ ε) where
  pure value := fun state => ⟨.ok value, state, []⟩
  bind := bind

/-- Answers with the present state. -/
def read : Operation σ ε σ := fun state => ⟨.ok state, state, []⟩

/-- Replaces the state. -/
def write (state : σ) : Operation σ ε Unit := fun _ => ⟨.ok (), state, []⟩

/-- Changes the state. -/
def update (change : σ → σ) : Operation σ ε Unit := fun state => ⟨.ok (), change state, []⟩

/-- Fails and leaves the state alone. -/
def fail (failure : ε) : Operation σ ε α := fun state => ⟨.error failure, state, []⟩

/-- Leaves one record. -/
def log (severity : Severity) (text : String) : Operation σ ε Unit := fun state =>
  ⟨.ok (), state, [⟨severity, text⟩]⟩

/-- A computation that has no state, as a step that leaves the state alone. -/
def ofLogged (computation : Logged ε α) : Operation σ ε α := fun state =>
  ⟨computation.outcome, state, computation.records⟩

/-- Restates the failure. -/
def mapError (restate : ε → ε') (operation : Operation σ ε α) : Operation σ ε' α := fun state =>
  (operation state).mapError restate

/-- A step on a part of a larger state: `part` cuts it out and `restore` puts it back. -/
def onPart (part : τ → σ) (restore : τ → σ → τ) (operation : Operation σ ε α) :
    Operation τ ε α := fun whole =>
  (operation (part whole)).mapState (restore whole)

@[simp] theorem pure_apply (value : α) (state : σ) :
    (pure value : Operation σ ε α) state = ⟨.ok value, state, []⟩ := rfl

@[simp] theorem read_apply (state : σ) :
    (read : Operation σ ε σ) state = ⟨.ok state, state, []⟩ := rfl

@[simp] theorem write_apply (next state : σ) :
    (write next : Operation σ ε Unit) state = ⟨.ok (), next, []⟩ := rfl

@[simp] theorem update_apply (change : σ → σ) (state : σ) :
    (update change : Operation σ ε Unit) state = ⟨.ok (), change state, []⟩ := rfl

@[simp] theorem fail_apply (failure : ε) (state : σ) :
    (fail failure : Operation σ ε α) state = ⟨.error failure, state, []⟩ := rfl

@[simp] theorem log_apply (severity : Severity) (text : String) (state : σ) :
    (log severity text : Operation σ ε Unit) state = ⟨.ok (), state, [⟨severity, text⟩]⟩ := rfl

@[simp] theorem ofLogged_apply (computation : Logged ε α) (state : σ) :
    (ofLogged computation : Operation σ ε α) state =
      ⟨computation.outcome, state, computation.records⟩ := rfl

@[simp] theorem pure_bind_apply (value : α) (next : α → Operation σ ε β) (state : σ) :
    ((pure value : Operation σ ε α) >>= next) state = next value state := rfl

@[simp] theorem read_bind_apply (next : σ → Operation σ ε β) (state : σ) :
    ((read : Operation σ ε σ) >>= next) state = next state state := rfl

@[simp] theorem write_bind_apply (written : σ) (next : Unit → Operation σ ε β) (state : σ) :
    ((write written : Operation σ ε Unit) >>= next) state = next () written := rfl

@[simp] theorem update_bind_apply (change : σ → σ) (next : Unit → Operation σ ε β) (state : σ) :
    ((update change : Operation σ ε Unit) >>= next) state = next () (change state) := rfl

/-- What follows a failure is not run. -/
@[simp] theorem fail_bind_apply (failure : ε) (next : α → Operation σ ε β) (state : σ) :
    ((fail failure : Operation σ ε α) >>= next) state = ⟨.error failure, state, []⟩ := rfl

@[simp] theorem log_bind_apply (severity : Severity) (text : String)
    (next : Unit → Operation σ ε β) (state : σ) :
    ((log severity text : Operation σ ε Unit) >>= next) state =
      ⟨(next () state).outcome, (next () state).state,
        ⟨severity, text⟩ :: (next () state).records⟩ := rfl

/-- A sequence whose first step succeeds continues from the state that step left. -/
theorem bind_apply_of_ok {first : Operation σ ε α} {next : α → Operation σ ε β}
    {state : σ} {value : α} (succeeds : (first state).outcome = .ok value) :
    (first >>= next) state =
      ⟨(next value (first state).state).outcome, (next value (first state).state).state,
        (first state).records ++ (next value (first state).state).records⟩ := by
  change bind first next state = _
  simp only [bind, succeeds]

/-- A sequence whose first step fails ends there. -/
theorem bind_apply_of_error {first : Operation σ ε α} {next : α → Operation σ ε β}
    {state : σ} {failure : ε} (fails : (first state).outcome = .error failure) :
    (first >>= next) state = ⟨.error failure, (first state).state, (first state).records⟩ := by
  change bind first next state = _
  simp only [bind, fails]

/-- First steps that do the same in a state are followed by the same there. -/
theorem bind_apply_congr {first other : Operation σ ε α} {state : σ}
    (same : first state = other state) (next : α → Operation σ ε β) :
    (first >>= next) state = (other >>= next) state := by
  change bind first next state = bind other next state
  simp only [bind, same]

/-- A sequence succeeds when both of its parts do, the second one where the first one ended. -/
theorem bind_eq_ok_iff {first : Operation σ ε α} {next : α → Operation σ ε β} {state after : σ}
    {result : β} {records : List Record} :
    (first >>= next) state = ⟨.ok result, after, records⟩ ↔
      ∃ value between earlier later, first state = ⟨.ok value, between, earlier⟩ ∧
        next value between = ⟨.ok result, after, later⟩ ∧ records = earlier ++ later := by
  constructor
  · intro succeeds
    cases reached : (first state).outcome with
    | error failure =>
      rw [bind_apply_of_error reached] at succeeds
      cases succeeds
    | ok value =>
      rw [bind_apply_of_ok reached, Reply.mk.injEq] at succeeds
      obtain ⟨outcome, left, made⟩ := succeeds
      refine ⟨value, (first state).state, (first state).records, _, ?_, ?_, made.symm⟩
      · exact Reply.ext reached rfl rfl
      · exact Reply.ext outcome left rfl
  · rintro ⟨value, between, earlier, later, reached, succeeds, rfl⟩
    rw [bind_apply_of_ok (congrArg Reply.outcome reached), reached, succeeds]

/-- Restating failures says nothing about a step that succeeds. -/
theorem mapError_eq_ok_iff {operation : Operation σ ε α} {restate : ε → ε'} {state after : σ}
    {value : α} {records : List Record} :
    operation.mapError restate state = ⟨.ok value, after, records⟩ ↔
      operation state = ⟨.ok value, after, records⟩ := by
  unfold mapError
  obtain ⟨outcome, left, made⟩ := operation state
  cases outcome with
  | ok answer =>
    change (⟨.ok answer, left, made⟩ : Reply σ ε' α) = _ ↔ _
    simp only [Reply.mk.injEq, Except.ok.injEq]
  | error failure =>
    change (⟨.error (restate failure), left, made⟩ : Reply σ ε' α) = _ ↔ _
    simp only [Reply.mk.injEq, reduceCtorEq, false_and]

/-- Restating the failure keeps the value of a step that succeeds. -/
theorem outcome_mapError_of_ok {operation : Operation σ ε α} {state : σ} {value : α}
    (succeeds : (operation state).outcome = .ok value) (restate : ε → ε') :
    (operation.mapError restate state).outcome = .ok value :=
  congrArg (Except.mapError restate) succeeds

/-- A step that fails does so with the restated failure. -/
theorem outcome_mapError_of_error {operation : Operation σ ε α} {state : σ} {failure : ε}
    (fails : (operation state).outcome = .error failure) (restate : ε → ε') :
    (operation.mapError restate state).outcome = .error (restate failure) :=
  congrArg (Except.mapError restate) fails

end Operation

end EncoderControl
