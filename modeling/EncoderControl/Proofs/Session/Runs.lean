import EncoderControl.Proofs.Session.Calls

/-!
# Runs of a session

A run is a list of calls, made one after the other on the same session for as long as every one of
them is answered. A `Turn` keeps what one call was made on and what came of it. Whatever holds at
the start and is kept by single feedings and by changes of the rate settings holds after every run;
the induction is made here once.
-/

namespace EncoderControl

namespace Reply

variable {σ ε α : Type}

/-- What the step stopped with, if it did. -/
def stop? (reply : Reply σ ε α) : Option ε :=
  match reply.outcome with
  | .ok _ => none
  | .error stop => some stop

/-- The step gave an answer, be it a refusal. -/
def Answered (reply : Reply σ (Stop ε) α) : Prop :=
  ∀ fault, reply.outcome ≠ .error (.fault fault)

instance (reply : Reply σ (Stop ε) α) : Decidable reply.Answered :=
  match reached : reply.outcome with
  | .ok _ => isTrue fun fault same => by rw [reached] at same; cases same
  | .error (.refused _) => isTrue fun fault same => by rw [reached] at same; cases same
  | .error (.fault fault) => isFalse fun answered => answered fault reached

end Reply

namespace Session

variable {κ γ η ρ : Type}

/-- Number of frames and fields that a session has admitted. -/
def received (session : Session κ γ η) : Nat :=
  session.scheduler.pending + session.scheduler.numCoded

/-- Those of the frames and fields on offer that were admitted between two states. -/
def admittedOf (offered : List Frame) (before after : Session κ γ η) : List Frame :=
  offered.take (after.received - before.received)

/-- One call of a run. -/
structure Turn (κ γ η ρ : Type) where
  call : Call
  before : Desk κ γ η ρ
  reply : Reply (Desk κ γ η ρ) (Stop EncodeError) Nat

/-- The frames and fields that the call admitted. -/
def Turn.admitted (turn : Turn κ γ η ρ) : List Frame :=
  admittedOf turn.call.offered turn.before.1 turn.reply.state.1

/-- A run: calls made one after the other. There is none after a fault. -/
inductive Runs (compressor : Compressor κ γ η ρ) (start : Desk κ γ η ρ) :
    List (Turn κ γ η ρ) → Desk κ γ η ρ → Prop where
  | start : Runs compressor start [] start
  | call {turns : List (Turn κ γ η ρ)} {desk : Desk κ γ η ρ}
      (prior : Runs compressor start turns desk) (answered : ∀ turn ∈ turns, turn.reply.Answered)
      (call : Call) :
      Runs compressor start (turns ++ [⟨call, desk, perform compressor call desk⟩])
        (perform compressor call desk).state

/-- The turns of several calls, the first one first. -/
def turnsOf (compressor : Compressor κ γ η ρ) : Desk κ γ η ρ → List Call → List (Turn κ γ η ρ)
  | _, [] => []
  | desk, call :: later =>
    let reply := perform compressor call desk
    ⟨call, desk, reply⟩ :: turnsOf compressor reply.state later

/-- The desk after several calls, the first one first. -/
def deskAfter (compressor : Compressor κ γ η ρ) (desk : Desk κ γ η ρ) (calls : List Call) :
    Desk κ γ η ρ :=
  calls.foldl (fun reached call => (perform compressor call reached).state) desk

/-- A run goes on with calls that are answered. -/
theorem Runs.append {compressor : Compressor κ γ η ρ} {start desk : Desk κ γ η ρ}
    {turns : List (Turn κ γ η ρ)} (run : Runs compressor start turns desk) (calls : List Call)
    (before : ∀ turn ∈ turns, turn.reply.Answered)
    (after : ∀ turn ∈ turnsOf compressor desk calls, turn.reply.Answered) :
    Runs compressor start (turns ++ turnsOf compressor desk calls)
      (deskAfter compressor desk calls) := by
  induction calls generalizing turns desk with
  | nil => simpa [turnsOf, deskAfter] using run
  | cons call later inductionHypothesis =>
    have next := run.call before call
    rw [turnsOf, List.forall_mem_cons] at after
    have answered : ∀ turn ∈ turns ++ [⟨call, desk, perform compressor call desk⟩],
        turn.reply.Answered := by
      intro turn member
      rcases List.mem_append.mp member with earlier | last
      · exact before turn earlier
      · rw [List.mem_singleton.mp last]; exact after.1
    have rest := inductionHypothesis next answered after.2
    rw [List.append_assoc] at rest
    exact rest

/-- Calls that are all answered make a run. -/
theorem Runs.ofCalls (compressor : Compressor κ γ η ρ) (start : Desk κ γ η ρ) (calls : List Call)
    (answered : ∀ turn ∈ turnsOf compressor start calls, turn.reply.Answered) :
    Runs compressor start (turnsOf compressor start calls) (deskAfter compressor start calls) :=
  Runs.start.append calls (fun _ member => absurd member List.not_mem_nil) answered

/-- All frames and fields that a run admitted, by their output positions. -/
def admittedIn (turns : List (Turn κ γ η ρ)) : List Frame :=
  turns.flatMap Turn.admitted

/-- All refusals and faults of a run. -/
def stopsIn (turns : List (Turn κ γ η ρ)) : List (Stop EncodeError) :=
  turns.filterMap fun turn => turn.reply.stop?

/-- `Rest` is kept by all that happens between the calls of a run, and `Safe` follows from it, also
when a fault ends the run. Both may speak about the pictures admitted and the stops met so far. -/
structure Kept (compressor : Compressor κ γ η ρ)
    (Safe Rest : List Frame → List (Stop EncodeError) → Desk κ γ η ρ → Prop) : Prop where
  safe : ∀ {admitted stops desk}, Rest admitted stops desk → Safe admitted stops desk
  upfront : ∀ {admitted stops desk stop}, Upfront stop → Rest admitted stops desk →
    Rest admitted (stops ++ [stop]) desk
  tuned : ∀ {admitted stops desk} (tunings : Tunings) (sps : Sps), Rest admitted stops desk →
    Rest admitted stops (retuned desk tunings sps)
  fed : ∀ {admitted stops desk} (feeding : Feeding), desk.1.status = .active →
    Rest admitted stops desk →
    let reply := feed compressor feeding desk
    let taken := admitted ++ admittedOf feeding.input.toList desk.1 reply.state.1
    let met := stops ++ reply.stop?.toList
    Safe taken met reply.state ∧ (reply.Answered → Rest taken met reply.state)

/-! ### Counting admissions -/

/-- A batch that is coded admits nothing. -/
@[simp] theorem received_settling (desk : Desk κ γ η ρ) (left : Bench κ γ η × List ρ) :
    (settling desk left).1.received = desk.1.received := by
  simp [settling, received, Scheduler.settle, Nat.add_comm]

@[simp] theorem received_halting (desk : Desk κ γ η ρ) (left : Bench κ γ η × List ρ) :
    (halting desk left).1.received = desk.1.received := rfl

@[simp] theorem received_ending (desk : Desk κ γ η ρ) :
    (ending desk).1.received = desk.1.received := rfl

/-- An admission counts the picture that came, if one did. -/
theorem received_of_loaded {feeding : Feeding} {desk loaded : Desk κ γ η ρ}
    (loads : Loaded feeding desk loaded) :
    loaded.1.received = desk.1.received + feeding.input.toList.length := by
  cases loads with
  | idle nothing => rw [nothing]; rfl
  | admitted input sps pps placement given present chosen fits placed =>
    rw [given]
    exact Nat.add_right_comm desk.1.scheduler.pending 1 desk.1.scheduler.numCoded

/-- An admission leaves the status alone. -/
theorem status_of_loaded {feeding : Feeding} {desk loaded : Desk κ γ η ρ}
    (loads : Loaded feeding desk loaded) : loaded.1.status = desk.1.status := by
  cases loads <;> rfl

section Counting

variable (compressor : Compressor κ γ η ρ) (feeding : Feeding) (desk : Desk κ γ η ρ)

/-- A feeding admits at most what it brings. -/
theorem received_feed : desk.1.received ≤ (feed compressor feeding desk).state.1.received ∧
    (feed compressor feeding desk).state.1.received ≤
      desk.1.received + feeding.input.toList.length := by
  have fed := feed_cases compressor feeding desk
  generalize (feed compressor feeding desk).outcome = outcome at fed
  generalize (feed compressor feeding desk).state = state at fed
  cases fed with
  | refused | unresolved | exhausted => exact ⟨Nat.le_refl _, Nat.le_add_right _ _⟩
  | waited loaded loads =>
    have counted := received_of_loaded loads
    omega
  | coded loaded sps loads | failed loaded sps error loads | faulted loaded sps fault loads =>
    have counted := received_of_loaded loads
    simp only [received_settling, received_halting, received_ending]
    omega

/-- A feeding that succeeds admits all that it brings and leaves the session active. -/
theorem received_feed_of_ok {numPics : Nat}
    (succeeds : (feed compressor feeding desk).outcome = .ok numPics) :
    (feed compressor feeding desk).state.1.received =
        desk.1.received + feeding.input.toList.length ∧
      (feed compressor feeding desk).state.1.status = desk.1.status := by
  have fed := feed_cases compressor feeding desk
  rw [succeeds] at fed
  generalize (feed compressor feeding desk).state = state at fed
  cases fed with
  | waited loaded loads => exact ⟨received_of_loaded loads, status_of_loaded loads⟩
  | coded loaded sps loads =>
    have active : loaded.1.status = desk.1.status := status_of_loaded loads
    exact ⟨(received_settling ..).trans (received_of_loaded loads), active⟩

/-- Several feedings admit no less than nothing. -/
theorem received_le_feedAll (feedings : List Feeding) :
    desk.1.received ≤ (feedAll compressor feedings desk).state.1.received := by
  induction feedings generalizing desk with
  | nil => exact Nat.le_refl _
  | cons feeding later inductionHypothesis =>
    have first := (received_feed compressor feeding desk).1
    cases fed : (feed compressor feeding desk).outcome with
    | error stop => rwa [(feedAll_cons_of_error compressor later fed).2]
    | ok numPics =>
      rw [(feedAll_cons_of_ok compressor later fed).2]
      exact first.trans (inductionHypothesis _)

end Counting

/-- What several feedings bring is what the first one brings and then the others. -/
theorem filterMap_input_cons (feeding : Feeding) (later : List Feeding) :
    (feeding :: later).filterMap Feeding.input =
      feeding.input.toList ++ later.filterMap Feeding.input := by
  cases given : feeding.input <;> simp [given]

/-- A session that stays as it is has admitted nothing. -/
@[simp] theorem admittedOf_self (offered : List Frame) (session : Session κ γ η) :
    admittedOf offered session session = [] := by
  simp [admittedOf]

/-- When no more was admitted than came first, all of it is among what came first. -/
theorem admittedOf_append_of_le {first later : List Frame} {before after : Session κ γ η}
    (bounded : after.received ≤ before.received + first.length) :
    admittedOf (first ++ later) before after = admittedOf first before after :=
  List.take_append_of_le_length (Nat.sub_le_iff_le_add'.mpr bounded)

/-- When all that came first was admitted, the rest is among what came later. -/
theorem admittedOf_append_of_all {first later : List Frame}
    {before between after : Session κ γ η}
    (counted : between.received = before.received + first.length)
    (more : between.received ≤ after.received) :
    admittedOf (first ++ later) before after =
      admittedOf first before between ++ admittedOf later between after := by
  have whole : first.length ≤ between.received - before.received := by omega
  have rest : after.received - before.received - first.length =
      after.received - between.received := by omega
  have surplus : first.length ≤ after.received - before.received := by omega
  rw [admittedOf, List.take_append, rest, admittedOf, admittedOf, List.take_of_length_le whole,
    List.take_of_length_le surplus]

/-! ### What feedings leave alone -/

/-- All that is settled when a session is created is the same after as before. -/
structure KeepsSettings (before after : Session κ γ η) : Prop where
  config : after.config = before.config
  spsStore : after.spsStore = before.spsStore
  ppsStore : after.ppsStore = before.ppsStore
  selector : after.selector = before.selector
  inconsistencies : after.inconsistencies = before.inconsistencies

/-- A session that stays as it is keeps its settings. -/
theorem KeepsSettings.refl (session : Session κ γ η) : KeepsSettings session session :=
  ⟨rfl, rfl, rfl, rfl, rfl⟩

/-- Settings that are kept twice are kept. -/
theorem KeepsSettings.trans {first second third : Session κ γ η}
    (before : KeepsSettings first second) (after : KeepsSettings second third) :
    KeepsSettings first third where
  config := after.config.trans before.config
  spsStore := after.spsStore.trans before.spsStore
  ppsStore := after.ppsStore.trans before.ppsStore
  selector := after.selector.trans before.selector
  inconsistencies := after.inconsistencies.trans before.inconsistencies

/-- Admissions leave the settings alone. -/
theorem keepsSettings_of_loaded {feeding : Feeding} {desk loaded : Desk κ γ η ρ}
    (loads : Loaded feeding desk loaded) : KeepsSettings desk.1 loaded.1 := by
  cases loads <;> exact ⟨rfl, rfl, rfl, rfl, rfl⟩

/-- No feeding changes what is settled, whatever comes of it. -/
theorem keepsSettings_feed (compressor : Compressor κ γ η ρ) (feeding : Feeding)
    (desk : Desk κ γ η ρ) : KeepsSettings desk.1 (feed compressor feeding desk).state.1 := by
  have fed := feed_cases compressor feeding desk
  generalize (feed compressor feeding desk).outcome = outcome at fed
  generalize (feed compressor feeding desk).state = state at fed
  cases fed with
  | refused | unresolved | exhausted => exact ⟨rfl, rfl, rfl, rfl, rfl⟩
  | waited loaded loads | coded loaded sps loads | failed loaded sps error loads
  | faulted loaded sps fault loads =>
    obtain ⟨config, spsStore, ppsStore, selector, inconsistencies⟩ := keepsSettings_of_loaded loads
    exact ⟨config, spsStore, ppsStore, selector, inconsistencies⟩

/-- Nor do several ones. -/
theorem keepsSettings_feedAll (compressor : Compressor κ γ η ρ) (feedings : List Feeding)
    (desk : Desk κ γ η ρ) :
    KeepsSettings desk.1 (feedAll compressor feedings desk).state.1 := by
  induction feedings generalizing desk with
  | nil => exact .refl _
  | cons feeding later inductionHypothesis =>
    have first := keepsSettings_feed compressor feeding desk
    cases fed : (feed compressor feeding desk).outcome with
    | error stop => rwa [(feedAll_cons_of_error compressor later fed).2]
    | ok numPics =>
      rw [(feedAll_cons_of_ok compressor later fed).2]
      exact first.trans (inductionHypothesis _)

/-! ### What runs keep -/

section Keeping

variable {compressor : Compressor κ γ η ρ}
  {Safe Rest : List Frame → List (Stop EncodeError) → Desk κ γ η ρ → Prop}
  {admitted : List Frame} {stops : List (Stop EncodeError)} {desk : Desk κ γ η ρ}

/-- What a single feeding keeps is kept by several ones. -/
theorem Kept.several (kept : Kept compressor Safe Rest) (feedings : List Feeding)
    (active : desk.1.status = .active) (rests : Rest admitted stops desk) :
    let reply := feedAll compressor feedings desk
    let taken := admitted ++ admittedOf (feedings.filterMap Feeding.input) desk.1 reply.state.1
    let met := stops ++ reply.stop?.toList
    Safe taken met reply.state ∧ (reply.Answered → Rest taken met reply.state) := by
  induction feedings generalizing admitted stops desk with
  | nil =>
    simp only [feedAll, Operation.pure_apply, admittedOf_self, Reply.stop?, Option.toList_none,
      List.append_nil]
    exact ⟨kept.safe rests, fun _ => rests⟩
  | cons feeding later inductionHypothesis =>
    have first := kept.fed feeding active rests
    rw [filterMap_input_cons]
    cases answer : (feed compressor feeding desk).outcome with
    | error stop =>
      obtain ⟨outcome, state⟩ := feedAll_cons_of_error compressor later answer
      have bounded := (received_feed compressor feeding desk).2
      simp only [Reply.stop?, Reply.Answered, answer] at first
      simp only [Reply.stop?, Reply.Answered, outcome, state]
      rwa [admittedOf_append_of_le bounded]
    | ok numPics =>
      -- A feeding that succeeds admits all it brings, so admissions of both add up.
      obtain ⟨outcome, state⟩ := feedAll_cons_of_ok compressor later answer
      obtain ⟨counted, status⟩ := received_feed_of_ok compressor feeding desk answer
      have more := received_le_feedAll compressor (feed compressor feeding desk).state later
      simp only [Reply.stop?, Reply.Answered, answer, Option.toList_none, List.append_nil] at first
      have second := inductionHypothesis (status.trans active) (first.2 (by simp))
      simp only [Reply.stop?, Reply.Answered, List.append_assoc,
        ← admittedOf_append_of_all counted more] at second
      simp only [Reply.stop?, Reply.Answered, outcome, state]
      cases rest : (feedAll compressor later (feed compressor feeding desk).state).outcome with
      | ok value =>
        simp only [rest] at second
        refine ⟨second.1, fun _ => second.2 (by simp)⟩
      | error stop =>
        simp only [rest] at second
        exact second

/-- What single feedings and changes of the rate keep is kept by every call. -/
theorem Kept.called (kept : Kept compressor Safe Rest) (call : Call)
    (rests : Rest admitted stops desk) :
    let turn : Turn κ γ η ρ := ⟨call, desk, perform compressor call desk⟩
    let taken := admitted ++ turn.admitted
    let met := stops ++ turn.reply.stop?.toList
    Safe taken met turn.reply.state ∧ (turn.reply.Answered → Rest taken met turn.reply.state) := by
  simp only [Turn.admitted, Reply.stop?, Reply.Answered]
  have performed := perform_cases compressor call desk
  generalize (perform compressor call desk).outcome = outcome at performed
  generalize (perform compressor call desk).state = state at performed
  cases performed with
  | upfront call kind =>
    have still := kept.upfront kind rests
    simp only [admittedOf_self, List.append_nil, Option.toList_some]
    exact ⟨kept.safe still, fun _ => still⟩
  | fed call active suits => exact kept.several call.feedings active rests
  | tuned tunings present sps =>
    have still := kept.tuned tunings sps rests
    have same : admittedOf (Call.tune tunings).offered desk.1 (retuned desk tunings sps).1 = [] :=
      List.take_nil
    simp only [same, List.append_nil, Option.toList_none]
    exact ⟨kept.safe still, fun _ => still⟩

/-- What single feedings and changes of the rate keep is kept by every run. -/
theorem Runs.kept {start : Desk κ γ η ρ} {turns : List (Turn κ γ η ρ)}
    (run : Runs compressor start turns desk) (kept : Kept compressor Safe Rest)
    (initial : Rest [] [] start) :
    Safe (admittedIn turns) (stopsIn turns) desk ∧
      ((∀ turn ∈ turns, turn.reply.Answered) → Rest (admittedIn turns) (stopsIn turns) desk) := by
  induction run with
  | start => exact ⟨kept.safe initial, fun _ => initial⟩
  | @call turns desk prior answered call inductionHypothesis =>
    obtain ⟨safe, rest⟩ := kept.called call (inductionHypothesis.2 answered)
    let turn : Turn κ γ η ρ := ⟨call, desk, perform compressor call desk⟩
    have taken : admittedIn (turns ++ [turn]) = admittedIn turns ++ turn.admitted := by
      simp [admittedIn]
    have met : stopsIn (turns ++ [turn]) = stopsIn turns ++ turn.reply.stop?.toList := by
      cases stopped : turn.reply.stop? <;> simp [stopsIn, stopped]
    rw [taken, met]
    exact ⟨safe, fun all => rest (all turn (List.mem_append_right _ (List.mem_singleton.mpr rfl)))⟩

end Keeping

end Session

end EncoderControl
