import EncoderControl.Proofs.Session.Feeding

/-!
# Calls on a session

A call on an active session is a list of feedings, taken one after the other for as long as that
succeeds, or a change of the rate settings. Both fields of an interlaced frame are known before the
first one is taken. Any other call is refused before it does anything.
-/

namespace EncoderControl

namespace Session

variable {κ γ η ρ : Type}

/-- A call of a session that is in use. -/
inductive Call where
  | encode (input : Option Frame) (flush : Bool)
  | encodeFields (input : Option Frame) (flush : Bool) (order : FieldOrder)
  | tune (tunings : Tunings)

/-- Makes a call. A change of the rate settings codes no picture. -/
def perform (compressor : Compressor κ γ η ρ) : Call → Step κ γ η ρ (Stop EncodeError) Nat
  | .encode input flush => encode compressor input flush
  | .encodeFields input flush order => encodeFields compressor input flush order
  | .tune tunings => do
    (tune tunings).mapError .refused
    pure 0

/-- Whether the field with this number in its frame is the top field. -/
def isTopField (order : FieldOrder) (fieldNum : Nat) : Bool :=
  order.isTopFieldFirst == (fieldNum == 0)

/-- How a field is taken, or the absence of one. -/
def fieldFeeding (flush : Bool) (order : FieldOrder) (fieldNum : Nat) (input : Option Frame) :
    Feeding where
  input := input
  field := some (isTopField order fieldNum)
  flush := flush
  mode := .field order.isTopFieldFirst
  fieldNum := fieldNum

/-- The feedings that a call on an active session is made of. -/
def Call.feedings : Call → List Feeding
  | .encode input flush => [⟨input, none, flush, .frame, 0⟩]
  | .encodeFields none flush order =>
    [fieldFeeding flush order 0 none, fieldFeeding flush order 1 none]
  | .encodeFields (some frame) flush order =>
    match frame.takeField (isTopField order 0), frame.takeField (isTopField order 1) with
    | .ok first, .ok second =>
      [fieldFeeding flush order 0 (some first), fieldFeeding flush order 1 (some second)]
    | _, _ => []
  | .tune _ => []

/-- Whether a call flushes the session. -/
def Call.flushes : Call → Bool
  | .encode _ flush | .encodeFields _ flush _ => flush
  | .tune _ => false

/-- Whether a call takes fields. -/
def Call.takesFields : Call → Bool
  | .encodeFields .. => true
  | .encode .. | .tune _ => false

/-- Fields are only taken by a session that codes fields, and no frame without its fields. -/
def Call.Suits (call : Call) (config : Config) : Prop :=
  call.takesFields = true → config.fieldCoding = true ∧ call.feedings ≠ []

/-- The frames or fields that a call brings, the first one first. -/
def Call.offered (call : Call) : List Frame :=
  call.feedings.filterMap Feeding.input

/-- Takes several frames or fields, one after the other for as long as that succeeds, and answers
with the number of pictures coded. -/
def feedAll (compressor : Compressor κ γ η ρ) :
    List Feeding → Step κ γ η ρ (Stop EncodeError) Nat
  | [] => pure 0
  | feeding :: later => do
    let first ← feed compressor feeding
    let rest ← feedAll compressor later
    pure (first + rest)

/-- The desk with new rate settings in force. -/
def retuned (desk : Desk κ γ η ρ) (tunings : Tunings) (sps : Sps) : Desk κ γ η ρ :=
  ({ desk.1 with
      config := desk.1.config.tuned tunings
      spsStore := desk.1.spsStore.insert spsId sps },
    desk.2)

/-- A stop that a call is met with before it has done anything. A frame whose fields cannot be taken
is such a stop. -/
inductive Upfront : Stop EncodeError → Prop where
  | ended : Upfront (.refused .invalidInternalState)
  | invalidConfig (defect : ConfigDefect) : Upfront (.refused (.invalidConfig defect))
  | unresolved (id : Nat) : Upfront (.refused (.unresolvedParameterSet id))
  | scalingList : Upfront (.refused .unsupportedScalingList)
  | fieldless {frame : Frame} {top : Bool} {fault : Fault}
      (faults : frame.takeField top = .error fault) : Upfront (.fault fault)

/-- What a call can come to. -/
inductive Performed (compressor : Compressor κ γ η ρ) (desk : Desk κ γ η ρ) :
    Call → Except (Stop EncodeError) Nat → Desk κ γ η ρ → Prop where
  | upfront (call : Call) {stop : Stop EncodeError} (kind : Upfront stop) :
      Performed compressor desk call (.error stop) desk
  | fed (call : Call) (active : desk.1.status = .active) (suits : call.Suits desk.1.config) :
      Performed compressor desk call (feedAll compressor call.feedings desk).outcome
        (feedAll compressor call.feedings desk).state
  | tuned (tunings : Tunings) (present sps : Sps) (active : desk.1.status = .active)
      (inForce : desk.1.spsStore.get? spsId = some present)
      (built : ((desk.1.config.tuned tunings).buildSps spsId present.referenceSets).outcome =
        .ok sps) :
      Performed compressor desk (.tune tunings) (.ok 0) (retuned desk tunings sps)

/-- An active session goes on. -/
theorem checkActive_of_active {desk : Desk κ γ η ρ} (active : desk.1.status = .active) :
    checkActive desk = ⟨.ok (), desk, []⟩ := by
  simp [checkActive, active]

/-- A session that ended refuses to go on, and nothing happens. -/
theorem checkActive_of_ended {desk : Desk κ γ η ρ} (ended : desk.1.status ≠ .active) :
    (checkActive desk).outcome = .error .invalidInternalState ∧
      (checkActive desk).state = desk := by
  simp [checkActive, ended]

section FeedAll

variable (compressor : Compressor κ γ η ρ) {feeding : Feeding} {desk : Desk κ γ η ρ}

/-- After a feeding that succeeds the later ones are taken, and what they code is added. -/
theorem feedAll_cons_of_ok {numPics : Nat} (later : List Feeding)
    (succeeds : (feed compressor feeding desk).outcome = .ok numPics) :
    (feedAll compressor (feeding :: later) desk).outcome =
        (feedAll compressor later (feed compressor feeding desk).state).outcome.map (numPics + ·) ∧
      (feedAll compressor (feeding :: later) desk).state =
        (feedAll compressor later (feed compressor feeding desk).state).state := by
  rw [feedAll, Operation.bind_apply_of_ok succeeds]
  cases rest : (feedAll compressor later (feed compressor feeding desk).state).outcome with
  | ok value =>
    rw [Operation.bind_apply_of_ok rest]
    exact ⟨rfl, rfl⟩
  | error stop =>
    rw [Operation.bind_apply_of_error rest]
    exact ⟨rfl, rfl⟩

/-- A feeding that stops is the last one. -/
theorem feedAll_cons_of_error {stop : Stop EncodeError} (later : List Feeding)
    (stops : (feed compressor feeding desk).outcome = .error stop) :
    (feedAll compressor (feeding :: later) desk).outcome = .error stop ∧
      (feedAll compressor (feeding :: later) desk).state =
        (feed compressor feeding desk).state := by
  rw [feedAll, Operation.bind_apply_of_error stops]
  exact ⟨rfl, rfl⟩

/-- A single feeding comes to what it comes to by itself. -/
theorem feedAll_singleton (feeding : Feeding) (desk : Desk κ γ η ρ) :
    (feedAll compressor [feeding] desk).outcome = (feed compressor feeding desk).outcome ∧
      (feedAll compressor [feeding] desk).state = (feed compressor feeding desk).state := by
  cases fed : (feed compressor feeding desk).outcome with
  | ok numPics => exact feedAll_cons_of_ok compressor [] fed
  | error stop => exact feedAll_cons_of_error compressor [] fed

/-- When a feeding stops after others succeeded, all of them stop there. -/
theorem feedAll_append_of_error {earlier : List Feeding} {numPics : Nat} {stop : Stop EncodeError}
    (later : List Feeding) (succeeds : (feedAll compressor earlier desk).outcome = .ok numPics)
    (stops : (feed compressor feeding (feedAll compressor earlier desk).state).outcome =
      .error stop) :
    (feedAll compressor (earlier ++ feeding :: later) desk).outcome = .error stop ∧
      (feedAll compressor (earlier ++ feeding :: later) desk).state =
        (feed compressor feeding (feedAll compressor earlier desk).state).state := by
  induction earlier generalizing desk numPics with
  | nil => exact feedAll_cons_of_error compressor later stops
  | cons first rest inductionHypothesis =>
    cases fed : (feed compressor first desk).outcome with
    | error other =>
      rw [(feedAll_cons_of_error compressor rest fed).1] at succeeds
      cases succeeds
    | ok value =>
      obtain ⟨outcome, state⟩ := feedAll_cons_of_ok compressor rest fed
      rw [state] at stops ⊢
      rw [outcome] at succeeds
      cases reached : (feedAll compressor rest (feed compressor first desk).state).outcome with
      | error other => rw [reached] at succeeds; cases succeeds
      | ok more =>
        obtain ⟨answer, left⟩ := inductionHypothesis reached stops
        obtain ⟨wholeOutcome, wholeState⟩ :=
          feedAll_cons_of_ok compressor (rest ++ feeding :: later) fed
        rw [List.cons_append, wholeOutcome, wholeState, answer, left]
        exact ⟨rfl, rfl⟩

/-- Two feedings answer with the sum of what each of them coded. -/
theorem feedAll_pair (first second : Feeding) (desk : Desk κ γ η ρ) :
    let both : Step κ γ η ρ (Stop EncodeError) Nat := do
      let before ← feed compressor first
      let after ← feed compressor second
      pure (before + after)
    (feedAll compressor [first, second] desk).outcome = (both desk).outcome ∧
      (feedAll compressor [first, second] desk).state = (both desk).state := by
  intro both
  cases before : (feed compressor first desk).outcome with
  | error stop =>
    obtain ⟨outcome, state⟩ := feedAll_cons_of_error compressor [second] before
    have stopped : both desk = _ := Operation.bind_apply_of_error before
    rw [outcome, state, stopped]
    exact ⟨rfl, rfl⟩
  | ok numPics =>
    obtain ⟨outcome, state⟩ := feedAll_cons_of_ok compressor [second] before
    obtain ⟨last, left⟩ :=
      feedAll_singleton compressor second (feed compressor first desk).state
    have wentOn : both desk = _ := Operation.bind_apply_of_ok before
    rw [outcome, state, last, left, wentOn]
    cases after : (feed compressor second (feed compressor first desk).state).outcome with
    | error stop =>
      rw [Operation.bind_apply_of_error after]
      exact ⟨rfl, rfl⟩
    | ok more =>
      rw [Operation.bind_apply_of_ok after]
      exact ⟨rfl, rfl⟩

end FeedAll

/-! ### What a call can come to -/

/-- A session that ended refuses other rate settings. -/
theorem tune_of_ended (tunings : Tunings) {desk : Desk κ γ η ρ} (ended : desk.1.status ≠ .active) :
    (tune tunings desk).outcome = .error .invalidInternalState ∧
      (tune tunings desk).state = desk := by
  obtain ⟨refused, kept⟩ := checkActive_of_ended ended
  unfold tune
  rw [Operation.bind_apply_of_error refused]
  exact ⟨rfl, kept⟩

/-- A call on a session that ended is refused. -/
theorem perform_of_ended (compressor : Compressor κ γ η ρ) (call : Call) {desk : Desk κ γ η ρ}
    (ended : desk.1.status ≠ .active) :
    (perform compressor call desk).outcome = .error (.refused .invalidInternalState) ∧
      (perform compressor call desk).state = desk := by
  obtain ⟨refused, kept⟩ := checkActive_of_ended ended
  cases call with
  | encode input flush =>
    obtain ⟨outcome, state⟩ := bind_mapError_refused_of_error refused _
    exact ⟨outcome, state.trans kept⟩
  | encodeFields input flush order =>
    obtain ⟨outcome, state⟩ := bind_mapError_refused_of_error refused _
    exact ⟨outcome, state.trans kept⟩
  | tune tunings =>
    obtain ⟨stopped, same⟩ := tune_of_ended tunings ended
    obtain ⟨outcome, state⟩ := bind_mapError_refused_of_error stopped _
    exact ⟨outcome, state.trans same⟩

/-- A field is taken by one feeding. -/
theorem encodeField_eq_feed (compressor : Compressor κ γ η ρ) (flush : Bool) (order : FieldOrder)
    (fieldNum : Nat) {frame field : Frame}
    (taken : frame.takeField (isTopField order fieldNum) = .ok field) :
    encodeField compressor (some frame) flush order fieldNum =
      feed compressor (fieldFeeding flush order fieldNum (some field)) := by
  unfold isTopField at taken
  simp only [encodeField, taken]
  rfl

/-- A field that cannot be taken is a fault. -/
theorem encodeField_of_fault (compressor : Compressor κ γ η ρ) (flush : Bool) (order : FieldOrder)
    (fieldNum : Nat) {frame : Frame} {fault : Fault}
    (faults : frame.takeField (isTopField order fieldNum) = .error fault) :
    encodeField compressor (some frame) flush order fieldNum = Operation.fail (.fault fault) := by
  unfold isTopField at faults
  simp only [encodeField, faults]

/-- A frame is taken by one feeding. -/
theorem perform_encode_of_active (compressor : Compressor κ γ η ρ) (input : Option Frame)
    (flush : Bool) {desk : Desk κ γ η ρ} (active : desk.1.status = .active) :
    let call := Call.encode input flush
    (perform compressor call desk).outcome = (feedAll compressor call.feedings desk).outcome ∧
      (perform compressor call desk).state = (feedAll compressor call.feedings desk).state := by
  have checked : (checkActive desk).outcome = .ok () := by rw [checkActive_of_active active]
  have kept : (checkActive desk).state = desk := by rw [checkActive_of_active active]
  let feeding : Feeding := ⟨input, none, flush, .frame, 0⟩
  obtain ⟨outcome, state⟩ := bind_mapError_refused_of_ok checked fun _ => feed compressor feeding
  obtain ⟨answer, left⟩ := feedAll_singleton compressor feeding desk
  rw [kept] at outcome state
  exact ⟨outcome.trans answer.symm, state.trans left.symm⟩

/-- A frame comes to what its feeding does. -/
theorem performed_encode (compressor : Compressor κ γ η ρ) (input : Option Frame)
    (flush : Bool) {desk : Desk κ γ η ρ} (active : desk.1.status = .active) :
    Performed compressor desk (.encode input flush)
      (perform compressor (.encode input flush) desk).outcome
      (perform compressor (.encode input flush) desk).state := by
  obtain ⟨outcome, state⟩ := perform_encode_of_active compressor input flush active
  rw [outcome, state]
  exact .fed (.encode input flush) active (by simp [Call.Suits, Call.takesFields])

/-- Field input on an active session takes one field after the other, if the session codes
fields. -/
theorem perform_encodeFields_of_active (compressor : Compressor κ γ η ρ) (input : Option Frame)
    (flush : Bool) (order : FieldOrder) {desk : Desk κ γ η ρ} (active : desk.1.status = .active) :
    let both : Step κ γ η ρ (Stop EncodeError) Nat := do
      let first ← encodeField compressor input flush order 0
      let second ← encodeField compressor input flush order 1
      pure (first + second)
    let taken := if desk.1.config.fieldCoding then both
      else Operation.fail (.refused (.invalidConfig .fieldsOnFrameSession))
    (perform compressor (.encodeFields input flush order) desk).outcome = (taken desk).outcome ∧
      (perform compressor (.encodeFields input flush order) desk).state = (taken desk).state := by
  intro both taken
  have checked : (checkActive desk).outcome = .ok () := by rw [checkActive_of_active active]
  have kept : (checkActive desk).state = desk := by rw [checkActive_of_active active]
  obtain ⟨outcome, state⟩ := bind_mapError_refused_of_ok checked fun _ => do
    let session ← current
    if session.config.fieldCoding then both
    else Operation.fail (.refused (.invalidConfig .fieldsOnFrameSession))
  rw [kept, current_bind_apply] at outcome state
  exact ⟨outcome, state⟩

/-- Field input brings nothing to be taken only in a frame whose fields cannot be taken. -/
theorem Call.takeField_of_feedings {input : Option Frame} {flush : Bool} {order : FieldOrder}
    (taken : (Call.encodeFields input flush order).feedings ≠ []) (frame : Frame)
    (given : input = some frame) (top : Bool) : ∃ field, frame.takeField top = .ok field := by
  subst given
  cases first : frame.takeField (isTopField order 0) with
  | error fault => simp [Call.feedings, first] at taken
  | ok field => exact Frame.exists_takeField_of_ok first top

/-- A frame whose fields cannot be taken leaves nothing to feed. -/
theorem Call.feedings_of_fault {frame : Frame} {top : Bool} {fault : Fault}
    (faults : frame.takeField top = .error fault) (flush : Bool) (order : FieldOrder) :
    (Call.encodeFields (some frame) flush order).feedings = [] := by
  simp only [Call.feedings, Frame.takeField_of_error faults]

section TakingFields

variable (compressor : Compressor κ γ η ρ) {input : Option Frame} {flush : Bool}
  {order : FieldOrder} {desk : Desk κ γ η ρ} (active : desk.1.status = .active)
  (fields : desk.1.config.fieldCoding = true)

include active fields

/-- A session that codes fields takes one field after the other. -/
theorem perform_encodeFields_of_feedings
    (taken : (Call.encodeFields input flush order).feedings ≠ []) :
    let call := Call.encodeFields input flush order
    (perform compressor call desk).outcome = (feedAll compressor call.feedings desk).outcome ∧
      (perform compressor call desk).state = (feedAll compressor call.feedings desk).state := by
  intro call
  obtain ⟨outcome, state⟩ := perform_encodeFields_of_active compressor input flush order active
  rw [fields, if_pos rfl] at outcome state
  rw [outcome, state]
  cases input with
  | none =>
    obtain ⟨answer, left⟩ := feedAll_pair compressor (fieldFeeding flush order 0 none)
      (fieldFeeding flush order 1 none) desk
    exact ⟨answer.symm, left.symm⟩
  | some frame =>
    obtain ⟨first, top⟩ := Call.takeField_of_feedings taken frame rfl (isTopField order 0)
    obtain ⟨second, bottom⟩ := Call.takeField_of_feedings taken frame rfl (isTopField order 1)
    rw [encodeField_eq_feed compressor flush order 0 top,
      encodeField_eq_feed compressor flush order 1 bottom]
    obtain ⟨answer, left⟩ := feedAll_pair compressor (fieldFeeding flush order 0 (some first))
      (fieldFeeding flush order 1 (some second)) desk
    simp only [call, Call.feedings, top, bottom, answer, left, and_self]

/-- A session that codes fields meets a frame whose fields cannot be taken by a fault, and nothing
happens. -/
theorem perform_encodeFields_of_fault {frame : Frame} {top : Bool} {fault : Fault}
    (faults : frame.takeField top = .error fault) :
    let call := Call.encodeFields (some frame) flush order
    (perform compressor call desk).outcome = .error (.fault fault) ∧
      (perform compressor call desk).state = desk := by
  intro call
  obtain ⟨outcome, state⟩ :=
    perform_encodeFields_of_active compressor (some frame) flush order active
  rw [fields, if_pos rfl, encodeField_of_fault compressor flush order 0
    (Frame.takeField_of_error faults _), Operation.fail_bind_apply] at outcome state
  exact ⟨outcome, state⟩

end TakingFields

/-- A session that codes fields takes both fields of a frame, or meets a frame whose fields cannot
be taken. -/
theorem perform_encodeFields_of_fields (compressor : Compressor κ γ η ρ) (input : Option Frame)
    (flush : Bool) (order : FieldOrder) {desk : Desk κ γ η ρ} (active : desk.1.status = .active)
    (fields : desk.1.config.fieldCoding = true) :
    let call := Call.encodeFields input flush order
    let reply := perform compressor call desk
    (∃ (frame : Frame) (top : Bool) (fault : Fault), frame.takeField top = .error fault ∧
        reply.outcome = .error (.fault fault) ∧ reply.state = desk) ∨
      call.feedings ≠ [] ∧ reply.outcome = (feedAll compressor call.feedings desk).outcome ∧
        reply.state = (feedAll compressor call.feedings desk).state := by
  intro call reply
  have fed (taken : call.feedings ≠ []) :=
    perform_encodeFields_of_feedings compressor active fields taken
  cases input with
  | none => exact .inr ⟨List.cons_ne_nil _ _, fed (List.cons_ne_nil _ _)⟩
  | some frame =>
    cases first : frame.takeField (isTopField order 0) with
    | error fault =>
      exact .inl ⟨frame, _, fault, first,
        perform_encodeFields_of_fault compressor active fields first⟩
    | ok field =>
      obtain ⟨second, bottom⟩ := Frame.exists_takeField_of_ok first (isTopField order 1)
      have taken : call.feedings ≠ [] := by simp [call, Call.feedings, first, bottom]
      exact .inr ⟨taken, fed taken⟩

/-- A call that suits an active session, and brings or flushes something, is made of its
feedings. -/
theorem perform_of_feedings (compressor : Compressor κ γ η ρ) {call : Call} {desk : Desk κ γ η ρ}
    (active : desk.1.status = .active) (suits : call.Suits desk.1.config)
    (taken : call.feedings ≠ []) :
    (perform compressor call desk).outcome = (feedAll compressor call.feedings desk).outcome ∧
      (perform compressor call desk).state = (feedAll compressor call.feedings desk).state := by
  cases call with
  | encode input flush => exact perform_encode_of_active compressor input flush active
  | encodeFields input flush order =>
    exact perform_encodeFields_of_feedings compressor active (suits rfl).1 taken
  | tune tunings => exact absurd rfl taken

/-- Field input comes to what its feedings do, or stops upfront. -/
theorem performed_encodeFields (compressor : Compressor κ γ η ρ) (input : Option Frame)
    (flush : Bool) (order : FieldOrder) {desk : Desk κ γ η ρ} (active : desk.1.status = .active) :
    Performed compressor desk (.encodeFields input flush order)
      (perform compressor (.encodeFields input flush order) desk).outcome
      (perform compressor (.encodeFields input flush order) desk).state := by
  cases fields : desk.1.config.fieldCoding with
  | false =>
    obtain ⟨outcome, state⟩ := perform_encodeFields_of_active compressor input flush order active
    rw [fields, if_neg Bool.false_ne_true] at outcome state
    rw [outcome, state]
    exact .upfront _ (.invalidConfig .fieldsOnFrameSession)
  | true =>
    rcases perform_encodeFields_of_fields compressor input flush order active fields with
      ⟨frame, top, fault, faults, outcome, state⟩ | ⟨taken, outcome, state⟩
    · rw [outcome, state]
      exact .upfront _ (.fieldless faults)
    · rw [outcome, state]
      exact .fed _ active fun _ => ⟨fields, taken⟩

/-- Scaling lists can only be refused for coming from a file. -/
theorem scalingListEnabled_error {config : Config} {error : EncodeError}
    (fails : config.scalingListEnabled.outcome = .error error) :
    error = .unsupportedScalingList := by
  unfold Config.scalingListEnabled at fails
  split at fails
  · split at fails
    · cases fails
    · cases fails
    · cases fails; rfl
  · cases fails

/-- Usability information can only be refused for an empty buffer. -/
theorem buildVui_error {config : Config} {error : EncodeError}
    (fails : config.buildVui.outcome = .error error) : error = .invalidConfig .zeroCpbSize := by
  unfold Config.buildVui at fails
  split at fails
  · rw [Logged.outcome_bind_eq_error_iff] at fails
    rcases fails with timing | ⟨_, -, done⟩
    · unfold Config.deriveTiming at timing
      split at timing
      · cases timing; rfl
      · split at timing
        · cases timing
        · cases timing
    · cases done
  · cases fails

/-- The sequence parameter set fails to be built for one of two reasons. -/
theorem buildSps_error {config : Config} {id : Nat} {sets : List ReferenceSet}
    {error : EncodeError} (fails : (config.buildSps id sets).outcome = .error error) :
    error = .unsupportedScalingList ∨ error = .invalidConfig .zeroCpbSize := by
  simp only [Config.buildSps, Logged.outcome_bind_eq_error_iff] at fails
  rcases fails with lists | ⟨_, -, vui | ⟨_, -, logged | ⟨_, -, built⟩⟩⟩
  · exact .inl (scalingListEnabled_error lists)
  · exact .inr (buildVui_error vui)
  · cases logged
  · cases built

/-- What a change of the rate settings can come to on an active session. -/
inductive Tuned (tunings : Tunings) (desk : Desk κ γ η ρ) :
    Except EncodeError Unit → Desk κ γ η ρ → Prop where
  | refused {error : EncodeError} (kind : Upfront (.refused error)) :
      Tuned tunings desk (.error error) desk
  | unchanged (same : tunings = desk.1.config.tunings) : Tuned tunings desk (.ok ()) desk
  | changed (present sps : Sps) (inForce : desk.1.spsStore.get? spsId = some present)
      (built : ((desk.1.config.tuned tunings).buildSps spsId present.referenceSets).outcome =
        .ok sps) :
      Tuned tunings desk (.ok ()) (retuned desk tunings sps)

/-- A change of the rate settings of an active session ends in one of the ways that `Tuned` lists.
-/
theorem tune_cases (tunings : Tunings) {desk : Desk κ γ η ρ} (active : desk.1.status = .active) :
    Tuned tunings desk (tune tunings desk).outcome (tune tunings desk).state := by
  have checked : (checkActive desk).outcome = .ok () := by rw [checkActive_of_active active]
  unfold tune
  rw [Operation.bind_apply_of_ok checked, checkActive_of_active active, current_bind_apply]
  by_cases same : tunings = desk.1.config.tunings
  · rw [if_pos same]
    exact .unchanged same
  rw [if_neg same, Operation.log_bind_apply]
  cases inForce : desk.1.spsStore.get? spsId with
  | none =>
    obtain ⟨outcome, state⟩ := activeSps_of_none inForce
    rw [Operation.bind_apply_of_error outcome, state]
    exact .refused (.unresolved spsId)
  | some present =>
    have resolved := activeSps_of_some inForce
    rw [Operation.bind_apply_of_ok (by rw [resolved]), resolved]
    cases built : ((desk.1.config.tuned tunings).buildSps spsId present.referenceSets).outcome with
    | error error =>
      rw [Operation.bind_apply_of_error (by exact built)]
      refine .refused ?_
      rcases buildSps_error built with rfl | rfl
      · exact .scalingList
      · exact .invalidConfig .zeroCpbSize
    | ok sps =>
      rw [Operation.bind_apply_of_ok (by exact built)]
      exact .changed present sps inForce built

/-- A change of the rate settings answers a call as it ends by itself. -/
theorem perform_tune (compressor : Compressor κ γ η ρ) (tunings : Tunings)
    (desk : Desk κ γ η ρ) :
    (perform compressor (.tune tunings) desk).outcome =
        ((tune tunings desk).outcome.mapError .refused).map (fun _ => 0) ∧
      (perform compressor (.tune tunings) desk).state = (tune tunings desk).state := by
  cases ends : (tune tunings desk).outcome with
  | error error => exact bind_mapError_refused_of_error ends _
  | ok => exact bind_mapError_refused_of_ok ends _

/-- A call for other rate settings comes to the change that they make, or stops upfront. -/
theorem performed_tune (compressor : Compressor κ γ η ρ) (tunings : Tunings)
    {desk : Desk κ γ η ρ} (active : desk.1.status = .active) :
    Performed compressor desk (.tune tunings) (perform compressor (.tune tunings) desk).outcome
      (perform compressor (.tune tunings) desk).state := by
  have tuned := tune_cases tunings active
  obtain ⟨answer, left⟩ := perform_tune compressor tunings desk
  rw [answer, left]
  generalize (tune tunings desk).outcome = outcome at tuned
  generalize (tune tunings desk).state = state at tuned
  cases tuned with
  | refused kind => exact .upfront _ kind
  | unchanged same => exact .fed (.tune tunings) active (by simp [Call.Suits, Call.takesFields])
  | changed present sps inForce built => exact .tuned tunings present sps active inForce built

/-- Every call comes to one of the ends that `Performed` lists. -/
theorem perform_cases (compressor : Compressor κ γ η ρ) (call : Call) (desk : Desk κ γ η ρ) :
    Performed compressor desk call (perform compressor call desk).outcome
      (perform compressor call desk).state := by
  by_cases active : desk.1.status = .active
  · cases call with
    | encode input flush => exact performed_encode compressor input flush active
    | encodeFields input flush order =>
      exact performed_encodeFields compressor input flush order active
    | tune tunings => exact performed_tune compressor tunings active
  · obtain ⟨outcome, state⟩ := perform_of_ended compressor call active
    rw [outcome, state]
    exact .upfront call .ended

end Session

end EncoderControl
