import EncoderControl.Proofs.Session.Handovers

/-!
# Rejected input

An input that does not have the size and format of the sequence is refused before anything is
touched. Taking the two fields of a frame one after the other could spoil this: the second one might
be refused when the first one is already admitted. It never is, since both have the same size and
format and no feeding changes the sequence parameter set. So the calls whose input was refused can
be struck from a run, and nothing else about the run changes.
-/

namespace EncoderControl

namespace Frame

/-- A field has half the height of its frame and the same format, whichever field it is. -/
theorem field?_declares {frame field : Frame} {top : Bool} (found : frame.field? top = some field) :
    field.resolution = frame.fieldResolution ∧ field.format = frame.format := by
  unfold field? at found
  split at found
  · cases found
    exact ⟨rfl, rfl⟩
  · cases found

end Frame

namespace Session

variable {κ γ η ρ : Type}

/-- The input was refused, and the caller may go on with another one. -/
def isRejection {α : Type} : Except (Stop EncodeError) α → Bool
  | .error (.refused (.invalidInput _)) => true
  | _ => false

/-- `isRejection` tells the outcomes that blame the input. -/
theorem isRejection_iff {α : Type} {outcome : Except (Stop EncodeError) α} :
    isRejection outcome = true ↔ ∃ defect, outcome = .error (.refused (.invalidInput defect)) := by
  unfold isRejection
  constructor
  · intro rejection
    split at rejection
    · rename_i defect
      exact ⟨defect, rfl⟩
    · cases rejection
  · rintro ⟨defect, rfl⟩
    rfl

/-- Restating an answer rejects no input. -/
@[simp] theorem isRejection_map {α β : Type} (restate : α → β)
    (outcome : Except (Stop EncodeError) α) :
    isRejection (outcome.map restate) = isRejection outcome := by
  cases outcome with
  | ok value => rfl
  | error stop =>
    cases stop with
    | refused error => cases error <;> rfl
    | fault fault => rfl

/-- The size and format that the input of a feeding declares, if there is an input. -/
def Feeding.declared (feeding : Feeding) : Option (Resolution × ChromaFormat) :=
  feeding.input.map fun frame => (frame.resolution, frame.format)

/-- The session takes inputs that declare this size and format. -/
def Takes (session : Session κ γ η) (declared : Option (Resolution × ChromaFormat)) : Prop :=
  ∀ sps size format, session.spsStore.get? spsId = some sps → declared = some (size, format) →
    size = sps.resolution ∧ format = sps.chromaFormat

section Feed

variable (compressor : Compressor κ γ η ρ) {feeding : Feeding} {desk : Desk κ γ η ρ}

/-- What is admitted is taken. -/
theorem takes_of_loaded {loaded : Desk κ γ η ρ} (loads : Loaded feeding desk loaded) :
    desk.1.Takes feeding.declared := by
  intro sps size format present declared
  cases loads with
  | idle nothing => simp [Feeding.declared, nothing] at declared
  | admitted input other pps placement given inForce chosen fits placed =>
    obtain rfl : other = sps := Option.some.inj (inForce.symm.trans present)
    simp only [Feeding.declared, given, Option.map_some, Option.some.injEq, Prod.mk.injEq]
      at declared
    rwa [← declared.1, ← declared.2]

/-- No feeding changes the sequence parameter set. -/
theorem spsStore_feed (feeding : Feeding) (desk : Desk κ γ η ρ) :
    (feed compressor feeding desk).state.1.spsStore = desk.1.spsStore :=
  (keepsSettings_feed compressor feeding desk).spsStore

/-- A feeding that succeeds was taken. -/
theorem takes_of_feed_ok {numPics : Nat}
    (succeeds : (feed compressor feeding desk).outcome = .ok numPics) :
    desk.1.Takes feeding.declared := by
  have fed := feed_cases compressor feeding desk
  rw [succeeds] at fed
  generalize (feed compressor feeding desk).state = state at fed
  cases fed with
  | waited loaded loads | coded loaded sps loads => exact takes_of_loaded loads

/-- A feeding whose input is refused changes nothing. -/
theorem feed_of_rejection (rejection : isRejection (feed compressor feeding desk).outcome = true) :
    (feed compressor feeding desk).state = desk ∧ ¬ desk.1.Takes feeding.declared := by
  obtain ⟨defect, refused⟩ := isRejection_iff.mp rejection
  have fed := feed_cases compressor feeding desk
  rw [refused] at fed
  generalize (feed compressor feeding desk).state = state at fed
  cases fed with
  | refused input sps given present misfit =>
    refine ⟨rfl, fun takes => ?_⟩
    have declared : feeding.declared = some (input.resolution, input.format) := by
      simp [Feeding.declared, given]
    obtain ⟨size, format⟩ := takes sps _ _ present declared
    exact misfit.elim (fun other => other size) fun other => other format

/-- An input that is taken is not refused. -/
theorem isRejection_feed_of_takes (takes : desk.1.Takes feeding.declared) :
    isRejection (feed compressor feeding desk).outcome = false := by
  cases rejection : isRejection (feed compressor feeding desk).outcome with
  | false => rfl
  | true => exact absurd takes (feed_of_rejection compressor rejection).2

end Feed

section FeedAll

variable (compressor : Compressor κ γ η ρ) {declared : Option (Resolution × ChromaFormat)}
  {feedings : List Feeding} {desk : Desk κ γ η ρ}

/-- Inputs that are taken are not refused later on, whatever the batches in between come to. -/
theorem isRejection_feedAll_of_takes (alike : ∀ feeding ∈ feedings, feeding.declared = declared)
    (takes : desk.1.Takes declared) :
    isRejection (feedAll compressor feedings desk).outcome = false := by
  induction feedings generalizing desk with
  | nil => rfl
  | cons feeding later inductionHypothesis =>
    rw [List.forall_mem_cons] at alike
    have first := isRejection_feed_of_takes compressor (alike.1.symm ▸ takes)
    cases fed : (feed compressor feeding desk).outcome with
    | error stop =>
      rw [(feedAll_cons_of_error compressor later fed).1, ← fed]
      exact first
    | ok numPics =>
      rw [(feedAll_cons_of_ok compressor later fed).1, isRejection_map]
      apply inductionHypothesis alike.2
      unfold Takes
      rwa [spsStore_feed]

/-- Several feedings with inputs of one size and format change nothing when an input is refused: it
is the first one. -/
theorem feedAll_of_rejection (alike : ∀ feeding ∈ feedings, feeding.declared = declared)
    (rejection : isRejection (feedAll compressor feedings desk).outcome = true) :
    (feedAll compressor feedings desk).state = desk := by
  cases feedings with
  | nil => rfl
  | cons feeding later =>
    rw [List.forall_mem_cons] at alike
    cases fed : (feed compressor feeding desk).outcome with
    | error stop =>
      obtain ⟨outcome, state⟩ := feedAll_cons_of_error compressor later fed
      rw [outcome, ← fed] at rejection
      rw [state]
      exact (feed_of_rejection compressor rejection).1
    | ok numPics =>
      -- All inputs declare what the first one does, so none of them can have been refused.
      have takes := takes_of_feed_ok compressor fed
      rw [alike.1] at takes
      have never := isRejection_feedAll_of_takes compressor
        (List.forall_mem_cons.mpr alike) takes
      rw [rejection] at never
      cases never

end FeedAll

/-! ### Calls and runs -/

/-- The feeding of a field declares what its frame does, at half the height. -/
theorem declared_fieldFeeding {frame field : Frame} {top : Bool} (flush : Bool) (order : FieldOrder)
    (fieldNum : Nat) (taken : frame.takeField top = .ok field) :
    (fieldFeeding flush order fieldNum (some field)).declared =
      some (frame.fieldResolution, frame.format) := by
  obtain ⟨size, format⟩ := Frame.field?_declares (Frame.field?_of_takeField taken)
  simp [fieldFeeding, Feeding.declared, size, format]

/-- The feedings of a call have inputs of one size and format: two fields of the same frame. -/
theorem Call.exists_declared (call : Call) :
    ∃ declared, ∀ feeding ∈ call.feedings, feeding.declared = declared := by
  cases call with
  | encode input flush =>
    exact ⟨_, fun feeding member => by rw [List.mem_singleton.mp member]⟩
  | encodeFields input flush order =>
    cases input with
    | none =>
      refine ⟨none, ?_⟩
      simp [Call.feedings, fieldFeeding, Feeding.declared]
    | some frame =>
      refine ⟨some (frame.fieldResolution, frame.format), ?_⟩
      simp only [Call.feedings]
      split
      · rename_i first second top bottom
        simp [declared_fieldFeeding flush order _ top, declared_fieldFeeding flush order _ bottom]
      · simp
  | tune tunings => exact ⟨none, fun feeding member => absurd member List.not_mem_nil⟩

/-- A call whose input is refused changes nothing, and was made on an active session. -/
theorem perform_of_rejection (compressor : Compressor κ γ η ρ) {call : Call} {desk : Desk κ γ η ρ}
    (rejection : isRejection (perform compressor call desk).outcome = true) :
    (perform compressor call desk).state = desk ∧ desk.1.status = .active := by
  have performed := perform_cases compressor call desk
  generalize (perform compressor call desk).outcome = outcome at performed rejection
  generalize (perform compressor call desk).state = state at performed
  cases performed with
  | upfront call kind => cases kind <;> cases rejection
  | fed call active suits =>
    obtain ⟨declared, alike⟩ := call.exists_declared
    exact ⟨feedAll_of_rejection compressor alike rejection, active⟩
  | tuned => cases rejection

/-- A run without the calls whose input was refused is a run as well, and ends on the same desk. -/
theorem Runs.withoutRejections {compressor : Compressor κ γ η ρ} {start desk : Desk κ γ η ρ}
    {turns : List (Turn κ γ η ρ)} (run : Runs compressor start turns desk) :
    Runs compressor start (turns.filter fun turn => !isRejection turn.reply.outcome) desk := by
  induction run with
  | start => exact .start
  | @call turns desk prior answered call inductionHypothesis =>
    rw [List.filter_append]
    cases rejection : isRejection (perform compressor call desk).outcome with
    | true =>
      -- The run so far already ends on the desk that the refused call left.
      rw [(perform_of_rejection compressor rejection).1]
      simpa [rejection] using inductionHypothesis
    | false =>
      have next := inductionHypothesis.call
        (fun turn member => answered turn (List.mem_filter.mp member).1) call
      simpa [rejection] using next

/-- The second field of a frame is not refused for its input once the first one succeeded. -/
theorem isRejection_second_field (compressor : Compressor κ γ η ρ) (frame : Frame) (flush : Bool)
    (order : FieldOrder) {desk : Desk κ γ η ρ} {numPics : Nat}
    (succeeds : (encodeField compressor (some frame) flush order 0 desk).outcome = .ok numPics) :
    isRejection (encodeField compressor (some frame) flush order 1
      (encodeField compressor (some frame) flush order 0 desk).state).outcome = false := by
  cases top : frame.takeField (isTopField order 0) with
  | error fault =>
    rw [encodeField_of_fault compressor flush order 0 top] at succeeds
    cases succeeds
  | ok first =>
    obtain ⟨second, bottom⟩ := Frame.exists_takeField_of_ok top (isTopField order 1)
    rw [encodeField_eq_feed compressor flush order 0 top] at succeeds ⊢
    rw [encodeField_eq_feed compressor flush order 1 bottom]
    apply isRejection_feed_of_takes
    unfold Takes
    rw [spsStore_feed, declared_fieldFeeding flush order 1 bottom,
      ← declared_fieldFeeding flush order 0 top]
    exact takes_of_feed_ok compressor succeeds

/-- An input that is refused leaves no trace. The call it came with changes neither the session nor
the reconstructions, and the session stays active. The second field of a frame is never refused when
the first one was admitted. So in every run, whatever else is called in it, the calls whose input was
refused can be left out: all other calls are made on the same desk, and are answered and recorded in
the same way. -/
theorem rejected_input_leaves_no_trace (compressor : Compressor κ γ η ρ) (desk : Desk κ γ η ρ) :
    (∀ call defect,
      (perform compressor call desk).outcome = .error (.refused (.invalidInput defect)) →
        (perform compressor call desk).state = desk ∧
          (perform compressor call desk).state.1.status = .active) ∧
    (∀ frame flush order numPics,
      (encodeField compressor (some frame) flush order 0 desk).outcome = .ok numPics →
        ∀ defect, (encodeField compressor (some frame) flush order 1
          (encodeField compressor (some frame) flush order 0 desk).state).outcome ≠
            .error (.refused (.invalidInput defect))) ∧
    ∀ turns reached, Runs compressor desk turns reached →
      Runs compressor desk (turns.filter fun turn => !isRejection turn.reply.outcome) reached := by
  refine ⟨fun call defect refused => ?_, fun frame flush order numPics succeeds defect refused => ?_,
    fun turns reached run => run.withoutRejections⟩
  · have rejection := isRejection_iff.mpr ⟨defect, refused⟩
    obtain ⟨kept, active⟩ := perform_of_rejection compressor rejection
    rw [kept]
    exact ⟨rfl, active⟩
  · have rejection := isRejection_iff.mpr ⟨defect, refused⟩
    rw [isRejection_second_field compressor frame flush order succeeds] at rejection
    cases rejection

/-- A small session that codes fields, before any call. -/
def smallFieldDesk : Desk Unit Unit Unit Unit :=
  ((create { smallConfig with fieldCoding := true } () plainFactory).outcome.toOption.get rfl, [])

/-- A frame whose fields have the size of the sequence. -/
def fittingFrame : Frame := .blank ⟨2, 4⟩ .monochrome

/-- A frame that is too high for that. -/
def misfitFrame : Frame := .blank ⟨2, 6⟩ .monochrome

/-- Two fields, then two inputs that do not fit, then a flush. -/
def misfitCalls : List Call :=
  [.encodeFields (some fittingFrame) false .topFieldFirst,
    .encodeFields (some misfitFrame) true .bottomFieldFirst,
    .encode (some (.blank ⟨3, 2⟩ .monochrome)) true,
    .encode (some (.blank ⟨2, 2⟩ .monochrome)) true]

/-- A frame that is too high changes nothing, both fields of one that fits are taken, and of four
calls the second and the third one can be left out. -/
theorem rejected_input_leaves_no_trace_misfitCalls :
    (perform releasing (.encodeFields (some misfitFrame) true .bottomFieldFirst)
        smallFieldDesk).state = smallFieldDesk ∧
      (∀ defect, (encodeField releasing (some fittingFrame) false .topFieldFirst 1
        (encodeField releasing (some fittingFrame) false .topFieldFirst 0
          smallFieldDesk).state).outcome ≠ .error (.refused (.invalidInput defect))) ∧
      (turnsOf releasing smallFieldDesk misfitCalls).map
        (fun turn => isRejection turn.reply.outcome) = [false, true, true, false] ∧
      (deskAfter releasing smallFieldDesk misfitCalls).1.bench.ring.pocLast = 2 ∧
      Runs releasing smallFieldDesk
        ((turnsOf releasing smallFieldDesk misfitCalls).filter
          fun turn => !isRejection turn.reply.outcome)
        (deskAfter releasing smallFieldDesk misfitCalls) := by
  obtain ⟨unchanged, bothTaken, struck⟩ := rejected_input_leaves_no_trace releasing smallFieldDesk
  have refused : (perform releasing (.encodeFields (some misfitFrame) true .bottomFieldFirst)
      smallFieldDesk).outcome =
        .error (.refused (.invalidInput (.mismatch .monochrome ⟨2, 3⟩ .monochrome ⟨2, 2⟩))) := by
    decide +kernel
  have firstTaken : (encodeField releasing (some fittingFrame) false .topFieldFirst 0
      smallFieldDesk).outcome = .ok 0 := by
    decide +kernel
  have run := Runs.ofCalls releasing smallFieldDesk misfitCalls (by decide +kernel)
  exact ⟨(unchanged _ _ refused).1, bothTaken _ _ _ _ firstTaken, by decide +kernel,
    by decide +kernel, struck _ _ run⟩

end Session

end EncoderControl
