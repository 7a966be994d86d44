import EncoderControl.Proofs.Frame.Weaving
import EncoderControl.Proofs.Session.Admissions
import EncoderControl.Proofs.Session.Machine
import EncoderControl.Proofs.Session.Rejection

/-!
# What is checked of an input

The size and the format that an input declares are compared with those of the sequence. Its planes
are never looked at: a frame is admitted with whatever planes it has, and a frame with planes to
spare cannot be taken as fields, which is a fault. So is a frame whose fields are too large to be
allocated, since they are cut out before anything is compared. Fields have the right planes however
their frame was made, since they are copied into blank ones. So the pictures of a session have the
planes of the sequence as long as the frames that are taken whole have them.

Calls are made on the machine here, for an input must not lead to a fault there either. What else an
input can come to is a limit that its admission exceeds, whatever its planes are.
-/

namespace EncoderControl

namespace Frame

/-- The planes of a blank frame are those that size and format call for. -/
theorem wellFormed_iff_blank {frame : Frame} : frame.WellFormed ↔
    frame.planeLengths = (blank frame.resolution frame.format).planeLengths := by
  have called := wellFormed_blank frame.resolution frame.format
  unfold WellFormed at called ⊢
  rw [called]
  rfl

end Frame

/-- The source of the picture was admitted, and declares the size and format that the picture is
made for. It has the planes of a blank frame of the sequence if and only if its own declaration
calls for the planes that it has. -/
structure Picture.AsDeclared (admitted : List Frame) (picture : Picture) : Prop where
  source : picture.orig ∈ admitted
  declared : picture.orig.resolution = picture.sps.resolution ∧
    picture.orig.format = picture.sps.chromaFormat
  planes : picture.orig.planeLengths =
      (Frame.blank picture.sps.resolution picture.sps.chromaFormat).planeLengths ↔
    picture.orig.WellFormed

/-- The compressor runs into this fault, on some batch. -/
def Compressor.RunsInto {κ γ η ρ : Type} (compressor : Compressor κ γ η ρ) (fault : Fault) : Prop :=
  ∃ batch found, (compressor.codeBatch batch found).outcome = .error (.fault fault)

namespace Session

variable {κ γ η ρ : Type}

/-- Inputs that declare what the sequence calls for are admitted, and no others. -/
theorem stamps_asDeclared : Stamps (fun _ : Session κ γ η => True) Picture.AsDeclared where
  kept _ _ := trivial
  tuned _ _ _ := trivial
  later more fit := { fit with source := List.mem_append_left more fit.source }
  admits := by
    intro session sps pps picture admitted input _ present chosen fits isSps isPps isOrig
    refine ⟨?_, ?_, ?_⟩
    · rw [isOrig]
      exact List.mem_append_right _ (List.mem_singleton.mpr rfl)
    · rwa [isOrig, isSps]
    · rw [isOrig, isSps, ← fits.1, ← fits.2]
      exact Frame.wellFormed_iff_blank.symm

/-- A call brings well-formed fields, or a frame as it is. -/
theorem Call.wellFormed_of_offered {call : Call} {frame : Frame} (member : frame ∈ call.offered) :
    frame.WellFormed ∨ ∃ flush, call = .encode (some frame) flush := by
  obtain ⟨feeding, fed, given⟩ := List.mem_filterMap.mp member
  cases call with
  | encode input flush =>
    rw [List.mem_singleton.mp fed] at given
    exact .inr ⟨flush, congrArg (Call.encode · flush) given⟩
  | encodeFields input flush order =>
    left
    cases input with
    | none =>
      rcases List.mem_pair.mp fed with rfl | rfl <;> cases given
    | some whole =>
      simp only [Call.feedings] at fed
      split at fed
      · rename_i first second isFirst isSecond
        rcases List.mem_pair.mp fed with rfl | rfl <;> cases given
        · exact Frame.wellFormed_field? (Frame.field?_of_takeField isFirst)
        · exact Frame.wellFormed_field? (Frame.field?_of_takeField isSecond)
      · cases fed
  | tune tunings => cases fed

/-- The call brings a frame to be taken as fields that declares more samples than can be
allocated for a field. -/
def Call.BringsOversized (call : Call) : Prop :=
  ∃ frame flush order, call = .encodeFields (some frame) flush order ∧
    maxAllocation < bytesPerSample * frame.fieldResolution.area

/-- The call brings a frame to be taken as fields that has planes to spare. -/
def Call.BringsSurplus (call : Call) : Prop :=
  ∃ frame flush order, call = .encodeFields (some frame) flush order ∧
    frame.format.numPlanes < frame.planes.length

/-- A frame that declares too many samples for its fields has none that can be taken. -/
theorem takeField_of_oversized {frame : Frame}
    (oversized : maxAllocation < bytesPerSample * frame.fieldResolution.area) (top : Bool) :
    frame.takeField top = .error .capacityOverflow :=
  Frame.takeField_eq_error_iff.mpr
    (.inl ⟨mt (Frame.allocatable_iff _ _).mp (Nat.not_le_of_lt oversized), rfl⟩)

/-- Nor has a frame with planes to spare. -/
theorem takeField_of_surplus {frame : Frame}
    (inRange : ¬maxAllocation < bytesPerSample * frame.fieldResolution.area)
    (surplus : frame.format.numPlanes < frame.planes.length) (top : Bool) :
    frame.takeField top = .error .surplusPlane :=
  Frame.takeField_eq_error_iff.mpr
    (.inr ⟨(Frame.allocatable_iff _ _).mpr (Nat.le_of_not_lt inRange), surplus, rfl⟩)

/-- A call that takes pictures takes nothing only if the fields of its frame cannot be taken. -/
theorem Call.oversized_or_surplus_of_feedings {call : Call} {config : Config}
    (takes : call.TakesPictures config) (nothing : call.feedings = []) :
    call.BringsOversized ∨ call.BringsSurplus := by
  cases call with
  | encode input flush => cases nothing
  | tune tunings => exact takes.elim
  | encodeFields input flush order =>
    cases input with
    | none => cases nothing
    | some frame =>
      cases first : frame.takeField (isTopField order 0) with
      | error fault =>
        rcases Frame.takeField_eq_error_iff.mp first with ⟨oversized, -⟩ | ⟨-, surplus, -⟩
        · rw [Frame.allocatable_iff, Nat.not_le] at oversized
          exact .inl ⟨frame, flush, order, rfl, oversized⟩
        · exact .inr ⟨frame, flush, order, rfl, surplus⟩
      | ok field =>
        obtain ⟨second, bottom⟩ := Frame.exists_takeField_of_ok first (isTopField order 1)
        simp [Call.feedings, first, bottom] at nothing

/-- A call that takes pictures of a session suits it if it brings or flushes something. -/
theorem Call.suits_of_taken {call : Call} {config : Config} (takes : call.TakesPictures config)
    (taken : call.feedings ≠ []) : call.Suits config := by
  intro fields
  cases call with
  | encodeFields input flush order => exact ⟨takes, taken⟩
  | encode input flush => cases fields
  | tune tunings => cases fields

/-! ### Faults -/

section Faults

variable (compressor : Compressor κ γ η ρ)

/-- A feeding runs into no fault of its own. -/
theorem runsInto_of_feed {feeding : Feeding} {desk : Desk κ γ η ρ} {fault : Fault}
    (faults : (feed compressor feeding desk).outcome = .error (.fault fault)) :
    compressor.RunsInto fault := by
  have fed := feed_cases compressor feeding desk
  rw [faults] at fed
  generalize (feed compressor feeding desk).state = state at fed
  cases fed with
  | faulted loaded sps fault loads present due faults => exact ⟨_, _, faults⟩

/-- Neither do several feedings. -/
theorem runsInto_of_feedAll {feedings : List Feeding} {desk : Desk κ γ η ρ} {fault : Fault}
    (faults : (feedAll compressor feedings desk).outcome = .error (.fault fault)) :
    compressor.RunsInto fault := by
  induction feedings generalizing desk with
  | nil => cases faults
  | cons feeding later inductionHypothesis =>
    cases fed : (feed compressor feeding desk).outcome with
    | error stop =>
      rw [(feedAll_cons_of_error compressor later fed).1] at faults
      cases faults
      exact runsInto_of_feed compressor fed
    | ok numPics =>
      rw [(feedAll_cons_of_ok compressor later fed).1] at faults
      cases rest : (feedAll compressor later (feed compressor feeding desk).state).outcome with
      | ok more => rw [rest] at faults; cases faults
      | error stop =>
        rw [rest] at faults
        cases faults
        exact inductionHypothesis rest

end Faults

/-! ### Calls -/

/-- What the input of a call may come to on the machine. Before it is admitted it is met by a fault
only if its fields cannot be allocated or it has planes to spare when it is to be taken as fields,
and it is refused only for the size and the format that it declares. Nothing has happened then. The
admission itself ends with a fault if it exceeds a limit, and with what the session makes of it
otherwise. -/
structure ChecksDeclaration (compressor : Compressor κ γ η ρ) (call : Call) (desk : Desk κ γ η ρ) :
    Prop where
  oversized : call.BringsOversized →
    (performOnMachine compressor call desk).outcome = .error (.fault .capacityOverflow) ∧
      (performOnMachine compressor call desk).state = desk
  surplus : ¬call.BringsOversized → call.BringsSurplus →
    (performOnMachine compressor call desk).outcome = .error (.fault .surplusPlane) ∧
      (performOnMachine compressor call desk).state = desk
  exceeds : ∀ fault, call.Exceeds compressor desk fault →
    (performOnMachine compressor call desk).outcome = .error (.fault fault)
  within : (∀ fault, ¬call.Exceeds compressor desk fault) →
    (performOnMachine compressor call desk).outcome = (perform compressor call desk).outcome ∧
      (performOnMachine compressor call desk).state = (perform compressor call desk).state
  /-- There are no other faults than these and those of the compressor. -/
  faults : ¬call.BringsOversized → ¬call.BringsSurplus →
    (∀ fault, ¬call.Exceeds compressor desk fault) → ∀ fault,
      (performOnMachine compressor call desk).outcome = .error (.fault fault) →
        compressor.RunsInto fault
  refused : ∀ defect,
    (performOnMachine compressor call desk).outcome =
        .error (.refused (.invalidInput defect)) →
      (performOnMachine compressor call desk).state = desk ∧
        ∀ frame ∈ call.offered, ∀ sps, desk.1.spsStore.get? spsId = some sps →
          frame.resolution ≠ sps.resolution ∨ frame.format ≠ sps.chromaFormat

/-- Inputs are only refused for what they declare. -/
theorem misfit_of_rejection (compressor : Compressor κ γ η ρ) {call : Call} {desk : Desk κ γ η ρ}
    (rejection : isRejection (feedAll compressor call.feedings desk).outcome = true) {frame : Frame}
    (member : frame ∈ call.offered) {sps : Sps} (present : desk.1.spsStore.get? spsId = some sps) :
    frame.resolution ≠ sps.resolution ∨ frame.format ≠ sps.chromaFormat := by
  obtain ⟨declared, alike⟩ := call.exists_declared
  obtain ⟨feeding, fed, given⟩ := List.mem_filterMap.mp member
  by_contra fits
  rw [not_or, not_not, not_not] at fits
  have same : declared = some (frame.resolution, frame.format) := by
    rw [← alike feeding fed, Feeding.declared, given]
    rfl
  have takes : desk.1.Takes declared := by
    intro other size format inForce isDeclared
    obtain rfl : sps = other := Option.some.inj (present.symm.trans inForce)
    rw [same] at isDeclared
    cases isDeclared
    exact fits
  rw [isRejection_feedAll_of_takes compressor alike takes] at rejection
  cases rejection

/-- A frame whose fields cannot be taken is a fault on the machine, and nothing happens. -/
theorem performOnMachine_of_fieldless (compressor : Compressor κ γ η ρ) {desk : Desk κ γ η ρ}
    (active : desk.1.status = .active) (fields : desk.1.config.fieldCoding = true) {frame : Frame}
    {fault : Fault} (faults : frame.takeField true = .error fault) (flush : Bool)
    (order : FieldOrder) :
    let call := Call.encodeFields (some frame) flush order
    (performOnMachine compressor call desk).outcome = .error (.fault fault) ∧
      (performOnMachine compressor call desk).state = desk := by
  intro call
  have nothing : call.feedings = [] := Call.feedings_of_fault faults flush order
  have within (fault : Fault) : ¬call.Exceeds compressor desk fault := fun exceeds =>
    (Call.feeds_iff.mp exceeds.feeds).2 nothing
  obtain ⟨outcome, state⟩ := performOnMachine_of_within compressor within
  obtain ⟨stops, kept⟩ := perform_encodeFields_of_fault compressor active fields faults
  exact ⟨outcome.trans stops, state.trans kept⟩

/-- Calls that take pictures of an active session check what their input declares. -/
theorem checksDeclaration (compressor : Compressor κ γ η ρ) {call : Call} {desk : Desk κ γ η ρ}
    (active : desk.1.status = .active) (takes : call.TakesPictures desk.1.config) :
    ChecksDeclaration compressor call desk := by
  have fed (taken : call.feedings ≠ []) : (perform compressor call desk).outcome =
      (feedAll compressor call.feedings desk).outcome :=
    (perform_of_feedings compressor active (Call.suits_of_taken takes taken) taken).1
  have answered {error : EncodeError}
      (refused : (performOnMachine compressor call desk).outcome = .error (.refused error)) :
      (performOnMachine compressor call desk).outcome = (perform compressor call desk).outcome ∧
        (performOnMachine compressor call desk).state = (perform compressor call desk).state :=
    performOnMachine_of_answered compressor fun fault faults => by
      rw [refused] at faults
      cases faults
  refine
    { oversized := ?_
      surplus := ?_
      exceeds := fun _ => performOnMachine_of_exceeds compressor
      within := performOnMachine_of_within compressor
      faults := fun inRange plain within fault faults => ?_
      refused := fun defect refused => ⟨?_, fun frame member sps present => ?_⟩ }
  · rintro ⟨frame, flush, order, rfl, oversized⟩
    exact performOnMachine_of_fieldless compressor active takes
      (takeField_of_oversized oversized true) flush order
  · rintro inRange ⟨frame, flush, order, rfl, surplus⟩
    exact performOnMachine_of_fieldless compressor active takes
      (takeField_of_surplus (fun oversized => inRange ⟨frame, flush, order, rfl, oversized⟩)
        surplus true) flush order
  · have taken : call.feedings ≠ [] := fun nothing =>
      (Call.oversized_or_surplus_of_feedings takes nothing).elim inRange plain
    rw [(performOnMachine_of_within compressor within).1, fed taken] at faults
    exact runsInto_of_feedAll compressor faults
  · obtain ⟨outcome, state⟩ := answered refused
    rw [state]
    exact (perform_of_rejection compressor
      (isRejection_iff.mpr ⟨defect, outcome.symm.trans refused⟩)).1
  · have taken : call.feedings ≠ [] := fun nothing => by simp [Call.offered, nothing] at member
    have rejection := (answered refused).1.symm.trans refused
    rw [fed taken] at rejection
    exact misfit_of_rejection compressor (isRejection_iff.mpr ⟨defect, rejection⟩) member present

/-- Inputs are checked by what they declare. A call that takes pictures of an active session runs
into a fault of its own exactly when it brings a frame to be taken as fields whose fields cannot be
allocated, or that has planes to spare, or when an admission that it comes to exceeds a limit of the
machine. In the first two cases it does nothing, nor does it when it refuses an input, which it only
does for the size or the format that is declared. Along every run of a new session, with any
compressor that leaves the ring consistent, all pictures that are handed over or wait have a source
that was admitted and declares the size and the format of their sequence. They have the planes of a
blank frame of the sequence if and only if their source is well-formed, and every frame that is
admitted is, except those that are taken whole as they came. -/
theorem inputs_checked_by_declaration [CostEvaluator γ] (compressor : Compressor κ γ η ρ)
    (config : Config) (own : κ) (factory : LaneFactory γ η)
    {session : Session (Traced κ γ η ρ) γ η}
    (created : (create config (own, []) factory).outcome = .ok session) (output : List ρ)
    {turns : List (Turn (Traced κ γ η ρ) γ η ρ)} {desk : Desk (Traced κ γ η ρ) γ η ρ}
    (run : Runs compressor.traced (session, output) turns desk)
    (orderly : ∀ handover ∈ desk.1.handovers, handover.Orderly) :
    (∀ call (found : Desk κ γ η ρ), found.1.status = .active →
      call.TakesPictures found.1.config → ChecksDeclaration compressor call found) ∧
    (∀ (found : Session κ γ η) input,
      found.admissionFault? input = none ↔ found.AdmitsWithinLimits input) ∧
    (∀ handover ∈ desk.1.handovers, handover.Brings (Picture.AsDeclared (admittedIn turns))) ∧
    ((∀ turn ∈ turns, turn.reply.Answered) → desk.1.status = .active →
      desk.1.bench.ring.EndsWith desk.1.scheduler.pending
        (Picture.AsDeclared (admittedIn turns))) ∧
    ∀ turn ∈ turns, ∀ frame ∈ turn.admitted,
      frame.WellFormed ∨ ∃ flush, turn.call = .encode (some frame) flush := by
  obtain ⟨brought, rests⟩ := stamps_asDeclared.run created trivial run orderly
  refine ⟨fun call found active takes => checksDeclaration compressor active takes,
    fun found input => admissionFault?_eq_none_iff, brought,
    fun answered active => (rests answered active).2, fun turn _ frame member => ?_⟩
  exact Call.wellFormed_of_offered (List.mem_of_mem_take member)

/-- A frame whose fields have the size of the sequence, with a plane to spare. -/
def surplusFrame : Frame :=
  { fittingFrame with planes := fittingFrame.planes ++ [#[5]] }

/-- A frame that declares the largest size there is, without any planes. -/
def oversizedFrame : Frame :=
  ⟨⟨UInt32.size - 1, UInt32.size - 1⟩, .monochrome, []⟩

/-- A frame of the size of the sequence without any planes. -/
def planelessFrame : Frame :=
  ⟨⟨2, 2⟩, .monochrome, []⟩

/-- The planes of the pictures of all batches, by their lengths. -/
def codedPlanes (session : Session (Traced κ γ η ρ) γ η) : List (List (List Nat)) :=
  session.handovers.map fun handover =>
    (handover.found.1.ring.latest handover.batch.numPics).map fun picture =>
      picture.orig.planeLengths

/-- Three well-formed frames are coded with the planes that they came with. Frames with a plane to
spare or too large to be allocated are met by a fault, while a frame of the right size is admitted
within the limits. -/
theorem inputs_checked_by_declaration_smallCalls :
    let desk := deskAfter releasing.traced smallDesk smallCalls
    let fields (frame : Frame) := Call.encodeFields (some frame) false .topFieldFirst
    (∀ handover ∈ desk.1.handovers, handover.Orderly ∧ handover.Brings
      (Picture.AsDeclared (admittedIn (turnsOf releasing.traced smallDesk smallCalls)))) ∧
      desk.1.codedPlanes = [[[4], [4]], [[4]]] ∧
      (performOnMachine releasing (fields surplusFrame) smallFieldDesk).state = smallFieldDesk ∧
      (performOnMachine releasing (fields oversizedFrame) smallFieldDesk).state =
        smallFieldDesk ∧
      smallFieldDesk.1.AdmitsWithinLimits planelessFrame := by
  intro desk fields
  have untraced : smallDesk.1.handovers = [] := by decide +kernel
  have orderly : ∀ handover ∈ desk.1.handovers, handover.Orderly := fun handover member =>
    orderly_of_releasing (left_of_mem_handovers runs_smallCalls untraced member)
  obtain ⟨checks, limits, brought, -, -⟩ := inputs_checked_by_declaration releasing smallConfig ()
    plainFactory (create_smallConfig _) [] runs_smallCalls orderly
  have active : smallFieldDesk.1.status = .active := by decide +kernel
  have takes (frame : Frame) : (fields frame).TakesPictures smallFieldDesk.1.config := by
    change smallFieldDesk.1.config.fieldCoding = true
    rfl
  have inRange : ¬(fields surplusFrame).BringsOversized := by
    rintro ⟨frame, flush, order, same, oversized⟩
    cases same
    exact absurd oversized (by decide)
  have surplus : (fields surplusFrame).BringsSurplus := ⟨_, _, _, rfl, by decide⟩
  have oversized : (fields oversizedFrame).BringsOversized := ⟨_, _, _, rfl, by decide⟩
  exact ⟨fun handover member => ⟨orderly handover member, brought handover member⟩,
    by decide +kernel, ((checks _ _ active (takes _)).surplus inRange surplus).2,
    ((checks _ _ active (takes _)).oversized oversized).2, (limits _ _).mp (by decide +kernel)⟩

/-- A plane to spare makes a call on an active session run into a fault, and so does a declared size
that cannot be allocated. A frame without planes is admitted and handed over as it is, though the
sequence calls for one plane of four samples. -/
theorem planes_are_not_checked :
    let fields (frame : Frame) := Call.encodeFields (some frame) false .topFieldFirst
    let handed := performOnMachine releasing.traced (.encode (some planelessFrame) true) smallDesk
    smallFieldDesk.1.status = .active ∧ smallFieldDesk.1.config.fieldCoding = true ∧
      (performOnMachine releasing (fields surplusFrame) smallFieldDesk).outcome =
        .error (.fault .surplusPlane) ∧
      (performOnMachine releasing (fields oversizedFrame) smallFieldDesk).outcome =
        .error (.fault .capacityOverflow) ∧
      smallDesk.1.status = .active ∧
      handed.outcome = .ok 1 ∧ handed.state.1.codedPlanes = [[[]]] ∧
      smallDesk.1.sps?.map (fun sps =>
        (Frame.blank sps.resolution sps.chromaFormat).planeLengths) = some [4] := by
  decide +kernel

end Session

end EncoderControl
