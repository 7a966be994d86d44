import EncoderControl.Proofs.Ring.Admission
import EncoderControl.Proofs.Scheduler.Batching
import EncoderControl.Session

/-!
# Feeding a session

Every call that takes pictures feeds the session one frame or field at a time: it admits the
picture, if there is one, and hands over a batch if one is due. This module says once what a single
feeding can do. Everything that is proved about runs is proved from these cases, without opening the
session functions again.
-/

namespace EncoderControl

namespace Session

variable {κ γ η ρ : Type}

/-- One frame or field and the way it is taken. -/
structure Feeding where
  input : Option Frame
  field : Option Bool
  flush : Bool
  mode : CodingMode
  fieldNum : Nat

/-- Takes one frame or field. -/
def feed (compressor : Compressor κ γ η ρ) (feeding : Feeding) :
    Step κ γ η ρ (Stop EncodeError) Nat :=
  receiveAndSubmit compressor feeding.input feeding.field feeding.flush feeding.mode
    feeding.fieldNum

/-- Whether a batch is due on the desk after this feeding. -/
def Feeding.isDue (feeding : Feeding) (session : Session κ γ η) : Bool :=
  match feeding.mode with
  | .frame => session.scheduler.isFrameBatchDue feeding.flush
  | .field _ =>
    session.scheduler.isFieldBatchDue feeding.flush feeding.fieldNum session.bench.ring.pocLast

/-- The batch of all waiting pictures. -/
def batch (session : Session κ γ η) (sps : Sps) (mode : CodingMode) : Batch where
  pocLast := session.bench.ring.pocLast
  numPics := session.scheduler.pending
  mode := mode
  sps := sps
  selector := session.selector

/-- The desk with a new picture at its place in the ring. -/
def admitting (desk : Desk κ γ η ρ) (sps : Sps) (pps : Pps) (placement : Placement) (input : Frame)
    (field : Option Bool) : Desk κ γ η ρ :=
  let ring := desk.1.bench.ring
  let filled := ring.accept placement (ring.storageAt sps pps placement) (withInput input field)
  ({ desk.1 with
      bench := { desk.1.bench with ring := filled }
      scheduler := desk.1.scheduler.receive },
    desk.2.rotateLeft 1)

/-- The desk after a batch left this bench and these reconstructions. -/
def settling (desk : Desk κ γ η ρ) (left : Bench κ γ η × List ρ) : Desk κ γ η ρ :=
  ({ desk.1 with bench := left.1, scheduler := desk.1.scheduler.settle }, left.2)

/-- The desk after a batch stopped and left this bench and these reconstructions. -/
def halting (desk : Desk κ γ η ρ) (left : Bench κ γ η × List ρ) : Desk κ γ η ρ :=
  ({ desk.1 with bench := left.1 }, left.2)

/-- The desk with a session that ended by a failure. -/
def ending (desk : Desk κ γ η ρ) : Desk κ γ η ρ :=
  ({ desk.1 with status := .failed }, desk.2)

/-! ### When a batch is due -/

section Due

variable {feeding : Feeding} {session : Session κ γ η}

/-- A complete GOP is handed over. -/
theorem Feeding.isDue_of_complete (feeding : Feeding) {session : Session κ γ η}
    (waiting : 0 < session.scheduler.pending)
    (complete : session.scheduler.pending = session.scheduler.gopSize) :
    feeding.isDue session = true := by
  rw [complete] at waiting
  unfold Feeding.isDue
  split
  · simpa [Scheduler.isFrameBatchDue, complete] using waiting
  · simpa [Scheduler.isFieldBatchDue, complete] using waiting

/-- A batch that is due has a picture. -/
theorem Feeding.pending_pos_of_isDue (due : feeding.isDue session = true) :
    0 < session.scheduler.pending := by
  unfold Feeding.isDue at due
  split at due
  · simp only [Scheduler.isFrameBatchDue, Bool.and_eq_true, decide_eq_true_iff] at due
    exact due.1
  · simp only [Scheduler.isFieldBatchDue, Bool.and_eq_true, decide_eq_true_iff] at due
    exact due.1

/-- An incomplete GOP is handed over when the session is flushed, and after the first frame that is
taken as two fields. -/
theorem Feeding.early_of_isDue (due : feeding.isDue session = true)
    (incomplete : session.scheduler.pending < session.scheduler.gopSize) :
    feeding.flush = true ∨ feeding.mode ≠ .frame ∧ session.bench.ring.pocLast = 1 := by
  have someGop : session.scheduler.gopSize ≠ 0 := by omega
  have notComplete : session.scheduler.pending ≠ session.scheduler.gopSize := by omega
  unfold Feeding.isDue at due
  split at due
  · left
    simp only [Scheduler.isFrameBatchDue, Bool.and_eq_true, Bool.or_eq_true, beq_iff_eq, someGop,
      notComplete, or_false] at due
    exact due.2
  · rename_i isField
    simp only [Scheduler.isFieldBatchDue, Bool.and_eq_true, Bool.or_eq_true, beq_iff_eq,
      notComplete, or_false] at due
    rcases due.2 with flushed | bootstrap
    · exact .inl flushed.1
    · exact .inr ⟨by simp [isField], bootstrap⟩

/-- A session that waits for more pictures lacks some for a GOP. Without a GOP, and then only frames
are taken, none are waiting. -/
theorem Feeding.pending_lt_of_not_isDue (notDue : feeding.isDue session = false)
    (bounded : session.scheduler.pending ≤ max 1 session.scheduler.gopSize)
    (taken : feeding.mode = .frame ∨ 1 ≤ session.scheduler.gopSize) :
    session.scheduler.pending < max 1 session.scheduler.gopSize := by
  refine Nat.lt_of_le_of_ne bounded fun full => ?_
  have waiting : 0 < session.scheduler.pending := by omega
  suffices due : feeding.isDue session = true by
    rw [notDue] at due
    cases due
  by_cases someGop : 1 ≤ session.scheduler.gopSize
  · exact feeding.isDue_of_complete waiting (by omega)
  · have noGop : session.scheduler.gopSize = 0 := by omega
    have frame : feeding.mode = .frame := taken.resolve_right someGop
    simpa [Feeding.isDue, frame, Scheduler.isFrameBatchDue, noGop] using waiting

/-- Flushing a frame, or the second field of one, leaves no picture waiting. -/
theorem Feeding.pending_eq_zero_of_not_isDue (flush : feeding.flush = true)
    (last : feeding.mode = .frame ∨ feeding.fieldNum = 1)
    (notDue : feeding.isDue session = false) : session.scheduler.pending = 0 := by
  by_contra waiting
  have some : 0 < session.scheduler.pending := Nat.pos_of_ne_zero waiting
  unfold Feeding.isDue at notDue
  split at notDue
  · simp [Scheduler.isFrameBatchDue, flush, some] at notDue
  · rename_i isField
    have second : feeding.fieldNum = 1 := last.resolve_left (by simp [isField])
    simp [Scheduler.isFieldBatchDue, flush, second, some] at notDue

end Due

/-! ### Parameter sets -/

@[simp] theorem current_bind_apply {ε α : Type} (next : Session κ γ η → Step κ γ η ρ ε α)
    (desk : Desk κ γ η ρ) : ((current : Step κ γ η ρ ε _) >>= next) desk = next desk.1 desk := rfl

/-- The sequence parameter set in force is the stored one. -/
theorem activeSps_of_some {desk : Desk κ γ η ρ} {sps : Sps}
    (present : desk.1.spsStore.get? spsId = some sps) : activeSps desk = ⟨.ok sps, desk, []⟩ := by
  simp [activeSps, present]

/-- Without a stored sequence parameter set there is none in force. -/
theorem activeSps_of_none {desk : Desk κ γ η ρ} (missing : desk.1.spsStore.get? spsId = none) :
    (activeSps desk).outcome = .error (.unresolvedParameterSet spsId) ∧
      (activeSps desk).state = desk := by
  simp [activeSps, missing]

/-- The picture admitted next has the set that its position chooses. -/
theorem resolvePps_of_ok {desk : Desk κ γ η ρ} {pps : Pps}
    (chosen : desk.1.ppsAt (desk.1.bench.ring.pocLast + 1) = .ok pps) :
    resolvePps desk = ⟨.ok pps, desk, []⟩ := by
  simp [resolvePps, chosen]

/-- Where its position chooses no set that is there, a picture is not admitted. -/
theorem resolvePps_of_error {desk : Desk κ γ η ρ} {error : EncodeError}
    (missing : desk.1.ppsAt (desk.1.bench.ring.pocLast + 1) = .error error) :
    (resolvePps desk).outcome = .error error ∧ (resolvePps desk).state = desk := by
  simp [resolvePps, missing]

/-- A picture parameter set that is not there is reported by its id. -/
theorem ppsAt_error {session : Session κ γ η} {poc : Int} {error : EncodeError}
    (missing : session.ppsAt poc = .error error) : ∃ id, error = .unresolvedParameterSet id := by
  unfold ppsAt at missing
  split at missing
  · rename_i id _
    split at missing
    · cases missing
    · cases missing; exact ⟨id, rfl⟩
  · split at missing
    · cases missing
    · cases missing; exact ⟨0, rfl⟩

/-! ### Admission -/

/-- What admitting a frame or field can come to. -/
inductive Received (input : Frame) (field : Option Bool) (desk : Desk κ γ η ρ) :
    Except EncodeError Unit → Desk κ γ η ρ → Prop where
  /-- Some parameter set is missing. -/
  | unresolved (id : Nat) : Received input field desk (.error (.unresolvedParameterSet id)) desk
  /-- The picture does not have the size and format of the sequence. -/
  | mismatched (sps : Sps) (present : desk.1.spsStore.get? spsId = some sps)
      (misfit : input.resolution ≠ sps.resolution ∨ input.format ≠ sps.chromaFormat) :
      Received input field desk
        (.error (.invalidInput
          (.mismatch input.format input.resolution sps.chromaFormat sps.resolution))) desk
  /-- The ring has no place for it. -/
  | exhausted (full : desk.1.bench.ring.placement? = none) :
      Received input field desk (.error (.ringExhausted desk.1.bench.ring.capacity))
        (desk.1, desk.2.rotateLeft 1)
  | admitted (sps : Sps) (pps : Pps) (placement : Placement)
      (present : desk.1.spsStore.get? spsId = some sps)
      (chosen : desk.1.ppsAt (desk.1.bench.ring.pocLast + 1) = .ok pps)
      (fits : input.resolution = sps.resolution ∧ input.format = sps.chromaFormat)
      (placed : desk.1.bench.ring.placement? = some placement) :
      Received input field desk (.ok ()) (admitting desk sps pps placement input field)

/-- On a full ring an admission turns the reconstructions and fails. -/
theorem onRing_acquire_of_exhausted {desk : Desk κ γ η ρ}
    (full : desk.1.bench.ring.placement? = none) (sps : Sps) (pps : Pps) :
    (onRing (PictureRing.acquire sps pps) desk).outcome =
        .error (.ringExhausted desk.1.bench.ring.capacity) ∧
      (onRing (PictureRing.acquire sps pps) desk).state = (desk.1, desk.2.rotateLeft 1) := by
  obtain ⟨outcome, state⟩ := PictureRing.acquire_of_exhausted full sps pps desk.2
  refine ⟨outcome, ?_⟩
  simp only [onRing, Operation.onPart, Reply.mapState, state]

/-- With a place in the ring an admission fills it and turns the reconstructions. -/
theorem onRing_acquire_of_placement {desk : Desk κ γ η ρ} {placement : Placement}
    (placed : desk.1.bench.ring.placement? = some placement) (sps : Sps) (pps : Pps) :
    (onRing (PictureRing.acquire sps pps) desk).outcome =
        .ok (desk.1.bench.ring.freshHandle placement) ∧
      (onRing (PictureRing.acquire sps pps) desk).state =
        ({ desk.1 with
            bench := { desk.1.bench with
              ring := desk.1.bench.ring.place placement
                (desk.1.bench.ring.storageAt sps pps placement) } },
          desk.2.rotateLeft 1) := by
  obtain ⟨outcome, state⟩ := PictureRing.acquire_of_placement placed sps pps desk.2
  refine ⟨outcome, ?_⟩
  simp only [onRing, Operation.onPart, Reply.mapState, state]

/-- Receiving a frame or field comes to one of the ends that `Received` lists. -/
theorem receive_cases (input : Frame) (field : Option Bool) (desk : Desk κ γ η ρ) :
    Received input field desk (receive input field desk).outcome
      (receive input field desk).state := by
  unfold receive
  cases present : desk.1.spsStore.get? spsId with
  | none =>
    obtain ⟨outcome, state⟩ := activeSps_of_none present
    rw [Operation.bind_apply_of_error outcome, state]
    exact .unresolved spsId
  | some sps =>
    have sets := activeSps_of_some present
    rw [Operation.bind_apply_of_ok (by rw [sets]), sets]
    cases chosen : desk.1.ppsAt (desk.1.bench.ring.pocLast + 1) with
    | error error =>
      obtain ⟨outcome, state⟩ := resolvePps_of_error chosen
      obtain ⟨id, rfl⟩ := ppsAt_error chosen
      rw [Operation.bind_apply_of_error outcome, state]
      exact .unresolved id
    | ok pps =>
      rw [Operation.bind_apply_of_ok (by rw [resolvePps_of_ok chosen]), resolvePps_of_ok chosen]
      by_cases misfit : input.resolution ≠ sps.resolution ∨ input.format ≠ sps.chromaFormat
      · simp only [if_pos misfit, Operation.fail_apply]
        exact .mismatched sps present misfit
      · simp only [if_neg misfit]
        have fits : input.resolution = sps.resolution ∧ input.format = sps.chromaFormat := by
          simpa [not_or] using misfit
        cases placed : desk.1.bench.ring.placement? with
        | none =>
          obtain ⟨outcome, state⟩ := onRing_acquire_of_exhausted placed sps pps
          rw [Operation.bind_apply_of_error outcome, state]
          exact .exhausted placed
        | some placement =>
          obtain ⟨outcome, state⟩ := onRing_acquire_of_placement placed sps pps
          rw [Operation.bind_apply_of_ok outcome, state]
          have filled := PictureRing.modify?_freshHandle placed
            (desk.1.bench.ring.storageAt sps pps placement) (withInput input field)
          simp only [current_bind_apply, filled, change, Operation.update_apply]
          exact .admitted sps pps placement present chosen fits placed

/-! ### Handing over a batch -/

/-- What the call of the compressor for the waiting pictures comes to. -/
def handOver (compressor : Compressor κ γ η ρ) (desk : Desk κ γ η ρ) (sps : Sps)
    (mode : CodingMode) : Reply (Bench κ γ η × List ρ) (Stop CompressorError) Unit :=
  compressor.codeBatch (desk.1.batch sps mode) (desk.1.bench, desk.2)

/-- What looking for a batch after a feeding can come to. -/
inductive Submitted (compressor : Compressor κ γ η ρ) (feeding : Feeding) (desk : Desk κ γ η ρ) :
    Except (Stop EncodeError) Nat → Desk κ γ η ρ → Prop where
  /-- The sequence parameter set is missing. -/
  | unresolved (missing : desk.1.spsStore.get? spsId = none) :
      Submitted compressor feeding desk (.error (.refused (.unresolvedParameterSet spsId))) desk
  | waiting (notDue : feeding.isDue desk.1 = false) :
      Submitted compressor feeding desk (.ok 0) desk
  | coded (sps : Sps) (present : desk.1.spsStore.get? spsId = some sps)
      (due : feeding.isDue desk.1 = true)
      (codes : (handOver compressor desk sps feeding.mode).outcome = .ok ()) :
      Submitted compressor feeding desk (.ok desk.1.scheduler.pending)
        (settling desk (handOver compressor desk sps feeding.mode).state)
  /-- The compressor refused the batch or ran into a fault. -/
  | stopped (sps : Sps) (stop : Stop CompressorError)
      (present : desk.1.spsStore.get? spsId = some sps) (due : feeding.isDue desk.1 = true)
      (stops : (handOver compressor desk sps feeding.mode).outcome = .error stop) :
      Submitted compressor feeding desk (.error (stop.map .compressor))
        (halting desk (handOver compressor desk sps feeding.mode).state)

section Scheduled

variable {ε : Type} (code : Nat → Operation (Bench κ γ η × List ρ) ε Unit) {desk : Desk κ γ η ρ}

/-- A batch that is coded settles the desk. -/
theorem onScheduler_submit_of_ok
    (codes : (code desk.1.scheduler.pending (desk.1.bench, desk.2)).outcome = .ok ()) :
    (onScheduler (Scheduler.submit true code) desk).outcome = .ok desk.1.scheduler.pending ∧
      (onScheduler (Scheduler.submit true code) desk).state =
        settling desk (code desk.1.scheduler.pending (desk.1.bench, desk.2)).state := by
  let whole := (desk.1.scheduler, desk.1.bench, desk.2)
  have inner : (code whole.1.pending whole.2).outcome = .ok () := codes
  obtain ⟨outcome, state⟩ := Scheduler.submit_true_of_ok inner
  refine ⟨outcome, ?_⟩
  simp only [onScheduler, Operation.onPart, Reply.mapState, whole, state, settling]

/-- A batch that is not coded halts the desk, and its pictures go on waiting. -/
theorem onScheduler_submit_of_error {failure : ε}
    (fails : (code desk.1.scheduler.pending (desk.1.bench, desk.2)).outcome = .error failure) :
    (onScheduler (Scheduler.submit true code) desk).outcome = .error failure ∧
      (onScheduler (Scheduler.submit true code) desk).state =
        halting desk (code desk.1.scheduler.pending (desk.1.bench, desk.2)).state := by
  let whole := (desk.1.scheduler, desk.1.bench, desk.2)
  have inner : (code whole.1.pending whole.2).outcome = .error failure := fails
  obtain ⟨outcome, state⟩ := Scheduler.submit_true_of_error inner
  refine ⟨outcome, ?_⟩
  simp only [onScheduler, Operation.onPart, Reply.mapState, whole, state, halting]

end Scheduled

/-- Coding the waiting pictures, as it is left to the scheduler. -/
def coding (compressor : Compressor κ γ η ρ) (session : Session κ γ η) (sps : Sps)
    (mode : CodingMode) (numPics : Nat) :
    Operation (Bench κ γ η × List ρ) (Stop EncodeError) Unit :=
  (compressor.codeBatch ⟨session.bench.ring.pocLast, numPics, mode, sps,
    session.selector⟩).mapError (Stop.map .compressor)

/-- Once the sequence parameter set is found, all is left to the scheduler. -/
theorem submit_of_some (compressor : Compressor κ γ η ρ) (feeding : Feeding)
    {desk : Desk κ γ η ρ} {sps : Sps} (present : desk.1.spsStore.get? spsId = some sps) :
    submit compressor feeding.flush feeding.mode feeding.fieldNum desk =
      onScheduler (Scheduler.submit (feeding.isDue desk.1)
        (coding compressor desk.1 sps feeding.mode)) desk := by
  have resolved : activeSps.mapError Stop.refused desk = ⟨.ok sps, desk, []⟩ := by
    rw [Operation.mapError, activeSps_of_some present]
    rfl
  unfold submit
  rw [Operation.bind_apply_of_ok (by rw [resolved]), resolved]
  obtain ⟨input, field, flush, mode, fieldNum⟩ := feeding
  cases mode <;> rfl

/-- Looking for a batch comes to one of the ends that `Submitted` lists. -/
theorem submit_cases (compressor : Compressor κ γ η ρ) (feeding : Feeding) (desk : Desk κ γ η ρ) :
    Submitted compressor feeding desk
      (submit compressor feeding.flush feeding.mode feeding.fieldNum desk).outcome
      (submit compressor feeding.flush feeding.mode feeding.fieldNum desk).state := by
  cases present : desk.1.spsStore.get? spsId with
  | none =>
    obtain ⟨outcome, state⟩ := activeSps_of_none present
    have refused : (activeSps.mapError Stop.refused desk).outcome =
        .error (.refused (.unresolvedParameterSet spsId)) :=
      Operation.outcome_mapError_of_error outcome _
    unfold submit
    rw [Operation.bind_apply_of_error refused]
    simp only [Operation.mapError, Reply.mapError, state]
    exact .unresolved present
  | some sps =>
    rw [submit_of_some compressor feeding present]
    cases due : feeding.isDue desk.1 with
    | false => exact .waiting due
    | true =>
      cases handed : (handOver compressor desk sps feeding.mode).outcome with
      | ok done =>
        have codes : (coding compressor desk.1 sps feeding.mode desk.1.scheduler.pending
            (desk.1.bench, desk.2)).outcome = .ok () := congrArg (Except.mapError _) handed
        obtain ⟨outcome, state⟩ := onScheduler_submit_of_ok _ codes
        rw [outcome, state]
        exact .coded sps present due handed
      | error stop =>
        have fails : (coding compressor desk.1 sps feeding.mode desk.1.scheduler.pending
            (desk.1.bench, desk.2)).outcome = .error (stop.map .compressor) :=
          congrArg (Except.mapError _) handed
        obtain ⟨outcome, state⟩ := onScheduler_submit_of_error _ fails
        rw [outcome, state]
        exact .stopped sps stop present due handed

/-! ### A whole feeding -/

/-- The desk on which a feeding looks for a batch: with the picture that came, if one came. -/
inductive Loaded (feeding : Feeding) (desk : Desk κ γ η ρ) : Desk κ γ η ρ → Prop where
  | idle (nothing : feeding.input = none) : Loaded feeding desk desk
  | admitted (input : Frame) (sps : Sps) (pps : Pps) (placement : Placement)
      (given : feeding.input = some input) (present : desk.1.spsStore.get? spsId = some sps)
      (chosen : desk.1.ppsAt (desk.1.bench.ring.pocLast + 1) = .ok pps)
      (fits : input.resolution = sps.resolution ∧ input.format = sps.chromaFormat)
      (placed : desk.1.bench.ring.placement? = some placement) :
      Loaded feeding desk (admitting desk sps pps placement input feeding.field)

/-- What a feeding can come to. -/
inductive Fed (compressor : Compressor κ γ η ρ) (feeding : Feeding) (desk : Desk κ γ η ρ) :
    Except (Stop EncodeError) Nat → Desk κ γ η ρ → Prop where
  /-- The picture does not fit. Nothing happens. -/
  | refused (input : Frame) (sps : Sps) (given : feeding.input = some input)
      (present : desk.1.spsStore.get? spsId = some sps)
      (misfit : input.resolution ≠ sps.resolution ∨ input.format ≠ sps.chromaFormat) :
      Fed compressor feeding desk
        (.error (.refused (.invalidInput
          (.mismatch input.format input.resolution sps.chromaFormat sps.resolution)))) desk
  /-- Some parameter set is missing. -/
  | unresolved (id : Nat) :
      Fed compressor feeding desk (.error (.refused (.unresolvedParameterSet id))) (ending desk)
  /-- The ring has no place for the picture. -/
  | exhausted (input : Frame) (given : feeding.input = some input)
      (full : desk.1.bench.ring.placement? = none) :
      Fed compressor feeding desk (.error (.refused (.ringExhausted desk.1.bench.ring.capacity)))
        (ending (desk.1, desk.2.rotateLeft 1))
  | waited (loaded : Desk κ γ η ρ) (loads : Loaded feeding desk loaded)
      (notDue : feeding.isDue loaded.1 = false) : Fed compressor feeding desk (.ok 0) loaded
  | coded (loaded : Desk κ γ η ρ) (sps : Sps) (loads : Loaded feeding desk loaded)
      (present : loaded.1.spsStore.get? spsId = some sps) (due : feeding.isDue loaded.1 = true)
      (codes : (handOver compressor loaded sps feeding.mode).outcome = .ok ()) :
      Fed compressor feeding desk (.ok loaded.1.scheduler.pending)
        (settling loaded (handOver compressor loaded sps feeding.mode).state)
  /-- The compressor refused the batch. -/
  | failed (loaded : Desk κ γ η ρ) (sps : Sps) (error : CompressorError)
      (loads : Loaded feeding desk loaded) (present : loaded.1.spsStore.get? spsId = some sps)
      (due : feeding.isDue loaded.1 = true)
      (fails : (handOver compressor loaded sps feeding.mode).outcome = .error (.refused error)) :
      Fed compressor feeding desk (.error (.refused (.compressor error)))
        (ending (halting loaded (handOver compressor loaded sps feeding.mode).state))
  /-- The compressor ran into a fault. -/
  | faulted (loaded : Desk κ γ η ρ) (sps : Sps) (fault : Fault)
      (loads : Loaded feeding desk loaded) (present : loaded.1.spsStore.get? spsId = some sps)
      (due : feeding.isDue loaded.1 = true)
      (faults : (handOver compressor loaded sps feeding.mode).outcome = .error (.fault fault)) :
      Fed compressor feeding desk (.error (.fault fault))
        (halting loaded (handOver compressor loaded sps feeding.mode).state)

section Guarded

variable {α : Type} {step : Step κ γ η ρ (Stop EncodeError) α} {desk : Desk κ γ η ρ}

/-- Ending a session that fails does not change the answer. -/
@[simp] theorem outcome_guardFailure :
    (guardFailure step desk).outcome = (step desk).outcome := by
  unfold guardFailure
  dsimp only
  split
  · rfl
  · rfl
  · rename_i error refused
    split
    · rfl
    · exact refused.symm

/-- Answers, faults and refused inputs leave the session as it is. -/
theorem state_guardFailure_of_kept
    (kept : ∀ error, (step desk).outcome = .error (.refused error) → isRecoverable error = true) :
    (guardFailure step desk).state = (step desk).state := by
  unfold guardFailure
  dsimp only
  split
  · rfl
  · rfl
  · rename_i error refused
    rw [if_pos (kept error refused)]

/-- Any other refusal ends the session. -/
theorem state_guardFailure_of_ended {error : EncodeError}
    (refused : (step desk).outcome = .error (.refused error))
    (ends : isRecoverable error = false) :
    (guardFailure step desk).state = ending (step desk).state := by
  unfold guardFailure
  simp only [refused, ends, Bool.false_eq_true, if_false]
  rfl

end Guarded

/-- What looking for a batch comes to once a session that fails is ended. -/
theorem fed_of_submitted {compressor : Compressor κ γ η ρ} {feeding : Feeding}
    {desk loaded : Desk κ γ η ρ} (loads : Loaded feeding desk loaded)
    {step : Step κ γ η ρ (Stop EncodeError) Nat}
    (submitted : Submitted compressor feeding loaded (step desk).outcome (step desk).state) :
    Fed compressor feeding desk (guardFailure step desk).outcome
      (guardFailure step desk).state := by
  rw [outcome_guardFailure]
  generalize outcomeIs : (step desk).outcome = outcome at submitted
  generalize stateIs : (step desk).state = state at submitted
  cases submitted with
  | unresolved missing =>
    rw [state_guardFailure_of_ended outcomeIs rfl, stateIs]
    cases loads with
    | idle nothing => exact .unresolved spsId
    | admitted input sps pps placement given present chosen fits placed =>
      have found : (admitting desk sps pps placement input feeding.field).1.spsStore.get? spsId =
        some sps := present
      rw [found] at missing
      cases missing
  | waiting notDue =>
    rw [state_guardFailure_of_kept (by simp [outcomeIs]), stateIs]
    exact .waited loaded loads notDue
  | coded sps present due codes =>
    rw [state_guardFailure_of_kept (by simp [outcomeIs]), stateIs]
    exact .coded loaded sps loads present due codes
  | stopped sps stop present due stops =>
    cases stop with
    | refused error =>
      rw [state_guardFailure_of_ended outcomeIs rfl, stateIs]
      exact .failed loaded sps error loads present due stops
    | fault fault =>
      rw [state_guardFailure_of_kept (by simp [outcomeIs, Stop.map]), stateIs]
      exact .faulted loaded sps fault loads present due stops

/-- A feeding whose picture is not admitted ends there. -/
theorem bind_mapError_refused_of_error {α β : Type} {first : Step κ γ η ρ EncodeError α}
    {desk : Desk κ γ η ρ} {error : EncodeError} (fails : (first desk).outcome = .error error)
    (next : α → Step κ γ η ρ (Stop EncodeError) β) :
    ((first.mapError .refused >>= next) desk).outcome = .error (.refused error) ∧
      ((first.mapError .refused >>= next) desk).state = (first desk).state := by
  have refused : (first.mapError Stop.refused desk).outcome = .error (.refused error) :=
    Operation.outcome_mapError_of_error fails _
  rw [Operation.bind_apply_of_error refused]
  exact ⟨rfl, rfl⟩

/-- A feeding whose picture is admitted goes on to look for a batch. -/
theorem bind_mapError_refused_of_ok {α β : Type} {first : Step κ γ η ρ EncodeError α}
    {desk : Desk κ γ η ρ} {value : α} (succeeds : (first desk).outcome = .ok value)
    (next : α → Step κ γ η ρ (Stop EncodeError) β) :
    ((first.mapError .refused >>= next) desk).outcome = (next value (first desk).state).outcome ∧
      ((first.mapError .refused >>= next) desk).state = (next value (first desk).state).state := by
  have admitted : (first.mapError Stop.refused desk).outcome = .ok value :=
    Operation.outcome_mapError_of_ok succeeds _
  rw [Operation.bind_apply_of_ok admitted]
  exact ⟨rfl, rfl⟩

/-- A feeding comes to one of the ends that `Fed` lists. -/
theorem feed_cases (compressor : Compressor κ γ η ρ) (feeding : Feeding) (desk : Desk κ γ η ρ) :
    Fed compressor feeding desk (feed compressor feeding desk).outcome
      (feed compressor feeding desk).state := by
  unfold feed receiveAndSubmit
  have submitted (loaded : Desk κ γ η ρ) := submit_cases compressor feeding loaded
  cases given : feeding.input with
  | none => exact fed_of_submitted (.idle given) (submitted desk)
  | some input =>
    have received := receive_cases input feeding.field desk
    have stops {error : EncodeError}
        (fails : (receive input feeding.field desk).outcome = .error error) :=
      bind_mapError_refused_of_error fails fun _ =>
        submit compressor feeding.flush feeding.mode feeding.fieldNum
    generalize outcomeIs : (receive input feeding.field desk).outcome = outcome at received
    generalize stateIs : (receive input feeding.field desk).state = state at received
    cases received with
    | unresolved id =>
      obtain ⟨refused, kept⟩ := stops outcomeIs
      rw [outcome_guardFailure, state_guardFailure_of_ended refused rfl, refused, kept, stateIs]
      exact .unresolved id
    | mismatched sps present misfit =>
      obtain ⟨refused, kept⟩ := stops outcomeIs
      rw [outcome_guardFailure, state_guardFailure_of_kept, refused, kept, stateIs]
      · exact .refused input sps given present misfit
      · rw [refused]
        rintro _ ⟨⟩
        rfl
    | exhausted full =>
      obtain ⟨refused, kept⟩ := stops outcomeIs
      rw [outcome_guardFailure, state_guardFailure_of_ended refused rfl, refused, kept, stateIs]
      exact .exhausted input given full
    | admitted sps pps placement present chosen fits placed =>
      have loads := Loaded.admitted input sps pps placement given present chosen fits placed
      refine fed_of_submitted loads ?_
      obtain ⟨outcome, left⟩ := bind_mapError_refused_of_ok outcomeIs fun _ =>
        submit compressor feeding.flush feeding.mode feeding.fieldNum
      rw [outcome, left, stateIs]
      exact submitted _

end Session

end EncoderControl
