import EncoderControl.Proofs.Session.Interlacing
import EncoderControl.Proofs.Session.Tracing

/-!
# Flushing at once and afterwards

A session may be flushed together with its last picture or by a call of its own. A picture that is
taken without flushing either waits or completes a batch; in the first case the flush that follows
finds what it would have found at once, in the second one it finds nothing to do. Of the two fields
of a frame only the second one is flushed, and the first of two fields that are not there cannot
make a batch due that was not due before it. So both ways make the same calls of the compressor, and
leave and record the same.
-/

namespace EncoderControl

namespace Session

open Operation

variable {κ γ η ρ : Type}

/-- Ending sessions that fail says nothing about a step that succeeds. -/
theorem guardFailure_eq_ok_iff {α : Type} {step : Step κ γ η ρ (Stop EncodeError) α}
    {desk after : Desk κ γ η ρ} {value : α} {records : List Record} :
    guardFailure step desk = ⟨.ok value, after, records⟩ ↔
      step desk = ⟨.ok value, after, records⟩ := by
  unfold guardFailure
  obtain ⟨outcome, left, made⟩ := step desk
  cases outcome with
  | ok answer => rfl
  | error stop =>
    cases stop with
    | fault fault => rfl
    | refused error => dsimp only; split <;> simp

/-- Only an active session goes on, and the check leaves no trace. -/
theorem checkActive_eq_ok_iff {desk after : Desk κ γ η ρ} {records : List Record} :
    checkActive desk = ⟨.ok (), after, records⟩ ↔
      desk.1.status = .active ∧ after = desk ∧ records = [] := by
  by_cases active : desk.1.status = .active
  · rw [checkActive_of_active active]
    simp [active, eq_comm]
  · have refused := (checkActive_of_ended active).1
    constructor
    · intro checked
      rw [checked] at refused
      cases refused
    · exact fun checked => absurd checked.1 active

/-! ### One feeding -/

/-- Admits the picture of a feeding, if there is one. -/
def load (feeding : Feeding) : Step κ γ η ρ (Stop EncodeError) Unit :=
  match feeding.input with
  | some frame => (receive frame feeding.field).mapError .refused
  | none => pure ()

/-- The feeding without flushing. -/
def Feeding.holding (feeding : Feeding) : Feeding :=
  { feeding with flush := false }

/-- The feeding without its picture. -/
def Feeding.emptied (feeding : Feeding) : Feeding :=
  { feeding with input := none }

section Feed

variable {compressor : Compressor κ γ η ρ} {feeding : Feeding} {desk after : Desk κ γ η ρ}
  {numPics : Nat} {records : List Record}

/-- A feeding succeeds when its picture is admitted and the scheduler succeeds after that. -/
theorem feed_eq_ok_iff :
    feed compressor feeding desk = ⟨.ok numPics, after, records⟩ ↔
      ∃ loaded earlier later, load feeding desk = ⟨.ok (), loaded, earlier⟩ ∧
        submit compressor feeding.flush feeding.mode feeding.fieldNum loaded =
          ⟨.ok numPics, after, later⟩ ∧ records = earlier ++ later := by
  have parts : feed compressor feeding = guardFailure (load feeding >>= fun _ =>
      submit compressor feeding.flush feeding.mode feeding.fieldNum) := by
    obtain ⟨input, field, flush, mode, fieldNum⟩ := feeding
    cases input <;> rfl
  rw [parts, guardFailure_eq_ok_iff, bind_eq_ok_iff]
  exact ⟨fun ⟨_, rest⟩ => rest, fun rest => ⟨(), rest⟩⟩

/-- No batch is looked for without a sequence parameter set. -/
theorem exists_sps_of_submit_ok
    (succeeds : submit compressor feeding.flush feeding.mode feeding.fieldNum desk =
      ⟨.ok numPics, after, records⟩) : ∃ sps, desk.1.spsStore.get? spsId = some sps := by
  cases present : desk.1.spsStore.get? spsId with
  | some sps => exact ⟨sps, rfl⟩
  | none =>
    have refused := outcome_mapError_of_error (activeSps_of_none present).1 Stop.refused
    unfold submit at succeeds
    rw [bind_apply_of_error refused] at succeeds
    cases succeeds

/-- Nothing is done when no batch is due. -/
theorem submit_of_not_isDue {sps : Sps} (present : desk.1.spsStore.get? spsId = some sps)
    (notDue : feeding.isDue desk.1 = false) :
    submit compressor feeding.flush feeding.mode feeding.fieldNum desk = ⟨.ok 0, desk, []⟩ := by
  rw [submit_of_some compressor feeding present, notDue]
  rfl

/-- A feeding without a picture does nothing when no batch is due. -/
theorem feed_of_emptied_of_not_isDue {sps : Sps} (nothing : feeding.input = none)
    (present : desk.1.spsStore.get? spsId = some sps) (notDue : feeding.isDue desk.1 = false) :
    feed compressor feeding desk = ⟨.ok 0, desk, []⟩ := by
  rw [feed_eq_ok_iff]
  refine ⟨desk, [], [], ?_, submit_of_not_isDue present notDue, rfl⟩
  unfold load
  rw [nothing]
  rfl

/-- A batch that was due leaves no picture waiting, and the sequence parameter set stays. -/
theorem settled_of_submit_ok (due : feeding.isDue desk.1 = true)
    (succeeds : submit compressor feeding.flush feeding.mode feeding.fieldNum desk =
      ⟨.ok numPics, after, records⟩) :
    after.1.scheduler.pending = 0 ∧ after.1.spsStore = desk.1.spsStore := by
  have submitted := submit_cases compressor feeding desk
  rw [succeeds] at submitted
  cases submitted with
  | waiting notDue => simp [notDue] at due
  | coded sps present due codes => exact ⟨rfl, rfl⟩

/-- No batch is due when no picture waits. -/
theorem Feeding.isDue_eq_false {session : Session κ γ η} (feeding : Feeding)
    (settled : session.scheduler.pending = 0) : feeding.isDue session = false := by
  by_contra due
  have waiting := Feeding.pending_pos_of_isDue (Bool.eq_true_of_not_eq_false due)
  omega

/-- What is due without flushing is due with it. -/
theorem Feeding.isDue_of_holding {session : Session κ γ η}
    (due : feeding.holding.isDue session = true) (flush : feeding.flush = true) :
    feeding.isDue session = true := by
  obtain ⟨input, field, flushed, mode, fieldNum⟩ := feeding
  subst flush
  cases mode with
  | frame =>
    simp only [Feeding.holding, Feeding.isDue, Scheduler.isFrameBatchDue, Bool.and_eq_true] at due
    simpa [Feeding.isDue, Scheduler.isFrameBatchDue] using due.1
  | field top =>
    simp only [Feeding.holding, Feeding.isDue, Scheduler.isFieldBatchDue, Bool.false_and,
      Bool.false_or, Bool.and_eq_true] at due
    simp only [Feeding.isDue, Scheduler.isFieldBatchDue, Bool.or_assoc, due.1, due.2, Bool.or_true,
      Bool.and_self]

/-- Taking a picture without flushing, and flushing after that, is taking it and flushing at once.
In between no batch is due without a flush. -/
theorem feed_holding_then_emptied (flush : feeding.flush = true)
    (succeeds : feed compressor feeding desk = ⟨.ok numPics, after, records⟩) :
    ∃ before between earlier rest later,
      feed compressor feeding.holding desk = ⟨.ok before, between, earlier⟩ ∧
        feed compressor feeding.emptied between = ⟨.ok rest, after, later⟩ ∧
        numPics = before + rest ∧ records = earlier ++ later ∧
        (∃ sps, between.1.spsStore.get? spsId = some sps) ∧
        feeding.holding.isDue between.1 = false := by
  obtain ⟨loaded, earlier, later, loads, submits, rfl⟩ := feed_eq_ok_iff.mp succeeds
  obtain ⟨sps, present⟩ := exists_sps_of_submit_ok submits
  cases due : feeding.holding.isDue loaded.1 with
  | true =>
    -- The batch is complete without flushing, and the flush finds nothing to do.
    have dueAtOnce := Feeding.isDue_of_holding due flush
    obtain ⟨settled, sameStore⟩ := settled_of_submit_ok dueAtOnce submits
    have stays : after.1.spsStore.get? spsId = some sps := sameStore ▸ present
    have held : submit compressor feeding.holding.flush feeding.holding.mode
        feeding.holding.fieldNum loaded = ⟨.ok numPics, after, later⟩ := by
      rw [submit_of_some compressor feeding.holding present, due, ← dueAtOnce, ← submits]
      exact (submit_of_some compressor feeding present).symm
    refine ⟨numPics, after, earlier ++ later, 0, [], ?_, ?_, rfl, by simp, ⟨sps, stays⟩, ?_⟩
    · exact feed_eq_ok_iff.mpr ⟨loaded, earlier, later, loads, held, rfl⟩
    · exact feed_of_emptied_of_not_isDue rfl stays (feeding.emptied.isDue_eq_false settled)
    · exact feeding.holding.isDue_eq_false settled
  | false =>
    refine ⟨0, loaded, earlier, numPics, later, ?_, ?_, by simp, rfl, ⟨sps, present⟩, due⟩
    · exact feed_eq_ok_iff.mpr
        ⟨loaded, earlier, [], loads, submit_of_not_isDue present due, by simp⟩
    · exact feed_eq_ok_iff.mpr ⟨loaded, [], later, rfl, submits, rfl⟩

/-- A feeding that succeeds leaves the session active and the configuration as it is. -/
theorem kept_of_feed_ok (succeeds : feed compressor feeding desk = ⟨.ok numPics, after, records⟩) :
    after.1.status = desk.1.status ∧ after.1.config = desk.1.config := by
  have status := (received_feed_of_ok compressor feeding desk (congrArg Reply.outcome succeeds)).2
  have config := (keepsSettings_feed compressor feeding desk).config
  rw [succeeds] at status config
  exact ⟨status, config⟩

end Feed

/-! ### One field -/

section Field

variable {compressor : Compressor κ γ η ρ} {input : Option Frame} {flush : Bool}
  {order : FieldOrder} {fieldNum : Nat} {desk after : Desk κ γ η ρ} {numPics : Nat}
  {records : List Record}

/-- The field of the frame that came, if one came. A frame may have none that can be taken. -/
def fieldOf? (input : Option Frame) (top : Bool) : Option (Option Frame) :=
  match input with
  | some frame => (frame.takeField top).toOption.map some
  | none => some none

/-- A field is taken when the frame has fields, by one feeding. -/
theorem encodeField_eq_ok_iff :
    encodeField compressor input flush order fieldNum desk = ⟨.ok numPics, after, records⟩ ↔
      ∃ field, fieldOf? input (isTopField order fieldNum) = some field ∧
        feed compressor (fieldFeeding flush order fieldNum field) desk =
          ⟨.ok numPics, after, records⟩ := by
  cases input with
  | none => simp [fieldOf?, encodeField, feed, fieldFeeding, isTopField]
  | some frame =>
    cases taken : frame.takeField (isTopField order fieldNum) with
    | ok field =>
      rw [encodeField_eq_feed compressor flush order fieldNum taken]
      simp [fieldOf?, taken, Except.toOption]
    | error fault =>
      rw [encodeField_of_fault compressor flush order fieldNum taken]
      simp [fieldOf?, taken, Except.toOption]

/-- The first field of a frame is not flushed. -/
theorem encodeField_first (compressor : Compressor κ γ η ρ) (input : Option Frame)
    (order : FieldOrder) (flush : Bool) :
    encodeField compressor input flush order 0 = encodeField compressor input false order 0 := by
  have submits : submit compressor flush (.field order.isTopFieldFirst) 0 =
      submit compressor false (.field order.isTopFieldFirst) 0 := by
    cases flush <;> rfl
  have alike (field : Option Frame) : feed compressor (fieldFeeding flush order 0 field) =
      feed compressor (fieldFeeding false order 0 field) := by
    simp only [feed, receiveAndSubmit, fieldFeeding, submits]
  cases input with
  | none => exact alike none
  | some frame =>
    unfold encodeField
    dsimp only
    cases frame.takeField (order.isTopFieldFirst == (0 == 0)) with
    | error fault => rfl
    | ok field => exact alike (some field)

/-- After the first field of a frame a batch is due when it is due after the second one without
flushing. -/
theorem isDue_first_field (flush : Bool) (order : FieldOrder) (field other : Option Frame)
    (session : Session κ γ η) : (fieldFeeding flush order 0 field).isDue session =
      (fieldFeeding true order 1 other).holding.isDue session := by
  cases flush <;> rfl

/-- A field that is taken leaves the session active and the configuration as it is. -/
theorem kept_of_encodeField_ok
    (succeeds : encodeField compressor input flush order fieldNum desk =
      ⟨.ok numPics, after, records⟩) :
    after.1.status = desk.1.status ∧ after.1.config = desk.1.config := by
  obtain ⟨field, -, fed⟩ := encodeField_eq_ok_iff.mp succeeds
  exact kept_of_feed_ok fed

end Field

/-! ### Whole calls -/

/-- Takes two steps one after the other and answers with the number of pictures coded in both. -/
def summed (first second : Step κ γ η ρ (Stop EncodeError) Nat) :
    Step κ γ η ρ (Stop EncodeError) Nat := do
  let before ← first
  let after ← second
  pure (before + after)

/-- Two steps succeed together when the second one does where the first one ended. -/
theorem summed_eq_ok_iff {first second : Step κ γ η ρ (Stop EncodeError) Nat}
    {desk after : Desk κ γ η ρ} {numPics : Nat} {records : List Record} :
    summed first second desk = ⟨.ok numPics, after, records⟩ ↔
      ∃ before between earlier rest later, first desk = ⟨.ok before, between, earlier⟩ ∧
        second between = ⟨.ok rest, after, later⟩ ∧
        numPics = before + rest ∧ records = earlier ++ later := by
  unfold summed
  simp only [bind_eq_ok_iff, pure_apply, Reply.mk.injEq, Except.ok.injEq]
  constructor
  · rintro ⟨before, between, earlier, _, succeeds, ⟨rest, _, later, _, coded, ⟨rfl, rfl, rfl⟩, rfl⟩,
      rfl⟩
    exact ⟨before, between, earlier, rest, later, succeeds, coded, rfl, by simp⟩
  · rintro ⟨before, between, earlier, rest, later, succeeds, coded, rfl, rfl⟩
    exact ⟨before, between, earlier, later, succeeds,
      ⟨rest, after, later, [], coded, ⟨rfl, rfl, rfl⟩, by simp⟩, rfl⟩

/-- The call without flushing. -/
def Call.withoutFlush : Call → Call
  | .encode input _ => .encode input false
  | .encodeFields input _ order => .encodeFields input false order
  | .tune tunings => .tune tunings

/-- The call that flushes in the same way and brings nothing. -/
def Call.onlyFlush : Call → Call
  | .encode _ _ => .encode none true
  | .encodeFields _ _ order => .encodeFields none true order
  | .tune tunings => .tune tunings

/-- Makes the call without flushing, and then one that only flushes. -/
def flushAfterwards (compressor : Compressor κ γ η ρ) (call : Call) :
    Step κ γ η ρ (Stop EncodeError) Nat :=
  summed (perform compressor call.withoutFlush) (perform compressor call.onlyFlush)

section Perform

variable {compressor : Compressor κ γ η ρ} {desk after : Desk κ γ η ρ} {numPics : Nat}
  {records : List Record}

/-- A call succeeds on an active session when what follows the check does. -/
theorem checkActive_bind_eq_ok_iff {next : Unit → Step κ γ η ρ (Stop EncodeError) Nat} :
    (checkActive.mapError .refused >>= next) desk = ⟨.ok numPics, after, records⟩ ↔
      desk.1.status = .active ∧ next () desk = ⟨.ok numPics, after, records⟩ := by
  rw [bind_eq_ok_iff]
  constructor
  · rintro ⟨_, _, _, later, checked, succeeds, rfl⟩
    obtain ⟨active, rfl, rfl⟩ := checkActive_eq_ok_iff.mp (mapError_eq_ok_iff.mp checked)
    exact ⟨active, succeeds⟩
  · rintro ⟨active, succeeds⟩
    have checked := checkActive_eq_ok_iff.mpr ⟨active, rfl, rfl⟩
    exact ⟨(), desk, [], records, mapError_eq_ok_iff.mpr checked, succeeds, rfl⟩

/-- A frame is taken by an active session when its feeding succeeds. -/
theorem perform_encode_eq_ok_iff {input : Option Frame} {flush : Bool} :
    perform compressor (.encode input flush) desk = ⟨.ok numPics, after, records⟩ ↔
      desk.1.status = .active ∧
        feed compressor ⟨input, none, flush, .frame, 0⟩ desk = ⟨.ok numPics, after, records⟩ :=
  checkActive_bind_eq_ok_iff

/-- Field input is taken by an active session that codes fields when both fields are. -/
theorem perform_encodeFields_eq_ok_iff {input : Option Frame} {flush : Bool} {order : FieldOrder} :
    perform compressor (.encodeFields input flush order) desk = ⟨.ok numPics, after, records⟩ ↔
      desk.1.status = .active ∧ desk.1.config.fieldCoding = true ∧
        summed (encodeField compressor input flush order 0)
          (encodeField compressor input flush order 1) desk = ⟨.ok numPics, after, records⟩ := by
  refine checkActive_bind_eq_ok_iff.trans (and_congr_right fun _ => ?_)
  rw [current_bind_apply]
  cases fields : desk.1.config.fieldCoding with
  | true => simp [summed]
  | false => simp

/-- A frame that is flushed at once is taken, and then flushed. -/
theorem flushAfterwards_encode {input : Option Frame}
    (succeeds : perform compressor (.encode input true) desk = ⟨.ok numPics, after, records⟩) :
    flushAfterwards compressor (.encode input true) desk = ⟨.ok numPics, after, records⟩ := by
  obtain ⟨active, fed⟩ := perform_encode_eq_ok_iff.mp succeeds
  obtain ⟨before, between, earlier, rest, later, holds, flushes, sum, made, -⟩ :=
    feed_holding_then_emptied rfl fed
  have still : between.1.status = .active := (kept_of_feed_ok holds).1.trans active
  refine summed_eq_ok_iff.mpr ⟨before, between, earlier, rest, later, ?_, ?_, sum, made⟩
  · exact perform_encode_eq_ok_iff.mpr ⟨active, holds⟩
  · exact perform_encode_eq_ok_iff.mpr ⟨still, flushes⟩

/-- Two fields that are flushed at once are taken, and then flushed: flushing the first of two
fields that are not there does nothing. -/
theorem flushAfterwards_encodeFields {input : Option Frame} {order : FieldOrder}
    (succeeds : perform compressor (.encodeFields input true order) desk =
      ⟨.ok numPics, after, records⟩) :
    flushAfterwards compressor (.encodeFields input true order) desk =
      ⟨.ok numPics, after, records⟩ := by
  obtain ⟨active, fields, both⟩ := perform_encodeFields_eq_ok_iff.mp succeeds
  obtain ⟨one, reached, recordsOne, two, recordsTwo, first, second, rfl, rfl⟩ :=
    summed_eq_ok_iff.mp both
  rw [encodeField_first] at first
  obtain ⟨field, found, fed⟩ := encodeField_eq_ok_iff.mp second
  obtain ⟨before, between, earlier, rest, later, holds, flushes, rfl, rfl, ⟨sps, present⟩,
    notDue⟩ := feed_holding_then_emptied rfl fed
  have held : encodeField compressor input false order 1 reached = ⟨.ok before, between, earlier⟩ :=
    encodeField_eq_ok_iff.mpr ⟨field, found, holds⟩
  have idle : encodeField compressor none true order 0 between = ⟨.ok 0, between, []⟩ :=
    encodeField_eq_ok_iff.mpr ⟨none, rfl, feed_of_emptied_of_not_isDue rfl present
      ((isDue_first_field true order none field between.1).trans notDue)⟩
  have flushed : encodeField compressor none true order 1 between = ⟨.ok rest, after, later⟩ :=
    encodeField_eq_ok_iff.mpr ⟨none, rfl, flushes⟩
  obtain ⟨statusFirst, configFirst⟩ := kept_of_encodeField_ok first
  obtain ⟨statusHeld, configHeld⟩ := kept_of_encodeField_ok held
  have still : between.1.status = .active := statusHeld.trans (statusFirst.trans active)
  have codes : between.1.config.fieldCoding = true := by rw [configHeld, configFirst, fields]
  refine summed_eq_ok_iff.mpr ⟨one + before, between, recordsOne ++ earlier, rest, later, ?_, ?_,
    (Nat.add_assoc ..).symm, (List.append_assoc ..).symm⟩
  · exact perform_encodeFields_eq_ok_iff.mpr ⟨active, fields,
      summed_eq_ok_iff.mpr ⟨_, _, _, _, _, first, held, rfl, rfl⟩⟩
  · exact perform_encodeFields_eq_ok_iff.mpr ⟨still, codes,
      summed_eq_ok_iff.mpr ⟨_, _, _, _, _, idle, flushed, (Nat.zero_add _).symm, rfl⟩⟩

/-- A call that flushes and succeeds is the call without flushing and the flush that follows. -/
theorem flushAfterwards_of_ok {call : Call} (flushes : call.flushes = true)
    (succeeds : (perform compressor call desk).outcome = .ok numPics) :
    flushAfterwards compressor call desk = perform compressor call desk := by
  have whole : perform compressor call desk = ⟨.ok numPics, _, _⟩ := Reply.ext succeeds rfl rfl
  rw [whole]
  cases call with
  | encode input flush =>
    obtain rfl : flush = true := flushes
    exact flushAfterwards_encode whole
  | encodeFields input flush order =>
    obtain rfl : flush = true := flushes
    exact flushAfterwards_encodeFields whole
  | tune tunings => cases flushes

end Perform

/-- Flushing with the last picture equals flushing afterwards, whether the call brings a frame, the
two fields of one or nothing, and in whatever state it finds the session. When the call that flushes
succeeds, so do the call without flushing and the flush that follows: their counts add up to the
same number, they leave the same session and the same reconstructions, and they make the same
records. They also make the same calls of the compressor, which finds the same bench in each of
them and is told the same about the batch. -/
theorem flushing_at_once_equals_flushing_afterwards (compressor : Compressor κ γ η ρ) (call : Call)
    (desk : Desk κ γ η ρ) (numPics : Nat) (flushes : call.flushes = true)
    (succeeds : (perform compressor call desk).outcome = .ok numPics) :
    flushAfterwards compressor call desk = perform compressor call desk ∧
      ∀ traced : Desk (Traced κ γ η ρ) γ η ρ, untracedDesk traced = desk →
        (flushAfterwards compressor.traced call traced).state.1.handovers =
          (perform compressor.traced call traced).state.1.handovers := by
  refine ⟨flushAfterwards_of_ok flushes succeeds, ?_⟩
  rintro traced rfl
  have same := erases_perform compressor call traced
  have traces : (perform compressor.traced call traced).outcome = .ok numPics := by
    rw [← same] at succeeds
    exact succeeds
  rw [flushAfterwards_of_ok flushes traces]

/-- Two frames of a session that codes fields in groups of three: the first frame is coded on its
own, and both fields of the second one wait. -/
def waitingFieldsDesk : Desk (Traced Unit Unit Unit Unit) Unit Unit Unit :=
  deskAfter releasing.traced (smallFieldSession ((), []), [])
    [.encodeFields (some fittingFrame) false .topFieldFirst,
      .encodeFields (some fittingFrame) false .topFieldFirst]

/-- The third frame completes a group of three by its first field. Three of the four fields are
coded without flushing then, and the flush codes the fourth one. -/
theorem flushing_at_once_equals_flushing_afterwards_thirdFrame :
    let call := Call.encodeFields (some fittingFrame) true .bottomFieldFirst
    let desk := untracedDesk waitingFieldsDesk
    (perform releasing call desk).outcome = .ok 4 ∧
      (perform releasing call.withoutFlush desk).outcome = .ok 3 ∧
      flushAfterwards releasing call desk = perform releasing call desk ∧
      (flushAfterwards releasing.traced call waitingFieldsDesk).state.1.handovers =
        (perform releasing.traced call waitingFieldsDesk).state.1.handovers := by
  intro call desk
  have succeeds : (perform releasing call desk).outcome = .ok 4 := by decide +kernel
  obtain ⟨same, traces⟩ :=
    flushing_at_once_equals_flushing_afterwards releasing call desk 4 rfl succeeds
  exact ⟨succeeds, by decide +kernel, same, traces waitingFieldsDesk rfl⟩

end Session

end EncoderControl
