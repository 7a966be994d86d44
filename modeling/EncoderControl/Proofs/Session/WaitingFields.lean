import EncoderControl.Proofs.Ring.Latest
import EncoderControl.Proofs.Session.Accounting
import EncoderControl.Proofs.Session.Fields

/-!
# Fields that wait

The fields that wait in a session are as they belong at their output positions, and those of the
first frame do not wait for others. Admission, batches and what they come to keep it so, one feeding
after the other, as long as the fields that are fed come from the frames of their positions.
-/

namespace EncoderControl

/-- The picture is the field of an accepted frame that belongs at its output position. -/
structure Picture.IsFieldOf (accepted : List (Frame × FieldOrder)) (picture : Picture) : Prop where
  nonnegative : 0 ≤ picture.poc
  fieldPic : picture.fieldPic = true
  source : ∃ frame order, accepted[picture.poc.toNat / 2]? = some (frame, order) ∧
    (picture.topField = true ↔
      order = .topFieldFirst ∧ picture.poc.toNat % 2 = 0 ∨
        order = .bottomFieldFirst ∧ picture.poc.toNat % 2 = 1) ∧
    frame.field? picture.topField = some picture.orig

/-- Later frames do not change where a field comes from. -/
theorem Picture.IsFieldOf.append {accepted : List (Frame × FieldOrder)} {picture : Picture}
    (isField : picture.IsFieldOf accepted) (more : List (Frame × FieldOrder)) :
    picture.IsFieldOf (accepted ++ more) :=
  { isField with
    source := by
      obtain ⟨frame, order, at_, marked, separated⟩ := isField.source
      obtain ⟨inside, -⟩ := List.getElem?_eq_some_iff.mp at_
      exact ⟨frame, order, (List.getElem?_append_left inside).trans at_, marked, separated⟩ }

namespace Session

variable {κ γ η ρ : Type} {config : Config} {sps : Sps} {accepted : List (Frame × FieldOrder)}

/-- The top field is the first one of a frame with the top field first, and the second one of the
others. -/
theorem isTopField_iff {order : FieldOrder} {fieldNum : Nat} (isNumber : fieldNum < 2) :
    isTopField order fieldNum = true ↔
      order = .topFieldFirst ∧ fieldNum = 0 ∨ order = .bottomFieldFirst ∧ fieldNum = 1 := by
  have cases : fieldNum = 0 ∨ fieldNum = 1 := by omega
  rcases cases with rfl | rfl <;> cases order <;> decide

/-- The field of the frame accepted last is marked as it belongs at its position. -/
theorem isFieldOf_withInput {frame field : Frame} {order : FieldOrder} {fieldNum : Nat}
    (isNumber : fieldNum < 2) (found : frame.field? (isTopField order fieldNum) = some field)
    {picture : Picture} (position : picture.poc = ((2 * accepted.length + fieldNum : Nat) : Int)) :
    (withInput field (some (isTopField order fieldNum)) picture).IsFieldOf
      (accepted ++ [(frame, order)]) := by
  have half : (2 * accepted.length + fieldNum) / 2 = accepted.length := by omega
  have rest : (2 * accepted.length + fieldNum) % 2 = fieldNum := by omega
  have poc : (withInput field (some (isTopField order fieldNum)) picture).poc =
      ((2 * accepted.length + fieldNum : Nat) : Int) := position
  refine ⟨by rw [poc]; exact Int.natCast_nonneg _, rfl, frame, order, ?_, ?_, found⟩
  · rw [poc, Int.toNat_natCast, half, List.getElem?_concat_length]
  · rw [poc, Int.toNat_natCast, rest]
    exact isTopField_iff isNumber

/-- What a session is like that only takes fields, once it accepted these frames. The waiting fields
are as they belong at their positions. Those of the first frame, up to the position `first`, do not
wait for others. -/
structure Interlaced (config : Config) (sps : Sps) (accepted : List (Frame × FieldOrder))
    (first : Int) (session : Session κ γ η) : Prop where
  settings : session.config = config
  selector : session.selector = .ofConfig config
  present : session.spsStore.get? spsId = some sps
  awaits : session.bench.ring.Awaits session.scheduler.pending (Picture.IsFieldOf accepted)
  apart : session.bench.ring.pocLast ≤ first ∨
    1 ≤ session.bench.ring.pocLast - session.scheduler.pending

/-- What such a session hands over. -/
structure Handover.Fieldwise (config : Config) (sps : Sps) (accepted : List (Frame × FieldOrder))
    (handover : Handover κ γ η ρ) : Prop where
  coded : config.fieldCoding = true
  selector : handover.batch.selector = .ofConfig config
  sps : handover.batch.sps = sps
  pocLast : handover.batch.pocLast = handover.found.1.ring.pocLast
  awaits : handover.found.1.ring.Awaits handover.batch.numPics (Picture.IsFieldOf accepted)
  apart : handover.batch.pocLast ≤ 1 ∨ 1 ≤ handover.batch.pocLast - handover.batch.numPics

/-- A field that is fed after the position `pocLast` is of an accepted frame. -/
def Feeding.Arrives (accepted : List (Frame × FieldOrder)) (pocLast : Int) (feeding : Feeding) :
    Prop :=
  ∀ input, feeding.input = some input → ∀ picture : Picture, picture.poc = pocLast + 1 →
    (withInput input feeding.field picture).IsFieldOf accepted

/-- Fields that are fed one after the other are of accepted frames. -/
def AllArrive (accepted : List (Frame × FieldOrder)) : Int → List Feeding → Prop
  | _, [] => True
  | pocLast, feeding :: later =>
    feeding.Arrives accepted pocLast ∧
      AllArrive accepted (pocLast + feeding.input.toList.length) later

/-! ### Admission and coding -/

section Feeding

variable {compressor : Compressor κ γ η ρ} {feeding : Feeding}
  {desk loaded : Desk (Traced κ γ η ρ) γ η ρ}

/-- More frames that are accepted leave the session as it is. -/
theorem Interlaced.append {first : Int} {session : Session κ γ η}
    (interlaced : Interlaced config sps accepted first session)
    (more : List (Frame × FieldOrder)) :
    Interlaced config sps (accepted ++ more) first session :=
  { interlaced with awaits := interlaced.awaits.mono fun _ isField => isField.append more }

/-- More frames that are accepted leave earlier handovers as they are. -/
theorem Handover.Fieldwise.append {handover : Handover κ γ η ρ}
    (fieldwise : Handover.Fieldwise config sps accepted handover)
    (more : List (Frame × FieldOrder)) :
    Handover.Fieldwise config sps (accepted ++ more) handover :=
  { fieldwise with awaits := fieldwise.awaits.mono fun _ isField => isField.append more }

/-- An admission counts the position up by the picture that came, if one did. -/
theorem pocLast_of_loaded (loads : Loaded feeding desk loaded) :
    loaded.1.bench.ring.pocLast = desk.1.bench.ring.pocLast + feeding.input.toList.length := by
  cases loads with
  | idle nothing => simp [nothing]
  | admitted input sps pps placement given present chosen fits placed =>
    rw [given]
    exact PictureRing.pocLast_accept ..

/-- A field that arrives waits with the others. -/
theorem Interlaced.receive (interlaced : Interlaced config sps accepted 0 desk.1)
    (loads : Loaded feeding desk loaded)
    (arrives : feeding.Arrives accepted desk.1.bench.ring.pocLast) :
    Interlaced config sps accepted 1 loaded.1 := by
  cases loads with
  | idle nothing =>
    exact { interlaced with apart := interlaced.apart.imp_left fun early => by omega }
  | admitted input sps pps placement given present chosen fits placed =>
    refine ⟨interlaced.settings, interlaced.selector, interlaced.present, ?_, ?_⟩
    · refine interlaced.awaits.accept placed _ (fun picture => ?_) (arrives input given _ rfl)
      cases feeding.field <;> exact ⟨rfl, rfl⟩
    · have pocLast : (admitting desk sps pps placement input feeding.field).1.bench.ring.pocLast =
          desk.1.bench.ring.pocLast + 1 := PictureRing.pocLast_accept ..
      have pending : (admitting desk sps pps placement input feeding.field).1.scheduler.pending =
          desk.1.scheduler.pending + 1 := rfl
      rw [pocLast, pending]
      have apart := interlaced.apart
      omega

/-- When no batch is due after a field, none of the first frame waits. -/
theorem Interlaced.wait (interlaced : Interlaced config sps accepted 1 desk.1)
    (isField : feeding.mode ≠ .frame) (notDue : feeding.isDue desk.1 = false) :
    Interlaced config sps accepted 0 desk.1 := by
  refine { interlaced with apart := ?_ }
  have nothing (complete : desk.1.bench.ring.pocLast = 1) : desk.1.scheduler.pending = 0 := by
    by_contra waiting
    have some : 0 < desk.1.scheduler.pending := Nat.pos_of_ne_zero waiting
    unfold Feeding.isDue at notDue
    split at notDue
    · rename_i frame
      exact isField frame
    · simp [Scheduler.isFieldBatchDue, complete, some] at notDue
  rcases interlaced.apart with early | late
  · by_cases complete : desk.1.bench.ring.pocLast = 1
    · have none := nothing complete
      omega
    · omega
  · exact .inr late

/-- A batch of such a session consists of fields. -/
theorem Interlaced.handed (interlaced : Interlaced config sps accepted 1 desk.1)
    (coded : config.fieldCoding = true) {found : Sps}
    (present : desk.1.spsStore.get? spsId = some found) (mode : CodingMode) :
    Handover.Fieldwise config sps accepted (handover compressor desk found mode) where
  coded := coded
  selector := interlaced.selector
  sps := Option.some.inj (present.symm.trans interlaced.present)
  pocLast := rfl
  awaits := interlaced.awaits
  apart := interlaced.apart

/-- After a batch no field waits, the first frame included. -/
theorem Interlaced.settle (interlaced : Interlaced config sps accepted 1 desk.1) {found : Sps}
    {mode : CodingMode} (nothing : (handover compressor desk found mode).AdmitsNothing) :
    Interlaced config sps accepted 0
      (settling desk (handOver compressor.traced desk found mode).state).1 := by
  let settled := (settling desk (handOver compressor.traced desk found mode).state).1
  refine ⟨interlaced.settings, interlaced.selector, interlaced.present, ?_, ?_⟩
  · obtain ⟨edits, edited⟩ := nothing
    have left : settled.bench.ring = desk.1.bench.ring.editAll edits := edited
    have awaits : (desk.1.bench.ring.editAll edits).Awaits 0 (Picture.IsFieldOf accepted) :=
      interlaced.awaits.settle edits
    rwa [← left] at awaits
  · have pending : settled.scheduler.pending = 0 := rfl
    change settled.bench.ring.pocLast ≤ 0 ∨
      1 ≤ settled.bench.ring.pocLast - settled.scheduler.pending
    rw [pending]
    omega

end Feeding

/-! ### Feedings -/

/-- What feedings come to that go on with such a sequence: all that they handed over are fields,
and unless the session ended it is as it should be after all that they brought. -/
structure Sequel (config : Config) (sps : Sps) (accepted : List (Frame × FieldOrder))
    (feedings : List Feeding) (before : Session (Traced κ γ η ρ) γ η)
    (outcome : Except (Stop EncodeError) Nat) (after : Session (Traced κ γ η ρ) γ η)
    (made : List (Handover κ γ η ρ)) : Prop where
  fieldwise : ∀ handover ∈ made, Handover.Fieldwise config sps accepted handover
  rests : (∀ fault, outcome ≠ .error (.fault fault)) → after.status = .active →
    Interlaced config sps accepted 0 after
  counted : ∀ numPics, outcome = .ok numPics → after.bench.ring.pocLast =
    before.bench.ring.pocLast + (feedings.filterMap Feeding.input).length

/-- Feedings note the handovers that they make. If these admit no picture, and fields of accepted
frames come to such a sequence, what they come to is a `Sequel`. -/
structure Continues (config : Config) (sps : Sps) (accepted : List (Frame × FieldOrder))
    (feedings : List Feeding) (before : Session (Traced κ γ η ρ) γ η)
    (outcome : Except (Stop EncodeError) Nat) (after : Session (Traced κ γ η ρ) γ η)
    (made : List (Handover κ γ η ρ)) : Prop where
  noted : after.handovers = before.handovers ++ made
  sequel : Interlaced config sps accepted 0 before →
    AllArrive accepted before.bench.ring.pocLast feedings →
    (∀ handover ∈ made, handover.AdmitsNothing) →
    Sequel config sps accepted feedings before outcome after made

section Continues

variable {feedings : List Feeding} {feeding : Feeding}
  {before between after : Session (Traced κ γ η ρ) γ η}
  {outcome : Except (Stop EncodeError) Nat} {made more : List (Handover κ γ η ρ)}

/-- A stop before any handover leaves the sequence as it is, or ends the session. -/
theorem continues_of_stop (stop : Stop EncodeError) (noted : after.handovers = before.handovers)
    (kept : after = before ∨ after.status ≠ .active) :
    Continues config sps accepted feedings before (.error stop) after [] := by
  refine ⟨noted.trans (List.append_nil _).symm, fun interlaced _ _ =>
    ⟨fun _ member => absurd member List.not_mem_nil, fun _ active => ?_, fun _ same => ?_⟩⟩
  · rcases kept with rfl | ended
    · exact interlaced
    · exact absurd active ended
  · cases same

/-- Feedings go on one after the other. -/
theorem Continues.next {numPics : Nat}
    (first : Continues config sps accepted [feeding] before (.ok numPics) between made)
    (active : between.status = .active)
    (second : Continues config sps accepted feedings between outcome after more) :
    Continues config sps accepted (feeding :: feedings) before (outcome.map (numPics + ·)) after
      (made ++ more) where
  noted := by rw [second.noted, first.noted, List.append_assoc]
  sequel := by
    intro interlaced arrive nothing
    rw [List.forall_mem_append] at nothing
    have earlier := first.sequel interlaced ⟨arrive.1, trivial⟩ nothing.1
    have reached := earlier.counted numPics rfl
    rw [filterMap_input_cons, List.filterMap_nil, List.append_nil] at reached
    have later := second.sequel (earlier.rests (by simp) active) (reached ▸ arrive.2) nothing.2
    refine ⟨List.forall_mem_append.mpr ⟨earlier.fieldwise, later.fieldwise⟩,
      fun answered => later.rests fun fault same => ?_, fun total same => ?_⟩
    · exact answered fault (by rw [same]; rfl)
    · cases answer : outcome with
      | error stop => rw [answer] at same; cases same
      | ok rest =>
        rw [later.counted rest answer, reached, filterMap_input_cons, List.length_append,
          Int.natCast_add, Int.add_assoc]

/-- A batch that is due consists of fields, whatever it comes to. That decides about the rest. -/
theorem continues_of_handover {compressor : Compressor κ γ η ρ}
    {desk loaded : Desk (Traced κ γ η ρ) γ η ρ} {found : Sps} (coded : config.fieldCoding = true)
    (loads : Loaded feeding desk loaded) (present : loaded.1.spsStore.get? spsId = some found)
    (noted : after.handovers =
      loaded.1.handovers ++ [handover compressor loaded found feeding.mode])
    (left : Interlaced config sps accepted 1 loaded.1 →
      (handover compressor loaded found feeding.mode).AdmitsNothing →
      ((∀ fault, outcome ≠ .error (.fault fault)) → after.status = .active →
        Interlaced config sps accepted 0 after) ∧
      ∀ numPics, outcome = .ok numPics →
        after.bench.ring.pocLast = loaded.1.bench.ring.pocLast) :
    ∃ made, Continues config sps accepted [feeding] desk.1 outcome after made := by
  refine ⟨_, by rw [noted, handovers_of_loaded loads], fun interlaced arrive nothing => ?_⟩
  have ready := interlaced.receive loads arrive.1
  obtain ⟨rests, reached⟩ := left ready (List.forall_mem_singleton.mp nothing)
  refine ⟨List.forall_mem_singleton.mpr (ready.handed coded present feeding.mode), rests,
    fun numPics same => ?_⟩
  rw [reached numPics same, pocLast_of_loaded loads, filterMap_input_cons, List.filterMap_nil,
    List.append_nil]

end Continues

section Fed

variable (compressor : Compressor κ γ η ρ) (config : Config) (sps : Sps)
  (accepted : List (Frame × FieldOrder)) {desk : Desk (Traced κ γ η ρ) γ η ρ}

/-- A feeding goes on with the sequence. -/
theorem feed_continues {feeding : Feeding} (isField : feeding.mode ≠ .frame)
    (coded : config.fieldCoding = true) :
    ∃ made, Continues config sps accepted [feeding] desk.1
      (feed compressor.traced feeding desk).outcome
      (feed compressor.traced feeding desk).state.1 made := by
  have fed := feed_cases compressor.traced feeding desk
  generalize (feed compressor.traced feeding desk).outcome = outcome at fed
  generalize (feed compressor.traced feeding desk).state = state at fed
  cases fed with
  | refused input sps => exact ⟨[], continues_of_stop _ rfl (.inl rfl)⟩
  | unresolved id => exact ⟨[], continues_of_stop _ rfl (.inr fun same => by cases same)⟩
  | exhausted input given full =>
    exact ⟨[], continues_of_stop _ rfl (.inr fun same => by cases same)⟩
  | waited loaded loads notDue =>
    refine ⟨[], by rw [handovers_of_loaded loads, List.append_nil], fun interlaced arrive _ =>
      ⟨fun _ member => absurd member List.not_mem_nil, fun _ _ => ?_, fun _ _ => ?_⟩⟩
    · exact (interlaced.receive loads arrive.1).wait isField notDue
    · rw [pocLast_of_loaded loads, filterMap_input_cons, List.filterMap_nil, List.append_nil]
  | coded loaded found loads present due codes =>
    exact continues_of_handover coded loads present rfl fun ready nothing =>
      ⟨fun _ _ => ready.settle nothing, fun _ _ => nothing.pocLast⟩
  | failed loaded found error loads present due fails =>
    exact continues_of_handover coded loads present rfl fun _ _ =>
      ⟨fun _ active => (by cases active), fun _ same => by cases same⟩
  | faulted loaded found fault loads present due faults =>
    exact continues_of_handover coded loads present rfl fun _ _ =>
      ⟨fun answered => absurd rfl (answered fault), fun _ same => by cases same⟩

/-- Several fields continue the sequence together. -/
theorem feedAll_continues {feedings : List Feeding}
    (areFields : ∀ feeding ∈ feedings, feeding.mode ≠ .frame) (coded : config.fieldCoding = true)
    (active : desk.1.status = .active) :
    ∃ made, Continues config sps accepted feedings desk.1
      (feedAll compressor.traced feedings desk).outcome
      (feedAll compressor.traced feedings desk).state.1 made := by
  induction feedings generalizing desk with
  | nil =>
    exact ⟨[], (List.append_nil _).symm, fun interlaced _ _ =>
      ⟨fun _ member => absurd member List.not_mem_nil, fun _ _ => interlaced,
        fun _ _ => (Int.add_zero _).symm⟩⟩
  | cons feeding later inductionHypothesis =>
    rw [List.forall_mem_cons] at areFields
    obtain ⟨made, first⟩ := feed_continues compressor config sps accepted areFields.1 coded
    cases answer : (feed compressor.traced feeding desk).outcome with
    | error stop =>
      obtain ⟨outcome, state⟩ := feedAll_cons_of_error compressor.traced later answer
      rw [answer] at first
      rw [outcome, state]
      refine ⟨made, first.noted, fun interlaced arrive nothing => ?_⟩
      have sequel := first.sequel interlaced ⟨arrive.1, trivial⟩ nothing
      exact ⟨sequel.fieldwise, sequel.rests, fun _ same => by cases same⟩
    | ok numPics =>
      obtain ⟨outcome, state⟩ := feedAll_cons_of_ok compressor.traced later answer
      have status := (received_feed_of_ok compressor.traced feeding desk answer).2.trans active
      obtain ⟨more, rest⟩ := inductionHypothesis areFields.2 status
      rw [answer] at first
      rw [outcome, state]
      exact ⟨made ++ more, first.next status rest⟩

end Fed

end Session

end EncoderControl
