import EncoderControl.Proofs.ReferenceSet.Selection
import EncoderControl.Proofs.Session.WaitingFields

/-!
# Sequences of fields

In a sequence of fields the output position of a picture tells which frame it comes from and which
of its fields it is. Nothing but the order of admissions ensures this: batches end within a frame
when the GOP has an odd size, flushes end them early, and rejected input comes in between. The first
frame is a batch of its own or ends one, so that the special set of its second field is out of the
way before any other frame comes.
-/

namespace EncoderControl

/-- What is true of a batch in a sequence of fields: it consists of the pictures admitted last, all
of them fields as they belong at their positions, and the first frame is never mixed with others.
The list of the sequence ends with the set of the first bottom field, which is chosen for the field
at position 1, and for no other one in its place. -/
structure Handover.CodesFields {κ γ η ρ : Type} (config : Config)
    (accepted : List (Frame × FieldOrder)) (handover : Handover κ γ η ρ) : Prop where
  positions : (handover.found.1.ring.latest handover.batch.numPics).map Picture.poc =
    PictureRing.positionsUpTo handover.batch.pocLast handover.batch.numPics
  fields : ∀ picture ∈ handover.found.1.ring.latest handover.batch.numPics,
    picture.IsFieldOf accepted
  apart : (∀ picture ∈ handover.found.1.ring.latest handover.batch.numPics, picture.poc ≤ 1) ∨
    ∀ picture ∈ handover.found.1.ring.latest handover.batch.numPics, 2 ≤ picture.poc
  appended : handover.batch.sps.referenceSets.length = config.gopSize + config.extraSets + 1 ∧
    handover.batch.sps.referenceSets[config.gopSize + config.extraSets]? =
      some .firstBottomField
  chosen : ∀ picture ∈ handover.found.1.ring.latest handover.batch.numPics, ∀ gopId,
    handover.batch.selector.select picture.poc gopId picture.fieldPic =
      if picture.poc = 1 then config.gopSize + config.extraSets
      else handover.batch.selector.resolveForSop picture.poc gopId
  others : ∀ poc gopId, gopId < config.gopSize + config.extraSets →
    handover.batch.selector.resolveForSop poc gopId < config.gopSize + config.extraSets

namespace SetSelector

variable {config : Config} {poc : Int} {gopId : Nat}

/-- Among fields, the one at position 1 is told apart. -/
theorem select_of_field (coded : config.fieldCoding = true) (poc : Int) (gopId : Nat) :
    (ofConfig config).select poc gopId true =
      if poc = 1 then config.gopSize + config.extraSets
      else (ofConfig config).resolveForSop poc gopId := by
  simp [select, ofConfig, coded]

/-- Other pictures have a set of the GOP or one of the extra entries. -/
theorem resolveForSop_lt (inTable : gopId < config.gopSize + config.extraSets) :
    (ofConfig config).resolveForSop poc gopId < config.gopSize + config.extraSets := by
  unfold resolveForSop
  split
  · rename_i place found
    have isExtra := (getElem?_extraPocs_eq_some_iff.mp (lastIndexOf?_eq_some found).1).1
    exact Nat.add_lt_add_left isExtra _
  · exact inTable

end SetSelector

/-- The list that is built for fields ends with the set of the first bottom field. -/
theorem ReferencePlan.getElem?_sets_of_fields {gopList : List GopEntry} {gopSize extraSets : Nat}
    {plan : ReferencePlan} (accepted : (build gopList gopSize extraSets true).outcome = .ok plan) :
    plan.sets.length = gopSize + extraSets + 1 ∧
      plan.sets[gopSize + extraSets]? = some .firstBottomField := by
  have counted : plan.sets.length = gopSize + extraSets + 1 := length_sets accepted
  have inside : gopSize + extraSets < plan.sets.length := by omega
  rcases sets_cases accepted (List.getElem?_eq_getElem inside) with ⟨within, -⟩ | ⟨-, -, isLast⟩
  · exact absurd within (Nat.lt_irrefl _)
  · exact ⟨counted, by rw [List.getElem?_eq_getElem inside, isLast]⟩

namespace Session

variable {κ γ η ρ : Type} {config : Config} {sps : Sps} {accepted : List (Frame × FieldOrder)}

/-! ### Calls -/

section Performed

variable (compressor : Compressor κ γ η ρ) {desk : Desk (Traced κ γ η ρ) γ η ρ}

/-- A call of which no field is admitted hands nothing over. -/
theorem received_or_turned_away (feeding : Feeding) (later : List Feeding) {input : Frame}
    (given : feeding.input = some input) (desk : Desk (Traced κ γ η ρ) γ η ρ) :
    let reply := feedAll compressor.traced (feeding :: later) desk
    desk.1.received < reply.state.1.received ∨
      reply.state.1.handovers = desk.1.handovers ∧
        (reply.state = desk ∨ reply.state.1.status ≠ .active) := by
  intro reply
  have through := received_feed_le_feedAll compressor.traced feeding later desk
  have one : feeding.input.toList.length = 1 := by rw [given]; rfl
  have fed := feed_cases compressor.traced feeding desk
  generalize answer : (feed compressor.traced feeding desk).outcome = outcome at fed
  generalize left : (feed compressor.traced feeding desk).state = state at fed through
  -- Whatever stops before the picture is admitted stops the call.
  have turnedAway {stop : Stop EncodeError}
      (stops : (feed compressor.traced feeding desk).outcome = .error stop) :
      reply.state = state :=
    (feedAll_cons_of_error compressor.traced later stops).2.trans left
  cases fed with
  | refused input sps => exact .inr (by rw [turnedAway answer]; exact ⟨rfl, .inl rfl⟩)
  | unresolved id =>
    exact .inr (by rw [turnedAway answer]; exact ⟨rfl, .inr fun same => by cases same⟩)
  | exhausted input given full =>
    exact .inr (by rw [turnedAway answer]; exact ⟨rfl, .inr fun same => by cases same⟩)
  | waited loaded loads =>
    have counted := received_of_loaded loads
    exact .inl (Nat.lt_of_lt_of_le (by omega) through)
  | coded loaded sps loads | failed loaded sps error loads | faulted loaded sps fault loads =>
    have counted := received_of_loaded loads
    simp only [received_settling, received_halting, received_ending] at through
    exact .inl (Nat.lt_of_lt_of_le (by omega) through)

/-- Both fields of the next frame come to the positions that are theirs. -/
theorem allArrive_fields {pocLast : Int} (counted : pocLast + 1 = 2 * accepted.length)
    {frame top bottom : Frame} (flush : Bool) (order : FieldOrder)
    (first : frame.field? (isTopField order 0) = some top)
    (second : frame.field? (isTopField order 1) = some bottom) :
    AllArrive (accepted ++ [(frame, order)]) pocLast
      [fieldFeeding flush order 0 (some top), fieldFeeding flush order 1 (some bottom)] := by
  refine ⟨?_, ?_, trivial⟩
  · rintro input ⟨⟩ picture position
    exact isFieldOf_withInput Nat.two_pos first (by rw [position, counted]; rfl)
  · rintro input ⟨⟩ picture position
    refine isFieldOf_withInput Nat.one_lt_two second ?_
    have one : (fieldFeeding flush order 0 (some top)).input.toList.length = 1 := rfl
    rw [position, one]
    omega

/-- Field input is coded as fields. -/
theorem Call.mode_of_mem_feedings {input : Option Frame} {flush : Bool} {order : FieldOrder}
    {feeding : Feeding} (member : feeding ∈ (Call.encodeFields input flush order).feedings) :
    feeding.mode ≠ .frame := by
  have pair {first second : Option Frame}
      (among : feeding ∈ [fieldFeeding flush order 0 first, fieldFeeding flush order 1 second]) :
      feeding.mode ≠ .frame := by
    rcases List.mem_pair.mp among with rfl | rfl <;> simp [fieldFeeding]
  cases input with
  | none => exact pair member
  | some frame =>
    rw [Call.feedings] at member
    split at member
    · exact pair member
    · exact absurd member List.not_mem_nil

/-- A call goes on with the sequence, in which the handovers `made` are made, and is one frame
further if it accepts its frame. -/
structure Turn.Proceeds (config : Config) (sps : Sps) (accepted : List (Frame × FieldOrder))
    (turn : Turn (Traced κ γ η ρ) γ η ρ) (made : List (Handover κ γ η ρ)) : Prop where
  noted : turn.reply.state.1.handovers = turn.before.1.handovers ++ made
  fieldwise : (∀ handover ∈ made, handover.AdmitsNothing) → ∀ handover ∈ made,
    Handover.Fieldwise config sps (accepted ++ turn.accepted) handover
  rests : (∀ handover ∈ made, handover.AdmitsNothing) → turn.reply.Answered →
    turn.reply.state.1.status = .active →
    Interlaced config sps (accepted ++ turn.accepted) 0 turn.reply.state.1

section Proceeds

variable {turn : Turn (Traced κ γ η ρ) γ η ρ}

/-- Without a frame and without a handover the sequence is as it was, or the session ended. -/
theorem proceeds_of_none (interlaced : Interlaced config sps accepted 0 turn.before.1)
    (noted : turn.reply.state.1.handovers = turn.before.1.handovers) (none : turn.accepted = [])
    (kept : turn.reply.state = turn.before ∨ turn.reply.state.1.status ≠ .active) :
    turn.Proceeds config sps accepted [] where
  noted := noted.trans (List.append_nil _).symm
  fieldwise _ _ member := absurd member List.not_mem_nil
  rests _ _ active := by
    rw [none, List.append_nil]
    rcases kept with same | ended
    · rwa [same]
    · exact absurd active ended

/-- A call that changes nothing leaves the sequence as it was. -/
theorem proceeds_of_kept (interlaced : Interlaced config sps accepted 0 turn.before.1)
    (kept : turn.reply.state = turn.before) : turn.Proceeds config sps accepted [] :=
  proceeds_of_none interlaced (by rw [kept]) (Turn.accepted_of_kept kept) (.inl kept)

/-- Feedings that go on with the sequence make a call that does. -/
theorem proceeds_of_continues (interlaced : Interlaced config sps accepted 0 turn.before.1)
    {feedings : List Feeding} {made : List (Handover κ γ η ρ)}
    (arrive : AllArrive (accepted ++ turn.accepted) turn.before.1.bench.ring.pocLast feedings)
    (continues : Continues config sps (accepted ++ turn.accepted) feedings turn.before.1
      turn.reply.outcome turn.reply.state.1 made) : turn.Proceeds config sps accepted made where
  noted := continues.noted
  fieldwise nothing := (continues.sequel (interlaced.append _) arrive nothing).fieldwise
  rests nothing := (continues.sequel (interlaced.append _) arrive nothing).rests

end Proceeds

/-- A call that takes fields goes on with the sequence. -/
theorem perform_proceeds {call : Call} (fields : call.takesFields = true)
    (active : desk.1.status = .active) (interlaced : Interlaced config sps accepted 0 desk.1)
    (counted : desk.1.bench.ring.pocLast + 1 = 2 * accepted.length) :
    ∃ made, Turn.Proceeds config sps accepted ⟨call, desk, perform compressor.traced call desk⟩
      made := by
  cases call with
  | encode input flush => cases fields
  | tune tunings => cases fields
  | encodeFields input flush order =>
    let turn : Turn (Traced κ γ η ρ) γ η ρ :=
      ⟨.encodeFields input flush order, desk,
        perform compressor.traced (.encodeFields input flush order) desk⟩
    by_cases coded : desk.1.config.fieldCoding = true
    swap
    · obtain ⟨-, state⟩ := perform_encodeFields_of_active compressor.traced input flush order active
      rw [if_neg coded] at state
      exact ⟨[], proceeds_of_kept interlaced state⟩
    rcases perform_encodeFields_of_fields compressor.traced input flush order active coded with
      ⟨-, -, -, -, -, state⟩ | ⟨taken, outcome, state⟩
    · exact ⟨[], proceeds_of_kept interlaced state⟩
    rw [interlaced.settings] at coded
    obtain ⟨made, continues⟩ := feedAll_continues compressor config sps
      (accepted ++ turn.accepted) (fun feeding => Call.mode_of_mem_feedings) coded active
    rw [← outcome, ← state] at continues
    cases input with
    | none =>
      refine ⟨made, proceeds_of_continues interlaced ?_ continues⟩
      exact ⟨fun _ same => (by cases same), fun _ same => (by cases same), trivial⟩
    | some frame =>
      rw [Call.feedings] at taken continues state
      split at taken
      swap
      · exact absurd rfl taken
      rename_i top bottom first second
      simp only [first, second] at continues state
      have arrived := received_or_turned_away compressor (fieldFeeding flush order 0 (some top))
        [fieldFeeding flush order 1 (some bottom)] rfl desk
      simp only [← state] at arrived
      by_cases more : desk.1.received < turn.reply.state.1.received
      · have accepts : turn.accepted = [(frame, order)] := if_pos more
        have arrive := allArrive_fields counted flush order (Frame.field?_of_takeField first)
          (Frame.field?_of_takeField second)
        rw [← accepts] at arrive
        exact ⟨made, proceeds_of_continues interlaced arrive continues⟩
      · obtain ⟨noted, kept⟩ := arrived.resolve_left more
        exact ⟨[], proceeds_of_none interlaced noted (if_neg more) kept⟩

end Performed

/-! ### Runs -/

/-- How a call numbers its pictures after `count` frames were accepted: those of the next frame come
to the two positions that follow. A call that succeeds accepts its frame, if it brings one, and one
that is refused for its input changes nothing. -/
structure Turn.Numbered (count : Nat) (turn : Turn κ γ η ρ) : Prop where
  before : turn.before.1.status = .active → turn.before.1.bench.ring.pocLast = 2 * (count : Int) - 1
  taken : ∀ numPics, turn.reply.outcome = .ok numPics → turn.accepted = turn.call.frames ∧
    turn.reply.state.1.bench.ring.pocLast =
      turn.before.1.bench.ring.pocLast + 2 * turn.call.frames.length
  rejected : ∀ defect, turn.reply.outcome = .error (.refused (.invalidInput defect)) →
    turn.accepted = [] ∧ turn.reply.state = turn.before

section Runs

variable {compressor : Compressor κ γ η ρ} {gopSize : Nat}
  {start desk : Desk (Traced κ γ η ρ) γ η ρ} {turns : List (Turn (Traced κ γ η ρ) γ η ρ)}

/-- All that was received has a position. -/
theorem Books.pocLast_eq {session : Session (Traced κ γ η ρ) γ η} (books : Books gopSize session) :
    session.bench.ring.pocLast + 1 = session.received := by
  rw [books.balanced, received, Nat.add_comm, Int.natCast_add]

/-- After two fields each, the next frame starts where it should. -/
theorem Runs.pocLast_eq (run : Runs compressor.traced start turns desk)
    (fields : ∀ turn ∈ turns, turn.call.takesFields = true) (books : Books gopSize start.1)
    (settled : Settled gopSize start.1) (new : start.1.received = 0)
    (nothing : ∀ handover ∈ desk.1.handovers, handover.AdmitsNothing)
    (answered : ∀ turn ∈ turns, turn.reply.Answered) (active : desk.1.status = .active) :
    desk.1.bench.ring.pocLast + 1 = 2 * (acceptedIn turns).length := by
  obtain ⟨-, -, inOrder, -⟩ := run.accounted books settled nothing
  rw [inOrder.pocLast_eq, run.received_eq fields new answered active, Int.natCast_mul]
  rfl

/-- A call numbers its pictures when the books are in order around it. -/
theorem numbered_perform {call : Call} {count : Nat} (fields : call.takesFields = true)
    (before : Books gopSize desk.1)
    (after : Books gopSize (perform compressor.traced call desk).state.1)
    (counted : desk.1.status = .active → desk.1.bench.ring.pocLast + 1 = 2 * count) :
    Turn.Numbered count ⟨call, desk, perform compressor.traced call desk⟩ where
  before active := by
    have reached := counted active
    exact (by omega : desk.1.bench.ring.pocLast = 2 * (count : Int) - 1)
  taken numPics succeeds := by
    obtain ⟨accepts, received⟩ := accepted_of_ok compressor.traced fields succeeds
    refine ⟨accepts, ?_⟩
    have reached := before.pocLast_eq
    have left := after.pocLast_eq
    dsimp only at received ⊢
    omega
  rejected defect refused := by
    have kept := (perform_of_rejection compressor.traced
      (isRejection_iff.mpr ⟨defect, refused⟩)).1
    exact ⟨Turn.accepted_of_kept kept, kept⟩

/-- The handovers of all calls but the last one are among all handovers. -/
theorem admitsNothing_of_perform {call : Call}
    (nothing : ∀ handover ∈ (perform compressor.traced call desk).state.1.handovers,
      handover.AdmitsNothing) : ∀ handover ∈ desk.1.handovers, handover.AdmitsNothing := by
  obtain ⟨made, accounts⟩ := perform_accounts 0 compressor call desk
  rw [accounts.noted, List.forall_mem_append] at nothing
  exact nothing.1

section FromStart

variable (books : Books gopSize start.1) (settled : Settled gopSize start.1)
  (new : start.1.received = 0)

include books settled new

/-- A run that only takes fields numbers its pictures frame by frame. -/
theorem Runs.numbered (run : Runs compressor.traced start turns desk)
    (fields : ∀ turn ∈ turns, turn.call.takesFields = true)
    (nothing : ∀ handover ∈ desk.1.handovers, handover.AdmitsNothing) (place : Nat)
    (turn : Turn (Traced κ γ η ρ) γ η ρ) (found : turns[place]? = some turn) :
    turn.Numbered (acceptedIn (turns.take place)).length := by
  induction run with
  | start => cases found
  | @call turns desk prior answered call inductionHypothesis =>
    rw [List.forall_mem_append, List.forall_mem_singleton] at fields
    have earlierNothing := admitsNothing_of_perform nothing
    rcases Nat.lt_or_ge place turns.length with earlier | last
    · rw [List.getElem?_append_left earlier] at found
      rw [List.take_append_of_le_length earlier.le]
      exact inductionHypothesis fields.1 earlierNothing found
    · rw [List.getElem?_append_right last, List.getElem?_singleton] at found
      split at found
      · have here : place = turns.length := by omega
        obtain rfl := Option.some.inj found
        rw [here, List.take_left]
        obtain ⟨-, -, before, -⟩ := prior.accounted books settled earlierNothing
        obtain ⟨-, -, after, -⟩ := (prior.call answered call).accounted books settled nothing
        exact numbered_perform fields.2 before after
          (prior.pocLast_eq fields.1 books settled new earlierNothing answered)
      · cases found

/-- A run that only takes fields hands over nothing else, and keeps them waiting as they belong at
their positions. -/
theorem Runs.interlaced (run : Runs compressor.traced start turns desk)
    (fields : ∀ turn ∈ turns, turn.call.takesFields = true)
    (initial : Interlaced config sps [] 0 start.1) (untraced : start.1.handovers = [])
    (nothing : ∀ handover ∈ desk.1.handovers, handover.AdmitsNothing) :
    (∀ handover ∈ desk.1.handovers, Handover.Fieldwise config sps (acceptedIn turns) handover) ∧
      ((∀ turn ∈ turns, turn.reply.Answered) → desk.1.status = .active →
        Interlaced config sps (acceptedIn turns) 0 desk.1) := by
  induction run with
  | start =>
    rw [untraced]
    exact ⟨fun _ member => absurd member List.not_mem_nil, fun _ _ => initial⟩
  | @call turns desk prior priorAnswered call inductionHypothesis =>
    let turn : Turn (Traced κ γ η ρ) γ η ρ := ⟨call, desk, perform compressor.traced call desk⟩
    rw [List.forall_mem_append, List.forall_mem_singleton] at fields
    have earlierNothing := admitsNothing_of_perform nothing
    obtain ⟨fieldwise, rests⟩ := inductionHypothesis fields.1 earlierNothing
    rw [acceptedIn_snoc]
    by_cases active : desk.1.status = .active
    · obtain ⟨made, proceeds⟩ := perform_proceeds compressor fields.2 active
        (rests priorAnswered active)
        (prior.pocLast_eq fields.1 books settled new earlierNothing priorAnswered active)
      have noted : (perform compressor.traced call desk).state.1.handovers =
        desk.1.handovers ++ made := proceeds.noted
      rw [noted, List.forall_mem_append] at nothing ⊢
      refine ⟨⟨fun handover member => (fieldwise handover member).append turn.accepted,
        proceeds.fieldwise nothing.2⟩, fun answered => proceeds.rests nothing.2 ?_⟩
      exact answered turn (List.mem_append_right _ (List.mem_singleton_self _))
    · have kept : (perform compressor.traced call desk).state = desk :=
        (perform_of_ended compressor.traced call active).2
      have none : turn.accepted = [] := Turn.accepted_of_kept kept
      rw [kept, none, List.append_nil]
      exact ⟨fieldwise, fun _ still => absurd still active⟩

end FromStart

end Runs

/-- A new session has no fields yet, and chooses among the sets of its sequence. -/
theorem interlaced_of_create [CostEvaluator γ] {own : κ} {factory : LaneFactory γ η}
    {session : Session κ γ η} (created : (create config own factory).outcome = .ok session) :
    ∃ plan sps, (ReferencePlan.build config.gopList config.gopSize config.extraSets
        config.fieldCoding).outcome = .ok plan ∧
      sps.referenceSets = plan.sets ∧ Interlaced config sps [] 0 session := by
  obtain ⟨plan, sps, ppsStore, lanes, planned, built, -, rfl⟩ := exists_of_create created
  refine ⟨plan, sps, planned, referenceSets_of_buildSps built, rfl, rfl, ?_, ?_, .inl ?_⟩
  · simp [ParameterStore.get?, ParameterStore.entry?, ParameterStore.insert,
      ParameterStore.empty, ParameterStore.insertEntry]
  · exact PictureRing.awaits_empty _ _
  · exact Int.neg_nonpos_of_nonneg Int.one_nonneg

/-- What a fieldwise handover means for the pictures of the batch. -/
theorem Handover.Fieldwise.codesFields {handover : Handover κ γ η ρ}
    (fieldwise : Handover.Fieldwise config sps accepted handover) {plan : ReferencePlan}
    (planned : (ReferencePlan.build config.gopList config.gopSize config.extraSets
      config.fieldCoding).outcome = .ok plan)
    (carries : sps.referenceSets = plan.sets) : handover.CodesFields config accepted := by
  obtain ⟨positions, fields⟩ := fieldwise.awaits.latest
  rw [← fieldwise.pocLast] at positions
  have placed {picture : Picture}
      (member : picture ∈ handover.found.1.ring.latest handover.batch.numPics) :
      handover.batch.pocLast - handover.batch.numPics < picture.poc ∧
        picture.poc ≤ handover.batch.pocLast := by
    have position := List.mem_map_of_mem (f := Picture.poc) member
    rw [positions] at position
    exact PictureRing.mem_positionsUpTo position
  refine ⟨positions, fields, ?_, ?_, fun picture member gopId => ?_, fun poc gopId inTable => ?_⟩
  · rcases fieldwise.apart with early | late
    · exact .inl fun picture member => (placed member).2.trans early
    · exact .inr fun picture member => by have := placed member; omega
  · rw [fieldwise.sps, carries]
    rw [fieldwise.coded] at planned
    exact ReferencePlan.getElem?_sets_of_fields planned
  · rw [fieldwise.selector, (fields picture member).fieldPic,
      SetSelector.select_of_field fieldwise.coded]
  · rw [fieldwise.selector]
    exact SetSelector.resolveForSop_lt inTable

/-- Fields belong to their frames. For every configuration that a session is created from, and for
all calls that take fields, whatever their flags and orders are and whether or not their inputs are
refused: if the compressor never admits pictures, then the two fields of frame `k` come to the
positions `2 * k` and `2 * k + 1`. Whenever a batch is handed over it consists of fields that were
separated from the frames of their positions and marked with their parity, up to the second field or
after it. That field, and no other, is given the set of the first bottom field. As long as the
session is active, the fields that wait are as they belong at their positions too, and the batches
so far adjoin up to them. -/
theorem fields_belong_to_frames [CostEvaluator γ] (compressor : Compressor κ γ η ρ)
    (config : Config) (own : κ) (factory : LaneFactory γ η)
    {session : Session (Traced κ γ η ρ) γ η}
    (created : (create config (own, []) factory).outcome = .ok session) (output : List ρ)
    {turns : List (Turn (Traced κ γ η ρ) γ η ρ)} {desk : Desk (Traced κ γ η ρ) γ η ρ}
    (run : Runs compressor.traced (session, output) turns desk)
    (fields : ∀ turn ∈ turns, turn.call.takesFields = true)
    (nothing : ∀ handover ∈ desk.1.handovers, handover.AdmitsNothing) :
    (∀ (place : Nat) (turn : Turn (Traced κ γ η ρ) γ η ρ), turns[place]? = some turn →
      turn.Numbered (acceptedIn (turns.take place)).length) ∧
    (∀ handover ∈ desk.1.handovers, handover.CodesFields config (acceptedIn turns)) ∧
    ((∀ turn ∈ turns, turn.reply.Answered) → desk.1.status = .active →
      desk.1.bench.ring.pocLast + 1 = 2 * (acceptedIn turns).length ∧
      Adjoining desk.1.batches desk.1.scheduler.numCoded ∧
      (desk.1.bench.ring.latest desk.1.scheduler.pending).map Picture.poc =
        PictureRing.positionsUpTo desk.1.bench.ring.pocLast desk.1.scheduler.pending ∧
      ∀ picture ∈ desk.1.bench.ring.latest desk.1.scheduler.pending,
        picture.IsFieldOf (acceptedIn turns)) := by
  obtain ⟨untraced, books, settled⟩ := books_of_create created
  obtain ⟨plan, sps, planned, carries, initial⟩ := interlaced_of_create created
  have new : session.received = 0 := by
    obtain ⟨_, _, _, _, -, -, -, rfl⟩ := exists_of_create created
    rfl
  obtain ⟨fieldwise, rests⟩ := run.interlaced books settled new fields initial untraced nothing
  refine ⟨run.numbered books settled new fields nothing,
    fun handover member => (fieldwise handover member).codesFields planned carries,
    fun answered active => ?_⟩
  obtain ⟨-, -, -, nowSettled⟩ := run.accounted books settled nothing
  exact ⟨run.pocLast_eq fields books settled new nothing answered active,
    (nowSettled answered active).adjoining, (rests answered active).awaits.latest⟩

/-- A small session that codes fields in groups of three. -/
def smallFieldSession (own : κ) : Session κ Unit Unit :=
  (create { smallConfig with fieldCoding := true, gopSize := 3 } own
    plainFactory).outcome.toOption.get rfl

/-- The small configuration for fields gives the small session for fields. -/
theorem create_smallFields (own : κ) :
    (create { smallConfig with fieldCoding := true, gopSize := 3 } own plainFactory).outcome =
      .ok (smallFieldSession own) := rfl

/-- Frames in both orders, one of which is refused. The last two make a group of three fields and
leave one field to the flush. -/
def interlacedCalls : List Call :=
  [.encodeFields (some fittingFrame) false .topFieldFirst,
    .encodeFields (some fittingFrame) false .bottomFieldFirst,
    .encodeFields (some misfitFrame) true .topFieldFirst,
    .encodeFields (some fittingFrame) false .topFieldFirst,
    .encodeFields none true .bottomFieldFirst]

/-- The fields of three frames, one of them with the bottom field first, are handed over in the
batches and at the positions that they belong to. -/
theorem fields_belong_to_frames_interlacedCalls :
    let start : Desk (Traced Unit Unit Unit Unit) Unit Unit Unit := (smallFieldSession ((), []), [])
    let turns := turnsOf releasing.traced start interlacedCalls
    let desk := deskAfter releasing.traced start interlacedCalls
    (acceptedIn turns).map Prod.snd = [.topFieldFirst, .bottomFieldFirst, .topFieldFirst] ∧
      desk.1.batches.map Batch.numPics = [2, 3, 1] ∧
      ∀ handover ∈ desk.1.handovers, handover.CodesFields
        { smallConfig with fieldCoding := true, gopSize := 3 } (acceptedIn turns) := by
  intro start turns desk
  have run : Runs releasing.traced start turns desk := .ofCalls _ _ _ (by decide +kernel)
  refine ⟨by decide +kernel, by decide +kernel, ?_⟩
  refine (fields_belong_to_frames releasing _ () plainFactory (create_smallFields _) [] run
    (by decide +kernel) fun handover member => ?_).2.1
  have untraced : start.1.handovers = [] := by decide +kernel
  have left := left_of_mem_handovers run untraced member
  exact ⟨handover.found.1.ring.handles.map .release, by rw [left]; rfl⟩

end Session

end EncoderControl
