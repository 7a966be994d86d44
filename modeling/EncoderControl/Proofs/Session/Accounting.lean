import EncoderControl.Proofs.Session.Books

/-!
# Accounting for pictures

Frames and fields follow different rules as to when a batch is due, calls of both kinds may be
mixed, and any of them may be refused or stop halfway. The books of the session are in order all the
same after each call, and the batches of a whole run follow one another without a gap.
-/

namespace EncoderControl

namespace Session

variable {κ γ η ρ : Type} {gopSize : Nat}

/-! ### Calls -/

section Calls

variable (gopSize : Nat) (compressor : Compressor κ γ η ρ) {flush fields : Bool}
  {desk : Desk (Traced κ γ η ρ) γ η ρ}

/-- Feedings account for what they do together. -/
theorem feedAll_accounts {feedings : List Feeding}
    (parts : ∀ feeding ∈ feedings, feeding.PartOf flush fields) (active : desk.1.status = .active)
    (coded : fields = true → desk.1.config.fieldCoding = true) :
    ∃ made, Accounts gopSize flush fields desk.1
      (feedAll compressor.traced feedings desk).outcome
      (feedAll compressor.traced feedings desk).state.1 made := by
  induction feedings generalizing desk with
  | nil =>
    refine ⟨[], (List.append_nil _).symm, fun books settled _ => ?_⟩
    refine .ofNone books (fun _ => settled) ?_
    rintro numPics ⟨⟩
    exact ⟨active, rfl⟩
  | cons feeding later inductionHypothesis =>
    rw [List.forall_mem_cons] at parts
    obtain ⟨made, first⟩ := feed_accounts gopSize compressor parts.1 active coded
    cases answer : (feed compressor.traced feeding desk).outcome with
    | error stop =>
      obtain ⟨outcome, state⟩ := feedAll_cons_of_error compressor.traced later answer
      rw [outcome, state]
      rw [answer] at first
      exact ⟨made, first⟩
    | ok numPics =>
      obtain ⟨outcome, state⟩ := feedAll_cons_of_ok compressor.traced later answer
      have status := (received_feed_of_ok compressor.traced feeding desk answer).2
      have config := (keepsSettings_feed compressor.traced feeding desk).config
      obtain ⟨more, rest⟩ := inductionHypothesis parts.2 (status.trans active)
        (by rwa [config])
      rw [outcome, state]
      rw [answer] at first
      exact ⟨made ++ more, first.next rest⟩

/-- The feedings of a call flush as the call does, and take what it takes. -/
theorem Call.partOf_of_mem_feedings {call : Call} {feeding : Feeding}
    (member : feeding ∈ call.feedings) : feeding.PartOf call.flushes call.takesFields := by
  cases call with
  | encode input flush =>
    rw [List.mem_singleton.mp member]
    exact ⟨rfl, .inl rfl⟩
  | tune tunings => exact absurd member List.not_mem_nil
  | encodeFields input flush order =>
    have pair {first second : Option Frame}
        (among : feeding ∈ [fieldFeeding flush order 0 first, fieldFeeding flush order 1 second]) :
        feeding.PartOf flush true := by
      rcases List.mem_pair.mp among with rfl | rfl <;> exact ⟨rfl, .inr rfl⟩
    cases input with
    | none => exact pair member
    | some frame =>
      rw [Call.feedings] at member
      split at member
      · exact pair member
      · exact absurd member List.not_mem_nil

/-- A call accounts for what it does. -/
theorem perform_accounts (call : Call) (desk : Desk (Traced κ γ η ρ) γ η ρ) :
    ∃ made, Accounts gopSize call.flushes call.takesFields desk.1
      (perform compressor.traced call desk).outcome
      (perform compressor.traced call desk).state.1 made := by
  have performed := perform_cases compressor.traced call desk
  generalize (perform compressor.traced call desk).outcome = outcome at performed
  generalize (perform compressor.traced call desk).state = state at performed
  cases performed with
  | upfront call kind => exact ⟨[], accounts_of_stop _ (.inl rfl)⟩
  | fed call active suits =>
    exact feedAll_accounts gopSize compressor (fun feeding => Call.partOf_of_mem_feedings) active
      fun takesFields => (suits takesFields).1
  | tuned tunings present sps active =>
    refine ⟨[], (List.append_nil _).symm, fun books settled _ => .ofNone ?_ ?_ ?_⟩
    · exact ⟨books.gop, books.fields, books.balanced, books.adjoining⟩
    · exact fun _ _ => ⟨(settled active).waiting, (settled active).adjoining⟩
    · rintro numPics ⟨⟩
      exact ⟨active, rfl⟩

end Calls

/-! ### Flushing -/

section Flushing

variable (compressor : Compressor κ γ η ρ) {desk : Desk κ γ η ρ} {numPics : Nat}

/-- A feeding after which nothing waits: it flushes and is not followed by a second field. -/
structure Feeding.Closing (feeding : Feeding) : Prop where
  flush : feeding.flush = true
  last : feeding.mode = .frame ∨ feeding.fieldNum = 1

/-- Nothing waits after a closing feeding that succeeds. -/
theorem pending_feed_of_closing {feeding : Feeding} (closing : feeding.Closing)
    (succeeds : (feed compressor feeding desk).outcome = .ok numPics) :
    (feed compressor feeding desk).state.1.scheduler.pending = 0 := by
  have fed := feed_cases compressor feeding desk
  rw [succeeds] at fed
  generalize (feed compressor feeding desk).state = state at fed
  cases fed with
  | waited loaded loads notDue =>
    exact Feeding.pending_eq_zero_of_not_isDue closing.flush closing.last notDue
  | coded => rfl

/-- Nothing waits after several feedings that succeed, the last one closing. -/
theorem pending_feedAll_of_closing {feedings : List Feeding} {last : Feeding}
    (isLast : feedings.getLast? = some last) (closing : last.Closing)
    (succeeds : (feedAll compressor feedings desk).outcome = .ok numPics) :
    (feedAll compressor feedings desk).state.1.scheduler.pending = 0 := by
  induction feedings generalizing desk numPics with
  | nil => cases isLast
  | cons feeding later inductionHypothesis =>
    cases answer : (feed compressor feeding desk).outcome with
    | error stop =>
      rw [(feedAll_cons_of_error compressor later answer).1] at succeeds
      cases succeeds
    | ok first =>
      obtain ⟨outcome, state⟩ := feedAll_cons_of_ok compressor later answer
      rw [state]
      cases later with
      | nil =>
        have same : feeding = last := Option.some.inj isLast
        exact pending_feed_of_closing compressor (same ▸ closing) answer
      | cons second others =>
        rw [List.getLast?_cons_cons] at isLast
        rw [outcome] at succeeds
        cases rest : (feedAll compressor (second :: others)
            (feed compressor feeding desk).state).outcome with
        | error stop => rw [rest] at succeeds; cases succeeds
        | ok value => exact inductionHypothesis isLast rest

/-- The last feeding of a call that flushes is a closing one. -/
theorem Call.closing_of_getLast? {call : Call} {last : Feeding} (flushes : call.flushes = true)
    (isLast : call.feedings.getLast? = some last) : last.Closing := by
  cases call with
  | encode input flush =>
    rw [← Option.some.inj isLast]
    exact ⟨flushes, .inl rfl⟩
  | tune tunings => cases isLast
  | encodeFields input flush order =>
    have second {top bottom : Option Frame}
        (pair : [fieldFeeding flush order 0 top, fieldFeeding flush order 1 bottom].getLast? =
          some last) : last.Closing := by
      rw [← Option.some.inj pair]
      exact ⟨flushes, .inr rfl⟩
    cases input with
    | none => exact second isLast
    | some frame =>
      rw [Call.feedings] at isLast
      split at isLast
      · exact second isLast
      · cases isLast

/-- No picture waits after a call that flushes the session and succeeds. -/
theorem pending_perform_of_flushes {call : Call} (flushes : call.flushes = true)
    (succeeds : (perform compressor call desk).outcome = .ok numPics) :
    (perform compressor call desk).state.1.scheduler.pending = 0 := by
  have performed := perform_cases compressor call desk
  rw [succeeds] at performed
  generalize outcomeIs : Except.ok numPics = outcome at performed
  generalize (perform compressor call desk).state = state at performed
  cases performed with
  | upfront call kind => cases outcomeIs
  | fed call active suits =>
    have some : call.feedings ≠ [] := by
      cases call with
      | encode input flush => simp [Call.feedings]
      | encodeFields input flush order => exact (suits rfl).2
      | tune tunings => cases flushes
    have isLast := List.getLast?_eq_some_getLast some
    exact pending_feedAll_of_closing compressor isLast (Call.closing_of_getLast? flushes isLast)
      outcomeIs.symm
  | tuned tunings present sps => cases flushes

end Flushing

/-! ### Runs -/

/-- The handovers that a call made. -/
def Turn.handovers (turn : Turn (Traced κ γ η ρ) γ η ρ) : List (Handover κ γ η ρ) :=
  turn.reply.state.1.handovers.drop turn.before.1.handovers.length

/-- What is true of a call of a run, whatever became of it: each picture admitted so far is coded or
waits. The batches of the call have at least one picture and at most a GOP, and less than that only
for a reason. An answer is the number of pictures that the call coded, and then no GOP is left
waiting, or nothing at all after flushing and without a GOP. -/
structure Turn.Accounted (gopSize : Nat) (turn : Turn (Traced κ γ η ρ) γ η ρ) : Prop where
  balanced : turn.reply.state.1.bench.ring.pocLast + 1 =
    turn.reply.state.1.scheduler.numCoded + turn.reply.state.1.scheduler.pending
  sized : 1 ≤ gopSize → ∀ handover ∈ turn.handovers,
    1 ≤ handover.batch.numPics ∧ handover.batch.numPics ≤ gopSize
  early : ∀ handover ∈ turn.handovers, handover.batch.numPics < gopSize →
    turn.call.flushes = true ∨ turn.call.takesFields = true ∧ handover.batch.pocLast = 1
  answer : ∀ numPics, turn.reply.outcome = .ok numPics →
    turn.reply.state.1.scheduler.numCoded = turn.before.1.scheduler.numCoded + numPics
  waiting : ∀ numPics, turn.reply.outcome = .ok numPics →
    if turn.call.flushes = true ∨ gopSize = 0 then turn.reply.state.1.scheduler.pending = 0
    else turn.reply.state.1.scheduler.pending < gopSize

section Runs

variable {compressor : Compressor κ γ η ρ}

/-- A call whose books are in order accounts for itself. -/
theorem Stretch.accounted {call : Call} {desk : Desk (Traced κ γ η ρ) γ η ρ}
    (stretch : Stretch gopSize call.flushes call.takesFields desk.1
      (perform compressor.traced call desk).outcome (perform compressor.traced call desk).state.1
      (Turn.handovers ⟨call, desk, perform compressor.traced call desk⟩)) :
    Turn.Accounted gopSize ⟨call, desk, perform compressor.traced call desk⟩ where
  balanced := stretch.books.balanced
  sized gop handover member := by
    have sized := stretch.sized handover member
    rwa [Nat.max_eq_right gop] at sized
  early := stretch.early
  answer numPics succeeds := (stretch.answer numPics succeeds).2
  waiting numPics succeeds := by
    have outcome : (perform compressor.traced call desk).outcome = .ok numPics := succeeds
    have settled := stretch.settled (by simp [outcome]) (stretch.answer numPics outcome).1
    have waiting := settled.waiting
    split
    · rename_i nothingWaits
      rcases nothingWaits with flushes | noGop
      · exact pending_perform_of_flushes compressor.traced flushes outcome
      · rw [noGop] at waiting
        exact Nat.lt_one_iff.mp waiting
    · rename_i mayWait
      have gop : 1 ≤ gopSize := Nat.pos_of_ne_zero fun noGop => mayWait (.inr noGop)
      rwa [Nat.max_eq_right gop] at waiting

/-- The books after a run are in order, and each of its calls is accounted for. -/
theorem Runs.accounted {start desk : Desk (Traced κ γ η ρ) γ η ρ}
    {turns : List (Turn (Traced κ γ η ρ) γ η ρ)} (run : Runs compressor.traced start turns desk)
    (books : Books gopSize start.1) (settled : Settled gopSize start.1) :
    (∀ handover ∈ desk.1.handovers, handover.AdmitsNothing) →
      desk.1.handovers = start.1.handovers ++ turns.flatMap Turn.handovers ∧
      (∀ turn ∈ turns, turn.Accounted gopSize) ∧ Books gopSize desk.1 ∧
      ((∀ turn ∈ turns, turn.reply.Answered) → desk.1.status = .active →
        Settled gopSize desk.1) := by
  induction run with
  | start =>
    exact fun _ => ⟨(List.append_nil _).symm, fun _ member => absurd member List.not_mem_nil, books,
      fun _ _ => settled⟩
  | @call turns desk prior answered call inductionHypothesis =>
    intro nothing
    let turn : Turn (Traced κ γ η ρ) γ η ρ := ⟨call, desk, perform compressor.traced call desk⟩
    obtain ⟨made, accounts⟩ := perform_accounts gopSize compressor call desk
    have those : turn.handovers = made := by
      rw [Turn.handovers, accounts.noted, List.drop_left]
    -- What the compressor did is known of all handovers at the end, so also of those made before.
    rw [accounts.noted, List.forall_mem_append] at nothing
    obtain ⟨noted, accounted, inOrder, rests⟩ := inductionHypothesis nothing.1
    have stretch := accounts.stretch inOrder (rests answered) nothing.2
    refine ⟨?_, ?_, stretch.books, fun all => ?_⟩
    · rw [accounts.noted, noted, List.flatMap_append, List.flatMap_singleton, those,
        List.append_assoc]
    · rw [List.forall_mem_append, List.forall_mem_singleton]
      rw [← those] at stretch
      exact ⟨accounted, stretch.accounted⟩
    · exact stretch.settled (all turn (List.mem_append_right _ (List.mem_singleton_self _)))

end Runs

/-- The books of a new session are in order, and empty. -/
theorem books_of_create [CostEvaluator γ] {config : Config} {own : κ} {factory : LaneFactory γ η}
    {session : Session (Traced κ γ η ρ) γ η}
    (created : (create config (own, []) factory).outcome = .ok session) :
    session.handovers = [] ∧ Books config.gopSize session ∧ Settled config.gopSize session := by
  have fields := gop_of_create created
  obtain ⟨plan, sps, ppsStore, lanes, -, -, -, rfl⟩ := exists_of_create created
  refine ⟨rfl, ⟨rfl, fields, rfl, 0, .nil⟩, ?_, .nil⟩
  exact Nat.lt_of_lt_of_le Nat.zero_lt_one (Nat.le_max_left ..)

/-- All pictures are accounted for. For every configuration that a session is created from, and for
all calls that code frames and fields or change the rate settings, in any order: if the compressor
never admits pictures, then after each call, failed ones included, every picture admitted is coded
or waits, and the call kept to the sizes of batches and answered with what it coded. The batches of
all calls adjoin, each one starting right after the one before it, and as long as the session is
active they end with the last picture that is coded. -/
theorem batches_account_for_pictures [CostEvaluator γ] (compressor : Compressor κ γ η ρ)
    (config : Config) (own : κ) (factory : LaneFactory γ η)
    {session : Session (Traced κ γ η ρ) γ η}
    (created : (create config (own, []) factory).outcome = .ok session) (output : List ρ)
    {turns : List (Turn (Traced κ γ η ρ) γ η ρ)} {desk : Desk (Traced κ γ η ρ) γ η ρ}
    (run : Runs compressor.traced (session, output) turns desk)
    (nothing : ∀ handover ∈ desk.1.handovers, handover.AdmitsNothing) :
    (∀ turn ∈ turns, turn.Accounted config.gopSize) ∧
      desk.1.handovers = turns.flatMap Turn.handovers ∧
      (∃ next, Adjoining desk.1.batches next) ∧
      ((∀ turn ∈ turns, turn.reply.Answered) → desk.1.status = .active →
        Adjoining desk.1.batches desk.1.scheduler.numCoded) := by
  obtain ⟨untraced, books, settled⟩ := books_of_create created
  obtain ⟨noted, accounted, inOrder, rests⟩ := run.accounted books settled nothing
  rw [untraced, List.nil_append] at noted
  exact ⟨accounted, noted, inOrder.adjoining, fun answered active =>
    (rests answered active).adjoining⟩

/-- Three frames are coded in a batch of two and, upon flushing, a batch of one. -/
theorem batches_account_for_pictures_smallCalls :
    (∀ turn ∈ turnsOf releasing.traced smallDesk smallCalls, turn.Accounted 2) ∧
      Adjoining (deskAfter releasing.traced smallDesk smallCalls).1.batches
        (deskAfter releasing.traced smallDesk smallCalls).1.scheduler.numCoded ∧
      (deskAfter releasing.traced smallDesk smallCalls).1.batches.map Batch.numPics = [2, 1] := by
  obtain ⟨accounted, -, -, adjoining⟩ :=
    batches_account_for_pictures releasing smallConfig () plainFactory (create_smallConfig _) []
      runs_smallCalls fun handover member => ⟨_, edits_releasing member⟩
  have answered : ∀ turn ∈ turnsOf releasing.traced smallDesk smallCalls, turn.reply.Answered := by
    decide +kernel
  have active : (deskAfter releasing.traced smallDesk smallCalls).1.status = .active := by
    decide +kernel
  exact ⟨accounted, adjoining answered active, by decide +kernel⟩

end Session

end EncoderControl
