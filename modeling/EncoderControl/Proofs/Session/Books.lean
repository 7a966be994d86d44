import EncoderControl.Proofs.Session.Handovers

/-!
# The books of a session

Every picture that was admitted is either coded or waits, and the batches handed over so far cover
the output positions from zero on without a gap. What a `Stretch` of feedings does to these books is
said once, so that the feedings of a call, and the calls of a run, add up. A single feeding is one,
whatever it comes to.
-/

namespace EncoderControl

/-- The compressor did nothing to the ring that admits a picture. -/
def Handover.AdmitsNothing {κ γ η ρ : Type} (handover : Handover κ γ η ρ) : Prop :=
  ∃ edits : List RingEdit, handover.left.1.ring = handover.found.1.ring.editAll edits

/-- A compressor that admits nothing leaves the last output position. -/
theorem Handover.AdmitsNothing.pocLast {κ γ η ρ : Type} {handover : Handover κ γ η ρ}
    (nothing : handover.AdmitsNothing) :
    handover.left.1.ring.pocLast = handover.found.1.ring.pocLast := by
  obtain ⟨edits, edited⟩ := nothing
  rw [edited, (PictureRing.shape_editAll ..).1]

/-- Output position of the first picture of a batch. -/
def Batch.pocFirst (batch : Batch) : Int :=
  batch.pocLast - batch.numPics + 1

/-- Batches that cover the output positions from zero up to `next`, each one starting right after
the one before it. -/
inductive Adjoining : List Batch → Int → Prop where
  | nil : Adjoining [] 0
  | snoc {batches : List Batch} {next : Int} {batch : Batch} (prior : Adjoining batches next)
      (starts : batch.pocFirst = next) : Adjoining (batches ++ [batch]) (batch.pocLast + 1)

namespace Session

variable {κ γ η ρ : Type} {gopSize : Nat}

/-- All batches that were handed over to the compressor of a session. -/
def batches (session : Session (Traced κ γ η ρ) γ η) : List Batch :=
  session.handovers.map Handover.batch

/-- The books of a session are in order: whatever was admitted is coded or waits, and the batches
handed over adjoin. -/
structure Books (gopSize : Nat) (session : Session (Traced κ γ η ρ) γ η) : Prop where
  gop : session.scheduler.gopSize = gopSize
  fields : session.config.fieldCoding = true → 1 ≤ gopSize
  balanced : session.bench.ring.pocLast + 1 =
    session.scheduler.numCoded + session.scheduler.pending
  adjoining : ∃ next, Adjoining session.batches next

/-- All batches handed over are coded, and no GOP waits. Without a GOP nothing does. -/
structure Settled (gopSize : Nat) (session : Session (Traced κ γ η ρ) γ η) : Prop where
  waiting : session.scheduler.pending < max 1 gopSize
  adjoining : Adjoining session.batches session.scheduler.numCoded

/-- A picture may have come to a settled session, and a batch may be due. -/
structure Ready (gopSize : Nat) (session : Session (Traced κ γ η ρ) γ η) : Prop where
  books : Books gopSize session
  waiting : session.scheduler.pending ≤ max 1 gopSize
  adjoining : Adjoining session.batches session.scheduler.numCoded

/-! ### Admission and coding -/

section Feeding

variable {compressor : Compressor κ γ η ρ} {feeding : Feeding}
  {desk after : Desk (Traced κ γ η ρ) γ η ρ}

/-- A settled session is ready once a picture was admitted, or none came. -/
theorem Settled.ready (settled : Settled gopSize desk.1) (books : Books gopSize desk.1)
    (loads : Loaded feeding desk after) : Ready gopSize after.1 := by
  cases loads with
  | idle nothing => exact ⟨books, settled.waiting.le, settled.adjoining⟩
  | admitted input sps pps placement given present chosen fits placed =>
    have pocLast : (admitting desk sps pps placement input feeding.field).1.bench.ring.pocLast =
        desk.1.bench.ring.pocLast + 1 := PictureRing.pocLast_accept ..
    refine ⟨⟨books.gop, books.fields, ?_, books.adjoining⟩, settled.waiting, settled.adjoining⟩
    rw [pocLast, books.balanced]
    exact Int.add_assoc ..

/-- An admission codes nothing. -/
theorem numCoded_of_loaded (loads : Loaded feeding desk after) :
    after.1.scheduler.numCoded = desk.1.scheduler.numCoded := by
  cases loads <;> rfl

/-- The batch of all that waits starts where the batches before it end. -/
theorem Ready.handed (ready : Ready gopSize desk.1) (sps : Sps) (mode : CodingMode) :
    Adjoining (desk.1.batches ++ [(handover compressor desk sps mode).batch])
      (desk.1.bench.ring.pocLast + 1) := by
  refine .snoc ready.adjoining ?_
  have balanced := ready.books.balanced
  change desk.1.bench.ring.pocLast - (desk.1.scheduler.pending : Int) + 1 = _
  omega

/-- A handover that is noted adds its batch. -/
theorem batches_of_left {session : Session (Traced κ γ η ρ) γ η} {sps : Sps} {mode : CodingMode}
    (noted : session.handovers = desk.1.handovers ++ [handover compressor desk sps mode]) :
    session.batches = desk.1.batches ++ [(handover compressor desk sps mode).batch] := by
  rw [batches, noted, List.map_append, List.map_singleton, ← batches]

/-- A batch that stops leaves the books in order. What waited goes on waiting. -/
theorem Ready.books_halting (ready : Ready gopSize desk.1) {sps : Sps} {mode : CodingMode}
    (nothing : (handover compressor desk sps mode).AdmitsNothing) :
    Books gopSize (halting desk (handOver compressor.traced desk sps mode).state).1 where
  gop := ready.books.gop
  fields := ready.books.fields
  balanced := (congrArg (· + 1) nothing.pocLast).trans ready.books.balanced
  adjoining := by
    rw [batches_of_left rfl]
    exact ⟨_, ready.handed sps mode⟩

/-- A batch that is coded moves what waited to what is coded. -/
theorem Ready.books_settling (ready : Ready gopSize desk.1) {sps : Sps} {mode : CodingMode}
    (nothing : (handover compressor desk sps mode).AdmitsNothing) :
    Books gopSize (settling desk (handOver compressor.traced desk sps mode).state).1 ∧
      Settled gopSize (settling desk (handOver compressor.traced desk sps mode).state).1 := by
  let settled := (settling desk (handOver compressor.traced desk sps mode).state).1
  have halted := ready.books_halting nothing
  have numCoded : (settled.scheduler.numCoded : Int) = desk.1.bench.ring.pocLast + 1 :=
    (Int.natCast_add ..).trans ready.books.balanced.symm
  have pocLast : settled.bench.ring.pocLast = desk.1.bench.ring.pocLast := nothing.pocLast
  refine ⟨⟨halted.gop, halted.fields, ?_, halted.adjoining⟩, ?_, ?_⟩
  · change settled.bench.ring.pocLast + 1 = settled.scheduler.numCoded + ((0 : Nat) : Int)
    rw [numCoded, pocLast, Int.natCast_zero, Int.add_zero]
  · exact Nat.lt_of_lt_of_le Nat.zero_lt_one (Nat.le_max_left ..)
  · have noted : settled.batches = desk.1.batches ++ [(handover compressor desk sps mode).batch] :=
      batches_of_left rfl
    rw [noted, numCoded]
    exact ready.handed sps mode

end Feeding

/-! ### Stretches -/

/-- What a part of a call comes to, in which the handovers `made` were made: the books are in order,
no batch is empty or larger than a GOP, or smaller without a reason, and an answer is the number of
pictures coded. Only a fault leaves a session active that is not settled. -/
structure Stretch (gopSize : Nat) (flush fields : Bool) (before : Session (Traced κ γ η ρ) γ η)
    (outcome : Except (Stop EncodeError) Nat) (after : Session (Traced κ γ η ρ) γ η)
    (made : List (Handover κ γ η ρ)) : Prop where
  books : Books gopSize after
  settled : (∀ fault, outcome ≠ .error (.fault fault)) → after.status = .active →
    Settled gopSize after
  sized : ∀ handover ∈ made, 1 ≤ handover.batch.numPics ∧ handover.batch.numPics ≤ max 1 gopSize
  early : ∀ handover ∈ made, handover.batch.numPics < gopSize →
    flush = true ∨ fields = true ∧ handover.batch.pocLast = 1
  answer : ∀ numPics, outcome = .ok numPics → after.status = .active ∧
    after.scheduler.numCoded = before.scheduler.numCoded + numPics

/-- A part of a call notes the handovers that it makes. If these admit no picture and the books were
in order before, it is a `Stretch`. -/
structure Accounts (gopSize : Nat) (flush fields : Bool) (before : Session (Traced κ γ η ρ) γ η)
    (outcome : Except (Stop EncodeError) Nat) (after : Session (Traced κ γ η ρ) γ η)
    (made : List (Handover κ γ η ρ)) : Prop where
  noted : after.handovers = before.handovers ++ made
  stretch : Books gopSize before → (before.status = .active → Settled gopSize before) →
    (∀ handover ∈ made, handover.AdmitsNothing) →
    Stretch gopSize flush fields before outcome after made

section Accounts

variable {flush fields : Bool} {before between after : Session (Traced κ γ η ρ) γ η}
  {outcome : Except (Stop EncodeError) Nat} {made more : List (Handover κ γ η ρ)}

/-- Where no batch was handed over, the books and the answer are all there is to a stretch. -/
theorem Stretch.ofNone (books : Books gopSize after)
    (settled : (∀ fault, outcome ≠ .error (.fault fault)) → after.status = .active →
      Settled gopSize after)
    (answer : ∀ numPics, outcome = .ok numPics → after.status = .active ∧
      after.scheduler.numCoded = before.scheduler.numCoded + numPics) :
    Stretch gopSize flush fields before outcome after [] where
  books := books
  settled := settled
  sized _ member := absurd member List.not_mem_nil
  early _ member := absurd member List.not_mem_nil
  answer := answer

/-- A stop before any handover leaves the books as they are. -/
theorem accounts_of_stop (stop : Stop EncodeError)
    (kept : after = before ∨ after = { before with status := .failed }) :
    Accounts gopSize flush fields before (.error stop) after [] := by
  rcases kept with rfl | rfl
  · refine ⟨(List.append_nil _).symm, fun books settled _ => .ofNone books (fun _ => settled) ?_⟩
    rintro numPics ⟨⟩
  · refine ⟨(List.append_nil _).symm, fun books _ _ => .ofNone ?_ ?_ ?_⟩
    · exact ⟨books.gop, books.fields, books.balanced, books.adjoining⟩
    · rintro - ⟨⟩
    · rintro numPics ⟨⟩

/-- One part of a call after the other adds up. -/
theorem Accounts.next {numPics : Nat}
    (first : Accounts gopSize flush fields before (.ok numPics) between made)
    (second : Accounts gopSize flush fields between outcome after more) :
    Accounts gopSize flush fields before (outcome.map (numPics + ·)) after (made ++ more) where
  noted := by rw [second.noted, first.noted, List.append_assoc]
  stretch := by
    intro books settled nothing
    rw [List.forall_mem_append] at nothing
    have earlier := first.stretch books settled nothing.1
    have later := second.stretch earlier.books (earlier.settled (by simp)) nothing.2
    refine ⟨later.books, fun answered => later.settled fun fault same => ?_, ?_, ?_, ?_⟩
    · exact answered fault (by rw [same]; rfl)
    · exact List.forall_mem_append.mpr ⟨earlier.sized, later.sized⟩
    · exact List.forall_mem_append.mpr ⟨earlier.early, later.early⟩
    · intro total same
      cases answer : outcome with
      | error stop => rw [answer] at same; cases same
      | ok rest =>
        rw [answer] at same
        obtain ⟨active, counted⟩ := later.answer rest answer
        have coded := (earlier.answer numPics rfl).2
        have sum : numPics + rest = total := Except.ok.inj same
        exact ⟨active, by omega⟩

end Accounts

/-! ### One feeding -/

/-- A feeding is part of a call with this flag that takes fields or frames. -/
structure Feeding.PartOf (flush fields : Bool) (feeding : Feeding) : Prop where
  flush_eq : feeding.flush = flush
  frame : feeding.mode = .frame ∨ fields = true

section Fed

variable {flush fields : Bool} {desk : Desk (Traced κ γ η ρ) γ η ρ}
  {after : Session (Traced κ γ η ρ) γ η} {outcome : Except (Stop EncodeError) Nat}

/-- A batch that is due is handed over whole, or for a reason. It is accounted for once it is known
in what order it leaves the books. -/
theorem accounts_of_handover {compressor : Compressor κ γ η ρ} {feeding : Feeding}
    {loaded : Desk (Traced κ γ η ρ) γ η ρ} (part : feeding.PartOf flush fields)
    (active : desk.1.status = .active) (loads : Loaded feeding desk loaded)
    (due : feeding.isDue loaded.1 = true) {sps : Sps}
    (noted : after.handovers = loaded.1.handovers ++ [handover compressor loaded sps feeding.mode])
    (left : Ready gopSize loaded.1 → (handover compressor loaded sps feeding.mode).AdmitsNothing →
      Books gopSize after ∧
        ((∀ fault, outcome ≠ .error (.fault fault)) → after.status = .active →
          Settled gopSize after))
    (answer : ∀ numPics, outcome = .ok numPics → after.status = .active ∧
      after.scheduler.numCoded = desk.1.scheduler.numCoded + numPics) :
    ∃ made, Accounts gopSize flush fields desk.1 outcome after made := by
  refine ⟨[handover compressor loaded sps feeding.mode], ?_, fun books settled nothing => ?_⟩
  · rw [noted, handovers_of_loaded loads]
  · have ready := (settled active).ready books loads
    obtain ⟨inOrder, nowSettled⟩ := left ready (List.forall_mem_singleton.mp nothing)
    refine ⟨inOrder, nowSettled, ?_, ?_, answer⟩
    · rw [List.forall_mem_singleton]
      exact ⟨Feeding.pending_pos_of_isDue due, ready.waiting⟩
    · rw [List.forall_mem_singleton]
      intro short
      rw [← ready.books.gop] at short
      rcases Feeding.early_of_isDue due short with flushed | ⟨notFrame, bootstrap⟩
      · exact .inl (part.flush_eq.symm.trans flushed)
      · exact .inr ⟨part.frame.resolve_left notFrame, bootstrap⟩

/-- A feeding accounts for what it does. -/
theorem feed_accounts (gopSize : Nat) (compressor : Compressor κ γ η ρ) {feeding : Feeding}
    (part : feeding.PartOf flush fields) (active : desk.1.status = .active)
    (coded : fields = true → desk.1.config.fieldCoding = true) :
    ∃ made, Accounts gopSize flush fields desk.1 (feed compressor.traced feeding desk).outcome
      (feed compressor.traced feeding desk).state.1 made := by
  have fed := feed_cases compressor.traced feeding desk
  generalize (feed compressor.traced feeding desk).outcome = outcome at fed
  generalize (feed compressor.traced feeding desk).state = state at fed
  cases fed with
  | refused input sps => exact ⟨[], accounts_of_stop _ (.inl rfl)⟩
  | unresolved id => exact ⟨[], accounts_of_stop _ (.inr rfl)⟩
  | exhausted input given full => exact ⟨[], accounts_of_stop _ (.inr rfl)⟩
  | waited loaded loads notDue =>
    refine ⟨[], by rw [handovers_of_loaded loads, List.append_nil], fun books settled _ => ?_⟩
    have ready := (settled active).ready books loads
    have taken : feeding.mode = .frame ∨ 1 ≤ gopSize :=
      part.frame.imp_right fun isField => books.fields (coded isField)
    have waiting := ready.waiting
    rw [← ready.books.gop] at taken waiting
    have lacks := Feeding.pending_lt_of_not_isDue notDue waiting taken
    rw [ready.books.gop] at lacks
    refine .ofNone ready.books (fun _ _ => ⟨lacks, ready.adjoining⟩) ?_
    rintro numPics ⟨⟩
    exact ⟨(status_of_loaded loads).trans active, numCoded_of_loaded loads⟩
  | coded loaded sps loads present due codes =>
    refine accounts_of_handover part active loads due rfl (fun ready nothing => ?_) ?_
    · obtain ⟨inOrder, nowSettled⟩ := ready.books_settling nothing
      exact ⟨inOrder, fun _ _ => nowSettled⟩
    · rintro numPics ⟨⟩
      refine ⟨(status_of_loaded loads).trans active, ?_⟩
      rw [← numCoded_of_loaded loads]
      rfl
  | failed loaded sps error loads present due fails =>
    refine accounts_of_handover part active loads due rfl (fun ready nothing => ?_) ?_
    · have inOrder := ready.books_halting nothing
      refine ⟨⟨inOrder.gop, inOrder.fields, inOrder.balanced, inOrder.adjoining⟩, ?_⟩
      rintro - ⟨⟩
    · rintro numPics ⟨⟩
  | faulted loaded sps fault loads present due faults =>
    refine accounts_of_handover part active loads due rfl (fun ready nothing => ?_) ?_
    · exact ⟨ready.books_halting nothing, fun answered => absurd rfl (answered fault)⟩
    · rintro numPics ⟨⟩

end Fed

end Session

end EncoderControl
