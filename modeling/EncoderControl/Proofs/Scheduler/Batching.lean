import EncoderControl.Scheduler

/-!
# Batches that fail

A batch that cannot be coded goes on waiting, and the next submission asks for the same pictures
again. As long as one succeeds before another picture is admitted, batches keep to the GOP. A
picture that is admitted while a whole GOP waits takes the count past the size of the GOP, and the
count is only ever compared for equality: from then on nothing is handed over without flushing, and
what flushing hands over is larger than a GOP.

What is asked of a coding step is seen through a step that notes it.
-/

namespace EncoderControl

namespace Scheduler

variable {σ ε : Type}

/-! ### One submission -/

section Submit

variable {code : Nat → Operation σ ε Unit} {state : Scheduler × σ}

/-- A batch that is due is settled once it is coded. -/
theorem submit_true_of_ok (codes : (code state.1.pending state.2).outcome = .ok ()) :
    (submit true code state).outcome = .ok state.1.pending ∧
      (submit true code state).state =
        (state.1.settle, (code state.1.pending state.2).state) := by
  have part : (Operation.onPart Prod.snd (fun whole part => (whole.1, part))
      (code state.1.pending) state).outcome = .ok () := codes
  simp only [submit, if_true, Operation.read_bind_apply, Operation.log_bind_apply,
    Operation.bind_apply_of_ok part, Operation.update_bind_apply, Operation.pure_apply, true_and]
  rfl

/-- A batch that cannot be coded is not settled. -/
theorem submit_true_of_error {failure : ε}
    (fails : (code state.1.pending state.2).outcome = .error failure) :
    (submit true code state).outcome = .error failure ∧
      (submit true code state).state = (state.1, (code state.1.pending state.2).state) := by
  have part : (Operation.onPart Prod.snd (fun whole part => (whole.1, part))
      (code state.1.pending) state).outcome = .error failure := fails
  simp only [submit, if_true, Operation.read_bind_apply, Operation.log_bind_apply,
    Operation.bind_apply_of_error part, true_and]
  rfl

end Submit

/-- A coding step that also notes how many pictures it is asked for. -/
def noting (code : Nat → Operation σ ε Unit) (numPics : Nat) : Operation (List Nat × σ) ε Unit :=
  (code numPics).onPart Prod.snd fun whole left => (whole.1 ++ [numPics], left)

/-- A submission in frame coding: whether it flushes, and how a batch would be coded. -/
structure Submission (σ ε : Type) where
  flush : Bool
  code : Nat → Operation σ ε Unit

/-- What a submission came to. -/
structure Attempt (ε : Type) where
  flush : Bool
  /-- The counts before the submission. -/
  found : Scheduler
  /-- The counts after it. -/
  left : Scheduler
  /-- The numbers of pictures that the coding step was asked for, one for each batch. -/
  asked : List Nat
  outcome : Except ε Nat

namespace Submission

/-- Makes the submission. -/
def perform (submission : Submission σ ε) : Operation (Scheduler × σ) ε Nat :=
  submitFrame submission.flush submission.code

/-- What the submission comes to in a state. -/
def attempt (submission : Submission σ ε) (state : Scheduler × σ) : Attempt ε where
  flush := submission.flush
  found := state.1
  left := (submission.perform state).state.1
  asked :=
    (submitFrame submission.flush (noting submission.code) (state.1, [], state.2)).state.2.1
  outcome := (submission.perform state).outcome

end Submission

/-- The ways in which a submission ends: no batch is due, or all that waits is handed over and then
either coded or not. -/
inductive Attempted (flush : Bool) (found : Scheduler) : Attempt ε → Prop where
  | waited (notDue : found.isFrameBatchDue flush = false) :
      Attempted flush found ⟨flush, found, found, [], .ok 0⟩
  | coded (due : found.isFrameBatchDue flush = true) :
      Attempted flush found ⟨flush, found, found.settle, [found.pending], .ok found.pending⟩
  | failed (due : found.isFrameBatchDue flush = true) (failure : ε) :
      Attempted flush found ⟨flush, found, found, [found.pending], .error failure⟩

/-- A submission ends in one of the ways that `Attempted` lists. -/
theorem Submission.attempt_cases (submission : Submission σ ε) (state : Scheduler × σ) :
    Attempted submission.flush state.1 (submission.attempt state) := by
  unfold attempt perform submitFrame
  cases due : state.1.isFrameBatchDue submission.flush with
  | false => exact .waited due
  | true =>
    cases coded : (submission.code state.1.pending state.2).outcome with
    | ok =>
      have plain := @submit_true_of_ok _ _ submission.code state coded
      have noted := @submit_true_of_ok _ _ (noting submission.code) (state.1, [], state.2) coded
      rw [plain.1, plain.2, noted.2]
      exact .coded due
    | error failure =>
      have plain := @submit_true_of_error _ _ submission.code state _ coded
      have noted :=
        @submit_true_of_error _ _ (noting submission.code) (state.1, [], state.2) _ coded
      rw [plain.1, plain.2, noted.2]
      exact .failed due failure

namespace Attempt

/-- Batches keep to a GOP of this size: none is larger, and none is held back once a whole GOP
waits. -/
structure KeepsBatches (gopSize : Nat) (attempt : Attempt ε) : Prop where
  sized : ∀ numPics ∈ attempt.asked, numPics ≤ gopSize
  prompt : gopSize ≤ attempt.found.pending → attempt.asked ≠ []

/-- What holds of every submission: a batch is all that waits, and a whole GOP unless it is flushed;
and when it fails, it goes on waiting and nothing is counted. -/
structure Accounted (gopSize : Nat) (attempt : Attempt ε) : Prop where
  whole : ∀ numPics ∈ attempt.asked, numPics = attempt.found.pending ∧
    (attempt.flush = false → numPics = gopSize)
  unsettled : ∀ failure, attempt.outcome = .error failure → attempt.left = attempt.found

/-- The submission did not fail. -/
def Succeeds (attempt : Attempt ε) : Prop :=
  ∀ failure, attempt.outcome ≠ .error failure

end Attempt

section Attempted

variable {flush : Bool} {found : Scheduler} {attempt : Attempt ε}

/-- Without flushing, a batch is due exactly when a whole GOP waits. -/
theorem isFrameBatchDue_iff (hasGop : 1 ≤ found.gopSize) :
    found.isFrameBatchDue flush = true ↔
      flush = true ∧ 0 < found.pending ∨ found.pending = found.gopSize := by
  unfold isFrameBatchDue
  cases flush with
  | false => simp; omega
  | true => simp; omega

/-- A submission leaves the size of a GOP alone and admits nothing. -/
theorem Attempted.left_le (attempted : Attempted flush found attempt) :
    attempt.left.gopSize = found.gopSize ∧ attempt.left.pending ≤ found.pending := by
  cases attempted with
  | waited notDue => exact ⟨rfl, Nat.le_refl _⟩
  | coded due => exact ⟨rfl, Nat.zero_le _⟩
  | failed due failure => exact ⟨rfl, Nat.le_refl _⟩

/-- An attempt accounts for the pictures that it found. -/
theorem Attempted.accounted (attempted : Attempted flush found attempt)
    (hasGop : 1 ≤ found.gopSize) : attempt.Accounted found.gopSize := by
  have wholeGop (due : found.isFrameBatchDue flush = true) (noFlush : flush = false) :
      found.pending = found.gopSize := by
    rcases (isFrameBatchDue_iff hasGop).mp due with ⟨flushed, -⟩ | complete
    · rw [noFlush] at flushed
      cases flushed
    · exact complete
  cases attempted with
  | waited notDue =>
    refine ⟨?_, ?_⟩
    · rintro numPics ⟨⟩
    · rintro failure ⟨⟩
  | coded due =>
    refine ⟨?_, ?_⟩
    · intro numPics member
      obtain rfl := List.mem_singleton.mp member
      exact ⟨rfl, wholeGop due⟩
    · rintro failure ⟨⟩
  | failed due failure =>
    refine ⟨?_, fun _ _ => rfl⟩
    intro numPics member
    obtain rfl := List.mem_singleton.mp member
    exact ⟨rfl, wholeGop due⟩

/-- A submission keeps to the GOP exactly when no more than a GOP waits. Of more, a flush asks for
too much, and anything else asks for nothing. -/
theorem Attempted.keepsBatches_iff (attempted : Attempted flush found attempt)
    (hasGop : 1 ≤ found.gopSize) :
    attempt.KeepsBatches found.gopSize ↔ found.pending ≤ found.gopSize := by
  have handedOver {left : Scheduler} {outcome : Except ε Nat} :
      Attempt.KeepsBatches found.gopSize ⟨flush, found, left, [found.pending], outcome⟩ ↔
        found.pending ≤ found.gopSize := by
    constructor
    · intro keeps
      exact keeps.sized _ (List.mem_singleton_self _)
    · intro fits
      refine ⟨?_, fun _ => List.cons_ne_nil _ _⟩
      rwa [List.forall_mem_singleton]
  cases attempted with
  | waited notDue =>
    have lacks : found.pending ≠ found.gopSize := by
      intro complete
      rw [(isFrameBatchDue_iff hasGop).mpr (.inr complete)] at notDue
      cases notDue
    constructor
    · intro keeps
      refine Nat.le_of_not_lt fun exceeds => ?_
      exact keeps.prompt (Nat.le_of_lt exceeds) rfl
    · intro fits
      refine ⟨fun _ member => absurd member List.not_mem_nil, fun reaches => ?_⟩
      exact absurd (Nat.le_antisymm fits reaches) lacks
  | coded due => exact handedOver
  | failed due failure => exact handedOver

/-- Where at most a GOP waits, a submission that succeeds leaves less than that. -/
theorem Attempted.pending_lt (attempted : Attempted flush found attempt)
    (hasGop : 1 ≤ found.gopSize) (fits : found.pending ≤ found.gopSize)
    (succeeds : attempt.Succeeds) : attempt.left.pending < found.gopSize := by
  cases attempted with
  | waited notDue =>
    refine Nat.lt_of_le_of_ne fits fun complete => ?_
    rw [(isFrameBatchDue_iff hasGop).mpr (.inr complete)] at notDue
    cases notDue
  | coded due => exact hasGop
  | failed due failure => exact absurd rfl (succeeds failure)

end Attempted

/-! ### Rounds of submissions -/

/-- Makes submissions one after the other. -/
def submitAll : List (Submission σ ε) → Scheduler × σ → List (Attempt ε) × (Scheduler × σ)
  | [], state => ([], state)
  | submission :: later, state =>
    let rest := submitAll later (submission.perform state).state
    (submission.attempt state :: rest.1, rest.2)

/-- One picture, and the submissions that follow it. There is at least one. -/
structure Round (σ ε : Type) where
  first : Submission σ ε
  retries : List (Submission σ ε)

/-- What a round came to. -/
structure Turn (ε : Type) where
  /-- The counts before the picture was admitted. -/
  found : Scheduler
  attempts : List (Attempt ε)

/-- Admits a picture in each round and makes the submissions that follow it. -/
def turnsOf : List (Round σ ε) → Scheduler × σ → List (Turn ε)
  | [], _ => []
  | round :: later, state =>
    let submitted := submitAll (round.first :: round.retries) (state.1.receive, state.2)
    ⟨state.1, submitted.1⟩ :: turnsOf later submitted.2

section Rounds

variable {gopSize : Nat}

/-- Each attempt among several submissions is made with the GOP of the first one, on no more
pictures. -/
theorem attempted_of_mem_submitAll {submissions : List (Submission σ ε)} {state : Scheduler × σ}
    {attempt : Attempt ε} (member : attempt ∈ (submitAll submissions state).1) :
    Attempted attempt.flush attempt.found attempt ∧
      attempt.found.gopSize = state.1.gopSize ∧ attempt.found.pending ≤ state.1.pending := by
  induction submissions generalizing state with
  | nil => cases member
  | cons submission later inductionHypothesis =>
    have attempted := submission.attempt_cases state
    rcases List.mem_cons.mp member with rfl | member
    · exact ⟨attempted, rfl, Nat.le_refl _⟩
    · obtain ⟨gop, fewer⟩ := attempted.left_le
      obtain ⟨known, sameGop, bounded⟩ := inductionHypothesis member
      exact ⟨known, sameGop.trans gop, Nat.le_trans bounded fewer⟩

/-- Submissions leave the size of a GOP alone and admit nothing. -/
theorem left_submitAll_le (submissions : List (Submission σ ε)) (state : Scheduler × σ) :
    (submitAll submissions state).2.1.gopSize = state.1.gopSize ∧
      (submitAll submissions state).2.1.pending ≤ state.1.pending := by
  induction submissions generalizing state with
  | nil => exact ⟨rfl, Nat.le_refl _⟩
  | cons submission later inductionHypothesis =>
    obtain ⟨gop, fewer⟩ := (submission.attempt_cases state).left_le
    obtain ⟨laterGop, laterFewer⟩ := inductionHypothesis (submission.perform state).state
    exact ⟨laterGop.trans gop, Nat.le_trans laterFewer fewer⟩

/-- Where at most a GOP waits, less than that does once a submission has succeeded. -/
theorem pending_submitAll_lt (submissions : List (Submission σ ε)) (state : Scheduler × σ)
    (hasGop : 1 ≤ state.1.gopSize) (fits : state.1.pending ≤ state.1.gopSize)
    (succeeds : ∃ attempt ∈ (submitAll submissions state).1, attempt.Succeeds) :
    (submitAll submissions state).2.1.pending < state.1.gopSize := by
  induction submissions generalizing state with
  | nil =>
    obtain ⟨attempt, member, -⟩ := succeeds
    cases member
  | cons submission later inductionHypothesis =>
    have attempted := submission.attempt_cases state
    obtain ⟨attempt, member, did⟩ := succeeds
    rcases List.mem_cons.mp member with rfl | member
    · obtain ⟨-, laterFewer⟩ := left_submitAll_le later (submission.perform state).state
      exact Nat.lt_of_le_of_lt laterFewer (attempted.pending_lt hasGop fits did)
    · obtain ⟨gop, fewer⟩ := attempted.left_le
      have sameGop : (submission.perform state).state.1.gopSize = state.1.gopSize := gop
      rw [← sameGop] at hasGop fits ⊢
      exact inductionHypothesis _ hasGop (Nat.le_trans fewer fits) ⟨attempt, member, did⟩

/-- The counts that a round finds have the size of the GOP from the start. -/
theorem gopSize_of_mem_turnsOf {rounds : List (Round σ ε)} {state : Scheduler × σ} {turn : Turn ε}
    (member : turn ∈ turnsOf rounds state) : turn.found.gopSize = state.1.gopSize := by
  induction rounds generalizing state with
  | nil => cases member
  | cons round later inductionHypothesis =>
    rcases List.mem_cons.mp member with rfl | member
    · rfl
    · exact (inductionHypothesis member).trans (left_submitAll_le ..).1

/-- The submissions of a round find one picture more than the round does, or fewer. The first one of
them finds that one more. -/
theorem attempted_of_mem_turnsOf {rounds : List (Round σ ε)} {state : Scheduler × σ}
    {turn : Turn ε} (member : turn ∈ turnsOf rounds state) :
    (∃ attempt ∈ turn.attempts, attempt.found = turn.found.receive) ∧
      ∀ attempt ∈ turn.attempts, Attempted attempt.flush attempt.found attempt ∧
        attempt.found.gopSize = turn.found.gopSize ∧
        attempt.found.pending ≤ turn.found.pending + 1 := by
  induction rounds generalizing state with
  | nil => cases member
  | cons round later inductionHypothesis =>
    rcases List.mem_cons.mp member with rfl | member
    · refine ⟨⟨_, List.mem_cons_self, rfl⟩, fun attempt made => ?_⟩
      exact attempted_of_mem_submitAll made
    · exact inductionHypothesis member

/-- If one submission of each round succeeds, no round finds a whole GOP waiting. -/
theorem pending_lt_of_mem_turnsOf (rounds : List (Round σ ε)) (state : Scheduler × σ)
    (hasGop : 1 ≤ state.1.gopSize) (lacks : state.1.pending < state.1.gopSize)
    (succeeds : ∀ turn ∈ turnsOf rounds state, ∃ attempt ∈ turn.attempts, attempt.Succeeds) :
    ∀ turn ∈ turnsOf rounds state, turn.found.pending < state.1.gopSize := by
  induction rounds generalizing state with
  | nil => exact fun turn member => absurd member List.not_mem_nil
  | cons round later inductionHypothesis =>
    obtain ⟨now, afterwards⟩ := List.forall_mem_cons.mp succeeds
    have left := pending_submitAll_lt _ (state.1.receive, state.2) hasGop lacks now
    have gop := (left_submitAll_le (round.first :: round.retries) (state.1.receive, state.2)).1
    refine List.forall_mem_cons.mpr ⟨lacks, ?_⟩
    have sameGop : _ = state.1.gopSize := gop
    rw [← sameGop] at hasGop ⊢
    exact inductionHypothesis _ hasGop (by rwa [sameGop]) afterwards

end Rounds

/-- Batches under failure. For every scheduler with a GOP, and all pictures that are admitted one by
one with at least one submission after each, whether these flush and whether coding fails: a batch
is all that waits, and without flushing it is a whole GOP; and when it fails, the counts stay as
they are. No batch is larger than a GOP and none is held back once a whole GOP waits, exactly if no
picture is admitted while a whole GOP waits already. That is so whenever one of the submissions
after each picture succeeds. -/
theorem batches_kept_iff_admitted_in_time (scheduler : Scheduler) (hasGop : 1 ≤ scheduler.gopSize)
    (rounds : List (Round σ ε)) (state : σ) :
    let turns := turnsOf rounds (scheduler, state)
    (∀ turn ∈ turns, ∀ attempt ∈ turn.attempts, attempt.Accounted scheduler.gopSize) ∧
    ((∀ turn ∈ turns, ∀ attempt ∈ turn.attempts, attempt.KeepsBatches scheduler.gopSize) ↔
      ∀ turn ∈ turns, turn.found.pending < scheduler.gopSize) ∧
    (scheduler.pending < scheduler.gopSize →
      (∀ turn ∈ turns, ∃ attempt ∈ turn.attempts, attempt.Succeeds) →
        ∀ turn ∈ turns, turn.found.pending < scheduler.gopSize) := by
  intro turns
  have known {turn : Turn ε} (member : turn ∈ turns) {attempt : Attempt ε}
      (made : attempt ∈ turn.attempts) :
      Attempted attempt.flush attempt.found attempt ∧
        attempt.found.gopSize = scheduler.gopSize ∧
        attempt.found.pending ≤ turn.found.pending + 1 := by
    obtain ⟨attempted, gop, bounded⟩ := (attempted_of_mem_turnsOf member).2 attempt made
    exact ⟨attempted, gop.trans (gopSize_of_mem_turnsOf member), bounded⟩
  have keepsBatches_iff {turn : Turn ε} (member : turn ∈ turns) {attempt : Attempt ε}
      (made : attempt ∈ turn.attempts) :
      attempt.KeepsBatches scheduler.gopSize ↔ attempt.found.pending ≤ scheduler.gopSize := by
    obtain ⟨attempted, gop, -⟩ := known member made
    rw [← gop] at hasGop ⊢
    exact attempted.keepsBatches_iff hasGop
  refine ⟨fun turn member attempt made => ?_, ?_,
    pending_lt_of_mem_turnsOf rounds (scheduler, state) hasGop⟩
  · obtain ⟨attempted, gop, -⟩ := known member made
    rw [← gop] at hasGop ⊢
    exact attempted.accounted hasGop
  · constructor
    · intro keeps turn member
      obtain ⟨attempt, made, found⟩ := (attempted_of_mem_turnsOf member).1
      have fits := (keepsBatches_iff member made).mp (keeps turn member attempt made)
      rw [found] at fits
      exact fits
    · intro inTime turn member attempt made
      obtain ⟨-, -, bounded⟩ := known member made
      exact (keepsBatches_iff member made).mpr (Nat.le_trans bounded (inTime turn member))

/-- Coding that succeeds, or fails. -/
def scripted (fails : Bool) (_numPics : Nat) : Operation Unit Unit Unit :=
  if fails then Operation.fail () else pure ()

/-- In a GOP of two pictures, coding the first GOP fails once, and the third picture is flushed. -/
def retriedRounds : List (Round Unit Unit) :=
  [⟨⟨false, scripted false⟩, []⟩, ⟨⟨false, scripted true⟩, [⟨false, scripted false⟩]⟩,
    ⟨⟨true, scripted false⟩, []⟩]

/-- The failure is made up for before the third picture comes, so the batches are of two pictures
and of one. -/
theorem batches_kept_iff_admitted_in_time_retriedRounds :
    let turns := turnsOf retriedRounds (⟨2, 0, 0⟩, ())
    (∀ turn ∈ turns, ∀ attempt ∈ turn.attempts, attempt.KeepsBatches 2) ∧
      turns.map (fun turn => turn.attempts.map Attempt.asked) = [[[]], [[2], [2]], [[1]]] := by
  obtain ⟨-, keeps, -⟩ :=
    batches_kept_iff_admitted_in_time ⟨2, 0, 0⟩ (by decide) retriedRounds ()
  exact ⟨keeps.mpr (by decide), rfl⟩

/-- With a GOP of one picture, a picture that is not coded waits while another one comes. -/
def lateRounds : List (Round Unit Unit) :=
  [⟨⟨false, scripted true⟩, []⟩, ⟨⟨false, scripted false⟩, [⟨true, scripted false⟩]⟩]

/-- Then two pictures wait for a GOP of one: a submission hands over nothing, and flushing hands
over both of them at once. -/
theorem lateRounds_break_batches :
    let turns := turnsOf lateRounds (⟨1, 0, 0⟩, ())
    (∃ turn ∈ turns, ∃ attempt ∈ turn.attempts, 1 ≤ attempt.found.pending ∧ attempt.asked = []) ∧
      ∃ turn ∈ turns, ∃ attempt ∈ turn.attempts, ∃ numPics ∈ attempt.asked, 1 < numPics := by
  decide

end Scheduler

end EncoderControl
