import EncoderControl.Proofs.ParameterSet.History
import EncoderControl.Proofs.Session.Tuning

/-!
# Asking for changed parameter sets

Whoever writes the stream asks a session, whenever it likes, whether a parameter set has to be
written, and relies on the answer: as long as it is no, the set that was written last is the one in
force. That is so because a set reaches a store of the session only by being stored, which raises
its flag, and a flag is lowered only by the question itself. What follows is said once for both
stores of a session.
-/

namespace EncoderControl

namespace Session

variable {κ γ η ρ α : Type}

/-- One of the stores of a session, with the questions that are about it. -/
structure Shelf (κ γ η α : Type) where
  store : Session κ γ η → ParameterStore α
  /-- The id that is asked for, if the use is a question about this store. -/
  asked? : Use → Option Nat

/-- The sequence parameter sets. -/
def spsShelf : Shelf κ γ η Sps where
  store := spsStore
  asked?
    | .askSps id => some id
    | _ => none

/-- The picture parameter sets. -/
def ppsShelf : Shelf κ γ η Pps where
  store := ppsStore
  asked?
    | .askPps id => some id
    | _ => none

namespace Shelf

variable (shelf : Shelf κ γ η α)

/-- Whether the event is the question for this set, answered with yes. -/
def showsChange (id : Nat) (event : Event κ γ η ρ) : Bool :=
  match shelf.asked? event.use, event.reply.outcome with
  | some asked, .ok (.changed flag) => asked == id && flag
  | _, _ => false

/-- The set that was in force when the question for it was last answered with yes, if it was. -/
def lastShown (id : Nat) (events : List (Event κ γ η ρ)) : Option α :=
  (events.filter (shelf.showsChange id)).getLast?.bind fun event =>
    (shelf.store event.before.1).get? id

/-- What a use short of destroying the session may do to the store. -/
inductive Handles (use : Use) (desk : Desk κ γ η ρ) :
    Reply (Desk κ γ η ρ) (Stop EncodeError) Answer → Prop where
  | kept {reply} (unasked : shelf.asked? use = none)
      (same : shelf.store reply.state.1 = shelf.store desk.1) : Handles use desk reply
  | stored {reply} (unasked : shelf.asked? use = none) (id : Nat) (set : α)
      (inserted : shelf.store reply.state.1 = (shelf.store desk.1).insert id set) :
      Handles use desk reply
  | asked {reply} (id : Nat) (asks : shelf.asked? use = some id)
      (answer : reply.outcome = .ok (.changed ((shelf.store desk.1).needsWriting id)))
      (settled : shelf.store reply.state.1 = (shelf.store desk.1).markWritten id) :
      Handles use desk reply

/-- A set that need not be written is the one that was shown last. -/
def UpToDate (events : List (Event κ γ η ρ)) (session : Session κ γ η) : Prop :=
  ∀ id, (shelf.store session).needsWriting id = false →
    (shelf.store session).get? id = shelf.lastShown id events

variable {shelf}

/-- The last event shows what it finds if it shows a change, and what was shown before stands
otherwise. -/
theorem lastShown_snoc (id : Nat) (events : List (Event κ γ η ρ)) (event : Event κ γ η ρ) :
    shelf.lastShown id (events ++ [event]) =
      if shelf.showsChange id event then (shelf.store event.before.1).get? id
      else shelf.lastShown id events := by
  unfold lastShown
  rw [List.filter_append]
  cases shows : shelf.showsChange id event <;> simp [shows]

/-- A use that asks for no set shows no change. -/
theorem showsChange_of_unasked {event : Event κ γ η ρ}
    (unasked : shelf.asked? event.use = none) (id : Nat) : shelf.showsChange id event = false := by
  unfold showsChange
  rw [unasked]

/-- A use that asks for a set shows a change of that set, if the answer says so. -/
theorem showsChange_of_asked {event : Event κ γ η ρ} {asked : Nat} {flag : Bool}
    (asks : shelf.asked? event.use = some asked) (answer : event.reply.outcome = .ok (.changed flag))
    (id : Nat) : shelf.showsChange id event = (asked == id && flag) := by
  unfold showsChange
  rw [asks, answer]

section Handled

variable {use : Use} {desk : Desk κ γ η ρ} {reply : Reply (Desk κ γ η ρ) (Stop EncodeError) Answer}

/-- The store stays up to date whatever is done to it: a set that is stored has to be written, and a
set that is asked for is shown if it had to be. -/
theorem Handles.upToDate {events : List (Event κ γ η ρ)} (handles : shelf.Handles use desk reply)
    (before : shelf.UpToDate events desk.1) :
    shelf.UpToDate (events ++ [⟨use, desk, reply⟩]) reply.state.1 := by
  intro id settled
  rw [lastShown_snoc]
  cases handles with
  | kept unasked same =>
    rw [showsChange_of_unasked unasked, if_neg Bool.false_ne_true]
    rw [same] at settled ⊢
    exact before id settled
  | stored unasked other set inserted =>
    rw [showsChange_of_unasked unasked, if_neg Bool.false_ne_true]
    rw [inserted, ParameterStore.needsWriting_insert] at settled
    rw [inserted, ParameterStore.get?_insert]
    by_cases own : id = other
    · rw [if_pos own] at settled
      cases settled
    · rw [if_neg own] at settled ⊢
      exact before id settled
  | asked other asks answer written =>
    rw [showsChange_of_asked asks answer, written, ParameterStore.get?_markWritten]
    rw [written, ParameterStore.needsWriting_markWritten] at settled
    by_cases own : id = other
    · subst own
      cases flag : (shelf.store desk.1).needsWriting id with
      | true => rw [if_pos (by simp)]
      | false =>
        rw [if_neg (by simp)]
        exact before id flag
    · rw [if_neg own] at settled
      rw [if_neg (by simp [Ne.symm own])]
      exact before id settled

/-- A set is asked for and need not be written when the answer is no. -/
theorem Handles.settled {id : Nat} (handles : shelf.Handles use desk reply)
    (asks : shelf.asked? use = some id) (answer : reply.outcome = .ok (.changed false)) :
    (shelf.store desk.1).needsWriting id = false := by
  cases handles with
  | kept unasked => rw [unasked] at asks; cases asks
  | stored unasked => rw [unasked] at asks; cases asks
  | asked other asksOther given =>
    obtain rfl := Option.some.inj (asksOther.symm.trans asks)
    rw [given] at answer
    injection answer with answer
    injection answer

/-- A set that is in force may be replaced, but not removed. -/
theorem Handles.present {id : Nat} (handles : shelf.Handles use desk reply)
    (before : ∃ set, (shelf.store desk.1).get? id = some set) :
    ∃ set, (shelf.store reply.state.1).get? id = some set := by
  cases handles with
  | kept unasked same => rwa [same]
  | stored unasked other set inserted =>
    rw [inserted, ParameterStore.get?_insert]
    split
    · exact ⟨set, rfl⟩
    · exact before
  | asked other asks answer written => rwa [written, ParameterStore.get?_markWritten]

end Handled

end Shelf

/-! ### What uses do to the stores -/

/-- A call may store a sequence parameter set, and changes nothing else in either store. -/
theorem stores_perform (compressor : Compressor κ γ η ρ) (call : Call) (desk : Desk κ γ η ρ) :
    let after := (perform compressor call desk).state.1
    (after.spsStore = desk.1.spsStore ∨
        ∃ sps, after.spsStore = desk.1.spsStore.insert spsId sps) ∧
      after.ppsStore = desk.1.ppsStore := by
  intro after
  have performed := perform_cases compressor call desk
  generalize (perform compressor call desk).outcome = outcome at performed
  generalize state : (perform compressor call desk).state = reached at performed
  have isAfter : after = reached.1 := congrArg Prod.fst state
  rw [isAfter]
  cases performed with
  | upfront => exact ⟨.inl rfl, rfl⟩
  | fed =>
    have kept := keepsSettings_feedAll compressor call.feedings desk
    exact ⟨.inl kept.spsStore, kept.ppsStore⟩
  | tuned tunings present sps => exact ⟨.inr ⟨sps, rfl⟩, rfl⟩

section Uses

variable (compressor : Compressor κ γ η ρ) {use : Use} (goesOn : use ≠ .destroy)
  (desk : Desk κ γ η ρ)

include goesOn

/-- Uses of a session treat sequence parameter sets as a shelf asks for. -/
theorem handles_spsShelf : spsShelf.Handles use desk (use.perform compressor desk) := by
  cases use with
  | call call =>
    rcases (stores_perform compressor call desk).1 with same | ⟨sps, inserted⟩
    · rw [← (perform_call compressor call desk).2] at same
      exact .kept rfl same
    · rw [← (perform_call compressor call desk).2] at inserted
      exact .stored rfl spsId sps inserted
  | askSps id => exact .asked id rfl rfl rfl
  | askPps id => exact .kept rfl rfl
  | destroy => exact absurd rfl goesOn

/-- Uses of a session treat picture parameter sets as a shelf asks for. -/
theorem handles_ppsShelf : ppsShelf.Handles use desk (use.perform compressor desk) := by
  cases use with
  | call call =>
    have same := (stores_perform compressor call desk).2
    rw [← (perform_call compressor call desk).2] at same
    exact .kept rfl same
  | askSps id => exact .kept rfl rfl
  | askPps id => exact .asked id rfl rfl rfl
  | destroy => exact absurd rfl goesOn

end Uses

/-! ### Lifetimes -/

/-- A store whose uses are all handled is up to date at any time, and keeps the sets it began
with. -/
theorem Life.upToDate {compressor : Compressor κ γ η ρ} {shelf : Shelf κ γ η α}
    (handles : ∀ use, use ≠ .destroy → ∀ desk, shelf.Handles use desk (use.perform compressor desk))
    {start desk : Desk κ γ η ρ} {events : List (Event κ γ η ρ)}
    (life : Life compressor start events desk) (goesOn : ∀ event ∈ events, event.use ≠ .destroy)
    (initial : shelf.UpToDate ([] : List (Event κ γ η ρ)) start.1) :
    shelf.UpToDate events desk.1 ∧
      ∀ id, (∃ set, (shelf.store start.1).get? id = some set) →
        ∃ set, (shelf.store desk.1).get? id = some set := by
  induction life with
  | start => exact ⟨initial, fun _ present => present⟩
  | @use events desk prior answered use inductionHypothesis =>
    rw [List.forall_mem_append, List.forall_mem_singleton] at goesOn
    obtain ⟨upToDate, kept⟩ := inductionHypothesis goesOn.1
    have handled := handles use goesOn.2 desk
    exact ⟨handled.upToDate upToDate, fun id present => handled.present (kept id present)⟩

section Created

variable [CostEvaluator γ] {config : Config} {own : κ} {factory : LaneFactory γ η}
  {session : Session κ γ η}

/-- The picture parameter sets of a new session all have to be written. -/
theorem unwritten_of_buildPpsStore {sps : Sps} {ppsStore : ParameterStore Pps}
    (stored : (buildPpsStore config sps).outcome = .ok ppsStore) : ppsStore.Unwritten := by
  simp only [buildPpsStore, Logged.outcome_bind_eq_ok_iff] at stored
  obtain ⟨first, -, rest⟩ := stored
  split at rest
  · obtain ⟨second, -, done⟩ := Logged.outcome_bind_eq_ok_iff.mp rest
    cases done
    exact (ParameterStore.unwritten_empty.insert 0 first).insert 1 second
  · cases rest
    exact ParameterStore.unwritten_empty.insert 0 first

/-- All sets of a new session have to be written, and the sequence parameter set is one of them. -/
theorem unwritten_of_create (created : (create config own factory).outcome = .ok session) :
    session.spsStore.Unwritten ∧ session.ppsStore.Unwritten ∧
      ∃ sps, session.spsStore.get? spsId = some sps := by
  obtain ⟨plan, sps, ppsStore, lanes, -, -, stored, rfl⟩ := exists_of_create created
  exact ⟨ParameterStore.unwritten_empty.insert spsId sps, unwritten_of_buildPpsStore stored, sps,
    rfl⟩

end Created

/-- No change of a parameter set is missed. In every store, after any calls of a new one, a set has
to be written exactly if it was stored since it was last asked for and since the store was cleared,
and calls about other sets make no difference to what is answered about it. So in every lifetime of
a session, short of destroying it, whenever a question for a set is answered with no, the set in
force is the one that was in force when the question was last answered with yes: the sequence
parameter set was shown before, and a picture parameter set was too, if there is one. -/
theorem no_change_is_missed :
    (∀ {α : Type} (calls : List (ParameterStore.Call α)) (id : Nat),
      let store := ParameterStore.after calls
      let own := ParameterStore.after (calls.filter (ParameterStore.Call.concerns id))
      (store.needsWriting id = true ↔ ParameterStore.StoredSince id calls) ∧
        own.get? id = store.get? id ∧ own.needsWriting id = store.needsWriting id) ∧
    ∀ {κ γ η ρ : Type} [CostEvaluator γ] {compressor : Compressor κ γ η ρ} {config : Config}
      {own : κ} {factory : LaneFactory γ η} {session : Session κ γ η} {outputs : List ρ}
      {events : List (Event κ γ η ρ)} {desk : Desk κ γ η ρ},
      (create config own factory).outcome = .ok session →
      Life compressor (session, outputs) events desk →
      (∀ event ∈ events, event.use ≠ .destroy) →
      (((Use.askSps spsId).perform compressor desk).outcome = .ok (.changed false) →
        ∃ sps, desk.1.sps? = some sps ∧ spsShelf.lastShown spsId events = some sps) ∧
      ∀ id, ((Use.askPps id).perform compressor desk).outcome = .ok (.changed false) →
        desk.1.ppsStore.get? id = ppsShelf.lastShown id events := by
  constructor
  · intro α calls id store own
    exact ⟨ParameterStore.needsWriting_after_iff calls id,
      ParameterStore.answers_after_filter calls id⟩
  · intro κ γ η ρ _ compressor config own factory session outputs events desk created life goesOn
    obtain ⟨spsUnwritten, ppsUnwritten, present⟩ := unwritten_of_create created
    obtain ⟨spsUpToDate, kept⟩ :=
      life.upToDate (fun use goesOn => handles_spsShelf compressor goesOn) goesOn spsUnwritten
    obtain ⟨ppsUpToDate, -⟩ :=
      life.upToDate (fun use goesOn => handles_ppsShelf compressor goesOn) goesOn ppsUnwritten
    constructor
    · intro answer
      obtain ⟨sps, inForce⟩ := kept spsId present
      have asked : Use.askSps spsId ≠ .destroy := nofun
      have settled := (handles_spsShelf compressor asked desk).settled rfl answer
      exact ⟨sps, inForce, (spsUpToDate spsId settled).symm.trans inForce⟩
    · intro id answer
      have asked : Use.askPps id ≠ .destroy := nofun
      have settled := (handles_ppsShelf compressor asked desk).settled rfl answer
      exact ppsUpToDate id settled

/-- Both sets are written, then the rate settings change, and the sequence parameter set is written
again before a frame is taken. -/
def writingUses : List Use :=
  [.askSps 0, .askPps 0, .call (.tune ⟨3000000, 2000000, 25⟩), .askSps 0,
    .call (.encode (some (.blank ⟨2, 2⟩ .monochrome)) false)]

/-- Asked once more, the session has nothing to be written: the sequence parameter set with the
clock for 25 frames per second was shown last. -/
theorem no_change_is_missed_writingUses :
    let start : Desk Unit Unit Unit Unit := (timedSession, [])
    let events := eventsOf releasing start writingUses
    let desk := deskAfterUses releasing start writingUses
    (create timedConfig () plainFactory).outcome = .ok timedSession ∧
      Life releasing start events desk ∧ (∀ event ∈ events, event.use ≠ .destroy) ∧
      (events.map fun event => event.reply.outcome.toOption) =
        [some (.changed true), some (.changed true), some (.coded 0), some (.changed true),
          some (.coded 0)] ∧
      (∃ sps, desk.1.sps? = some sps ∧ spsShelf.lastShown 0 events = some sps ∧
        sps.vui.timingInfo.numUnitsInTick = 1080000) ∧
      desk.1.ppsStore.get? 0 = ppsShelf.lastShown 0 events := by
  intro start events desk
  have created : (create timedConfig () plainFactory).outcome = .ok timedSession := rfl
  have life : Life releasing start events desk := .ofUses _ _ _ (by decide +kernel)
  have goesOn : ∀ event ∈ events, event.use ≠ .destroy := by simp [events, eventsOf, writingUses]
  obtain ⟨spsShown, ppsShown⟩ := no_change_is_missed.2 created life goesOn
  obtain ⟨sps, inForce, shown⟩ := spsShown (by decide +kernel)
  have units : desk.1.sps?.map (·.vui.timingInfo.numUnitsInTick) = some 1080000 := by
    decide +kernel
  rw [inForce] at units
  exact ⟨created, life, goesOn, by decide +kernel,
    ⟨sps, inForce, shown, Option.some.inj units⟩, ppsShown 0 (by decide +kernel)⟩

end Session

end EncoderControl
