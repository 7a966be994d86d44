import EncoderControl.Proofs.Session.Runs

/-!
# The lifetime of a session

A session is also asked whether parameter sets have to be written, and is destroyed in the end. None
of this has to come in any order: a session may be used after its end. A lifetime is a list of uses,
made one after the other for as long as every one of them is answered.
-/

namespace EncoderControl

namespace Session

variable {κ γ η ρ : Type}

/-- One use of a session. -/
inductive Use where
  | call (call : Call)
  | askSps (id : Nat)
  | askPps (id : Nat)
  | destroy

/-- What a use is answered with. -/
inductive Answer where
  | coded (numPics : Nat)
  | changed (flag : Bool)
  | destroyed
deriving DecidableEq

/-- Makes use of a session. -/
def Use.perform (compressor : Compressor κ γ η ρ) :
    Use → Step κ γ η ρ (Stop EncodeError) Answer
  | .call made => do
    let numPics ← Session.perform compressor made
    pure (.coded numPics)
  | .askSps id => do
    let flag ← spsNeedsWriting id
    pure (.changed flag)
  | .askPps id => do
    let flag ← ppsNeedsWriting id
    pure (.changed flag)
  | .destroy => do
    Session.destroy
    pure .destroyed

/-- One use in a lifetime. -/
structure Event (κ γ η ρ : Type) where
  use : Use
  before : Desk κ γ η ρ
  reply : Reply (Desk κ γ η ρ) (Stop EncodeError) Answer

/-- A lifetime: uses made one after the other. There is none after a fault. -/
inductive Life (compressor : Compressor κ γ η ρ) (start : Desk κ γ η ρ) :
    List (Event κ γ η ρ) → Desk κ γ η ρ → Prop where
  | start : Life compressor start [] start
  | use {events : List (Event κ γ η ρ)} {desk : Desk κ γ η ρ}
      (prior : Life compressor start events desk)
      (answered : ∀ event ∈ events, event.reply.Answered) (use : Use) :
      Life compressor start (events ++ [⟨use, desk, use.perform compressor desk⟩])
        (use.perform compressor desk).state

/-- The events of several uses, the first one first. -/
def eventsOf (compressor : Compressor κ γ η ρ) : Desk κ γ η ρ → List Use → List (Event κ γ η ρ)
  | _, [] => []
  | desk, use :: later =>
    let reply := use.perform compressor desk
    ⟨use, desk, reply⟩ :: eventsOf compressor reply.state later

/-- The desk after several uses, the first one first. -/
def deskAfterUses (compressor : Compressor κ γ η ρ) (desk : Desk κ γ η ρ) (uses : List Use) :
    Desk κ γ η ρ :=
  uses.foldl (fun reached use => (use.perform compressor reached).state) desk

/-- A lifetime goes on with uses that are answered. -/
theorem Life.append {compressor : Compressor κ γ η ρ} {start desk : Desk κ γ η ρ}
    {events : List (Event κ γ η ρ)} (life : Life compressor start events desk) (uses : List Use)
    (before : ∀ event ∈ events, event.reply.Answered)
    (after : ∀ event ∈ eventsOf compressor desk uses, event.reply.Answered) :
    Life compressor start (events ++ eventsOf compressor desk uses)
      (deskAfterUses compressor desk uses) := by
  induction uses generalizing events desk with
  | nil => simpa [eventsOf, deskAfterUses] using life
  | cons use later inductionHypothesis =>
    have next := life.use before use
    rw [eventsOf, List.forall_mem_cons] at after
    have answered :
        ∀ event ∈ events ++ [⟨use, desk, use.perform compressor desk⟩], event.reply.Answered :=
      List.forall_mem_append.mpr ⟨before, by simpa using after.1⟩
    have rest := inductionHypothesis next answered after.2
    rw [List.append_assoc] at rest
    exact rest

/-- Uses that are all answered make a lifetime. -/
theorem Life.ofUses (compressor : Compressor κ γ η ρ) (start : Desk κ γ η ρ) (uses : List Use)
    (answered : ∀ event ∈ eventsOf compressor start uses, event.reply.Answered) :
    Life compressor start (eventsOf compressor start uses) (deskAfterUses compressor start uses) :=
  Life.start.append uses (fun _ member => absurd member List.not_mem_nil) answered

/-- A call is answered with the number of pictures coded. -/
theorem perform_call (compressor : Compressor κ γ η ρ) (call : Call) (desk : Desk κ γ η ρ) :
    ((Use.call call).perform compressor desk).outcome =
        (perform compressor call desk).outcome.map .coded ∧
      ((Use.call call).perform compressor desk).state = (perform compressor call desk).state := by
  cases answer : (perform compressor call desk).outcome with
  | ok numPics =>
    rw [Use.perform, Operation.bind_apply_of_ok answer]
    exact ⟨rfl, rfl⟩
  | error stop =>
    rw [Use.perform, Operation.bind_apply_of_error answer]
    exact ⟨rfl, rfl⟩

end Session

end EncoderControl
