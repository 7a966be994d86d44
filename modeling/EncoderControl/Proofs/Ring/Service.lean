import EncoderControl.Proofs.Ring.Edits

/-!
# A ring in service

A ring serves requests one after the other: admissions, with the caller's list of reconstructions
turning along, and edits through whatever handle the caller presents, be it stale or never issued.
No refusal ends the service. A `RingTurn` keeps what one request was made on and what came of it,
and `Served` says once what that can be; runs are reasoned about from these cases alone.
-/

namespace EncoderControl

/-- A request to a ring. -/
inductive RingRequest where
  | acquire (sps : Sps) (pps : Pps)
  | edit (step : RingEdit)

/-- Makes an edit and answers whether it is refused. Nothing comes of a write through a stale
handle. -/
def RingEdit.perform : RingEdit → Operation PictureRing EncodeError Unit
  | .release handle => PictureRing.release handle
  | .evict handle => do
    let _ ← PictureRing.evict handle
    pure ()
  | .write handle change => Operation.update fun ring => (ring.modify? handle change).getD ring
  | .clear => Operation.update PictureRing.clear

/-- A ring together with the caller's list of reconstructions. -/
abbrev HeldRing (ρ : Type) := PictureRing × List ρ

/-- Serves a request. -/
def RingRequest.serve {ρ : Type} : RingRequest → Operation (HeldRing ρ) EncodeError Unit
  | .acquire sps pps => do
    let _ ← PictureRing.acquire sps pps
    pure ()
  | .edit step => step.perform.onPart Prod.fst fun held ring => (ring, held.2)

/-- One request of a service. -/
structure RingTurn (ρ : Type) where
  request : RingRequest
  before : HeldRing ρ
  reply : Reply (HeldRing ρ) EncodeError Unit

namespace RingTurn

variable {ρ : Type}

/-- Whether the request admitted a picture. -/
def isAdmission (turn : RingTurn ρ) : Bool :=
  match turn.request, turn.reply.outcome with
  | .acquire .., .ok _ => true
  | _, _ => false

/-- Whether the request asked for a place in the ring and was refused. -/
def isRejection (turn : RingTurn ρ) : Bool :=
  match turn.request, turn.reply.outcome with
  | .acquire .., .error _ => true
  | _, _ => false

end RingTurn

namespace RingService

variable {ρ : Type}

/-- The turn that a request makes. -/
def turn (held : HeldRing ρ) (request : RingRequest) : RingTurn ρ :=
  ⟨request, held, request.serve held⟩

/-- The turns of several requests, the first one first. -/
def turnsOf : HeldRing ρ → List RingRequest → List (RingTurn ρ)
  | _, [] => []
  | held, request :: later => turn held request :: turnsOf (request.serve held).state later

/-- The ring and the list after several requests, the first one first. -/
def heldAfter (held : HeldRing ρ) (requests : List RingRequest) : HeldRing ρ :=
  requests.foldl (fun reached request => (request.serve reached).state) held

/-- Number of pictures admitted. -/
def admissions (turns : List (RingTurn ρ)) : Nat :=
  turns.countP RingTurn.isAdmission

/-- Number of admissions refused. -/
def rejections (turns : List (RingTurn ρ)) : Nat :=
  turns.countP RingTurn.isRejection

/-- Every turn is that of one of the requests, on what the earlier ones left. -/
theorem exists_of_mem_turnsOf {held : HeldRing ρ} {requests : List RingRequest}
    {made : RingTurn ρ} (member : made ∈ turnsOf held requests) :
    ∃ reached, ∃ request ∈ requests, made = turn reached request := by
  induction requests generalizing held with
  | nil => exact absurd member List.not_mem_nil
  | cons request later inductionHypothesis =>
    rcases List.mem_cons.mp member with rfl | rest
    · exact ⟨held, request, List.mem_cons_self .., rfl⟩
    · obtain ⟨reached, other, among, same⟩ := inductionHypothesis rest
      exact ⟨reached, other, List.mem_cons_of_mem _ among, same⟩

/-! ### What a request can come to -/

/-- What a request can come to. -/
inductive Served (held : HeldRing ρ) :
    RingRequest → Except EncodeError Unit → HeldRing ρ → Prop where
  | admitted (sps : Sps) (pps : Pps) {placement : Placement}
      (placed : held.1.placement? = some placement) :
      Served held (.acquire sps pps) (.ok ())
        (held.1.place placement (held.1.storageAt sps pps placement), held.2.rotateLeft 1)
  /-- The ring has no place for a picture. The list has turned by then. -/
  | exhausted (sps : Sps) (pps : Pps) (full : held.1.placement? = none) :
      Served held (.acquire sps pps) (.error (.ringExhausted held.1.capacity))
        (held.1, held.2.rotateLeft 1)
  | edited (step : RingEdit) : Served held (.edit step) (.ok ()) (held.1.edit step, held.2)
  /-- The handle is stale, or names a picture that has to stay. -/
  | refused (step : RingEdit) (error : EncodeError)
      (kind : error = .invalidPictureHandle ∨ ∃ poc, error = .pictureReferenced poc) :
      Served held (.edit step) (.error error) (held.1.edit step, held.2)

/-- An admission finds a place for its picture, or an exhausted ring. -/
theorem served_acquire (held : HeldRing ρ) (sps : Sps) (pps : Pps) :
    Served held (.acquire sps pps) ((RingRequest.acquire sps pps).serve held).outcome
      ((RingRequest.acquire sps pps).serve held).state := by
  obtain ⟨ring, output⟩ := held
  rw [RingRequest.serve]
  cases placed : ring.placement? with
  | none =>
    obtain ⟨outcome, state⟩ := PictureRing.acquire_of_exhausted placed sps pps output
    rw [Operation.bind_apply_of_error outcome, state]
    exact .exhausted sps pps placed
  | some placement =>
    obtain ⟨outcome, state⟩ := PictureRing.acquire_of_placement placed sps pps output
    rw [Operation.bind_apply_of_ok outcome, state]
    exact .admitted sps pps placed

/-- An edit leaves the ring as `PictureRing.edit` says, and is only refused for its handle. -/
theorem perform_cases (step : RingEdit) (ring : PictureRing) :
    (step.perform ring).state = ring.edit step ∧
      ((step.perform ring).outcome = .ok () ∨ ∃ error, (step.perform ring).outcome = .error error ∧
        (error = .invalidPictureHandle ∨ ∃ poc, error = .pictureReferenced poc)) := by
  cases step with
  | write handle change => exact ⟨rfl, .inl rfl⟩
  | clear => exact ⟨rfl, .inl rfl⟩
  | release handle =>
    refine ⟨rfl, ?_⟩
    cases found : ring.get? handle with
    | none => simp [RingEdit.perform, PictureRing.release, PictureRing.modify?, found]
    | some picture => simp [RingEdit.perform, PictureRing.release, PictureRing.modify?, found]
  | evict handle =>
    rw [RingEdit.perform, PictureRing.edit]
    cases answer : (PictureRing.evict handle ring).outcome with
    | ok picture =>
      rw [Operation.bind_apply_of_ok answer]
      exact ⟨rfl, .inl rfl⟩
    | error error =>
      rw [Operation.bind_apply_of_error answer]
      exact ⟨rfl, .inr ⟨error, rfl, PictureRing.evict_error answer⟩⟩

/-- Every request comes to one of the ends that `Served` lists. -/
theorem serve_cases (held : HeldRing ρ) (request : RingRequest) :
    Served held request (request.serve held).outcome (request.serve held).state := by
  cases request with
  | acquire sps pps => exact served_acquire held sps pps
  | edit step =>
    obtain ⟨state, done | ⟨error, fails, kind⟩⟩ := perform_cases step held.1
    · have outcome : ((RingRequest.edit step).serve held).outcome = .ok () := done
      have left : ((RingRequest.edit step).serve held).state = (held.1.edit step, held.2) :=
        congrArg (·, held.2) state
      rw [outcome, left]
      exact .edited step
    · have outcome : ((RingRequest.edit step).serve held).outcome = .error error := fails
      have left : ((RingRequest.edit step).serve held).state = (held.1.edit step, held.2) :=
        congrArg (·, held.2) state
      rw [outcome, left]
      exact .refused step error kind

/-! ### A small ring -/

/-- A sequence of gray pictures of the given size. -/
def graySps (size : Resolution) : Sps where
  chromaFormat := .monochrome
  resolution := size
  maxCuSize := ⟨2, 2⟩

/-- Two pictures fill a ring with two places, so a third one is rejected. It takes the place of the
first one once that is released, and another one takes the place of the second one once that is
evicted. -/
def smallRequests : List RingRequest :=
  [.acquire (graySps ⟨2, 2⟩) {}, .acquire (graySps ⟨2, 2⟩) {}, .acquire (graySps ⟨2, 2⟩) {},
    .edit (.release ⟨0, 0⟩), .acquire (graySps ⟨2, 2⟩) {}, .edit (.release ⟨1, 0⟩),
    .edit (.evict ⟨1, 0⟩), .acquire (graySps ⟨2, 2⟩) {}]

end RingService

end EncoderControl
