import Mathlib.Data.List.Rotate
import EncoderControl.Proofs.Ring.Service

/-!
# How the list of reconstructions turns

The list turns before it is known whether the ring has a place, so it turns with every admission
that is asked for. It stays paired with the ring as long as none is rejected. A rejection leaves the
ring alone and the list one step ahead of it, until as many rejections have come as the list has
entries.
-/

namespace EncoderControl

namespace RingService

variable {ρ : Type} {held : HeldRing ρ}

/-- Both ways to turn a list agree. -/
theorem rotateLeft_eq_rotate (list : List ρ) (count : Nat) :
    list.rotateLeft count = list.rotate count := by
  by_cases short : list.length ≤ 1
  · cases list with
    | nil => simp [List.rotateLeft]
    | cons first rest =>
      have single : rest = [] := by simpa using short
      simp [List.rotateLeft, single]
  · rw [List.rotate_eq_drop_append_take_mod]
    exact if_neg short

/-- A request turns the list once if it asks for a place in the ring, and not at all otherwise. -/
theorem Served.output {request : RingRequest} {outcome : Except EncodeError Unit}
    {after : HeldRing ρ} (served : Served held request outcome after) (records : List Record) :
    let made : RingTurn ρ := ⟨request, held, ⟨outcome, after, records⟩⟩
    after.2 = held.2.rotate
      ((if made.isAdmission then 1 else 0) + if made.isRejection then 1 else 0) := by
  cases served with
  | admitted sps pps placed => exact rotateLeft_eq_rotate held.2 1
  | exhausted sps pps full => exact rotateLeft_eq_rotate held.2 1
  | edited step => exact (List.rotate_zero held.2).symm
  | refused step error kind => exact (List.rotate_zero held.2).symm

/-- The list has turned once for each admission, whether it succeeded or was refused. -/
theorem output_heldAfter (held : HeldRing ρ) (requests : List RingRequest) :
    (heldAfter held requests).2 =
      held.2.rotate (admissions (turnsOf held requests) + rejections (turnsOf held requests)) := by
  induction requests generalizing held with
  | nil => exact (List.rotate_zero held.2).symm
  | cons request later inductionHypothesis =>
    have first : (request.serve held).state.2 = held.2.rotate
        ((if (turn held request).isAdmission then 1 else 0) +
          if (turn held request).isRejection then 1 else 0) :=
      (serve_cases held request).output _
    have rest := inductionHypothesis (request.serve held).state
    change (heldAfter (request.serve held).state later).2 = _
    rw [rest, first, List.rotate_rotate, turnsOf, admissions, admissions, rejections, rejections,
      List.countP_cons, List.countP_cons]
    congr 1
    omega

/-- A rejection changes nothing but the list. -/
theorem Served.state_of_rejection {request : RingRequest} {outcome : Except EncodeError Unit}
    {after : HeldRing ρ} (served : Served held request outcome after) {records : List Record}
    (rejected : (⟨request, held, ⟨outcome, after, records⟩⟩ : RingTurn ρ).isRejection) :
    after = (held.1, held.2.rotateLeft 1) := by
  cases served with
  | exhausted sps pps full => rfl
  | admitted sps pps placed => exact absurd rejected Bool.false_ne_true
  | edited step => exact absurd rejected Bool.false_ne_true
  | refused step error kind => exact absurd rejected Bool.false_ne_true

/-- The list of reconstructions turns with each admission and with each rejection. For every ring,
every list and all requests, the list ends up turned by the admissions and then once more by every
rejection, which otherwise leaves the ring as it was. A list of different entries has therefore
turned by the admissions alone exactly when the rejections were a multiple of its length. -/
theorem output_turns_with_every_attempt (ring : PictureRing) (output : List ρ)
    (requests : List RingRequest) :
    let turns := turnsOf (ring, output) requests
    let after := (heldAfter (ring, output) requests).2
    after = (output.rotateLeft (admissions turns)).rotateLeft (rejections turns) ∧
      (∀ turn ∈ turns, turn.isRejection →
        turn.reply.state = (turn.before.1, turn.before.2.rotateLeft 1)) ∧
      (output.Nodup → (after = output.rotateLeft (admissions turns) ↔
        output = [] ∨ output.length ∣ rejections turns)) := by
  intro turns after
  have turned : after = (output.rotate (admissions turns)).rotate (rejections turns) :=
    (output_heldAfter (ring, output) requests).trans (List.rotate_rotate ..).symm
  refine ⟨?_, ?_, fun distinct => ?_⟩
  · rw [rotateLeft_eq_rotate, rotateLeft_eq_rotate]
    exact turned
  · intro turn member rejected
    obtain ⟨reached, request, -, rfl⟩ := exists_of_mem_turnsOf member
    exact (serve_cases reached request).state_of_rejection rejected
  · have stillDistinct : (output.rotate (admissions turns)).Nodup := List.nodup_rotate.mpr distinct
    rw [turned, rotateLeft_eq_rotate, stillDistinct.rotate_eq_self_iff, List.length_rotate,
      List.rotate_eq_nil_iff, Nat.dvd_iff_mod_eq_zero]
    exact or_comm

/-- One rejection in a run leaves a list of three entries one step ahead of the ring. -/
theorem output_turns_with_every_attempt_smallRequests :
    let new : HeldRing Nat := (.empty 2 false, [1, 2, 3])
    rejections (turnsOf new smallRequests) = 1 ∧
      (heldAfter new smallRequests).2 ≠
        [1, 2, 3].rotateLeft (admissions (turnsOf new smallRequests)) := by
  intro new
  have once : rejections (turnsOf new smallRequests) = 1 := by decide +kernel
  refine ⟨once, fun paired => ?_⟩
  have pairedIff :=
    (output_turns_with_every_attempt (.empty 2 false) [1, 2, 3] smallRequests).2.2 (by decide)
  rw [once] at pairedIff
  simpa using pairedIff.mp paired

/-- A picture that is rejected turns the list, although no picture was admitted. -/
theorem rejection_turns_output :
    let new : HeldRing Nat := (.empty 1 false, [1, 2, 3])
    let requests : List RingRequest :=
      [.acquire (graySps ⟨2, 2⟩) {}, .acquire (graySps ⟨2, 2⟩) {}]
    let turns := turnsOf new requests
    admissions turns = 1 ∧
      (heldAfter new requests).2 ≠ [1, 2, 3].rotateLeft (admissions turns) ∧
      ∃ turn ∈ turns, turn.reply.outcome = .error (.ringExhausted 1) ∧
        turn.reply.state.2 ≠ turn.before.2 := by
  decide +kernel

end RingService

end EncoderControl
