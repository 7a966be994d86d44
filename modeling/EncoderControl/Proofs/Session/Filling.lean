import EncoderControl.Proofs.Session.Idling

/-!
# Runs that exhaust the ring

As long as frames are flushed one by one none of them waits, and the frames after that wait until
they make up a GOP. So a ring with an idling compressor is filled up with less than a GOP waiting,
and there the next frame finds no place. All pictures that do not wait were handed over, so this
takes no more referenced pictures after a handover than places that a GOP does not need, and one.
-/

namespace EncoderControl

namespace Session

variable {κ γ η ρ : Type}

/-- A run of answered calls on an idling compressor fills the ring that far. -/
def Fillable (start : Desk (Traced κ γ η ρ) γ η ρ) (sps : Sps)
    (capacity gopSize limit pictures waiting : Nat) : Prop :=
  ∃ turns desk, Runs idling.traced start turns desk ∧ (∀ turn ∈ turns, turn.reply.Answered) ∧
    Filled sps capacity gopSize limit pictures waiting desk

section Fillable

variable {start : Desk (Traced κ γ η ρ) γ η ρ} {sps : Sps}
  {capacity gopSize limit pictures waiting : Nat}

/-- The call that takes a blank frame. -/
def blankCall (sps : Sps) (flush : Bool) : Call :=
  .encode (some (.blank sps.resolution sps.chromaFormat)) flush

/-- Taking a blank frame is its feeding. -/
theorem perform_blankCall (compressor : Compressor κ γ η ρ) (sps : Sps) (flush : Bool)
    {desk : Desk κ γ η ρ} (active : desk.1.status = .active) :
    (perform compressor (blankCall sps flush) desk).outcome =
        (feed compressor (blankFeeding sps flush) desk).outcome ∧
      (perform compressor (blankCall sps flush) desk).state =
        (feed compressor (blankFeeding sps flush) desk).state := by
  obtain ⟨answer, state⟩ := perform_encode_of_active compressor
    (some (.blank sps.resolution sps.chromaFormat)) flush active
  obtain ⟨outcome, left⟩ := feedAll_singleton compressor (blankFeeding sps flush) desk
  exact ⟨answer.trans outcome, state.trans left⟩

/-- Filling goes on with a frame that succeeds. -/
theorem Filled.fillable_of_feed {turns : List (Turn (Traced κ γ η ρ) γ η ρ)}
    {desk : Desk (Traced κ γ η ρ) γ η ρ} {more left : Nat} {flush : Bool}
    (filled : Filled sps capacity gopSize limit pictures waiting desk)
    (run : Runs idling.traced start turns desk) (answered : ∀ turn ∈ turns, turn.reply.Answered)
    (succeeds : ∃ numPics,
      (feed idling.traced (blankFeeding sps flush) desk).outcome = .ok numPics)
    (next : Filled sps capacity gopSize limit more left
      (feed idling.traced (blankFeeding sps flush) desk).state) :
    Fillable start sps capacity gopSize limit more left := by
  obtain ⟨outcome, state⟩ := perform_blankCall idling.traced sps flush filled.active
  obtain ⟨numPics, succeeds⟩ := succeeds
  refine ⟨_, _, run.call answered (blankCall sps flush), fun turn member => ?_, ?_⟩
  · rcases List.mem_append.mp member with earlier | last
    · exact answered turn earlier
    · rw [List.mem_singleton.mp last]
      intro fault faults
      rw [outcome, succeeds] at faults
      cases faults
  · rwa [state]

/-- Flushed frames fill the ring as far as handovers may leave pictures referenced. -/
theorem Filled.fillable_flushing (filled : Filled sps capacity gopSize limit 0 0 start)
    (few : pictures ≤ limit) (room : pictures ≤ capacity) :
    Fillable start sps capacity gopSize limit pictures 0 := by
  induction pictures with
  | zero => exact ⟨[], start, .start, fun _ member => absurd member List.not_mem_nil, filled⟩
  | succ pictures inductionHypothesis =>
    obtain ⟨turns, desk, run, answered, reached⟩ :=
      inductionHypothesis (Nat.le_of_succ_le few) (Nat.le_of_succ_le room)
    obtain ⟨succeeds, next⟩ := reached.flush room few
    exact reached.fillable_of_feed run answered succeeds next

/-- The frames of an incomplete GOP go on filling it. -/
theorem Fillable.extend (fillable : Fillable start sps capacity gopSize limit pictures 0)
    (incomplete : waiting < gopSize) (room : pictures + waiting ≤ capacity) :
    Fillable start sps capacity gopSize limit (pictures + waiting) waiting := by
  induction waiting with
  | zero => exact fillable
  | succ waiting inductionHypothesis =>
    obtain ⟨turns, desk, run, answered, reached⟩ :=
      inductionHypothesis (Nat.lt_of_succ_lt incomplete) (Nat.le_of_succ_le room)
    obtain ⟨succeeds, next⟩ := reached.wait room incomplete
    exact reached.fillable_of_feed run answered succeeds next

/-- A ring with less room than for a GOP and for the pictures that handovers may leave referenced
is exhausted by some calls. -/
theorem Filled.exists_exhausted (filled : Filled sps capacity gopSize limit 0 0 start)
    (gop : 1 ≤ gopSize) (scarce : capacity < gopSize + limit) :
    ∃ turns desk, Runs idling.traced start turns desk ∧
      (∀ handover ∈ desk.1.handovers, handover.Modest limit) ∧
      .refused (.ringExhausted capacity) ∈ stopsIn turns := by
  have full : Fillable start sps capacity gopSize limit capacity (min (gopSize - 1) capacity) := by
    have flushed := filled.fillable_flushing
      (show capacity - min (gopSize - 1) capacity ≤ limit by omega) (by omega)
    have waited := flushed.extend (show min (gopSize - 1) capacity < gopSize by omega) (by omega)
    rwa [Nat.sub_add_cancel (by omega)] at waited
  obtain ⟨turns, desk, run, answered, reached⟩ := full
  obtain ⟨outcome, state⟩ := perform_blankCall idling.traced sps false reached.active
  obtain ⟨refused, kept⟩ := reached.exhaust false
  refine ⟨_, _, run.call answered (blankCall sps false), ?_, ?_⟩
  · rw [state, kept]
    exact reached.modest
  · have stops : (perform idling.traced (blankCall sps false) desk).stop? =
        some (.refused (.ringExhausted capacity)) := by
      rw [Reply.stop?, outcome, refused]
    exact List.mem_filterMap.mpr ⟨_, List.mem_append_right _ (List.mem_singleton.mpr rfl), stops⟩

end Fillable

end Session

end EncoderControl
