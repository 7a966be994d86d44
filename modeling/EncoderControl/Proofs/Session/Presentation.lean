import EncoderControl.Proofs.Ring.Waiting
import EncoderControl.Proofs.Session.Handovers

/-!
# What a compressor is presented with

The scheduler counts the pictures that wait, and the ring keeps its pictures in the order of
admission. Nothing ties the two together but that they change at the same time: the waiting pictures
are the last ones of the ring. A compressor that takes as many pictures off the end as it is told
therefore finds exactly what was admitted since the last batch.
-/

namespace EncoderControl

/-- The compressor did nothing to the ring but release, evict and clear pictures and write to them
other than to their positions. -/
def Handover.Gentle {κ γ η ρ : Type} (handover : Handover κ γ η ρ) : Prop :=
  ∃ edits : List RingEdit, (∀ step ∈ edits, step.KeepsPoc) ∧
    handover.left.1.ring = handover.found.1.ring.editAll edits

/-- The compressor was told the position of the picture admitted last and found the pictures of the
batch at the end of the ring, as they were admitted. -/
structure Handover.Complete {κ γ η ρ : Type} (admitted : List Frame)
    (handover : Handover κ γ η ρ) : Prop where
  pocLast : handover.batch.pocLast = handover.found.1.ring.pocLast
  presents : handover.found.1.ring.Presents admitted handover.batch.numPics

namespace Session

variable {κ γ η ρ : Type}

/-- As many pictures wait in the ring as the scheduler counts. -/
def HoldsPending (admitted : List Frame) (session : Session κ γ η) : Prop :=
  session.bench.ring.Holds admitted session.scheduler.pending

/-- An admitted frame joins those that wait. -/
theorem HoldsPending.accept {admitted : List Frame} {desk : Desk κ γ η ρ}
    (holds : desk.1.HoldsPending admitted) (sps : Sps) (pps : Pps) {placement : Placement}
    (placed : desk.1.bench.ring.placement? = some placement) (input : Frame)
    (field : Option Bool) :
    (admitting desk sps pps placement input field).1.HoldsPending (admitted ++ [input]) := by
  refine PictureRing.Holds.accept holds placed _ fun picture => ?_
  cases field <;> exact ⟨rfl, rfl, rfl, rfl⟩

/-- After a batch that a gentle compressor coded no frame waits. -/
theorem HoldsPending.settle {compressor : Compressor κ γ η ρ}
    {desk : Desk (Traced κ γ η ρ) γ η ρ} {admitted : List Frame}
    (holds : desk.1.HoldsPending admitted) {sps : Sps} {mode : CodingMode}
    (gentle : (handover compressor desk sps mode).Gentle) :
    (settling desk (handOver compressor.traced desk sps mode).state).1.HoldsPending admitted := by
  obtain ⟨edits, keeps, edited⟩ := gentle
  have left : (settling desk (handOver compressor.traced desk sps mode).state).1.bench.ring =
      desk.1.bench.ring.editAll edits := edited
  have settled := PictureRing.Holds.settle holds keeps
  rwa [← left] at settled

/-- The waiting pictures stay at the end of the ring until they are handed over there. -/
theorem holdsPending_discipline (compressor : Compressor κ γ η ρ) :
    Discipline compressor HoldsPending HoldsPending Handover.Complete Handover.Gentle True where
  idle rests := rests
  accept sps pps _ input field rests _ _ _ placed := rests.accept sps pps placed input field
  crowded _ _ := trivial
  wait _ ready _ := ready
  fine _ _ ready _ := ⟨rfl, ready.presents⟩
  settle _ _ ready gentle := ready.settle gentle
  retune _ _ rests := rests
  later more complete := ⟨complete.pocLast, complete.presents.append more⟩

/-- Pictures are handed over as they were admitted. For every configuration that a session is
created from, and for all calls that code frames and fields or change the rate settings, in any
order: if the compressor never admits pictures and leaves positions alone, then whenever it is
called it finds the pictures of the batch at the end of the ring. They stand there by ascending
positions up to the last one, each of them referenced, not coded and with the source that was
admitted at its position. As long as the session is active, the pictures that wait stand there in
the same way. -/
theorem pictures_presented_as_admitted [CostEvaluator γ] (compressor : Compressor κ γ η ρ)
    (config : Config) (own : κ) (factory : LaneFactory γ η)
    {session : Session (Traced κ γ η ρ) γ η}
    (created : (create config (own, []) factory).outcome = .ok session) (output : List ρ)
    {turns : List (Turn (Traced κ γ η ρ) γ η ρ)} {desk : Desk (Traced κ γ η ρ) γ η ρ}
    (run : Runs compressor.traced (session, output) turns desk)
    (gentle : ∀ handover ∈ desk.1.handovers, handover.Gentle) :
    (∀ handover ∈ desk.1.handovers, handover.Complete (admittedIn turns)) ∧
      ((∀ turn ∈ turns, turn.reply.Answered) → desk.1.status = .active →
        desk.1.bench.ring.pocLast + 1 = (admittedIn turns).length ∧
          desk.1.bench.ring.Presents (admittedIn turns) desk.1.scheduler.pending) := by
  obtain ⟨plan, sps, ppsStore, lanes, -, -, -, rfl⟩ := exists_of_create created
  have initial := PictureRing.holds_empty (ringCapacity config) config.adaptiveQp
  obtain ⟨sound, rests⟩ := (holdsPending_discipline compressor).run run rfl initial gentle
  refine ⟨sound.fine, fun answered active => ?_⟩
  have holds := rests answered active
  exact ⟨holds.counted, holds.presents⟩

/-- Three frames are handed over as they were admitted, the first two of them together. -/
theorem pictures_presented_as_admitted_smallCalls :
    (∀ handover ∈ (deskAfter releasing.traced smallDesk smallCalls).1.handovers,
      handover.Complete (admittedIn (turnsOf releasing.traced smallDesk smallCalls))) ∧
      (deskAfter releasing.traced smallDesk smallCalls).1.handovers.map
        (fun handover => handover.batch.numPics) = [2, 1] := by
  refine ⟨(pictures_presented_as_admitted releasing smallConfig () plainFactory
    (create_smallConfig _) [] runs_smallCalls fun handover member => ?_).1, by decide +kernel⟩
  refine ⟨_, ?_, edits_releasing member⟩
  rw [List.forall_mem_map]
  exact fun _ _ => trivial

end Session

end EncoderControl
