import EncoderControl.Proofs.Session.Handovers

/-!
# The ring is large enough

The ring of a session has room for a whole GOP and for what the decoder buffers. Fewer pictures wait
than a GOP has, because a complete GOP is handed over at once, and what is not waiting was left
referenced by the compressor. Together these never fill the ring, whatever calls are made.
-/

namespace EncoderControl

/-- What the compressor did to the ring, without admitting pictures, left no more than `room`
pictures referenced. -/
structure Handover.Modest {κ γ η ρ : Type} (room : Nat) (handover : Handover κ γ η ρ) : Prop where
  edits : ∃ edits, handover.left.1.ring = handover.found.1.ring.editAll edits
  referenced : handover.left.1.ring.numReferenced ≤ room

namespace Session

variable {κ γ η ρ : Type} {gopSize room : Nat}

/-- The ring has room for a GOP and for `room` other pictures, and no more than `room` pictures are
referenced besides those that wait. -/
structure Roomy (gopSize room : Nat) (session : Session κ γ η) : Prop where
  consistent : session.bench.ring.Consistent
  gop : session.scheduler.gopSize = gopSize
  capacity : session.bench.ring.capacity = gopSize + room
  waiting : session.scheduler.pending ≤ gopSize
  referenced : session.bench.ring.numReferenced ≤ session.scheduler.pending + room

/-- A session that waits for more pictures still lacks some for a GOP. -/
theorem Roomy.pending_lt {session : Session κ γ η} (roomy : Roomy gopSize room session)
    (positive : 1 ≤ gopSize) (feeding : Feeding) (notDue : feeding.isDue session = false) :
    session.scheduler.pending < gopSize := by
  refine Nat.lt_of_le_of_ne roomy.waiting fun complete => ?_
  have waiting : 0 < session.scheduler.pending := by omega
  have due := feeding.isDue_of_complete waiting (complete.trans roomy.gop.symm)
  rw [notDue] at due
  cases due

/-- A picture that is admitted while the GOP lacks some leaves room for the rest of it. -/
theorem Roomy.accept {desk : Desk κ γ η ρ} (roomy : Roomy gopSize room desk.1)
    (lacks : desk.1.scheduler.pending < gopSize) (sps : Sps) (pps : Pps) {placement : Placement}
    (placed : desk.1.bench.ring.placement? = some placement) (input : Frame)
    (field : Option Bool) :
    Roomy gopSize room (admitting desk sps pps placement input field).1 where
  consistent := roomy.consistent.accept placed _ _
  gop := roomy.gop
  capacity := (PictureRing.capacity_accept ..).trans roomy.capacity
  waiting := lacks
  referenced := by
    have added := roomy.consistent.numReferenced_accept placed
      (desk.1.bench.ring.storageAt sps pps placement) (withInput input field)
    have before := roomy.referenced
    change PictureRing.numReferenced (PictureRing.accept ..) ≤ desk.1.scheduler.pending + 1 + room
    omega

/-- A modest handover leaves room for the next GOP. -/
theorem Roomy.settle {compressor : Compressor κ γ η ρ} {desk : Desk (Traced κ γ η ρ) γ η ρ}
    (roomy : Roomy gopSize room desk.1) {sps : Sps} {mode : CodingMode}
    (modest : (handover compressor desk sps mode).Modest room) :
    Roomy gopSize room (settling desk (handOver compressor.traced desk sps mode).state).1 := by
  obtain ⟨⟨edits, edited⟩, referenced⟩ := modest
  have left : (settling desk (handOver compressor.traced desk sps mode).state).1.bench.ring =
      desk.1.bench.ring.editAll edits := edited
  exact
    { consistent := by rw [left]; exact roomy.consistent.editAll edits
      gop := roomy.gop
      capacity := by
        rw [left, (PictureRing.shape_editAll ..).2]
        exact roomy.capacity
      waiting := Nat.zero_le gopSize
      referenced := by
        change PictureRing.numReferenced _ ≤ 0 + room
        rwa [Nat.zero_add] }

/-- Modest handovers keep room in the ring, at rest for a whole GOP less the waiting pictures. -/
theorem roomy_discipline (compressor : Compressor κ γ η ρ) (positive : 1 ≤ gopSize) :
    Discipline compressor
      (fun _ session => Roomy gopSize room session ∧ session.scheduler.pending < gopSize)
      (fun _ session => Roomy gopSize room session) (fun _ _ => True) (Handover.Modest room)
      False where
  idle rests := rests.1
  accept sps pps _ input field rests _ _ _ placed :=
    rests.1.accept rests.2 sps pps placed input field
  crowded := by
    rintro - session ⟨roomy, lacks⟩ full
    -- Without a place every slot holds a referenced picture, but fewer are referenced than fit.
    have room := roomy.referenced
    refine roomy.consistent.exists_placement ?_ full
    rw [roomy.capacity]
    omega
  wait feeding ready notDue := ⟨ready, ready.pending_lt positive feeding notDue⟩
  fine _ _ _ _ := trivial
  settle _ _ ready modest := ⟨ready.settle modest, positive⟩
  retune _ _ rests := ⟨⟨rests.1.1, rests.1.2, rests.1.3, rests.1.4, rests.1.5⟩, rests.2⟩
  later _ fine := fine

/-- The ring of a session is never exhausted. For every configuration with a GOP that a session is
created from, and for all calls that code frames and fields or change the rate settings, in any
order: if no call of the compressor admits pictures or leaves more of them referenced than the
decoder buffers, and two, then no call is refused for want of a place in the ring. -/
theorem ring_never_exhausted [CostEvaluator γ] (compressor : Compressor κ γ η ρ) (config : Config)
    (own : κ) (factory : LaneFactory γ η) {session : Session (Traced κ γ η ρ) γ η}
    (created : (create config (own, []) factory).outcome = .ok session)
    (gop : 1 ≤ config.gopSize) (output : List ρ)
    {turns : List (Turn (Traced κ γ η ρ) γ η ρ)} {desk : Desk (Traced κ γ η ρ) γ η ρ}
    (run : Runs compressor.traced (session, output) turns desk)
    (modest : ∀ handover ∈ desk.1.handovers,
      handover.Modest (config.maxDecPicBuffering[6] + 2)) (capacity : Nat) :
    .refused (.ringExhausted capacity) ∉ stopsIn turns := by
  obtain ⟨plan, sps, ppsStore, lanes, -, -, -, rfl⟩ := exists_of_create created
  let limit := config.maxDecPicBuffering[6] + 2
  have discipline : Discipline compressor _ _ _ (Handover.Modest limit) False :=
    roomy_discipline compressor gop
  refine ((discipline.run run rfl ⟨?_, gop⟩ modest).1.crowded capacity)
  exact
    { consistent := PictureRing.consistent_empty ..
      gop := rfl
      capacity := Nat.add_assoc ..
      waiting := Nat.zero_le _
      referenced := Nat.zero_le _ }

/-- Three frames that are released once they are coded find their places in a small ring. -/
theorem ring_never_exhausted_smallCalls :
    (deskAfter releasing.traced smallDesk smallCalls).1.handovers.length = 2 ∧
      .refused (.ringExhausted 9) ∉ stopsIn (turnsOf releasing.traced smallDesk smallCalls) := by
  refine ⟨by decide +kernel, ring_never_exhausted releasing smallConfig () plainFactory
    (create_smallConfig _) (by decide) [] runs_smallCalls (fun handover member => ?_) 9⟩
  have few : ∀ handover ∈ (deskAfter releasing.traced smallDesk smallCalls).1.handovers,
      handover.left.1.ring.numReferenced ≤ 7 := by decide +kernel
  exact ⟨⟨_, edits_releasing member⟩, few handover member⟩

end Session

end EncoderControl
