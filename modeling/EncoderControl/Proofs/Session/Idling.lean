import EncoderControl.Proofs.Session.Capacity

/-!
# Sessions with an idling compressor

A compressor that leaves everything as it finds it keeps every picture referenced, so the ring of
its session fills up as pictures come in. `Filled` counts them, and those of them that wait. What
feeding one more frame can come to is said once, by `Poured`: it finds no place, it waits for its
GOP, or it is handed over with all that waited.
-/

namespace EncoderControl

namespace Session

variable {κ γ η ρ : Type}

/-- A compressor that leaves everything as it finds it. -/
def idling : Compressor κ γ η ρ where
  codeBatch _ := pure ()

/-! ### Parameter sets that are there -/

section Resolved

variable {desk : Desk κ γ η ρ} {sps : Sps} {pps : Pps}

/-- No picture is turned away for a parameter set that is there. -/
theorem receive_ne_unresolved (present : desk.1.spsStore.get? spsId = some sps)
    (chosen : desk.1.ppsAt (desk.1.bench.ring.pocLast + 1) = .ok pps) (input : Frame)
    (field : Option Bool) (id : Nat) :
    (receive input field desk).outcome ≠ .error (.unresolvedParameterSet id) := by
  have sets := activeSps_of_some present
  have choice := resolvePps_of_ok chosen
  unfold receive
  rw [Operation.bind_apply_of_ok (by rw [sets]), sets,
    Operation.bind_apply_of_ok (by rw [choice]), choice]
  by_cases misfit : input.resolution ≠ sps.resolution ∨ input.format ≠ sps.chromaFormat
  · simp [if_pos misfit]
  · simp only [if_neg misfit]
    cases placed : desk.1.bench.ring.placement? with
    | none =>
      obtain ⟨outcome, -⟩ := onRing_acquire_of_exhausted placed sps pps
      simp [Operation.bind_apply_of_error outcome]
    | some placement =>
      obtain ⟨outcome, state⟩ := onRing_acquire_of_placement placed sps pps
      have filled := PictureRing.modify?_freshHandle placed
        (desk.1.bench.ring.storageAt sps pps placement) (withInput input field)
      simp [Operation.bind_apply_of_ok outcome, state, filled, change]

/-- No feeding is refused for a parameter set that is there. -/
theorem feed_ne_unresolved (compressor : Compressor κ γ η ρ) (feeding : Feeding)
    (present : desk.1.spsStore.get? spsId = some sps)
    (chosen : desk.1.ppsAt (desk.1.bench.ring.pocLast + 1) = .ok pps) (id : Nat) :
    (feed compressor feeding desk).outcome ≠ .error (.refused (.unresolvedParameterSet id)) := by
  have submits (loaded : Desk κ γ η ρ) (kept : loaded.1.spsStore = desk.1.spsStore) :
      (submit compressor feeding.flush feeding.mode feeding.fieldNum loaded).outcome ≠
        .error (.refused (.unresolvedParameterSet id)) := by
    have submitted := submit_cases compressor feeding loaded
    generalize (submit compressor feeding.flush feeding.mode feeding.fieldNum loaded).outcome =
      outcome at submitted
    generalize (submit compressor feeding.flush feeding.mode feeding.fieldNum loaded).state =
      state at submitted
    cases submitted with
    | unresolved missing =>
      rw [kept, present] at missing
      cases missing
    | waiting notDue => simp
    | coded other inForce due codes => simp
    | stopped other stop inForce due stops => cases stop <;> simp [Stop.map]
  unfold feed receiveAndSubmit
  rw [outcome_guardFailure]
  cases given : feeding.input with
  | none => exact submits desk rfl
  | some input =>
    cases received : (receive input feeding.field desk).outcome with
    | error error =>
      rw [(bind_mapError_refused_of_error received _).1]
      intro refused
      cases refused
      exact receive_ne_unresolved present chosen input feeding.field id received
    | ok done =>
      rw [(bind_mapError_refused_of_ok received _).1]
      refine submits _ ?_
      have cases := receive_cases input feeding.field desk
      rw [received] at cases
      generalize (receive input feeding.field desk).state = state at cases
      cases cases with
      | admitted sps pps placement => rfl

end Resolved

/-! ### Filling up -/

/-- An active session in which all pictures are referenced. There are `pictures` of them, `waiting`
of which were not handed over yet, and no handover left more than `limit` referenced. -/
structure Filled (sps : Sps) (capacity gopSize limit pictures waiting : Nat)
    (desk : Desk (Traced κ γ η ρ) γ η ρ) : Prop where
  active : desk.1.status = .active
  present : desk.1.spsStore.get? spsId = some sps
  resolves : ∀ poc, ∃ pps, desk.1.ppsAt poc = .ok pps
  consistent : desk.1.bench.ring.Consistent
  capacity : desk.1.bench.ring.capacity = capacity
  gop : desk.1.scheduler.gopSize = gopSize
  referenced : ∀ entry ∈ desk.1.bench.ring.entries, entry.2.referenced = true
  pictures : desk.1.bench.ring.entries.length = pictures
  waiting : desk.1.scheduler.pending = waiting
  modest : ∀ handover ∈ desk.1.handovers, handover.Modest limit

/-- A blank frame of the size and format of a sequence, taken on its own. -/
def blankFeeding (sps : Sps) (flush : Bool) : Feeding where
  input := some (.blank sps.resolution sps.chromaFormat)
  field := none
  flush := flush
  mode := .frame
  fieldNum := 0

section Filled

variable {sps : Sps} {capacity gopSize limit pictures waiting : Nat}
  {desk loaded : Desk (Traced κ γ η ρ) γ η ρ}

/-- A picture that comes in is referenced, and none of the others makes room for it. -/
theorem Filled.load (filled : Filled sps capacity gopSize limit pictures waiting desk)
    {flush : Bool} (loads : Loaded (blankFeeding sps flush) desk loaded) :
    Filled sps capacity gopSize limit (pictures + 1) (waiting + 1) loaded := by
  cases loads with
  | idle nothing => cases nothing
  | admitted input sps' pps placement given present chosen fits placed =>
    have entries := filled.consistent.entries_accept placed
      (desk.1.bench.ring.storageAt sps' pps placement) (withInput input none)
    rw [List.eraseP_of_forall_not fun entry member => by simp [filled.referenced entry member]]
      at entries
    exact
      { active := filled.active
        present := filled.present
        resolves := filled.resolves
        consistent := filled.consistent.accept placed _ _
        capacity := (PictureRing.capacity_accept ..).trans filled.capacity
        gop := filled.gop
        referenced := by
          intro entry member
          change entry ∈ PictureRing.entries (PictureRing.accept ..) at member
          rw [blankFeeding, entries, List.mem_append, List.mem_singleton] at member
          rcases member with earlier | rfl
          · exact filled.referenced entry earlier
          · rfl
        pictures := by
          change (PictureRing.entries (PictureRing.accept ..)).length = _
          rw [blankFeeding, entries, List.length_append, filled.pictures]
          rfl
        waiting := congrArg (· + 1) filled.waiting
        modest := filled.modest }

/-- The idling compressor leaves all pictures referenced, and none waits any longer. -/
theorem Filled.settle (filled : Filled sps capacity gopSize limit pictures waiting desk)
    (few : pictures ≤ limit) (mode : CodingMode) :
    Filled sps capacity gopSize limit pictures 0
      (settling desk (handOver idling.traced desk sps mode).state) where
  active := filled.active
  present := filled.present
  resolves := filled.resolves
  consistent := filled.consistent
  capacity := filled.capacity
  gop := filled.gop
  referenced := filled.referenced
  pictures := filled.pictures
  waiting := rfl
  modest := by
    intro other member
    have noted : other ∈ desk.1.handovers ++ [handover idling desk sps mode] := member
    rcases List.mem_append.mp noted with earlier | last
    · exact filled.modest other earlier
    · rw [List.mem_singleton.mp last]
      have counted : desk.1.bench.ring.numReferenced ≤ pictures :=
        filled.pictures ▸ List.countP_le_length
      exact ⟨⟨[], rfl⟩, counted.trans few⟩

/-- A picture finds no place once there are as many as the ring may hold. -/
theorem Filled.placement?_eq_none_iff
    (filled : Filled sps capacity gopSize limit pictures waiting desk) :
    desk.1.bench.ring.placement? = none ↔ capacity ≤ pictures := by
  rw [PictureRing.placement?_eq_none_iff, filled.consistent.reusable?_eq_none_iff,
    ← filled.consistent.length_entries, filled.pictures, filled.capacity]
  exact and_iff_right filled.referenced

/-- What feeding a blank frame to a session with an idling compressor can come to. -/
inductive Poured (sps : Sps) (flush : Bool) (desk : Desk (Traced κ γ η ρ) γ η ρ) :
    Except (Stop EncodeError) Nat → Desk (Traced κ γ η ρ) γ η ρ → Prop where
  | exhausted (full : desk.1.bench.ring.placement? = none) :
      Poured sps flush desk (.error (.refused (.ringExhausted desk.1.bench.ring.capacity)))
        (ending (desk.1, desk.2.rotateLeft 1))
  | waited (loaded : Desk (Traced κ γ η ρ) γ η ρ)
      (loads : Loaded (blankFeeding sps flush) desk loaded)
      (notDue : (blankFeeding sps flush).isDue loaded.1 = false) :
      Poured sps flush desk (.ok 0) loaded
  | coded (loaded : Desk (Traced κ γ η ρ) γ η ρ)
      (loads : Loaded (blankFeeding sps flush) desk loaded)
      (due : (blankFeeding sps flush).isDue loaded.1 = true) :
      Poured sps flush desk (.ok loaded.1.scheduler.pending)
        (settling loaded (handOver idling.traced loaded sps .frame).state)

/-- A blank frame that comes to a filled session meets one of the ends that `Poured` lists. -/
theorem Filled.poured (filled : Filled sps capacity gopSize limit pictures waiting desk)
    (flush : Bool) :
    let reply := feed idling.traced (blankFeeding sps flush) desk
    Poured sps flush desk reply.outcome reply.state := by
  intro reply
  obtain ⟨pps, chosen⟩ := filled.resolves (desk.1.bench.ring.pocLast + 1)
  have resolved := feed_ne_unresolved idling.traced (blankFeeding sps flush) filled.present chosen
  have fed := feed_cases idling.traced (blankFeeding sps flush) desk
  change ∀ id, reply.outcome ≠ _ at resolved
  change Fed _ _ _ reply.outcome reply.state at fed
  generalize reply.outcome = outcome at fed resolved ⊢
  generalize reply.state = state at fed ⊢
  cases fed with
  | refused input other given present misfit =>
    rw [filled.present] at present
    cases present
    cases given
    simp [Frame.blank] at misfit
  | unresolved id => exact absurd rfl (resolved id)
  | exhausted input given full => exact .exhausted full
  | waited loaded loads notDue => exact .waited _ loads notDue
  | coded loaded other loads present due codes =>
    rw [(filled.load loads).present] at present
    cases present
    exact .coded _ loads due
  -- The idling compressor neither refuses a batch nor runs into a fault.
  | failed loaded other error loads present due fails => cases fails
  | faulted loaded other fault loads present due faults => cases faults

/-- A frame that is flushed does not wait. -/
theorem Filled.flush (filled : Filled sps capacity gopSize limit pictures waiting desk)
    (room : pictures < capacity) (few : pictures + 1 ≤ limit) :
    let reply := feed idling.traced (blankFeeding sps true) desk
    (∃ numPics, reply.outcome = .ok numPics) ∧
      Filled sps capacity gopSize limit (pictures + 1) 0 reply.state := by
  intro reply
  have poured : Poured sps true desk reply.outcome reply.state := filled.poured true
  generalize reply.outcome = outcome at poured ⊢
  generalize reply.state = state at poured ⊢
  cases poured with
  | exhausted full =>
    rw [filled.placement?_eq_none_iff] at full
    exact absurd room (Nat.not_lt.mpr full)
  | waited loaded loads notDue =>
    have none := Feeding.pending_eq_zero_of_not_isDue rfl (.inl rfl) notDue
    rw [(filled.load loads).waiting] at none
    exact absurd none (Nat.succ_ne_zero waiting)
  | coded loaded loads due => exact ⟨⟨_, rfl⟩, (filled.load loads).settle few .frame⟩

/-- A frame that is not flushed waits if the GOP is not complete with it. -/
theorem Filled.wait (filled : Filled sps capacity gopSize limit pictures waiting desk)
    (room : pictures < capacity) (incomplete : waiting + 1 < gopSize) :
    let reply := feed idling.traced (blankFeeding sps false) desk
    (∃ numPics, reply.outcome = .ok numPics) ∧
      Filled sps capacity gopSize limit (pictures + 1) (waiting + 1) reply.state := by
  intro reply
  have poured : Poured sps false desk reply.outcome reply.state := filled.poured false
  generalize reply.outcome = outcome at poured ⊢
  generalize reply.state = state at poured ⊢
  cases poured with
  | exhausted full =>
    rw [filled.placement?_eq_none_iff] at full
    exact absurd room (Nat.not_lt.mpr full)
  | waited loaded loads notDue => exact ⟨⟨_, rfl⟩, filled.load loads⟩
  | coded loaded loads due =>
    have lacks : loaded.1.scheduler.pending < loaded.1.scheduler.gopSize := by
      rw [(filled.load loads).waiting, (filled.load loads).gop]
      exact incomplete
    rcases Feeding.early_of_isDue due lacks with flushed | ⟨fields, -⟩
    · cases flushed
    · exact absurd rfl fields

/-- A full ring has no place for another frame. -/
theorem Filled.exhaust (filled : Filled sps capacity gopSize limit capacity waiting desk)
    (flush : Bool) :
    let reply := feed idling.traced (blankFeeding sps flush) desk
    reply.outcome = .error (.refused (.ringExhausted capacity)) ∧
      reply.state.1.handovers = desk.1.handovers := by
  intro reply
  have none : desk.1.bench.ring.placement? = none :=
    filled.placement?_eq_none_iff.mpr (Nat.le_refl capacity)
  have noneLoads {loaded : Desk (Traced κ γ η ρ) γ η ρ}
      (loads : Loaded (blankFeeding sps flush) desk loaded) : False := by
    cases loads with
    | idle nothing => cases nothing
    | admitted input other pps placement given present chosen fits placed =>
      rw [none] at placed
      cases placed
  have poured : Poured sps flush desk reply.outcome reply.state := filled.poured flush
  generalize reply.outcome = outcome at poured ⊢
  generalize reply.state = state at poured ⊢
  cases poured with
  | exhausted full => exact ⟨by rw [filled.capacity], rfl⟩
  | waited loaded loads notDue => exact (noneLoads loads).elim
  | coded loaded loads due => exact (noneLoads loads).elim

end Filled

end Session

end EncoderControl
