import EncoderControl.Proofs.Session.Creation
import EncoderControl.Proofs.Session.Runs

/-!
# Traced compressors

To speak about what a compressor was handed over during a run, it is made to keep a trace of its
calls next to its own state. Each call is noted with all that the compressor found and all that it
left. A session creates nothing else that outlives a batch, so the trace of a run is complete.
-/

namespace EncoderControl

variable {κ κ' γ η ρ : Type}

/-- The bench with another state of the compressor. -/
def Bench.withOwn (bench : Bench κ γ η) (own : κ') : Bench κ' γ η where
  own := own
  ring := bench.ring
  quantizer := bench.quantizer
  lanes := bench.lanes

/-- One call of a compressor: what it was told, what it found and what it left. -/
structure Handover (κ γ η ρ : Type) where
  batch : Batch
  found : Bench κ γ η × List ρ
  left : Bench κ γ η × List ρ

/-- The state of a compressor and the calls made so far. -/
abbrev Traced (κ γ η ρ : Type) := κ × List (Handover κ γ η ρ)

/-- The compressor with a trace of its calls. -/
def Compressor.traced (compressor : Compressor κ γ η ρ) : Compressor (Traced κ γ η ρ) γ η ρ where
  codeBatch batch := fun (bench, output) =>
    let found := (bench.withOwn bench.own.1, output)
    (compressor.codeBatch batch found).mapState fun left =>
      (left.1.withOwn (left.1.own, bench.own.2 ++ [⟨batch, found, left⟩]), left.2)

namespace Session

/-- All calls that were made of the compressor of a session, the first one first. -/
def handovers (session : Session (Traced κ γ η ρ) γ η) : List (Handover κ γ η ρ) :=
  session.bench.own.2

/-- The handover that a batch of the waiting pictures comes to. -/
def handover (compressor : Compressor κ γ η ρ) (desk : Desk (Traced κ γ η ρ) γ η ρ) (sps : Sps)
    (mode : CodingMode) : Handover κ γ η ρ :=
  let batch := desk.1.batch sps mode
  let found := (desk.1.bench.withOwn desk.1.bench.own.1, desk.2)
  ⟨batch, found, (compressor.codeBatch batch found).state⟩

/-- An admission hands nothing over. -/
theorem handovers_of_loaded {feeding : Feeding} {desk loaded : Desk (Traced κ γ η ρ) γ η ρ}
    (loads : Loaded feeding desk loaded) : loaded.1.handovers = desk.1.handovers := by
  cases loads <;> rfl

/-! ### Invariants around handovers -/

/-- An invariant of sessions, with pictures admitted so far. `Rest` holds between feedings of an
active session and `Ready` once a picture was admitted, if one came. Whatever is `Ready` makes a
`Fine` handover, and the compressor restores `Rest` by a `Fair` one. A session at rest that has no
place for a picture is what `Crowded` says. -/
structure Discipline (compressor : Compressor κ γ η ρ)
    (Rest Ready : List Frame → Session (Traced κ γ η ρ) γ η → Prop)
    (Fine : List Frame → Handover κ γ η ρ → Prop) (Fair : Handover κ γ η ρ → Prop)
    (Crowded : Prop) : Prop where
  idle : ∀ {admitted session}, Rest admitted session → Ready admitted session
  accept : ∀ {admitted} {desk : Desk (Traced κ γ η ρ) γ η ρ} (sps : Sps) (pps : Pps)
    {placement : Placement} (input : Frame) (field : Option Bool), Rest admitted desk.1 →
    desk.1.spsStore.get? spsId = some sps →
    desk.1.ppsAt (desk.1.bench.ring.pocLast + 1) = .ok pps →
    input.resolution = sps.resolution ∧ input.format = sps.chromaFormat →
    desk.1.bench.ring.placement? = some placement →
    Ready (admitted ++ [input]) (admitting desk sps pps placement input field).1
  crowded : ∀ {admitted session}, Rest admitted session →
    session.bench.ring.placement? = none → Crowded
  wait : ∀ {admitted session} (feeding : Feeding), Ready admitted session →
    feeding.isDue session = false → Rest admitted session
  fine : ∀ {admitted} {desk : Desk (Traced κ γ η ρ) γ η ρ} (sps : Sps) (feeding : Feeding),
    Ready admitted desk.1 → feeding.isDue desk.1 = true →
    Fine admitted (handover compressor desk sps feeding.mode)
  settle : ∀ {admitted} {desk : Desk (Traced κ γ η ρ) γ η ρ} (sps : Sps) (mode : CodingMode),
    Ready admitted desk.1 → Fair (handover compressor desk sps mode) →
    Rest admitted (settling desk (handOver compressor.traced desk sps mode).state).1
  retune : ∀ {admitted} {desk : Desk (Traced κ γ η ρ) γ η ρ} (tunings : Tunings) (sps : Sps),
    Rest admitted desk.1 → Rest admitted (retuned desk tunings sps).1
  later : ∀ {admitted handover} (more : List Frame), Fine admitted handover →
    Fine (admitted ++ more) handover

section Discipline

variable {compressor : Compressor κ γ η ρ}
  {Rest Ready : List Frame → Session (Traced κ γ η ρ) γ η → Prop}
  {Fine : List Frame → Handover κ γ η ρ → Prop} {Fair : Handover κ γ η ρ → Prop} {Crowded : Prop}

/-- All handovers so far were fine, and admission only failed on a crowded ring. -/
structure Sound (Fine : List Frame → Handover κ γ η ρ → Prop) (Crowded : Prop)
    (admitted : List Frame) (stops : List (Stop EncodeError))
    (handovers : List (Handover κ γ η ρ)) : Prop where
  fine : ∀ handover ∈ handovers, Fine admitted handover
  crowded : ∀ capacity, .refused (.ringExhausted capacity) ∈ stops → Crowded

/-- The picture of a feeding that was admitted makes the session ready. -/
theorem Discipline.ready (discipline : Discipline compressor Rest Ready Fine Fair Crowded)
    {feeding : Feeding} {desk loaded : Desk (Traced κ γ η ρ) γ η ρ} {admitted : List Frame}
    (rests : Rest admitted desk.1) (loads : Loaded feeding desk loaded) :
    Ready (admitted ++ admittedOf feeding.input.toList desk.1 loaded.1) loaded.1 := by
  have counted := received_of_loaded loads
  have all : admittedOf feeding.input.toList desk.1 loaded.1 = feeding.input.toList :=
    List.take_of_length_le (by omega)
  rw [all]
  cases loads with
  | idle nothing =>
    rw [nothing, Option.toList_none, List.append_nil]
    exact discipline.idle rests
  | admitted input sps pps placement given present chosen fits placed =>
    rw [given, Option.toList_some]
    exact discipline.accept sps pps input feeding.field rests present chosen fits placed

section Sound

variable {admitted : List Frame} {stops : List (Stop EncodeError)}
  {handovers : List (Handover κ γ η ρ)}

/-- One more stop leaves everything sound, unless an admission fails on a ring that is not crowded.
-/
theorem Sound.stopped (sound : Sound Fine Crowded admitted stops handovers)
    (stop : Stop EncodeError)
    (allowed : ∀ capacity, stop = .refused (.ringExhausted capacity) → Crowded) :
    Sound Fine Crowded admitted (stops ++ [stop]) handovers where
  fine := sound.fine
  crowded capacity member := by
    rcases List.mem_append.mp member with earlier | last
    · exact sound.crowded capacity earlier
    · exact allowed capacity (List.mem_singleton.mp last).symm

/-- More frames that are admitted leave earlier handovers fine. -/
theorem Sound.later (sound : Sound Fine Crowded admitted stops handovers)
    (discipline : Discipline compressor Rest Ready Fine Fair Crowded) (more : List Frame) :
    Sound Fine Crowded (admitted ++ more) stops handovers where
  fine handover member := discipline.later more (sound.fine handover member)
  crowded := sound.crowded

/-- One more fine handover leaves everything sound. -/
theorem Sound.handed (sound : Sound Fine Crowded admitted stops handovers)
    {handover : Handover κ γ η ρ} (fine : Fine admitted handover) :
    Sound Fine Crowded admitted stops (handovers ++ [handover]) where
  fine other member := by
    rcases List.mem_append.mp member with earlier | last
    · exact sound.fine other earlier
    · rwa [List.mem_singleton.mp last]
  crowded := sound.crowded

end Sound

/-- A stop that comes before anything is done has nothing to do with the ring. -/
theorem Upfront.ne_ringExhausted {stop : Stop EncodeError} (kind : Upfront stop) (capacity : Nat) :
    stop ≠ .refused (.ringExhausted capacity) := by
  cases kind <;> simp

/-- What is known once a batch was handed over: the session was ready for it, and all handovers
were fine, this one included. -/
theorem Discipline.handed (discipline : Discipline compressor Rest Ready Fine Fair Crowded)
    {admitted : List Frame} {stops : List (Stop EncodeError)} {feeding : Feeding}
    {desk loaded : Desk (Traced κ γ η ρ) γ η ρ} (loads : Loaded feeding desk loaded)
    (due : feeding.isDue loaded.1 = true) (sps : Sps) (rests : Rest admitted desk.1)
    (sound : Sound Fine Crowded admitted stops desk.1.handovers) :
    let taken := admitted ++ admittedOf feeding.input.toList desk.1 loaded.1
    Ready taken loaded.1 ∧ Sound Fine Crowded taken stops
      (loaded.1.handovers ++ [handover compressor loaded sps feeding.mode]) := by
  have ready := discipline.ready rests loads
  rw [handovers_of_loaded loads]
  exact ⟨ready, (sound.later discipline _).handed (discipline.fine sps feeding ready due)⟩

/-- The invariant is kept as long as the handovers are fair. -/
theorem Discipline.kept (discipline : Discipline compressor Rest Ready Fine Fair Crowded) :
    Kept compressor.traced
      (fun admitted stops desk => (∀ handover ∈ desk.1.handovers, Fair handover) →
        Sound Fine Crowded admitted stops desk.1.handovers)
      (fun admitted stops desk => (∀ handover ∈ desk.1.handovers, Fair handover) →
        Sound Fine Crowded admitted stops desk.1.handovers ∧
          (desk.1.status = .active → Rest admitted desk.1)) where
  safe rests fair := (rests fair).1
  upfront kind rests fair := by
    refine ⟨(rests fair).1.stopped _ fun capacity same => ?_, (rests fair).2⟩
    exact absurd same (kind.ne_ringExhausted capacity)
  tuned tunings sps rests fair :=
    ⟨(rests fair).1, fun active => discipline.retune tunings sps ((rests fair).2 active)⟩
  fed := by
    intro admitted stops desk feeding active rests
    simp only [Reply.stop?, Reply.Answered]
    -- Fairness is assumed of all handovers at the end, so it also holds of those made before.
    have handed {loaded : Desk (Traced κ γ η ρ) γ η ρ} (loads : Loaded feeding desk loaded)
        (due : feeding.isDue loaded.1 = true) (sps : Sps)
        (fair : ∀ other ∈ loaded.1.handovers ++ [handover compressor loaded sps feeding.mode],
          Fair other) := by
      rw [handovers_of_loaded loads] at fair
      have before := rests fun other member => fair other (List.mem_append_left _ member)
      exact discipline.handed loads due sps (before.2 active) before.1
    have fed := feed_cases compressor.traced feeding desk
    generalize (feed compressor.traced feeding desk).outcome = outcome at fed
    generalize (feed compressor.traced feeding desk).state = state at fed
    cases fed with
    | refused input sps given present misfit =>
      rw [admittedOf_self, List.append_nil, Option.toList_some]
      refine ⟨fun fair => ?_, fun _ fair => ⟨?_, (rests fair).2⟩⟩ <;>
        exact (rests fair).1.stopped _ fun capacity same => by cases same
    | unresolved id =>
      have none : admittedOf feeding.input.toList desk.1 (ending desk).1 = [] := admittedOf_self ..
      rw [none, List.append_nil, Option.toList_some]
      refine ⟨fun fair => ?_, fun _ fair => ⟨?_, fun still => by cases still⟩⟩ <;>
        exact (rests fair).1.stopped _ fun capacity same => by cases same
    | exhausted input given full =>
      have none : admittedOf feeding.input.toList desk.1
          (ending (desk.1, desk.2.rotateLeft 1)).1 = [] := admittedOf_self ..
      rw [none, List.append_nil, Option.toList_some]
      refine ⟨fun fair => ?_, fun _ fair => ⟨?_, fun still => by cases still⟩⟩ <;>
        exact (rests fair).1.stopped _ fun _ _ => discipline.crowded ((rests fair).2 active) full
    | waited loaded loads notDue =>
      rw [handovers_of_loaded loads, Option.toList_none, List.append_nil]
      have sound (fair : ∀ handover ∈ desk.1.handovers, Fair handover) :=
        (rests fair).1.later discipline (admittedOf feeding.input.toList desk.1 state.1)
      refine ⟨sound, fun _ fair => ⟨sound fair, fun _ => ?_⟩⟩
      exact discipline.wait feeding (discipline.ready ((rests fair).2 active) loads) notDue
    | coded loaded sps loads present due codes =>
      have taken : admittedOf feeding.input.toList desk.1 (settling loaded
          (handOver compressor.traced loaded sps feeding.mode).state).1 =
            admittedOf feeding.input.toList desk.1 loaded.1 := by
        rw [admittedOf, received_settling, admittedOf]
      have noted : (settling loaded
          (handOver compressor.traced loaded sps feeding.mode).state).1.handovers =
            loaded.1.handovers ++ [handover compressor loaded sps feeding.mode] := rfl
      rw [taken, noted, Option.toList_none, List.append_nil]
      refine ⟨fun fair => (handed loads due sps fair).2,
        fun _ fair => ⟨(handed loads due sps fair).2, fun _ => ?_⟩⟩
      exact discipline.settle sps feeding.mode (handed loads due sps fair).1 (fair _ (by simp))
    | failed loaded sps error loads present due fails =>
      refine ⟨fun fair => ?_, fun _ fair => ⟨?_, fun still => by cases still⟩⟩ <;>
        exact (handed loads due sps fair).2.stopped _ fun capacity same => by cases same
    | faulted loaded sps fault loads present due faults =>
      refine ⟨fun fair => ?_, fun answered => absurd rfl (answered fault)⟩
      exact (handed loads due sps fair).2.stopped _ fun capacity same => by cases same

/-- Along every run with fair handovers all of them are fine, admission only fails on a crowded
ring, and a session that is still active is at rest. -/
theorem Discipline.run (discipline : Discipline compressor Rest Ready Fine Fair Crowded)
    {start desk : Desk (Traced κ γ η ρ) γ η ρ} {turns : List (Turn (Traced κ γ η ρ) γ η ρ)}
    (run : Runs compressor.traced start turns desk) (untraced : start.1.handovers = [])
    (initial : Rest [] start.1) (fair : ∀ handover ∈ desk.1.handovers, Fair handover) :
    Sound Fine Crowded (admittedIn turns) (stopsIn turns) desk.1.handovers ∧
      ((∀ turn ∈ turns, turn.reply.Answered) → desk.1.status = .active →
        Rest (admittedIn turns) desk.1) := by
  have nothing : Sound Fine Crowded [] [] start.1.handovers := by
    rw [untraced]
    exact ⟨fun _ member => absurd member List.not_mem_nil,
      fun _ member => absurd member List.not_mem_nil⟩
  obtain ⟨safe, rest⟩ := run.kept discipline.kept fun _ => ⟨nothing, fun _ => initial⟩
  exact ⟨safe fair, fun answered => (rest answered fair).2⟩

/-- The trace of a run tells what the compressor did when it was called. -/
theorem left_of_mem_handovers {start desk : Desk (Traced κ γ η ρ) γ η ρ}
    {turns : List (Turn (Traced κ γ η ρ) γ η ρ)} (run : Runs compressor.traced start turns desk)
    (untraced : start.1.handovers = []) {handover : Handover κ γ η ρ}
    (member : handover ∈ desk.1.handovers) :
    handover.left = (compressor.codeBatch handover.batch handover.found).state := by
  have genuine : Discipline compressor (fun _ _ => True) (fun _ _ => True)
      (fun _ handover =>
        handover.left = (compressor.codeBatch handover.batch handover.found).state)
      (fun _ => True) True :=
    { idle := fun _ => trivial
      accept := fun _ _ _ _ _ _ _ _ _ _ => trivial
      crowded := fun _ _ => trivial
      wait := fun _ _ _ => trivial
      fine := fun _ _ _ _ => rfl
      settle := fun _ _ _ _ => trivial
      retune := fun _ _ _ => trivial
      later := fun _ same => same }
  exact (genuine.run run untraced trivial fun _ _ => trivial).1.fine handover member

end Discipline

/-! ### A run on a small session -/

/-- A compressor that releases every picture of the ring. -/
def releasing : Compressor Unit Unit Unit Unit where
  codeBatch _ := Operation.update fun (bench, output) =>
    ({ bench with ring := bench.ring.editAll (bench.ring.handles.map .release) }, output)

/-- A small session with a trace, before any call. -/
def smallDesk : Desk (Traced Unit Unit Unit Unit) Unit Unit Unit :=
  (smallSession ((), []), [])

/-- Three frames, the last one of them on its own. -/
def smallCalls : List Call :=
  [.encode (some (.blank ⟨2, 2⟩ .monochrome)) false,
    .encode (some ⟨⟨2, 2⟩, .monochrome, [#[1, 2, 3, 4]]⟩) false,
    .encode (some (.blank ⟨2, 2⟩ .monochrome)) true]

/-- The small calls make a run. -/
theorem runs_smallCalls : Runs releasing.traced smallDesk
    (turnsOf releasing.traced smallDesk smallCalls)
    (deskAfter releasing.traced smallDesk smallCalls) :=
  .ofCalls _ _ _ (by decide +kernel)

/-- Releasing pictures is an edit of the ring. -/
theorem edits_releasing {handover : Handover Unit Unit Unit Unit}
    (member : handover ∈ (deskAfter releasing.traced smallDesk smallCalls).1.handovers) :
    handover.left.1.ring =
      handover.found.1.ring.editAll (handover.found.1.ring.handles.map .release) := by
  rw [left_of_mem_handovers runs_smallCalls rfl member]
  rfl

end Session

end EncoderControl
