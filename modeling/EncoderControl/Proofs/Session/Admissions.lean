import EncoderControl.Proofs.Ring.Latest
import EncoderControl.Proofs.Ring.Replacement
import EncoderControl.Proofs.Session.Handovers

/-!
# What admission settles

A picture is given its parameter sets and its source when it is admitted, and nothing reaches it
before its batch is handed over. Whatever the settings of the session and the check of the input
make true of a picture at that moment is therefore true of all pictures of a batch, and of all that
wait. The compressor may do as it likes to the ring, as long as it leaves one: that is all that is
asked of it here.
-/

namespace EncoderControl

/-- The compressor left the ring as consistent as it found it. -/
def Handover.Orderly {κ γ η ρ : Type} (handover : Handover κ γ η ρ) : Prop :=
  handover.found.1.ring.Consistent → handover.left.1.ring.Consistent

/-- The pictures that were admitted last, up to the last position, are all as they should be. -/
structure PictureRing.EndsWith (ring : PictureRing) (count : Nat) (Fits : Picture → Prop) :
    Prop where
  positions : (ring.latest count).map Picture.poc = positionsUpTo ring.pocLast count
  fit : ∀ picture ∈ ring.latest count, Fits picture

/-- The compressor was told the position of the picture admitted last, and found the pictures of the
batch at the end of the ring, as they should be. -/
structure Handover.Brings {κ γ η ρ : Type} (Fits : Picture → Prop) (handover : Handover κ γ η ρ) :
    Prop where
  pocLast : handover.batch.pocLast = handover.found.1.ring.pocLast
  pictures : handover.found.1.ring.EndsWith handover.batch.numPics Fits

namespace Session

variable {κ γ η ρ : Type}

/-- Sessions with such settings only admit pictures that fit. Nothing but a change of the rate
settings changes what is settled, and that must not matter. -/
structure Stamps (Settings : Session κ γ η → Prop) (Fits : List Frame → Picture → Prop) : Prop where
  kept : ∀ {before after : Session κ γ η}, KeepsSettings before after → Settings before →
    Settings after
  tuned : ∀ {session : Session κ γ η} (tunings : Tunings) (sps : Sps), Settings session →
    Settings { session with
      config := session.config.tuned tunings
      spsStore := session.spsStore.insert spsId sps }
  later : ∀ {admitted picture} (more : List Frame), Fits admitted picture →
    Fits (admitted ++ more) picture
  admits : ∀ {session : Session κ γ η} {sps : Sps} {pps : Pps} {picture : Picture}
    (admitted : List Frame) (input : Frame), Settings session →
    session.spsStore.get? spsId = some sps → session.ppsAt picture.poc = .ok pps →
    input.resolution = sps.resolution ∧ input.format = sps.chromaFormat →
    picture.sps = sps → picture.pps = pps → picture.orig = input →
    Fits (admitted ++ [input]) picture

section Stamps

variable {compressor : Compressor κ γ η ρ}
  {Settings : Session (Traced κ γ η ρ) γ η → Prop} {Fits : List Frame → Picture → Prop}

/-- The settings are as they should be, and so are the pictures that wait. -/
structure Stamped (Settings : Session κ γ η → Prop) (Fits : List Frame → Picture → Prop)
    (admitted : List Frame) (session : Session κ γ η) : Prop where
  settings : Settings session
  awaits : session.bench.ring.Awaits session.scheduler.pending (Fits admitted)

/-- A picture fits when it is admitted. -/
theorem Stamped.accept (stamps : Stamps Settings Fits) {admitted : List Frame}
    {desk : Desk (Traced κ γ η ρ) γ η ρ} (stamped : Stamped Settings Fits admitted desk.1)
    {sps : Sps} {pps : Pps} {placement : Placement} (input : Frame) (field : Option Bool)
    (present : desk.1.spsStore.get? spsId = some sps)
    (chosen : desk.1.ppsAt (desk.1.bench.ring.pocLast + 1) = .ok pps)
    (fits : input.resolution = sps.resolution ∧ input.format = sps.chromaFormat)
    (placed : desk.1.bench.ring.placement? = some placement) :
    Stamped Settings Fits (admitted ++ [input])
      (admitting desk sps pps placement input field).1 where
  settings := by
    have kept : KeepsSettings desk.1 (admitting desk sps pps placement input field).1 :=
      ⟨rfl, rfl, rfl, rfl, rfl⟩
    exact stamps.kept kept stamped.settings
  awaits := by
    obtain ⟨withSps, withPps⟩ := PictureRing.sets_storageAt placed sps pps
    have before := stamped.awaits.mono fun _ fit => stamps.later [input] fit
    refine before.accept placed _ (fun picture => ?_) ?_
    · cases field <;> exact ⟨rfl, rfl⟩
    · cases field <;>
        exact stamps.admits admitted input stamped.settings present chosen fits withSps withPps rfl

/-- What admission settles is kept until a batch is handed over, and by orderly compressors. -/
theorem Stamps.discipline (stamps : Stamps Settings Fits) :
    Discipline compressor (Stamped Settings Fits) (Stamped Settings Fits)
      (fun admitted handover => handover.Brings (Fits admitted)) Handover.Orderly True where
  idle stamped := stamped
  accept _ _ _ input field stamped present chosen fits placed :=
    stamped.accept stamps input field present chosen fits placed
  crowded _ _ := trivial
  wait _ stamped _ := stamped
  fine _ _ stamped _ := ⟨rfl, ⟨stamped.awaits.latest.1, stamped.awaits.latest.2⟩⟩
  settle := by
    intro admitted desk sps mode stamped orderly
    have kept : KeepsSettings desk.1
        (settling desk (handOver compressor.traced desk sps mode).state).1 :=
      ⟨rfl, rfl, rfl, rfl, rfl⟩
    have left := orderly stamped.awaits.consistent
    exact ⟨stamps.kept kept stamped.settings, PictureRing.Consistent.awaits_none left⟩
  retune tunings sps stamped := ⟨stamps.tuned tunings sps stamped.settings, stamped.awaits⟩
  later more brings :=
    ⟨brings.pocLast, brings.pictures.positions,
      fun picture member => stamps.later more (brings.pictures.fit picture member)⟩

/-- Along a run of a new session all pictures that are handed over or wait are as admission settled
them, as long as the compressor is orderly. -/
theorem Stamps.run [CostEvaluator γ] (stamps : Stamps Settings Fits) {config : Config} {own : κ}
    {factory : LaneFactory γ η} {session : Session (Traced κ γ η ρ) γ η}
    (created : (create config (own, []) factory).outcome = .ok session)
    (initial : Settings session) {output : List ρ} {turns : List (Turn (Traced κ γ η ρ) γ η ρ)}
    {desk : Desk (Traced κ γ η ρ) γ η ρ}
    (run : Runs compressor.traced (session, output) turns desk)
    (orderly : ∀ handover ∈ desk.1.handovers, handover.Orderly) :
    (∀ handover ∈ desk.1.handovers, handover.Brings (Fits (admittedIn turns))) ∧
      ((∀ turn ∈ turns, turn.reply.Answered) → desk.1.status = .active →
        Settings desk.1 ∧ desk.1.bench.ring.EndsWith desk.1.scheduler.pending
          (Fits (admittedIn turns))) := by
  have start : Stamped Settings Fits [] session := by
    refine ⟨initial, ?_⟩
    obtain ⟨plan, sps, ppsStore, lanes, -, -, -, rfl⟩ := exists_of_create created
    exact PictureRing.awaits_empty ..
  have untraced : session.handovers = [] := by
    obtain ⟨plan, sps, ppsStore, lanes, -, -, -, rfl⟩ := exists_of_create created
    rfl
  obtain ⟨sound, rests⟩ := stamps.discipline.run run untraced start orderly
  refine ⟨sound.fine, fun answered active => ?_⟩
  have stamped := rests answered active
  exact ⟨stamped.settings, stamped.awaits.latest.1, stamped.awaits.latest.2⟩

end Stamps

/-- A compressor that releases pictures is orderly. -/
theorem orderly_of_releasing {handover : Handover Unit Unit Unit Unit}
    (released : handover.left = (releasing.codeBatch handover.batch handover.found).state) :
    handover.Orderly := by
  intro consistent
  rw [released]
  exact consistent.editAll _

end Session

end EncoderControl
