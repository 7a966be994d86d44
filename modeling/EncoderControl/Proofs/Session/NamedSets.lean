import EncoderControl.Proofs.ParameterSet.Composition
import EncoderControl.Proofs.ParameterSet.Lookups
import EncoderControl.Proofs.Quantizer.Switching
import EncoderControl.Proofs.Session.Admissions
import EncoderControl.Proofs.Session.Idling
import EncoderControl.Proofs.Session.Tuning

/-!
# The sets that pictures are coded with

With wide colour gamut control the configuration names a picture parameter set for each output
position, and a session has the sets 0 and 1. A picture whose position names another id from 2 up to
255 is not admitted. A name outside of eight bits is lost on the way: the picture is then admitted
with the set 0, as if nothing had been named. So the sets that pictures are coded with are the named
ones exactly when the names fit.
-/

namespace EncoderControl

namespace Config

/-- `SwitchReached` as a test. -/
theorem switchReached_iff {config : Config} {poc : Int} : config.SwitchReached poc ↔
    config.switchPoc.any (fun switchPoc => switchPoc ≤ poc) = true := by
  simp [SwitchReached, Option.any_eq_true]

instance (config : Config) (poc : Int) : Decidable (config.SwitchReached poc) :=
  decidable_of_iff _ switchReached_iff.symm

/-- The id that is named for the picture at `poc`: its quantizer change, one more from the switch
on. -/
def namedPpsId (config : Config) (poc : Int) : Int :=
  if config.SwitchReached poc then config.dqpAt poc + 1 else config.dqpAt poc

/-- The name fits: ids have eight bits. -/
def NameFits (config : Config) (poc : Int) : Prop :=
  0 ≤ config.namedPpsId poc ∧ config.namedPpsId poc < 256

instance (config : Config) (poc : Int) : Decidable (config.NameFits poc) :=
  inferInstanceAs (Decidable (_ ∧ _))

/-- A set is looked up by its name, if that fits. -/
theorem ppsIdAt_eq {config : Config} (wideGamut : config.wcgEnabled = true) (poc : Int) :
    config.ppsIdAt poc =
      if config.NameFits poc then some (config.namedPpsId poc).toNat else none := by
  have sum : (config.dqpAt poc +
      if config.switchPoc.any (fun switchPoc => switchPoc ≤ poc) then 1 else 0) =
        config.namedPpsId poc := by
    unfold namedPpsId
    by_cases reached : config.SwitchReached poc
    · rw [if_pos reached, if_pos (switchReached_iff.mp reached)]
    · rw [if_neg reached, if_neg (mt switchReached_iff.mpr reached), Int.add_zero]
  unfold ppsIdAt
  rw [if_pos wideGamut]
  simp only [sum]
  rfl

end Config

namespace Session

variable {κ γ η ρ : Type}

/-- The picture has the set of the session that is named for its position, if the name fits, and the
set 0 otherwise. -/
structure CodesAsNamed (session : Session κ γ η) (picture : Picture) : Prop where
  stored : session.ppsStore.get? picture.pps.id = some picture.pps
  named : (picture.pps.id : Int) = session.config.namedPpsId picture.poc ↔
    session.config.NameFits picture.poc
  otherwise : ¬session.config.NameFits picture.poc → picture.pps.id = 0

/-- A stored set with the named id, or the set 0 where the name does not fit, is the right one. -/
theorem codesAsNamed_of_id {session : Session κ γ η} {picture : Picture} {id : Nat}
    (isId : picture.pps.id = id)
    (stored : session.ppsStore.get? id = some picture.pps)
    (right : (id : Int) = session.config.namedPpsId picture.poc ∧
        session.config.NameFits picture.poc ∨
      id = 0 ∧ ¬session.config.NameFits picture.poc) : session.CodesAsNamed picture := by
  refine ⟨isId ▸ stored, ?_, fun misfit => ?_⟩
  · rw [isId]
    unfold Config.NameFits at right ⊢
    omega
  · rw [isId]
    exact (right.resolve_left fun named => misfit named.2).1

/-- No set has the id that is named for the picture at `poc`, though it could be one. -/
def NamesMissing (config : Config) (poc : Int) : Prop :=
  2 ≤ config.namedPpsId poc ∧ config.namedPpsId poc < 256

instance (config : Config) (poc : Int) : Decidable (NamesMissing config poc) :=
  inferInstanceAs (Decidable (_ ∧ _))

section Created

variable [CostEvaluator γ] {config : Config} {own : κ} {factory : LaneFactory γ η}
  {session : Session κ γ η}

/-- With wide colour gamut control a session has the sets 0 and 1 and no others. -/
theorem ppsStore_of_create (created : (create config own factory).outcome = .ok session)
    (wideGamut : config.wcgEnabled = true) :
    ∃ first second : Pps, first.id = 0 ∧ second.id = 1 ∧
      session.ppsStore = (ParameterStore.empty.insert 0 first).insert 1 second := by
  obtain ⟨plan, sps, ppsStore, lanes, -, -, stored, rfl⟩ := exists_of_create created
  unfold buildPpsStore at stored
  simp only [wideGamut, if_true, Logged.outcome_bind_eq_ok_iff] at stored
  obtain ⟨first, builtFirst, second, builtSecond, same⟩ := stored
  cases same
  exact ⟨first, second, Config.id_of_buildPps builtFirst, Config.id_of_buildPps builtSecond, rfl⟩

/-- A new session has the configuration that it was created with. -/
theorem config_of_create (created : (create config own factory).outcome = .ok session) :
    session.config = config := by
  obtain ⟨plan, sps, ppsStore, lanes, -, -, -, rfl⟩ := exists_of_create created
  rfl

/-- What a position names decides about the set of its picture: it has none when the name belongs to
no set, and otherwise it is coded as named. -/
theorem ppsAt_of_create (created : (create config own factory).outcome = .ok session)
    (wideGamut : config.wcgEnabled = true) (poc : Int) :
    if NamesMissing config poc then
      session.ppsAt poc = .error (.unresolvedParameterSet (config.namedPpsId poc).toNat)
    else
      ∃ pps, session.ppsAt poc = .ok pps ∧
        ∀ picture : Picture, picture.poc = poc → picture.pps = pps →
          session.CodesAsNamed picture := by
  obtain ⟨first, second, isZero, isOne, stored⟩ := ppsStore_of_create created wideGamut
  obtain rfl := config_of_create created
  have found (id : Nat) : session.ppsStore.get? id =
      if id = 1 then some second else if id = 0 then some first else none := by
    rw [stored, ParameterStore.get?_insert, ParameterStore.get?_insert]
    rfl
  have lowest : session.ppsStore.first? = some first := by rw [stored]; rfl
  unfold ppsAt
  rw [Config.ppsIdAt_eq wideGamut]
  by_cases fits : session.config.NameFits poc
  · simp only [if_pos fits, found]
    generalize named : (session.config.namedPpsId poc).toNat = id
    have isNamed : (id : Int) = session.config.namedPpsId poc := by
      rw [← named]
      exact Int.toNat_of_nonneg fits.1
    by_cases missing : NamesMissing session.config poc
    · have large : 2 ≤ id := by have := missing.1; omega
      rw [if_pos missing, if_neg (by omega), if_neg (by omega)]
    · rw [if_neg missing]
      have small : id = 0 ∨ id = 1 := by
        have := fits.2
        unfold NamesMissing at missing
        omega
      rcases small with rfl | rfl
      · refine ⟨first, rfl, ?_⟩
        rintro picture rfl rfl
        exact codesAsNamed_of_id isZero (found 0) (.inl ⟨isNamed, fits⟩)
      · refine ⟨second, rfl, ?_⟩
        rintro picture rfl rfl
        exact codesAsNamed_of_id isOne (found 1) (.inl ⟨isNamed, fits⟩)
  · have notMissing : ¬NamesMissing session.config poc := fun missing =>
      fits ⟨by have := missing.1; omega, missing.2⟩
    simp only [if_neg fits, if_neg notMissing, lowest]
    refine ⟨first, rfl, ?_⟩
    rintro picture rfl rfl
    exact codesAsNamed_of_id isZero (found 0) (.inr ⟨rfl, fits⟩)

end Created

/-! ### Pictures without a set -/

section Missing

variable (compressor : Compressor κ γ η ρ) {feeding : Feeding} {desk : Desk κ γ η ρ} {sps : Sps}
  {id : Nat}

/-- No picture is admitted without its set. -/
theorem receive_of_missing (present : desk.1.spsStore.get? spsId = some sps)
    (missing : desk.1.ppsAt (desk.1.bench.ring.pocLast + 1) = .error (.unresolvedParameterSet id))
    (input : Frame) (field : Option Bool) :
    (receive input field desk).outcome = .error (.unresolvedParameterSet id) ∧
      (receive input field desk).state = desk := by
  have sets := activeSps_of_some present
  obtain ⟨outcome, state⟩ := resolvePps_of_error missing
  unfold receive
  rw [Operation.bind_apply_of_ok (by rw [sets]), sets, Operation.bind_apply_of_error outcome, state]
  exact ⟨rfl, rfl⟩

/-- The session ends over a picture without its set, and the picture is not admitted. -/
theorem feed_of_missing {input : Frame} (given : feeding.input = some input)
    (present : desk.1.spsStore.get? spsId = some sps)
    (missing :
      desk.1.ppsAt (desk.1.bench.ring.pocLast + 1) = .error (.unresolvedParameterSet id)) :
    (feed compressor feeding desk).outcome = .error (.refused (.unresolvedParameterSet id)) ∧
      (feed compressor feeding desk).state = ending desk := by
  obtain ⟨refused, kept⟩ := receive_of_missing present missing input feeding.field
  unfold feed receiveAndSubmit
  rw [given]
  obtain ⟨outcome, state⟩ := bind_mapError_refused_of_error refused fun _ =>
    submit compressor feeding.flush feeding.mode feeding.fieldNum
  rw [outcome_guardFailure, state_guardFailure_of_ended outcome rfl, state, kept]
  exact ⟨outcome, rfl⟩

/-- Where the next calls reach a picture whose name belongs to no set, they are refused for it and
it is not admitted. No other picture is refused for a set that is missing. -/
def RefusesMissing (config : Config) (desk : Desk κ γ η ρ) : Prop :=
  ∀ (call : Call) (earlier later : List Feeding) (feeding : Feeding) (input : Frame)
    (numPics : Nat), call.Suits desk.1.config → call.feedings = earlier ++ feeding :: later →
    feeding.input = some input → (feedAll compressor earlier desk).outcome = .ok numPics →
    let reached := (feedAll compressor earlier desk).state
    let poc := reached.1.bench.ring.pocLast + 1
    (NamesMissing config poc →
      (perform compressor call desk).outcome =
          .error (.refused (.unresolvedParameterSet (config.namedPpsId poc).toNat)) ∧
        (perform compressor call desk).state = ending reached) ∧
      (¬NamesMissing config poc → ∀ id, (feed compressor feeding reached).outcome ≠
        .error (.refused (.unresolvedParameterSet id)))

/-- A frame is refused when its own name belongs to no set. -/
theorem RefusesMissing.encode {compressor : Compressor κ γ η ρ} {config : Config}
    (refuses : RefusesMissing compressor config desk)
    (missing : NamesMissing config (desk.1.bench.ring.pocLast + 1)) (frame : Frame) (flush : Bool) :
    (perform compressor (.encode (some frame) flush) desk).outcome =
        .error (.refused (.unresolvedParameterSet
          (config.namedPpsId (desk.1.bench.ring.pocLast + 1)).toNat)) ∧
      (perform compressor (.encode (some frame) flush) desk).state = ending desk := by
  have suits : (Call.encode (some frame) flush).Suits desk.1.config := by
    simp [Call.Suits, Call.takesFields]
  exact (refuses _ [] [] _ frame 0 suits rfl rfl rfl).1 missing

end Missing

/-! ### Sets along a run -/

/-- The sets are chosen as in the session that was started, and there is a sequence parameter
set. -/
structure ChoosesAs (start session : Session κ γ η) : Prop where
  sets : ∀ poc, session.ppsAt poc = start.ppsAt poc
  present : ∃ sps, session.spsStore.get? spsId = some sps

/-- Sets are chosen in the same way as long as the settings stay. -/
theorem ChoosesAs.kept {start before after : Session κ γ η} (chooses : ChoosesAs start before)
    (kept : KeepsSettings before after) : ChoosesAs start after where
  sets poc := by
    rw [← chooses.sets poc]
    unfold ppsAt
    rw [kept.config, kept.ppsStore]
  present := by
    rw [kept.spsStore]
    exact chooses.present

section Run

variable [CostEvaluator γ] {config : Config} {own : κ} {factory : LaneFactory γ η}
  {session : Session κ γ η}

/-- A new session chooses sets as it does itself. -/
theorem choosesAs_of_create (created : (create config own factory).outcome = .ok session) :
    ChoosesAs session session where
  sets _ := rfl
  present := by
    obtain ⟨plan, sps, ppsStore, lanes, -, -, -, rfl⟩ := exists_of_create created
    exact ⟨sps, rfl⟩

/-- Pictures are admitted as named. -/
theorem stamps_codesAsNamed (created : (create config own factory).outcome = .ok session)
    (wideGamut : config.wcgEnabled = true) :
    Stamps (ChoosesAs session) fun _ picture => session.CodesAsNamed picture where
  kept kept chooses := chooses.kept kept
  tuned := by
    intro tunedSession tunings sps chooses
    refine ⟨chooses.sets, sps, ?_⟩
    rw [ParameterStore.get?_insert, if_pos rfl]
  later _ named := named
  admits := by
    intro before sps pps picture admitted input chooses present chosen fits isSps isPps isOrig
    rw [chooses.sets] at chosen
    have decides := ppsAt_of_create created wideGamut picture.poc
    split at decides
    · rw [chosen] at decides
      cases decides
    · obtain ⟨found, resolved, named⟩ := decides
      rw [chosen] at resolved
      cases resolved
      exact named picture rfl isPps

/-- Once the sets are chosen as in the beginning, pictures are refused for a set that is missing
exactly as their names say. -/
theorem refusesMissing_of_choosesAs (created : (create config own factory).outcome = .ok session)
    (wideGamut : config.wcgEnabled = true) (compressor : Compressor κ γ η ρ)
    {desk : Desk κ γ η ρ} (active : desk.1.status = .active) (chooses : ChoosesAs session desk.1) :
    RefusesMissing compressor config desk := by
  intro call earlier later feeding input numPics suits parts given succeeds reached poc
  have still : ChoosesAs session reached.1 :=
    chooses.kept (keepsSettings_feedAll compressor earlier desk)
  obtain ⟨sps, present⟩ := still.present
  have decides := ppsAt_of_create created wideGamut poc
  rw [← still.sets] at decides
  constructor
  · intro missing
    rw [if_pos missing] at decides
    obtain ⟨refused, ended⟩ := feed_of_missing compressor given present decides
    obtain ⟨outcome, state⟩ := feedAll_append_of_error compressor later succeeds refused
    obtain ⟨answer, left⟩ := perform_of_feedings compressor active suits (by simp [parts])
    rw [answer, left, parts, outcome, state]
    exact ⟨rfl, ended⟩
  · intro resolves
    rw [if_neg resolves] at decides
    obtain ⟨pps, chosen, -⟩ := decides
    exact feed_ne_unresolved compressor feeding present chosen

end Run

/-- Pictures are coded with the sets that are named for them, as far as the names fit. Take any
session with wide colour gamut control, and any calls that code frames and fields or change the rate
settings, with any compressor that leaves the ring consistent. Every picture that is handed over, or
waits, has the set of the session whose id is named for its position if that is a number of eight
bits, and otherwise the set 0. Where the next call reaches a picture whose name fits and is not 0 or
1, the call is refused for that name and the picture is not admitted; no other picture is refused
for a set that is missing. -/
theorem pictures_coded_with_named_sets [CostEvaluator γ] (compressor : Compressor κ γ η ρ)
    (config : Config) (wideGamut : config.wcgEnabled = true) (own : κ) (factory : LaneFactory γ η)
    {session : Session (Traced κ γ η ρ) γ η}
    (created : (create config (own, []) factory).outcome = .ok session) (output : List ρ)
    {turns : List (Turn (Traced κ γ η ρ) γ η ρ)} {desk : Desk (Traced κ γ η ρ) γ η ρ}
    (run : Runs compressor.traced (session, output) turns desk)
    (orderly : ∀ handover ∈ desk.1.handovers, handover.Orderly) :
    (∀ handover ∈ desk.1.handovers, handover.Brings session.CodesAsNamed) ∧
      ((∀ turn ∈ turns, turn.reply.Answered) → desk.1.status = .active →
        desk.1.bench.ring.EndsWith desk.1.scheduler.pending session.CodesAsNamed ∧
          RefusesMissing compressor.traced config desk) := by
  obtain ⟨brought, rests⟩ := (stamps_codesAsNamed created wideGamut).run created
    (choosesAs_of_create created) run orderly
  refine ⟨brought, fun answered active => ?_⟩
  obtain ⟨chooses, waiting⟩ := rests answered active
  exact ⟨waiting, refusesMissing_of_choosesAs created wideGamut compressor.traced active chooses⟩

/-- The small configuration with wide colour gamut control. Of the first three positions only the
first one names a set. -/
def changingConfig : Config :=
  { smallConfig with
    wcgChromaQp := some { cbScale := 1.0, crScale := 1.0, scale := 0.0, offset := 0.0 }
    dqps := some [1, -1, 2] }

/-- An outcome with a value is that value. -/
theorem outcome_eq_ok_get {ε α : Type} {outcome : Except ε α}
    (succeeds : outcome.toOption.isSome = true) :
    outcome = .ok (outcome.toOption.get succeeds) := by
  cases outcome with
  | error failure => cases succeeds
  | ok value => rfl

/-- The changing configuration gives a session. -/
theorem isSome_create_changingConfig :
    (create changingConfig (((), []) : Traced Unit Unit Unit Unit)
      plainFactory).outcome.toOption.isSome = true := by
  decide +kernel

/-- The session that this configuration gives. -/
def changingSession : Session (Traced Unit Unit Unit Unit) Unit Unit :=
  (create changingConfig ((), []) plainFactory).outcome.toOption.get isSome_create_changingConfig

/-- That session is what creation answers with. -/
theorem create_changingConfig :
    (create changingConfig ((), []) plainFactory).outcome = .ok changingSession :=
  outcome_eq_ok_get isSome_create_changingConfig

/-- A gray frame of four samples, taken on its own. -/
def grayCall : Call :=
  .encode (some (.blank ⟨2, 2⟩ .monochrome)) false

/-- The pictures of all batches, each with its position and the id of its set. -/
def codedSets (session : Session (Traced κ γ η ρ) γ η) : List (List (Int × Nat)) :=
  session.handovers.map fun handover =>
    (handover.found.1.ring.latest handover.batch.numPics).map fun picture =>
      (picture.poc, picture.pps.id)

/-- Two frames are coded, and a third one is refused: its position names the set 2. -/
theorem pictures_coded_with_named_sets_changingConfig :
    let start : Desk (Traced Unit Unit Unit Unit) Unit Unit Unit := (changingSession, [])
    let desk := deskAfter releasing.traced start [grayCall, grayCall]
    changingConfig.wcgEnabled = true ∧
      (create changingConfig ((), []) plainFactory).outcome = .ok changingSession ∧
      (∀ handover ∈ desk.1.handovers,
        handover.Orderly ∧ handover.Brings changingSession.CodesAsNamed) ∧
      desk.1.codedSets = [[(0, 1), (1, 0)]] ∧
      (perform releasing.traced grayCall desk).outcome =
        .error (.refused (.unresolvedParameterSet 2)) ∧
      (perform releasing.traced grayCall desk).state = ending desk := by
  intro start desk
  let turns := turnsOf releasing.traced start [grayCall, grayCall]
  have run : Runs releasing.traced start turns desk := .ofCalls _ _ _ (by decide +kernel)
  have untraced : start.1.handovers = [] := by decide +kernel
  have orderly : ∀ handover ∈ desk.1.handovers, handover.Orderly := fun handover member =>
    orderly_of_releasing (left_of_mem_handovers run untraced member)
  obtain ⟨brought, rests⟩ := pictures_coded_with_named_sets releasing changingConfig rfl ()
    plainFactory create_changingConfig [] run orderly
  obtain ⟨-, refuses⟩ := rests (by decide +kernel) (by decide +kernel)
  have position : desk.1.bench.ring.pocLast + 1 = 2 := by decide +kernel
  have missing : NamesMissing changingConfig (desk.1.bench.ring.pocLast + 1) := by
    rw [position]
    decide
  obtain ⟨two, state⟩ := refuses.encode missing (.blank ⟨2, 2⟩ .monochrome) false
  rw [position] at two
  exact ⟨rfl, create_changingConfig,
    fun handover member => ⟨orderly handover member, brought handover member⟩, by decide +kernel,
    two, state⟩

/-- A picture whose position names -1 is admitted and coded with the set 0: the name is lost, and
nothing fails. -/
theorem lost_name_coded_with_first_set :
    let start : Desk (Traced Unit Unit Unit Unit) Unit Unit Unit := (changingSession, [])
    let calls := [grayCall, grayCall]
    changingConfig.wcgEnabled = true ∧
      (create changingConfig ((), []) plainFactory).outcome = .ok changingSession ∧
      changingConfig.namedPpsId 1 = -1 ∧
      (turnsOf releasing.traced start calls).map (fun turn => turn.reply.outcome) =
        [.ok 0, .ok 2] ∧
      (deskAfter releasing.traced start calls).1.codedSets = [[(0, 1), (1, 0)]] :=
  ⟨rfl, create_changingConfig, by decide, by decide +kernel, by decide +kernel⟩

end Session

end EncoderControl
