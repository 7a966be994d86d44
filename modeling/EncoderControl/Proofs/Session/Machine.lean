import EncoderControl.Limits
import EncoderControl.Proofs.Picture.Activity
import EncoderControl.Proofs.Ring.Storage
import EncoderControl.Proofs.Session.Failure
import EncoderControl.Proofs.Session.NamedSets

/-!
# Calls within the limits of the machine

An admission needs an output position, the id of a picture parameter set and, unless it recycles the
storage of another picture, storage of its own. The machine has a limit for each of them. The steps
of an admission are gone through here once more, for the first one that exceeds its limit. A call on
the machine is a call of the session with that fault in place of the admission, so the two agree as
long as no limit is exceeded, and thus whenever the machine does not end the call with a fault. A
machine that runs into a fault gives no answer, so the desk that it leaves stands for nothing.
-/

namespace EncoderControl

/-- The value is one of a signed word of 32 bits. -/
def Word.IsSigned (value : Int) : Prop :=
  Int32.minValue.toInt ≤ value ∧ value ≤ Int32.maxValue.toInt

instance (value : Int) : Decidable (Word.IsSigned value) :=
  inferInstanceAs (Decidable (_ ∧ _))

/-- Checks that are made one after the other find no fault if none of them does. -/
theorem Fault.check_eq_none_iff {fails : Prop} [Decidable fails] {fault : Fault}
    {later : Option Fault} :
    (if fails then some fault else later) = none ↔ ¬fails ∧ later = none := by
  by_cases fails <;> simp [*]

/-! ### Storage -/

namespace Picture

/-- The fault that ends an attempt to make storage for a picture. Samples are allocated first, then
the activity layers are made. -/
def storageFault? (sps : Sps) (pps : Pps) (adaptiveQp : Bool) : Option Fault :=
  if ¬Frame.Allocatable sps.resolution sps.chromaFormat then some .capacityOverflow
  else if adaptiveQp ∧ (ActivityLayer.layersInWords? sps (pps.maxCuDeltaQpDepth + 1)).isNone then
    some .wordOverflow
  else none

/-- The machine can make the storage that these parameter sets call for. -/
structure StorageWithinLimits (sps : Sps) (pps : Pps) (adaptiveQp : Bool) : Prop where
  samples : bytesPerSample * sps.resolution.area ≤ maxAllocation
  depth : adaptiveQp = true → pps.maxCuDeltaQpDepth < 32
  counts : adaptiveQp = true → ∀ depth ≤ pps.maxCuDeltaQpDepth,
    ActivityLayer.CountsFit sps.resolution (ActivityLayer.partitionAt sps.maxCuSize depth)

/-- Storage is made without a fault exactly within the limits. -/
theorem storageFault?_eq_none_iff {sps : Sps} {pps : Pps} {adaptiveQp : Bool} :
    storageFault? sps pps adaptiveQp = none ↔ StorageWithinLimits sps pps adaptiveQp := by
  have layers := ActivityLayer.isSome_layersInWords?_iff sps (pps.maxCuDeltaQpDepth + 1)
  simp only [Nat.lt_succ_iff] at layers
  rw [storageFault?, Fault.check_eq_none_iff, Fault.check_eq_none_iff, not_not,
    Frame.allocatable_iff, not_and, Bool.not_eq_true, Option.isNone_eq_false_iff, layers]
  constructor
  · rintro ⟨samples, made, -⟩
    exact ⟨samples, fun adaptive => (made adaptive).1, fun adaptive => (made adaptive).2⟩
  · intro within
    exact ⟨within.samples, fun adaptive => ⟨within.depth adaptive, within.counts adaptive⟩, rfl⟩

end Picture

namespace PictureRing

/-- The fault that ends an attempt to provide storage for the next picture. A full ring provides
none, and what is recycled with the same id is there already. -/
def storageFault? (ring : PictureRing) (sps : Sps) (pps : Pps) : Option Fault :=
  if ring.placement? = none ∨ ring.stale?.any fun stale => stale.pps.id = pps.id then none
  else Picture.storageFault? sps pps ring.adaptiveQp

/-- The ring provides storage without a fault if it makes none, or makes it within the limits. -/
theorem storageFault?_eq_none_iff {ring : PictureRing} {sps : Sps} {pps : Pps} :
    ring.storageFault? sps pps = none ↔
      ring.placement? = none ∨ (∃ stale, ring.stale? = some stale ∧ stale.pps.id = pps.id) ∨
        Picture.StorageWithinLimits sps pps ring.adaptiveQp := by
  have kept : (ring.stale?.any fun stale => stale.pps.id = pps.id) = true ↔
      ∃ stale, ring.stale? = some stale ∧ stale.pps.id = pps.id := by
    simp [Option.any_eq_true]
  rw [storageFault?, ← Picture.storageFault?_eq_none_iff, ← or_assoc, ← kept]
  split
  · rename_i nothingMade
    exact iff_of_true rfl (.inl nothingMade)
  · rename_i made
    exact (or_iff_right made).symm

end PictureRing

/-! ### Admission -/

namespace Session

variable {κ γ η ρ : Type}

/-- The id that is named for the picture at `poc` is a word. None is named without wide colour gamut
control. -/
def NamesWord (config : Config) (poc : Int) : Prop :=
  config.wcgEnabled = true → Word.IsSigned (config.namedPpsId poc)

instance (config : Config) (poc : Int) : Decidable (NamesWord config poc) :=
  inferInstanceAs (Decidable (_ → _))

/-- The fault that ends the admission of a frame or field. Its position is counted up, the picture
parameter set of the position is looked up, and storage is provided if the input fits the
sequence. -/
def admissionFault? (session : Session κ γ η) (input : Frame) : Option Fault :=
  match session.spsStore.get? spsId with
  | none => none
  | some sps =>
    let poc := session.bench.ring.pocLast + 1
    if ¬Word.IsSigned poc ∨ ¬NamesWord session.config poc then some .wordOverflow
    else
      match session.ppsAt poc with
      | .error _ => none
      | .ok pps =>
        if input.resolution ≠ sps.resolution ∨ input.format ≠ sps.chromaFormat then none
        else session.bench.ring.storageFault? sps pps

/-- No step of admitting the frame or field exceeds a limit of the machine. Later steps are only
reached when the earlier ones find their parameter sets and the input fits the sequence. -/
structure AdmitsWithinLimits (session : Session κ γ η) (input : Frame) : Prop where
  position : ∀ sps, session.spsStore.get? spsId = some sps →
    Word.IsSigned (session.bench.ring.pocLast + 1)
  named : ∀ sps, session.spsStore.get? spsId = some sps →
    NamesWord session.config (session.bench.ring.pocLast + 1)
  storage : ∀ sps pps, session.spsStore.get? spsId = some sps →
    session.ppsAt (session.bench.ring.pocLast + 1) = .ok pps →
    input.resolution = sps.resolution → input.format = sps.chromaFormat →
    session.bench.ring.placement? = none ∨
      (∃ stale, session.bench.ring.stale? = some stale ∧ stale.pps.id = pps.id) ∨
      Picture.StorageWithinLimits sps pps session.bench.ring.adaptiveQp

/-- An admission ends without a fault exactly within the limits. -/
theorem admissionFault?_eq_none_iff {session : Session κ γ η} {input : Frame} :
    session.admissionFault? input = none ↔ session.AdmitsWithinLimits input := by
  unfold admissionFault?
  cases present : session.spsStore.get? spsId with
  | none =>
    refine iff_of_true rfl ⟨?_, ?_, ?_⟩ <;> simp [present]
  | some sps =>
    dsimp only
    rw [Fault.check_eq_none_iff, not_or, not_not, not_not]
    constructor
    · rintro ⟨⟨position, named⟩, noFault⟩
      refine ⟨fun _ _ => position, fun _ _ => named, ?_⟩
      intro other pps inForce chosen size format
      obtain rfl : sps = other := Option.some.inj (present.symm.trans inForce)
      rw [chosen] at noFault
      simp only [size, format, ne_eq, not_true_eq_false, or_self, if_false] at noFault
      exact PictureRing.storageFault?_eq_none_iff.mp noFault
    · intro within
      refine ⟨⟨within.position sps present, within.named sps present⟩, ?_⟩
      split
      · rfl
      rename_i pps chosen
      split
      · rfl
      rename_i fits
      rw [not_or, not_not, not_not] at fits
      exact PictureRing.storageFault?_eq_none_iff.mpr
        (within.storage sps pps present chosen fits.1 fits.2)

/-! ### Feedings on the machine -/

section Feeding

variable (compressor : Compressor κ γ η ρ)

/-- The fault that ends the admission that a feeding asks for, if it asks for one. -/
def Feeding.fault? (feeding : Feeding) (session : Session κ γ η) : Option Fault :=
  feeding.input.bind session.admissionFault?

/-- Takes one frame or field on the machine. -/
def feedOnMachine (feeding : Feeding) : Step κ γ η ρ (Stop EncodeError) Nat := fun desk =>
  match feeding.fault? desk.1 with
  | some fault => Operation.fail (.fault fault) desk
  | none => feed compressor feeding desk

/-- Takes several frames or fields on the machine, as `feedAll` does. -/
def feedAllOnMachine : List Feeding → Step κ γ η ρ (Stop EncodeError) Nat
  | [] => pure 0
  | feeding :: later => do
    let first ← feedOnMachine compressor feeding
    let rest ← feedAllOnMachine later
    pure (first + rest)

/-- Of feedings taken one after the other one is reached whose admission ends with this fault. -/
inductive FeedingsExceed (fault : Fault) : List Feeding → Desk κ γ η ρ → Prop where
  | here {feeding : Feeding} {later : List Feeding} {desk : Desk κ γ η ρ}
      (faults : feeding.fault? desk.1 = some fault) : FeedingsExceed fault (feeding :: later) desk
  | later {feeding : Feeding} {rest : List Feeding} {desk : Desk κ γ η ρ} {numPics : Nat}
      (within : feeding.fault? desk.1 = none)
      (succeeds : (feed compressor feeding desk).outcome = .ok numPics)
      (exceeds : FeedingsExceed fault rest (feed compressor feeding desk).state) :
      FeedingsExceed fault (feeding :: rest) desk

variable {compressor}

/-- The machine takes a feeding as the session does if its admission stays within the limits. -/
theorem feedOnMachine_of_within {feeding : Feeding} {desk : Desk κ γ η ρ}
    (within : feeding.fault? desk.1 = none) :
    feedOnMachine compressor feeding desk = feed compressor feeding desk := by
  rw [feedOnMachine, within]

/-- The first admission that exceeds a limit ends the call. -/
theorem feedAllOnMachine_of_exceeds {fault : Fault} {feedings : List Feeding}
    {desk : Desk κ γ η ρ} (exceeds : FeedingsExceed compressor fault feedings desk) :
    (feedAllOnMachine compressor feedings desk).outcome = .error (.fault fault) := by
  induction exceeds with
  | @here feeding later desk faults =>
    have stops : (feedOnMachine compressor feeding desk).outcome = .error (.fault fault) := by
      rw [feedOnMachine, faults]
      rfl
    rw [feedAllOnMachine, Operation.bind_apply_of_error stops]
  | @later feeding rest desk numPics within succeeds _ inductionHypothesis =>
    rw [feedAllOnMachine, Operation.bind_apply_congr (feedOnMachine_of_within within),
      Operation.bind_apply_of_ok succeeds, Operation.bind_apply_of_error inductionHypothesis]

/-- Without such an admission the machine takes the feedings as the session does. -/
theorem feedAllOnMachine_of_within {feedings : List Feeding} {desk : Desk κ γ η ρ}
    (within : ∀ fault, ¬FeedingsExceed compressor fault feedings desk) :
    feedAllOnMachine compressor feedings desk = feedAll compressor feedings desk := by
  induction feedings generalizing desk with
  | nil => rfl
  | cons feeding later inductionHypothesis =>
    have fits : feeding.fault? desk.1 = none :=
      Option.eq_none_iff_forall_ne_some.mpr fun fault faults => within fault (.here faults)
    rw [feedAllOnMachine, Operation.bind_apply_congr (feedOnMachine_of_within fits), feedAll]
    cases fed : (feed compressor feeding desk).outcome with
    | error stop => rw [Operation.bind_apply_of_error fed, Operation.bind_apply_of_error fed]
    | ok numPics =>
      have rest := inductionHypothesis fun fault exceeds => within fault (.later fits fed exceeds)
      rw [Operation.bind_apply_of_ok fed, Operation.bind_apply_of_ok fed,
        Operation.bind_apply_congr rest]

end Feeding

/-! ### Calls on the machine -/

section Call

variable (compressor : Compressor κ γ η ρ) {call : Call} {desk : Desk κ γ η ρ}

/-- Whether an active session with this configuration takes the feedings of a call. -/
def Call.feeds (config : Config) (call : Call) : Bool :=
  (!call.takesFields || config.fieldCoding) && !call.feedings.isEmpty

/-- A call that is taken brings or flushes something, and suits the session. -/
theorem Call.feeds_iff {config : Config} :
    call.feeds config = true ↔ call.Suits config ∧ call.feedings ≠ [] := by
  cases fields : call.takesFields <;> simp [feeds, Suits, fields]

/-- Makes a call on the machine. A call that takes nothing does not come to a limit. -/
def performOnMachine (call : Call) : Step κ γ η ρ (Stop EncodeError) Nat := fun desk =>
  if desk.1.status = .active ∧ call.feeds desk.1.config then
    feedAllOnMachine compressor call.feedings desk
  else perform compressor call desk

/-- A call comes to an admission that ends with this fault. -/
structure Call.Exceeds (call : Call) (desk : Desk κ γ η ρ) (fault : Fault) : Prop where
  active : desk.1.status = .active
  feeds : call.feeds desk.1.config = true
  exceeds : FeedingsExceed compressor fault call.feedings desk

/-- The fault of an admission that exceeds a limit ends the call. -/
theorem performOnMachine_of_exceeds {fault : Fault} (exceeds : call.Exceeds compressor desk fault) :
    (performOnMachine compressor call desk).outcome = .error (.fault fault) := by
  rw [performOnMachine, if_pos ⟨exceeds.active, exceeds.feeds⟩]
  exact feedAllOnMachine_of_exceeds exceeds.exceeds

/-- Within the limits a call on the machine is the call of the session. -/
theorem performOnMachine_of_within (within : ∀ fault, ¬call.Exceeds compressor desk fault) :
    (performOnMachine compressor call desk).outcome = (perform compressor call desk).outcome ∧
      (performOnMachine compressor call desk).state = (perform compressor call desk).state := by
  unfold performOnMachine
  split
  · rename_i taken
    obtain ⟨active, feeds⟩ := taken
    obtain ⟨suits, brings⟩ := Call.feeds_iff.mp feeds
    obtain ⟨outcome, state⟩ := perform_of_feedings compressor active suits brings
    rw [outcome, state, feedAllOnMachine_of_within fun fault exceeds =>
      within fault ⟨active, feeds, exceeds⟩]
    exact ⟨rfl, rfl⟩
  · exact ⟨rfl, rfl⟩

/-- So is every call that the machine does not end with a fault. -/
theorem performOnMachine_of_answered
    (answered : ∀ fault, (performOnMachine compressor call desk).outcome ≠ .error (.fault fault)) :
    (performOnMachine compressor call desk).outcome = (perform compressor call desk).outcome ∧
      (performOnMachine compressor call desk).state = (perform compressor call desk).state :=
  performOnMachine_of_within compressor fun fault exceeds =>
    answered fault (performOnMachine_of_exceeds compressor exceeds)

end Call

end Session

end EncoderControl
