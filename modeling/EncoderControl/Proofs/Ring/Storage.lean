import EncoderControl.Proofs.Ring.Service

/-!
# Storage of recycled pictures

A picture is stored for the parameter sets it is admitted with. A recycled picture takes over the
parameter sets of the next admission but keeps its storage when the ids of the two picture parameter
sets coincide, whatever else differs between them. So storage fits as long as an id stands for one
size of storage, and the first recycling across two sizes leaves a picture that does not fit.
-/

namespace EncoderControl

/-! ### Sizes of storage -/

/-- What a frame declares and what it holds. -/
structure FrameSize where
  resolution : Resolution
  format : ChromaFormat
  /-- Number of samples in each plane. -/
  planeLengths : List Nat
deriving DecidableEq

/-- What an activity layer declares and what it holds. -/
structure LayerSize where
  partitionSize : Resolution
  numPartitions : Resolution
  /-- Number of partitions that have an activity. -/
  length : Nat
deriving DecidableEq

/-- Sizes of all the storage of a picture. -/
structure StorageSize where
  orig : FrameSize
  reco : FrameSize
  layers : List LayerSize
deriving DecidableEq

/-- Size of a frame. -/
def Frame.size (frame : Frame) : FrameSize :=
  ⟨frame.resolution, frame.format, frame.planeLengths⟩

/-- Size of an activity layer. -/
def ActivityLayer.size (layer : ActivityLayer) : LayerSize :=
  ⟨layer.partitionSize, layer.numPartitions, layer.activity.size⟩

namespace Picture

/-- Size of the storage that a picture has. -/
def storageSize (picture : Picture) : StorageSize :=
  ⟨picture.orig.size, picture.reco.size, picture.activityLayers.map ActivityLayer.size⟩

/-- Size of the storage that parameter sets call for. -/
def sizeFor (sps : Sps) (pps : Pps) (adaptiveQp : Bool) : StorageSize :=
  (ofSets sps pps adaptiveQp).storageSize

/-- The picture has storage of the size that its own parameter sets call for. -/
def Fits (adaptiveQp : Bool) (picture : Picture) : Prop :=
  picture.storageSize = sizeFor picture.sps picture.pps adaptiveQp

instance (adaptiveQp : Bool) (picture : Picture) : Decidable (picture.Fits adaptiveQp) :=
  inferInstanceAs (Decidable (_ = _))

/-- Two states of a picture between which neither its storage was resized nor its parameter sets
were replaced. -/
structure SameStorage (first second : Picture) : Prop where
  size : first.storageSize = second.storageSize
  sps : first.sps = second.sps
  pps : first.pps = second.pps

/-- A picture that stays as it is keeps its storage. -/
theorem SameStorage.refl (picture : Picture) : picture.SameStorage picture := ⟨rfl, rfl, rfl⟩

/-- Pictures with the same storage fit together or not at all. -/
theorem SameStorage.fits_iff {adaptiveQp : Bool} {first second : Picture}
    (same : first.SameStorage second) : first.Fits adaptiveQp ↔ second.Fits adaptiveQp := by
  rw [Fits, Fits, same.size, same.sps, same.pps]

end Picture

/-! ### Recycling -/

namespace PictureRing

variable {ring : PictureRing} {placement : Placement}

/-- Every picture has storage of the size that its own parameter sets call for. -/
def AllFit (ring : PictureRing) : Prop :=
  ∀ entry ∈ ring.entries, entry.2.Fits ring.adaptiveQp

/-- The picture that the next admission recycles. -/
def stale? (ring : PictureRing) : Option Picture :=
  ring.reusable?.bind ring.pictureAt?

/-- The picture that is recycled is one of the ring. -/
theorem exists_entry_of_stale? {stale : Picture} (recycles : ring.stale? = some stale) :
    ∃ handle, (handle, stale) ∈ ring.entries := by
  obtain ⟨index, reusable, held⟩ := Option.bind_eq_some_iff.mp recycles
  refine ⟨ring.handleAt index, ?_⟩
  rw [entries_eq_filterMap, List.mem_filterMap]
  exact ⟨index, List.mem_of_find?_eq_some reusable, entryAt?_eq_some_iff.mpr ⟨rfl, held⟩⟩

/-- Storage is either that of a recycled picture with the same id, or made anew. -/
theorem storageAt_cases (placed : ring.placement? = some placement) (sps : Sps) (pps : Pps) :
    (∃ stale, ring.stale? = some stale ∧ stale.pps.id = pps.id ∧
        ring.storageAt sps pps placement = { stale with sps := sps, pps := pps }) ∨
      (∀ stale, ring.stale? = some stale → stale.pps.id ≠ pps.id) ∧
        ring.storageAt sps pps placement = .ofSets sps pps ring.adaptiveQp := by
  rcases placement?_cases placed with ⟨index, rfl, reusable⟩ | ⟨noneReusable, -, place⟩
  · obtain ⟨stale, held, -⟩ := pictureAt?_of_reusable? reusable
    have recycles : ring.stale? = some stale := by rw [stale?, reusable, Option.bind_some, held]
    rw [recycles]
    simp only [storageAt, held, recycled]
    by_cases sameId : stale.pps.id = pps.id
    · exact .inl ⟨stale, rfl, sameId, if_pos sameId⟩
    · right
      refine ⟨?_, if_neg sameId⟩
      rintro other same
      rwa [← Option.some.inj same]
  · have nothing : ring.stale? = none := by rw [stale?, noneReusable, Option.bind_none]
    refine .inr ⟨by simp [nothing], ?_⟩
    rcases place with ⟨index, rfl, -, -⟩ | rfl <;> rfl

/-- An admission with these parameter sets keeps storage of a size that they do not call for. -/
def KeepsMisfit (ring : PictureRing) (sps : Sps) (pps : Pps) : Prop :=
  ∃ stale, ring.stale? = some stale ∧ stale.pps.id = pps.id ∧
    Picture.sizeFor stale.sps stale.pps ring.adaptiveQp ≠ Picture.sizeFor sps pps ring.adaptiveQp

/-- As long as all pictures fit, the next one fails to only where it keeps the storage of another
size. -/
theorem AllFit.fits_storageAt_iff (fits : ring.AllFit) (placed : ring.placement? = some placement)
    (sps : Sps) (pps : Pps) (poc : Int) :
    ((ring.storageAt sps pps placement).admittedAt poc).Fits ring.adaptiveQp ↔
      ¬ring.KeepsMisfit sps pps := by
  rcases storageAt_cases placed sps pps with ⟨stale, recycles, sameId, kept⟩ | ⟨otherId, made⟩
  · obtain ⟨handle, member⟩ := exists_entry_of_stale? recycles
    have size : stale.storageSize = Picture.sizeFor stale.sps stale.pps ring.adaptiveQp :=
      fits _ member
    rw [kept, KeepsMisfit, recycles]
    change stale.storageSize = _ ↔ _
    rw [size]
    constructor
    · rintro agree ⟨other, same, -, differ⟩
      rw [← Option.some.inj same] at differ
      exact differ agree
    · intro noMisfit
      by_contra differ
      exact noMisfit ⟨stale, rfl, sameId, differ⟩
  · rw [made]
    refine iff_of_true rfl ?_
    rintro ⟨stale, recycles, sameId, -⟩
    exact otherId stale recycles sameId

/-- Where all pictures fit, they still do after an admission that keeps no misfitting storage. -/
theorem Consistent.allFit_place_iff (consistent : ring.Consistent) (fits : ring.AllFit)
    (placed : ring.placement? = some placement) (sps : Sps) (pps : Pps) :
    (ring.place placement (ring.storageAt sps pps placement)).AllFit ↔
      ¬ring.KeepsMisfit sps pps := by
  have others : ∀ entry ∈ ring.entries.eraseP fun entry => !entry.2.referenced,
      entry.2.Fits ring.adaptiveQp := fun entry member =>
    fits entry (List.mem_of_mem_eraseP member)
  rw [← fits.fits_storageAt_iff placed sps pps (ring.pocLast + 1), AllFit,
    consistent.entries_place placed]
  constructor
  · intro all
    exact all _ (List.mem_append_right _ (List.mem_singleton_self _))
  · intro admitted entry member
    rw [List.mem_append, List.mem_singleton] at member
    rcases member with earlier | rfl
    · exact others entry earlier
    · exact admitted

end PictureRing

/-! ### Edits -/

/-- An edit that neither resizes storage nor replaces parameter sets. -/
def RingEdit.KeepsStorage : RingEdit → Prop
  | .write _ change => ∀ picture, (change picture).SameStorage picture
  | .release _ | .evict _ | .clear => True

/-- Such an edit adds no picture, and leaves the storage of those that stay as it is. -/
theorem RingEdit.KeepsStorage.origin {step : RingEdit} (keeps : step.KeepsStorage)
    {entries : List (PictureHandle × Picture)} {entry : PictureHandle × Picture}
    (member : entry ∈ step.onEntries entries) :
    ∃ earlier ∈ entries, entry.2.SameStorage earlier.2 := by
  have written (handle : PictureHandle) {change : Picture → Picture}
      (same : ∀ picture, (change picture).SameStorage picture)
      (member : entry ∈ entries.map (onEntry handle change)) :
      ∃ earlier ∈ entries, entry.2.SameStorage earlier.2 := by
    obtain ⟨earlier, earlierMember, rfl⟩ := List.mem_map.mp member
    refine ⟨earlier, earlierMember, ?_⟩
    rw [onEntry]
    split
    · exact same earlier.2
    · exact .refl earlier.2
  cases step with
  | release handle =>
    have unreferenced (picture : Picture) : picture.unreferenced.SameStorage picture :=
      ⟨rfl, rfl, rfl⟩
    exact written handle unreferenced member
  | write handle change => exact written handle keeps member
  | evict handle => exact ⟨entry, List.mem_of_mem_filter member, .refl entry.2⟩
  | clear => exact absurd member List.not_mem_nil

namespace RingRequest

/-- A request that neither resizes storage nor replaces parameter sets but by admission. -/
def KeepsStorage : RingRequest → Prop
  | .acquire .. => True
  | .edit step => step.KeepsStorage

/-- A request for a picture that keeps storage of a size it does not call for. -/
def KeepsMisfit (ring : PictureRing) : RingRequest → Prop
  | .acquire sps pps => ring.KeepsMisfit sps pps
  | .edit _ => False

/-- A request keeps no misfitting storage if what it recycles has the size it calls for. -/
theorem not_keepsMisfit_iff {ring : PictureRing} {request : RingRequest} :
    ¬request.KeepsMisfit ring ↔ ∀ sps pps, request = .acquire sps pps →
      ∀ stale, ring.stale? = some stale → stale.pps.id = pps.id →
        Picture.sizeFor stale.sps stale.pps ring.adaptiveQp =
          Picture.sizeFor sps pps ring.adaptiveQp := by
  cases request with
  | edit step => simp [KeepsMisfit]
  | acquire sps pps => simp [KeepsMisfit, PictureRing.KeepsMisfit]

end RingRequest

/-- The parameter sets of a picture were asked for, and so was the size of its storage, by a request
that named the same id. -/
structure Picture.SuppliedBy (requests : List RingRequest) (adaptiveQp : Bool) (picture : Picture) :
    Prop where
  sets : .acquire picture.sps picture.pps ∈ requests
  size : ∃ sps pps, .acquire sps pps ∈ requests ∧ pps.id = picture.pps.id ∧
    picture.storageSize = Picture.sizeFor sps pps adaptiveQp

namespace PictureRing

variable {ring : PictureRing} {placement : Placement} {requests : List RingRequest}
  {adaptiveQp : Bool}

/-- A ring whose pictures all stem from the given requests. -/
structure Stocked (requests : List RingRequest) (adaptiveQp : Bool)
    (ring : PictureRing) : Prop where
  consistent : ring.Consistent
  adaptiveQp_eq : ring.adaptiveQp = adaptiveQp
  supplied : ∀ entry ∈ ring.entries, entry.2.SuppliedBy requests adaptiveQp

/-! ### Steps -/

/-- Edits that leave storage alone let all pictures fit. -/
theorem AllFit.edit (fits : ring.AllFit) (consistent : ring.Consistent) {step : RingEdit}
    (keeps : step.KeepsStorage) : (ring.edit step).AllFit := by
  intro entry member
  rw [consistent.entries_edit] at member
  obtain ⟨earlier, earlierMember, same⟩ := keeps.origin member
  rw [(ring.shape_edit step).2.2, same.fits_iff]
  exact fits earlier earlierMember

/-- An admitted picture takes the size of the request, or of the recycled picture. -/
theorem Stocked.place (stocked : ring.Stocked requests adaptiveQp)
    (placed : ring.placement? = some placement) {sps : Sps} {pps : Pps}
    (among : .acquire sps pps ∈ requests) :
    (ring.place placement (ring.storageAt sps pps placement)).Stocked requests adaptiveQp where
  consistent := stocked.consistent.place placed _
  adaptiveQp_eq := stocked.adaptiveQp_eq
  supplied := by
    intro entry member
    rw [stocked.consistent.entries_place placed, List.mem_append, List.mem_singleton] at member
    rcases member with earlier | rfl
    · exact stocked.supplied entry (List.mem_of_mem_eraseP earlier)
    · rcases storageAt_cases placed sps pps with
        ⟨stale, recycles, sameId, kept⟩ | ⟨-, made⟩
      · -- The sets are new, and the size is the one the recycled picture was supplied with.
        obtain ⟨handle, held⟩ := exists_entry_of_stale? recycles
        obtain ⟨first, firstPps, firstAmong, firstId, size⟩ := (stocked.supplied _ held).size
        rw [kept]
        exact ⟨among, first, firstPps, firstAmong, firstId.trans sameId, size⟩
      · rw [made, stocked.adaptiveQp_eq]
        exact ⟨among, sps, pps, among, rfl, rfl⟩

/-- Edits bring no parameter sets that were not asked for. -/
theorem Stocked.edit (stocked : ring.Stocked requests adaptiveQp) {step : RingEdit}
    (keeps : step.KeepsStorage) :
    (ring.edit step).Stocked requests adaptiveQp where
  consistent := stocked.consistent.edit step
  adaptiveQp_eq := (ring.shape_edit step).2.2.trans stocked.adaptiveQp_eq
  supplied := by
    intro entry member
    rw [stocked.consistent.entries_edit] at member
    obtain ⟨earlier, earlierMember, same⟩ := keeps.origin member
    obtain ⟨sets, size⟩ := stocked.supplied earlier earlierMember
    rw [← same.sps, ← same.pps] at sets
    rw [← same.pps, ← same.size] at size
    exact ⟨sets, size⟩

end PictureRing

namespace RingService

variable {ρ : Type} {held : HeldRing ρ}

section Served

variable {request : RingRequest} {outcome : Except EncodeError Unit} {after : HeldRing ρ}

/-- Every request keeps the ring consistent. -/
theorem Served.consistent (served : Served held request outcome after)
    (consistent : held.1.Consistent) : after.1.Consistent := by
  cases served with
  | admitted sps pps placed => exact consistent.place placed _
  | exhausted sps pps full => exact consistent
  | edited step => exact consistent.edit step
  | refused step error kind => exact consistent.edit step

/-- Where all pictures fit, they go on to unless the request keeps storage of another size. -/
theorem Served.allFit_iff (served : Served held request outcome after)
    (consistent : held.1.Consistent) (fits : held.1.AllFit) (keeps : request.KeepsStorage) :
    after.1.AllFit ↔ ¬request.KeepsMisfit held.1 := by
  cases served with
  | admitted sps pps placed => exact consistent.allFit_place_iff fits placed sps pps
  | exhausted sps pps full =>
    refine iff_of_true fits ?_
    rintro ⟨stale, recycles, -, -⟩
    rw [PictureRing.stale?, (PictureRing.placement?_eq_none_iff.mp full).1] at recycles
    cases recycles
  | edited step => exact iff_of_true (fits.edit consistent keeps) id
  | refused step error kind => exact iff_of_true (fits.edit consistent keeps) id

/-- A request brings no parameter sets but its own. -/
theorem Served.stocked {requests : List RingRequest} {adaptiveQp : Bool}
    (served : Served held request outcome after) (stocked : held.1.Stocked requests adaptiveQp)
    (among : request ∈ requests) (keeps : request.KeepsStorage) :
    after.1.Stocked requests adaptiveQp := by
  cases served with
  | admitted sps pps placed => exact stocked.place placed among
  | exhausted sps pps full => exact stocked
  | edited step => exact stocked.edit keeps
  | refused step error kind => exact stocked.edit keeps

end Served

/-! ### Runs -/

/-- Before and after every turn, the pictures have parameter sets that some request asked for. -/
theorem stocked_of_mem_turnsOf {all requests : List RingRequest} {adaptiveQp : Bool}
    (stocked : held.1.Stocked all adaptiveQp) (among : requests ⊆ all)
    (keeps : ∀ request ∈ requests, request.KeepsStorage) :
    ∀ made ∈ turnsOf held requests, made.before.1.Stocked all adaptiveQp ∧
      made.reply.state.1.Stocked all adaptiveQp := by
  induction requests generalizing held with
  | nil => exact fun made member => absurd member List.not_mem_nil
  | cons request later inductionHypothesis =>
    rw [List.cons_subset] at among
    rw [List.forall_mem_cons] at keeps
    have next : (request.serve held).state.1.Stocked all adaptiveQp :=
      (serve_cases held request).stocked stocked among.1 keeps.1
    rw [turnsOf, List.forall_mem_cons]
    exact ⟨⟨stocked, next⟩, inductionHypothesis next among.2 keeps.2⟩

/-- All pictures fit throughout a run exactly when no request of it keeps storage of another
size. -/
theorem allFit_turnsOf_iff (consistent : held.1.Consistent) (fits : held.1.AllFit)
    {requests : List RingRequest} (keeps : ∀ request ∈ requests, request.KeepsStorage) :
    (∀ made ∈ turnsOf held requests, made.reply.state.1.AllFit) ↔
      ∀ made ∈ turnsOf held requests, ¬made.request.KeepsMisfit made.before.1 := by
  induction requests generalizing held with
  | nil => exact iff_of_true (by simp [turnsOf]) (by simp [turnsOf])
  | cons request later inductionHypothesis =>
    rw [List.forall_mem_cons] at keeps
    have served := serve_cases held request
    have first : (turn held request).reply.state.1.AllFit ↔
        ¬(turn held request).request.KeepsMisfit (turn held request).before.1 :=
      served.allFit_iff consistent fits keeps.1
    -- Later requests only matter while all pictures fit, for neither side holds once one does not.
    rw [turnsOf, List.forall_mem_cons, List.forall_mem_cons, ← first]
    exact and_congr_right fun fitsNext =>
      inductionHypothesis (served.consistent consistent) fitsNext keeps.2

/-- When the pictures of a ring have storage of the size that their own parameter sets call for. For
every capacity and all requests that resize no storage from outside: all pictures fit throughout the
run exactly when no admission keeps the storage of a recycled picture whose parameter sets called
for another size under the same id. Each picture has the size that some request with its id called
for. So pictures fit in every run that calls for one size under each id. -/
theorem storage_fits_iff (capacity : Nat) (adaptiveQp : Bool) (output : List ρ)
    (requests : List RingRequest) (keeps : ∀ request ∈ requests, request.KeepsStorage) :
    let turns := turnsOf (.empty capacity adaptiveQp, output) requests
    let AllFit := ∀ turn ∈ turns, ∀ entry ∈ turn.reply.state.1.entries, entry.2.Fits adaptiveQp
    (AllFit ↔ ∀ turn ∈ turns, ∀ sps pps, turn.request = .acquire sps pps →
      ∀ stale, turn.before.1.stale? = some stale → stale.pps.id = pps.id →
        Picture.sizeFor stale.sps stale.pps adaptiveQp = Picture.sizeFor sps pps adaptiveQp) ∧
      (∀ turn ∈ turns, ∀ entry ∈ turn.reply.state.1.entries,
        entry.2.SuppliedBy requests adaptiveQp) ∧
      ((∀ sps pps, .acquire sps pps ∈ requests → ∀ sps' pps', .acquire sps' pps' ∈ requests →
        pps.id = pps'.id →
          Picture.sizeFor sps pps adaptiveQp = Picture.sizeFor sps' pps' adaptiveQp) →
        AllFit) := by
  intro turns AllFit
  have new : (PictureRing.empty capacity adaptiveQp).Stocked requests adaptiveQp :=
    ⟨PictureRing.consistent_empty capacity adaptiveQp, rfl, by simp⟩
  have stocked : ∀ turn ∈ turns, turn.before.1.Stocked requests adaptiveQp ∧
      turn.reply.state.1.Stocked requests adaptiveQp :=
    stocked_of_mem_turnsOf new (List.Subset.refl requests) keeps
  refine ⟨?_, fun turn member => (stocked turn member).2.supplied, ?_⟩
  · have fits : (PictureRing.empty capacity adaptiveQp).AllFit := by simp [PictureRing.AllFit]
    have whole : (∀ turn ∈ turns, turn.reply.state.1.AllFit) ↔
        ∀ turn ∈ turns, ¬turn.request.KeepsMisfit turn.before.1 :=
      allFit_turnsOf_iff new.consistent fits keeps
    have left : (∀ turn ∈ turns, turn.reply.state.1.AllFit) ↔ AllFit :=
      forall₂_congr fun turn member => by
        rw [PictureRing.AllFit, (stocked turn member).2.adaptiveQp_eq]
    rw [← left, whole]
    refine forall₂_congr fun turn member => ?_
    have adaptiveQp_eq := (stocked turn member).1.adaptiveQp_eq
    rw [RingRequest.not_keepsMisfit_iff, adaptiveQp_eq]
  · intro agree turn member entry held
    obtain ⟨sets, sps, pps, among, sameId, size⟩ := (stocked turn member).2.supplied entry held
    rw [Picture.Fits, size]
    exact agree sps pps among _ _ sets sameId

/-- With one size for all pictures, every picture fits, the recycled one included. -/
theorem storage_fits_iff_smallRequests :
    let turns := turnsOf (.empty 2 true, [1, 2, 3]) smallRequests
    admissions turns = 4 ∧
      ∀ turn ∈ turns, ∀ entry ∈ turn.reply.state.1.entries, entry.2.Fits true := by
  intro turns
  have keeps : ∀ request ∈ smallRequests, request.KeepsStorage := by
    simp [smallRequests, RingRequest.KeepsStorage, RingEdit.KeepsStorage]
  refine ⟨by decide +kernel, (storage_fits_iff 2 true [1, 2, 3] smallRequests keeps).2.2 ?_⟩
  simp [smallRequests]

/-- A picture that is admitted in place of a larger one keeps the storage of that one, since both
picture parameter sets have the id zero. -/
theorem recycled_storage_misfits :
    let requests : List RingRequest :=
      [.acquire (graySps ⟨4, 4⟩) {}, .edit (.release ⟨0, 0⟩), .acquire (graySps ⟨2, 2⟩) {}]
    let ring := (heldAfter (.empty 1 true, [1, 2, 3]) requests).1
    ∃ entry ∈ ring.entries, entry.2.sps.resolution = ⟨2, 2⟩ ∧ entry.2.orig.planeLengths = [16] ∧
      ¬entry.2.Fits true := by
  decide +kernel

end RingService

end EncoderControl
