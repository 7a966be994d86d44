import EncoderControl.Proofs.Ring.Ledger

/-!
# The ring as a queue of uniquely named pictures

A `PictureQueue` says what a ring is for, without slots and generations: pictures in the order of
admission, each one named by its position in output order, which is the number of its admission. The
ring refines it: a handle resolves to the picture of its own admission as long as that picture is in
the queue, and to nothing from then on.
-/

namespace EncoderControl

/-- Pictures in the order of admission, the oldest one first. -/
structure PictureQueue where
  pictures : List Picture
  /-- Admissions so far, which is the position of the next picture. -/
  admissions : Nat
  capacity : Nat
  adaptiveQp : Bool

namespace PictureQueue

/-- A queue that was not used yet. -/
def start (capacity : Nat) (adaptiveQp : Bool) : PictureQueue where
  pictures := []
  admissions := 0
  capacity := capacity
  adaptiveQp := adaptiveQp

/-- The picture with this admission number, if it is still queued. -/
def picture? (queue : PictureQueue) (admission : Nat) : Option Picture :=
  queue.pictures.find? fun picture => picture.poc = admission

/-- Storage for the next picture: that of the oldest one no longer referenced, or new storage if all
are and there is room. -/
def storage? (queue : PictureQueue) (sps : Sps) (pps : Pps) : Option Picture :=
  match queue.pictures.find? fun picture => !picture.referenced with
  | some stale =>
    some (if stale.pps.id = pps.id then { stale with sps := sps, pps := pps }
      else .ofSets sps pps queue.adaptiveQp)
  | none =>
    if queue.pictures.length < queue.capacity then some (.ofSets sps pps queue.adaptiveQp)
    else none

/-- Takes the picture whose storage is reused out, and the new one in at the end. -/
def acquire (queue : PictureQueue) (sps : Sps) (pps : Pps) : PictureQueue :=
  match queue.storage? sps pps with
  | some storage =>
    { queue with
      pictures := (queue.pictures.eraseP fun picture => !picture.referenced) ++
        [storage.admittedAt queue.admissions]
      admissions := queue.admissions + 1 }
  | none => queue

/-- Changes one picture. -/
def write (queue : PictureQueue) (admission : Nat) (change : Picture → Picture) : PictureQueue :=
  { queue with
    pictures := queue.pictures.map fun picture =>
      if picture.poc = (admission : Int) then change picture else picture }

/-- Takes one picture out, unless it is still referenced. -/
def evict (queue : PictureQueue) (admission : Nat) : PictureQueue :=
  { queue with
    pictures := queue.pictures.filter fun picture =>
      picture.poc ≠ admission ∨ picture.referenced }

/-- The queue after a call. -/
def after (queue : PictureQueue) : RingCall → PictureQueue
  | .acquire sps pps => queue.acquire sps pps
  | .release admission => queue.write admission Picture.unreferenced
  | .evict admission => queue.evict admission
  | .write admission edit => queue.write admission edit.apply
  | .clear => { queue with pictures := [] }

/-- The queue after calls, the first one first. -/
def ofCalls (capacity : Nat) (adaptiveQp : Bool) (calls : List RingCall) : PictureQueue :=
  calls.foldl after (start capacity adaptiveQp)

end PictureQueue

namespace RingLedger

variable {ρ : Type} {ledger : RingLedger ρ} {queue : PictureQueue}

/-- The ring holds the pictures of the queue, each under the handle that its admission issued. -/
structure Refines (ledger : RingLedger ρ) (queue : PictureQueue) : Prop where
  consistent : ledger.ring.Consistent
  pictures : ledger.ring.entries.map Prod.snd = queue.pictures
  named : ∀ entry ∈ ledger.ring.entries, ∃ admission : Nat,
    entry.2.poc = admission ∧ ledger.issued[admission]? = some entry.1
  ascending : queue.pictures.Pairwise fun earlier later => earlier.poc < later.poc
  admissions : queue.admissions = ledger.issued.length
  pocLast : ledger.ring.pocLast + 1 = ledger.issued.length
  capacity : queue.capacity = ledger.ring.capacity
  adaptiveQp : queue.adaptiveQp = ledger.ring.adaptiveQp
  distinct : ledger.issued.Nodup
  behind : Behind ledger.issued ledger.ring

/-- A new ring refines the empty queue. -/
theorem refines_start (capacity : Nat) (adaptiveQp : Bool) (output : List ρ) :
    (start capacity adaptiveQp output).Refines (.start capacity adaptiveQp) where
  consistent := PictureRing.consistent_empty capacity adaptiveQp
  pictures := rfl
  named := by simp [start]
  ascending := List.Pairwise.nil
  admissions := rfl
  pocLast := rfl
  capacity := rfl
  adaptiveQp := rfl
  distinct := List.nodup_nil
  behind := by simp [Behind, start]

namespace Refines

/-- Within the ring, the handle of an admission and its position name the same entry. -/
theorem fst_eq_iff (refines : ledger.Refines queue) {admission : Nat} {handle : PictureHandle}
    (issued : ledger.issued[admission]? = some handle) {entry : PictureHandle × Picture}
    (member : entry ∈ ledger.ring.entries) : entry.1 = handle ↔ entry.2.poc = admission := by
  obtain ⟨own, position, ownIssued⟩ := refines.named entry member
  rw [position]
  constructor
  · rintro rfl
    have valid : own < ledger.issued.length := (List.getElem?_eq_some_iff.mp ownIssued).1
    rw [(List.getElem?_inj valid refines.distinct).mp (ownIssued.trans issued.symm)]
  · intro same
    rw [Int.ofNat_inj.mp same, issued] at ownIssued
    exact (Option.some.inj ownIssued).symm

/-- A position without a handle is the one of no picture. -/
theorem poc_ne_of_not_issued (refines : ledger.Refines queue) {admission : Nat}
    (missing : ledger.issued[admission]? = none) {entry : PictureHandle × Picture}
    (member : entry ∈ ledger.ring.entries) : entry.2.poc ≠ admission := by
  obtain ⟨own, position, ownIssued⟩ := refines.named entry member
  intro same
  rw [position, Int.ofNat_inj] at same
  rw [same, missing] at ownIssued
  contradiction

/-! ### Admission -/

/-- Ring and queue hold as many pictures. -/
theorem length_pictures (refines : ledger.Refines queue) :
    queue.pictures.length = ledger.ring.order.length := by
  rw [← refines.pictures, List.length_map, refines.consistent.length_entries]

/-- Ring and queue agree on whether there is a place, and on the storage found there. -/
theorem storage? (refines : ledger.Refines queue) (sps : Sps) (pps : Pps) :
    queue.storage? sps pps =
      ledger.ring.placement?.map (ledger.ring.storageAt sps pps) := by
  have stale := refines.consistent.find?_entries
  have sameFirst : (queue.pictures.find? fun picture => !picture.referenced) =
      (ledger.ring.entries.find? fun entry => !entry.2.referenced).map Prod.snd := by
    rw [← refines.pictures, List.find?_map]
    rfl
  unfold PictureQueue.storage? PictureRing.placement?
  rw [sameFirst, ← stale, refines.length_pictures, refines.capacity, refines.adaptiveQp]
  cases first : ledger.ring.entries.find? fun entry => !entry.2.referenced with
  | none =>
    by_cases room : ledger.ring.order.length < ledger.ring.capacity
    · cases vacant : ledger.ring.slots.findIdx? fun slot => slot.picture.isNone <;>
        simp [room, PictureRing.storageAt]
    · simp [room]
  | some entry =>
    have held := refines.consistent.pictureAt?_of_mem (List.mem_of_find?_eq_some first)
    simp [PictureRing.storageAt, PictureRing.recycled, held]

/-- The pictures in the ring stand before the next position. -/
theorem poc_lt (refines : ledger.Refines queue) {entry : PictureHandle × Picture}
    (member : entry ∈ ledger.ring.entries) : entry.2.poc < ledger.ring.pocLast + 1 := by
  obtain ⟨admission, position, issued⟩ := refines.named entry member
  rw [position, refines.pocLast, Int.ofNat_lt]
  exact (List.getElem?_eq_some_iff.mp issued).1

/-- An admission that finds a place adds its picture to ring and queue alike. -/
theorem place (refines : ledger.Refines queue) {placement : Placement}
    (placed : ledger.ring.placement? = some placement) (storage : Picture) (output : List ρ) :
    Refines
      { ring := ledger.ring.place placement storage
        output := output
        issued := ledger.issued ++ [ledger.ring.freshHandle placement] }
      { queue with
        pictures := (queue.pictures.eraseP fun picture => !picture.referenced) ++
          [storage.admittedAt queue.admissions]
        admissions := queue.admissions + 1 } := by
  have position : ledger.ring.pocLast + 1 = queue.admissions := by
    rw [refines.pocLast, refines.admissions]
  have entries := refines.consistent.entries_place placed storage
  have pictures : (ledger.ring.entries.eraseP fun entry => !entry.2.referenced).map Prod.snd =
      queue.pictures.eraseP fun picture => !picture.referenced := by
    rw [← refines.pictures, List.eraseP_map]
    rfl
  exact
    { consistent := refines.consistent.place placed storage
      pictures := by
        change (ledger.ring.place placement storage).entries.map Prod.snd = _
        rw [entries, List.map_append, pictures, position]
        rfl
      named := by
        intro entry member
        rw [entries, List.mem_append, List.mem_singleton] at member
        rcases member with stays | rfl
        · obtain ⟨admission, ofEntry, issued⟩ :=
            refines.named entry (List.mem_of_mem_eraseP stays)
          have valid := (List.getElem?_eq_some_iff.mp issued).1
          exact ⟨admission, ofEntry, by rwa [List.getElem?_append_left valid]⟩
        · exact ⟨ledger.issued.length, refines.pocLast, by simp⟩
      ascending := by
        rw [List.pairwise_append]
        refine ⟨refines.ascending.sublist List.eraseP_sublist, List.pairwise_singleton .., ?_⟩
        intro stays staysMember admitted isAdmitted
        rw [← pictures] at staysMember
        obtain ⟨entry, member, rfl⟩ := List.mem_map.mp staysMember
        rw [List.mem_singleton.mp isAdmitted, ← position]
        exact refines.poc_lt (List.mem_of_mem_eraseP member)
      admissions := by
        rw [List.length_append, refines.admissions]
        rfl
      pocLast := by
        change ledger.ring.pocLast + 1 + 1 = _
        rw [refines.pocLast, List.length_append]
        rfl
      capacity := refines.capacity
      adaptiveQp := refines.adaptiveQp
      distinct := by
        rw [← List.concat_eq_append, List.nodup_concat]
        exact ⟨refines.behind.freshHandle_not_mem placement, refines.distinct⟩
      behind := (refines.behind.advance (advances_place ledger.ring placement storage)).append
        (behind_freshHandle placed storage) }

/-- An admission to the ring is one to the queue. -/
theorem acquire (refines : ledger.Refines queue) (sps : Sps) (pps : Pps) :
    (ledger.acquire sps pps).Refines (queue.acquire sps pps) := by
  have storage := refines.storage? sps pps
  cases placed : ledger.ring.placement? with
  | none =>
    rw [placed, Option.map_none] at storage
    rw [acquire_of_exhausted placed, PictureQueue.acquire, storage]
    exact { refines with }
  | some placement =>
    rw [placed, Option.map_some] at storage
    rw [acquire_of_placement placed, PictureQueue.acquire, storage]
    exact refines.place placed _ _

/-! ### Edits -/

/-- An edit is one of the queue when it turns the pictures of the ring into those of the queue and
gives no picture another position. -/
theorem edit (refines : ledger.Refines queue) (step : RingEdit) {pictures : List Picture}
    (agrees : (step.onEntries ledger.ring.entries).map Prod.snd = pictures)
    (keeps : ∀ entry ∈ step.onEntries ledger.ring.entries, ∃ earlier ∈ ledger.ring.entries,
      earlier.1 = entry.1 ∧ earlier.2.poc = entry.2.poc)
    (ascending : pictures.Pairwise fun earlier later => earlier.poc < later.poc) :
    Refines { ledger with ring := ledger.ring.edit step } { queue with pictures := pictures } := by
  obtain ⟨pocLast, capacity, adaptiveQp⟩ := ledger.ring.shape_edit step
  have entries := refines.consistent.entries_edit step
  exact
    { consistent := refines.consistent.edit step
      pictures := by rw [entries, agrees]
      named := by
        intro entry member
        rw [entries] at member
        obtain ⟨earlier, earlierMember, sameHandle, samePosition⟩ := keeps entry member
        rw [← sameHandle, ← samePosition]
        exact refines.named earlier earlierMember
      ascending := ascending
      admissions := refines.admissions
      pocLast := by rw [pocLast, refines.pocLast]
      capacity := by rw [capacity, refines.capacity]
      adaptiveQp := by rw [adaptiveQp, refines.adaptiveQp]
      distinct := refines.distinct
      behind := refines.behind.advance (advances_edit ledger.ring step) }

/-- A change through the handle of an admission is one of the picture at its position. -/
theorem write (refines : ledger.Refines queue) (admission : Nat) (edit : PictureEdit) :
    (ledger.edit admission (.write · edit.apply)).Refines (queue.write admission edit.apply) := by
  cases issued : ledger.issued[admission]? with
  | none =>
    have untouched : ∀ picture ∈ queue.pictures,
        (if picture.poc = (admission : Int) then edit.apply picture else picture) = picture := by
      intro picture member
      rw [← refines.pictures] at member
      obtain ⟨entry, entryMember, rfl⟩ := List.mem_map.mp member
      rw [if_neg (refines.poc_ne_of_not_issued issued entryMember)]
    rw [edit_of_not_issued issued, PictureQueue.write, List.map_congr_left untouched, List.map_id']
    exact refines
  | some handle =>
    have samePosition (picture : Picture) :
        (if picture.poc = (admission : Int) then edit.apply picture else picture).poc =
          picture.poc := by
      split
      · exact edit.keepsPoc picture
      · rfl
    have changed : ∀ entry ∈ ledger.ring.entries,
        (RingEdit.onEntry handle edit.apply entry).2 =
          if entry.2.poc = (admission : Int) then edit.apply entry.2 else entry.2 := by
      intro entry member
      unfold RingEdit.onEntry
      simp only [refines.fst_eq_iff issued member]
      split <;> rfl
    rw [edit_of_issued issued]
    refine refines.edit (.write handle edit.apply) ?_ ?_ ?_
    · rw [← refines.pictures, RingEdit.onEntries, List.map_map, List.map_map]
      exact List.map_congr_left changed
    · intro entry member
      obtain ⟨earlier, earlierMember, rfl⟩ := List.mem_map.mp member
      refine ⟨earlier, earlierMember, (RingEdit.fst_onEntry ..).symm, ?_⟩
      rw [changed earlier earlierMember, samePosition]
    · rw [List.pairwise_map]
      simpa only [samePosition] using refines.ascending

/-- A release through the handle of an admission is one of the picture at its position. -/
theorem release (refines : ledger.Refines queue) (admission : Nat) :
    (ledger.edit admission .release).Refines (queue.write admission Picture.unreferenced) := by
  have sameEdit : ledger.edit admission .release =
      ledger.edit admission (.write · Picture.unreferenced) := by
    cases issued : ledger.issued[admission]? with
    | none => rw [edit_of_not_issued issued, edit_of_not_issued issued]
    | some handle =>
      rw [edit_of_issued issued, edit_of_issued issued, PictureRing.edit_release]
  rw [sameEdit]
  exact refines.write admission ⟨Picture.unreferenced, fun _ => rfl⟩

/-- An eviction through the handle of an admission takes out the picture at its position. -/
theorem evict (refines : ledger.Refines queue) (admission : Nat) :
    (ledger.edit admission .evict).Refines (queue.evict admission) := by
  cases issued : ledger.issued[admission]? with
  | none =>
    have stays : ∀ picture ∈ queue.pictures,
        decide (picture.poc ≠ (admission : Int) ∨ picture.referenced = true) = true := by
      intro picture member
      rw [← refines.pictures] at member
      obtain ⟨entry, entryMember, rfl⟩ := List.mem_map.mp member
      exact decide_eq_true (.inl (refines.poc_ne_of_not_issued issued entryMember))
    rw [edit_of_not_issued issued, PictureQueue.evict, List.filter_eq_self.mpr stays]
    exact refines
  | some handle =>
    have sameTest : ∀ entry ∈ ledger.ring.entries,
        decide (entry.1 ≠ handle ∨ entry.2.referenced = true) =
          decide (entry.2.poc ≠ (admission : Int) ∨ entry.2.referenced = true) := by
      intro entry member
      simp only [ne_eq, refines.fst_eq_iff issued member]
    rw [edit_of_issued issued]
    refine refines.edit (.evict handle) ?_ ?_ (refines.ascending.filter _)
    · rw [← refines.pictures, RingEdit.onEntries, List.filter_congr sameTest, List.filter_map]
      rfl
    · intro entry member
      exact ⟨entry, (List.mem_filter.mp member).1, rfl, rfl⟩

/-- Every call keeps ring and queue together. -/
theorem after (refines : ledger.Refines queue) (call : RingCall) :
    (ledger.after call).Refines (queue.after call) := by
  cases call with
  | acquire sps pps => exact refines.acquire sps pps
  | release admission => exact refines.release admission
  | evict admission => exact refines.evict admission
  | write admission edit => exact refines.write admission edit
  | clear =>
    have emptied : RingEdit.clear.onEntries ledger.ring.entries = [] := rfl
    refine refines.edit .clear rfl ?_ List.Pairwise.nil
    simp [emptied]

/-- So does every sequence of calls. -/
theorem ofCalls (capacity : Nat) (adaptiveQp : Bool) (output : List ρ) (calls : List RingCall) :
    (RingLedger.ofCalls capacity adaptiveQp output calls).Refines
      (PictureQueue.ofCalls capacity adaptiveQp calls) := by
  unfold RingLedger.ofCalls PictureQueue.ofCalls
  -- The start states are generalized, since the induction is for calls on any refined ring.
  have started := refines_start capacity adaptiveQp output
  revert started
  generalize RingLedger.start capacity adaptiveQp output = ledger
  generalize PictureQueue.start capacity adaptiveQp = queue
  intro refines
  induction calls generalizing ledger queue with
  | nil => exact refines
  | cons call later inductionHypothesis => exact inductionHypothesis _ _ (refines.after call)

/-! ### What handles resolve to -/

/-- The queue finds the picture at a position, since there is no second one there. -/
theorem picture?_eq_some_iff (refines : ledger.Refines queue) {admission : Nat}
    {picture : Picture} :
    queue.picture? admission = some picture ↔
      picture ∈ queue.pictures ∧ picture.poc = admission := by
  constructor
  · intro found
    exact ⟨List.mem_of_find?_eq_some found, by simpa using List.find?_some found⟩
  · rintro ⟨member, position⟩
    obtain ⟨earlier, later, split⟩ := List.append_of_mem member
    have apart := refines.ascending
    rw [split, List.pairwise_append] at apart
    refine List.find?_eq_some_iff_append.mpr ⟨decide_eq_true position, earlier, later, split, ?_⟩
    intro other otherMember
    have before := apart.2.2 other otherMember picture (List.mem_cons_self ..)
    simp only [Bool.not_eq_true', decide_eq_false_iff_not]
    omega

/-- An issued handle resolves to the picture that its admission brought in, and to nothing once that
picture has left. -/
theorem get?_eq_picture? (refines : ledger.Refines queue) {admission : Nat}
    {handle : PictureHandle} (issued : ledger.issued[admission]? = some handle) :
    ledger.ring.get? handle = queue.picture? admission := by
  apply Option.ext
  intro picture
  rw [refines.picture?_eq_some_iff, ← refines.consistent.mem_entries_iff, ← refines.pictures,
    List.mem_map]
  constructor
  · intro member
    exact ⟨⟨_, member, rfl⟩, (refines.fst_eq_iff issued member).mp rfl⟩
  · rintro ⟨⟨entry, member, rfl⟩, position⟩
    rw [← (refines.fst_eq_iff issued member).mpr position]
    exact member

/-- A handle that was never issued resolves to nothing. -/
theorem get?_of_not_issued (refines : ledger.Refines queue) {handle : PictureHandle}
    (missing : handle ∉ ledger.issued) : ledger.ring.get? handle = none := by
  rw [Option.eq_none_iff_forall_ne_some]
  intro picture found
  obtain ⟨admission, -, issued⟩ :=
    refines.named _ (refines.consistent.mem_entries_iff.mpr found)
  exact missing (List.mem_of_getElem? issued)

/-- The handles of the ring are those of the queued pictures, in the same order. -/
theorem handles (refines : ledger.Refines queue) :
    ledger.ring.handles.map some =
      queue.pictures.map fun picture => ledger.issued[picture.poc.toNat]? := by
  rw [refines.consistent.handles_eq, ← refines.pictures, List.map_map, List.map_map]
  refine List.map_congr_left fun entry member => ?_
  obtain ⟨admission, position, issued⟩ := refines.named entry member
  change some entry.1 = ledger.issued[entry.2.poc.toNat]?
  rw [position, Int.toNat_natCast, issued]

/-- Looking up a position finds the handle of the admission with that number, as long as its picture
is queued. -/
theorem findPoc?_eq_some_iff (refines : ledger.Refines queue) {poc : Int}
    {handle : PictureHandle} :
    ledger.ring.findPoc? poc = some handle ↔
      ∃ admission : Nat, poc = admission ∧ (queue.picture? admission).isSome ∧
        ledger.issued[admission]? = some handle := by
  unfold PictureRing.findPoc?
  constructor
  · intro found
    obtain ⟨entry, first, rfl⟩ := Option.map_eq_some_iff.mp found
    have member := List.mem_of_find?_eq_some first
    obtain ⟨admission, position, issued⟩ := refines.named entry member
    have atPoc : entry.2.poc = poc := by simpa using List.find?_some first
    refine ⟨admission, atPoc ▸ position, ?_, issued⟩
    rw [← refines.get?_eq_picture? issued, refines.consistent.mem_entries_iff.mp member]
    rfl
  · rintro ⟨admission, rfl, queued, issued⟩
    obtain ⟨picture, found⟩ := Option.isSome_iff_exists.mp queued
    rw [← refines.get?_eq_picture? issued, ← refines.consistent.mem_entries_iff] at found
    cases first : ledger.ring.entries.find? fun entry => entry.2.poc = (admission : Int) with
    | none =>
      have nowhere := List.find?_eq_none.mp first _ found
      exact absurd ((refines.fst_eq_iff issued found).mp rfl) (by simpa using nowhere)
    | some entry =>
      have position : entry.2.poc = admission := by simpa using List.find?_some first
      rw [Option.map_some,
        (refines.fst_eq_iff issued (List.mem_of_find?_eq_some first)).mpr position]

end Refines

/-- Handles name admissions uniquely, for every ring and whatever is done with it. No two admissions
issue the same handle. A handle resolves, for reading and for writing, to the picture that its own
admission brought in, until the queue says that this picture was recycled, evicted or cleared; a
handle that was not issued resolves to nothing. The ring lists exactly the handles of the queued
pictures, by ascending positions, and finds each one by its position. -/
theorem issued_handles_name_admissions (capacity : Nat) (adaptiveQp : Bool) (output : List ρ)
    (calls : List RingCall) :
    let ledger := RingLedger.ofCalls capacity adaptiveQp output calls
    let queue := PictureQueue.ofCalls capacity adaptiveQp calls
    ledger.issued.Nodup ∧
      ledger.ring.pocLast + 1 = ledger.issued.length ∧
      (∀ admission handle, ledger.issued[admission]? = some handle →
        ledger.ring.get? handle = queue.picture? admission ∧
          ∀ change, (ledger.ring.modify? handle change).isSome =
            (queue.picture? admission).isSome) ∧
      (∀ handle, handle ∉ ledger.issued → ledger.ring.get? handle = none) ∧
      (queue.pictures.Pairwise fun earlier later => earlier.poc < later.poc) ∧
      (ledger.ring.handles.map some =
        queue.pictures.map fun picture => ledger.issued[picture.poc.toNat]?) ∧
      ∀ poc handle, ledger.ring.findPoc? poc = some handle ↔
        ∃ admission : Nat, poc = admission ∧ (queue.picture? admission).isSome ∧
          ledger.issued[admission]? = some handle := by
  intro ledger queue
  have refines : ledger.Refines queue := Refines.ofCalls capacity adaptiveQp output calls
  refine ⟨refines.distinct, refines.pocLast, ?_, fun _ => refines.get?_of_not_issued,
    refines.ascending, refines.handles, fun _ _ => refines.findPoc?_eq_some_iff⟩
  intro admission handle issued
  have resolves := refines.get?_eq_picture? issued
  refine ⟨resolves, fun change => ?_⟩
  rw [PictureRing.modify?, Option.isSome_map, resolves]

end RingLedger

end EncoderControl
