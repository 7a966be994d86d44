import EncoderControl.Proofs.Ring.Edits

/-!
# Rings in use

A `RingLedger` is a ring together with the handles it has issued, in the order of admission. Calls
name a picture by the number of its admission, the first one being number 0, and reach it through
the handle that this admission issued. That handle may be stale by then.
-/

namespace EncoderControl

/-- A change of a picture that leaves its position alone. -/
structure PictureEdit where
  apply : Picture → Picture
  keepsPoc : ∀ picture, (apply picture).poc = picture.poc

/-- A call on a ring. -/
inductive RingCall where
  | acquire (sps : Sps) (pps : Pps)
  | release (admission : Nat)
  | evict (admission : Nat)
  /-- Changes a picture through its handle. -/
  | write (admission : Nat) (edit : PictureEdit)
  | clear

/-- A ring in use, with the list of reconstructions that turns along with it. -/
structure RingLedger (ρ : Type) where
  ring : PictureRing
  output : List ρ
  /-- The handles issued so far, by the number of the admission. -/
  issued : List PictureHandle

namespace RingLedger

variable {ρ : Type}

/-- A ring that was not used yet. -/
def start (capacity : Nat) (adaptiveQp : Bool) (output : List ρ) : RingLedger ρ where
  ring := .empty capacity adaptiveQp
  output := output
  issued := []

/-- Admits a picture, and takes down the handle if that succeeds. -/
def acquire (ledger : RingLedger ρ) (sps : Sps) (pps : Pps) : RingLedger ρ :=
  let reply := PictureRing.acquire sps pps (ledger.ring, ledger.output)
  { ring := reply.state.1
    output := reply.state.2
    issued :=
      match reply.outcome with
      | .ok handle => ledger.issued ++ [handle]
      | .error _ => ledger.issued }

/-- An edit through the handle of an admission. Without such an admission there is no handle. -/
def edit (ledger : RingLedger ρ) (admission : Nat) (step : PictureHandle → RingEdit) :
    RingLedger ρ :=
  match ledger.issued[admission]? with
  | some handle => { ledger with ring := ledger.ring.edit (step handle) }
  | none => ledger

/-- The ledger after a call. -/
def after (ledger : RingLedger ρ) : RingCall → RingLedger ρ
  | .acquire sps pps => ledger.acquire sps pps
  | .release admission => ledger.edit admission .release
  | .evict admission => ledger.edit admission .evict
  | .write admission edit => ledger.edit admission (.write · edit.apply)
  | .clear => { ledger with ring := ledger.ring.edit .clear }

/-- The ledger of a ring after calls, the first one first. -/
def ofCalls (capacity : Nat) (adaptiveQp : Bool) (output : List ρ) (calls : List RingCall) :
    RingLedger ρ :=
  calls.foldl after (start capacity adaptiveQp output)

/-- With a place for the picture, its handle is taken down and the reconstructions turn. -/
theorem acquire_of_placement {ledger : RingLedger ρ} {placement : Placement}
    (placed : ledger.ring.placement? = some placement) (sps : Sps) (pps : Pps) :
    ledger.acquire sps pps =
      { ring := ledger.ring.place placement (ledger.ring.storageAt sps pps placement)
        output := ledger.output.rotateLeft 1
        issued := ledger.issued ++ [ledger.ring.freshHandle placement] } := by
  obtain ⟨outcome, state⟩ := PictureRing.acquire_of_placement placed sps pps ledger.output
  simp only [acquire, outcome, state]

/-- On a full ring the reconstructions turn, and nothing else happens. -/
theorem acquire_of_exhausted {ledger : RingLedger ρ}
    (exhausted : ledger.ring.placement? = none) (sps : Sps) (pps : Pps) :
    ledger.acquire sps pps = { ledger with output := ledger.output.rotateLeft 1 } := by
  obtain ⟨outcome, state⟩ := PictureRing.acquire_of_exhausted exhausted sps pps ledger.output
  simp only [acquire, outcome, state]

/-- An edit goes through the handle that the admission issued. -/
theorem edit_of_issued {ledger : RingLedger ρ} {admission : Nat} {handle : PictureHandle}
    (issued : ledger.issued[admission]? = some handle) (step : PictureHandle → RingEdit) :
    ledger.edit admission step = { ledger with ring := ledger.ring.edit (step handle) } := by
  simp only [edit, issued]

/-- Without an issued handle nothing is edited. -/
theorem edit_of_not_issued {ledger : RingLedger ρ} {admission : Nat}
    (missing : ledger.issued[admission]? = none) (step : PictureHandle → RingEdit) :
    ledger.edit admission step = ledger := by
  simp only [edit, missing]

/-! ### Handles outlive their pictures -/

/-- No handle that was issued is ahead of its slot, so a slot that changes its generation leaves all
of them behind. -/
def Behind (issued : List PictureHandle) (ring : PictureRing) : Prop :=
  ∀ handle ∈ issued,
    handle.index < ring.slots.length ∧ handle.generation ≤ ring.generationAt handle.index

/-- Slots stay, and their generations do not go back. -/
def Advances (earlier later : PictureRing) : Prop :=
  earlier.slots.length ≤ later.slots.length ∧
    ∀ index < earlier.slots.length, earlier.generationAt index ≤ later.generationAt index

/-- A ring that stays as it is does not go back. -/
theorem Advances.refl (ring : PictureRing) : Advances ring ring :=
  ⟨Nat.le_refl _, fun _ _ => Nat.le_refl _⟩

/-- Handles stay behind a ring that advances. -/
theorem Behind.advance {issued : List PictureHandle} {earlier later : PictureRing}
    (behind : Behind issued earlier) (advances : Advances earlier later) :
    Behind issued later := by
  intro handle member
  obtain ⟨valid, notAhead⟩ := behind handle member
  exact ⟨Nat.lt_of_lt_of_le valid advances.1, Nat.le_trans notAhead (advances.2 _ valid)⟩

/-- A slot may take any content, as long as its generation does not go back. -/
theorem advances_of_slots_set {earlier later : PictureRing} {index : Nat} {slot : Slot}
    (slots : later.slots = earlier.slots.set index slot)
    (notBack : earlier.generationAt index ≤ slot.generation) : Advances earlier later := by
  refine ⟨by rw [slots, List.length_set], fun other valid => ?_⟩
  by_cases same : index = other
  · subst same
    simpa [PictureRing.generationAt, slots, valid] using notBack
  · simp [PictureRing.generationAt, slots, List.getElem?_set_ne same]

/-- A new slot leaves the generations of the others alone. -/
theorem advances_of_slots_append {earlier later : PictureRing} {slot : Slot}
    (slots : later.slots = earlier.slots ++ [slot]) : Advances earlier later := by
  refine ⟨by rw [slots, List.length_append]; omega, fun index valid => ?_⟩
  simp [PictureRing.generationAt, slots, List.getElem?_append_left valid]

/-- Placing a picture takes no generation back. -/
theorem advances_place (ring : PictureRing) (placement : Placement) (storage : Picture) :
    Advances ring (ring.place placement storage) := by
  cases placement with
  | grow => exact advances_of_slots_append rfl
  | recycle index =>
    have slots : (ring.place (.recycle index) storage).slots = ring.slots.set index
        ⟨ring.generationAt index + 1, some (storage.admittedAt (ring.pocLast + 1))⟩ := rfl
    exact advances_of_slots_set slots (Nat.le_succ _)
  | refill index =>
    have slots : (ring.place (.refill index) storage).slots = ring.slots.set index
        ⟨ring.generationAt index + 1, some (storage.admittedAt (ring.pocLast + 1))⟩ := rfl
    exact advances_of_slots_set slots (Nat.le_succ _)

/-- Changing a picture takes no generation back. -/
theorem advances_write (ring : PictureRing) (handle : PictureHandle)
    (change : Picture → Picture) : Advances ring (ring.edit (.write handle change)) := by
  rcases ring.edit_write_cases handle change with ⟨picture, found, written⟩ | ⟨-, kept⟩
  · rw [written]
    have slots : (ring.overwrite handle (change picture)).slots =
        ring.slots.set handle.index ⟨handle.generation, some (change picture)⟩ := rfl
    refine advances_of_slots_set slots (Nat.le_of_eq ?_)
    have current := PictureRing.entryAt?_eq_some_iff.mp (PictureRing.get?_eq_some_iff.mp found)
    exact (congrArg PictureHandle.generation current.1).symm
  · rw [kept]
    exact .refl ring

/-- No edit takes a generation back. -/
theorem advances_edit (ring : PictureRing) (step : RingEdit) :
    Advances ring (ring.edit step) := by
  cases step with
  | release handle =>
    rw [PictureRing.edit_release]
    exact advances_write ring handle _
  | write handle change => exact advances_write ring handle change
  | evict handle =>
    rcases ring.edit_evict_cases handle with ⟨picture, -, -, vacated⟩ | ⟨-, kept⟩
    · rw [vacated]
      have slots : (ring.vacate handle.index).slots =
          ring.slots.set handle.index ⟨ring.generationAt handle.index + 1, none⟩ := rfl
      exact advances_of_slots_set slots (Nat.le_succ _)
    · rw [kept]
      exact .refl ring
  | clear =>
    have slots : (ring.edit .clear).slots =
        ring.slots.map fun slot => ⟨slot.generation + 1, none⟩ := rfl
    refine ⟨by rw [slots, List.length_map], fun index valid => ?_⟩
    simp [PictureRing.generationAt, slots, List.getElem?_eq_getElem valid]

/-- A fresh handle is ahead of every handle issued before. -/
theorem Behind.freshHandle_not_mem {issued : List PictureHandle} {ring : PictureRing}
    (behind : Behind issued ring) (placement : Placement) :
    ring.freshHandle placement ∉ issued := by
  intro member
  obtain ⟨valid, notAhead⟩ := behind _ member
  cases placement with
  | grow => exact Nat.lt_irrefl _ valid
  | recycle index => exact absurd notAhead (Nat.not_succ_le_self _)
  | refill index => exact absurd notAhead (Nat.not_succ_le_self _)

/-- The fresh handle is the present one of its slot once the picture is admitted. -/
theorem behind_freshHandle {ring : PictureRing} {placement : Placement}
    (placed : ring.placement? = some placement) (storage : Picture) :
    Behind [ring.freshHandle placement] (ring.place placement storage) := by
  intro handle member
  rw [List.mem_singleton] at member
  subst member
  have found := PictureRing.get?_freshHandle_place placed storage
  refine ⟨PictureRing.index_valid_of_get? found, Nat.le_of_eq ?_⟩
  have current := PictureRing.entryAt?_eq_some_iff.mp (PictureRing.get?_eq_some_iff.mp found)
  exact congrArg PictureHandle.generation current.1

/-- Handles issued earlier and later are behind the ring together. -/
theorem Behind.append {first second : List PictureHandle} {ring : PictureRing}
    (firstBehind : Behind first ring) (secondBehind : Behind second ring) :
    Behind (first ++ second) ring := by
  intro handle member
  rcases List.mem_append.mp member with inFirst | inSecond
  · exact firstBehind handle inFirst
  · exact secondBehind handle inSecond

end RingLedger

end EncoderControl
