import EncoderControl.Proofs.Ring.Order
import EncoderControl.Proofs.Ring.Storage

/-!
# What an admission replaces

A picture may be recycled in place, have its storage made anew, or go into a vacated or a new slot.
From outside these are one thing: the first picture that is no longer referenced goes, if there is
one, the new picture comes last, and nothing else changes. That a full ring has as many pictures as
its capacity, rather than more, is what the arena is bounded for; positions play no part in it, so
all of this also holds where they were written over.
-/

namespace EncoderControl

namespace PictureRing

variable {ring : PictureRing} {placement : Placement}

/-! ### Full rings -/

/-- Slots and order agree, and there are no more slots than the ring may hold pictures. -/
structure Housed (ring : PictureRing) : Prop where
  consistent : ring.Consistent
  arena : ring.slots.length ≤ ring.capacity

/-- A new ring has no slots, so none beyond its capacity. -/
theorem housed_empty (capacity : Nat) (adaptiveQp : Bool) : (empty capacity adaptiveQp).Housed where
  consistent := consistent_empty capacity adaptiveQp
  arena := Nat.zero_le capacity

/-- Placing a picture adds no slot beyond the capacity. -/
theorem Housed.place (housed : ring.Housed) (placed : ring.placement? = some placement)
    (storage : Picture) : (ring.place placement storage).Housed where
  consistent := housed.consistent.place placed storage
  arena := housed.consistent.length_slots_place_le housed.arena placed storage

/-- Edits keep the slots of a ring within its capacity. -/
theorem Housed.edit (housed : ring.Housed) (step : RingEdit) : (ring.edit step).Housed where
  consistent := housed.consistent.edit step
  arena := by
    rw [length_slots_edit, (shape_edit ring step).2.1]
    exact housed.arena

/-- There is no place exactly when the ring holds as many pictures as it may and each of them is
still referenced. -/
theorem Housed.placement?_eq_none_iff (housed : ring.Housed) :
    ring.placement? = none ↔
      ring.size = ring.capacity ∧ ∀ entry ∈ ring.entries, entry.2.referenced = true := by
  have bounded : ring.size ≤ ring.capacity :=
    housed.consistent.length_order_le.trans housed.arena
  rw [PictureRing.placement?_eq_none_iff, housed.consistent.reusable?_eq_none_iff, and_comm]
  exact and_congr_left fun _ => ⟨fun full => Nat.le_antisymm bounded full, Nat.le_of_eq ∘ Eq.symm⟩

/-! ### Making room -/

/-- What is left of the entries of a ring once it has made room for another picture. -/
inductive MakesRoom :
    List (PictureHandle × Picture) → List (PictureHandle × Picture) → Prop where
  | allStay {entries : List (PictureHandle × Picture)}
      (referenced : ∀ entry ∈ entries, entry.2.referenced = true) : MakesRoom entries entries
  | firstGoes {earlier later : List (PictureHandle × Picture)} {stale : PictureHandle × Picture}
      (referenced : ∀ entry ∈ earlier, entry.2.referenced = true)
      (unreferenced : stale.2.referenced = false) :
      MakesRoom (earlier ++ stale :: later) (earlier ++ later)

/-- Taking out the first picture that is no longer referenced, if there is one, makes room. -/
theorem makesRoom_eraseP (entries : List (PictureHandle × Picture)) :
    MakesRoom entries (entries.eraseP fun entry => !entry.2.referenced) := by
  by_cases all : ∀ entry ∈ entries, entry.2.referenced = true
  · rw [List.eraseP_of_forall_not (by simpa using all)]
    exact .allStay all
  · have some : ∃ stale ∈ entries, (!stale.2.referenced) = true := by simpa using all
    obtain ⟨first, member, unreferenced⟩ := some
    obtain ⟨stale, earlier, later, referenced, isStale, split, erased⟩ :=
      List.exists_of_eraseP (p := fun entry => !entry.2.referenced) member unreferenced
    rw [erased, split]
    exact .firstGoes (by simpa using referenced) (by simpa using isStale)

/-- The handle that an admission issues did not name a picture before. -/
theorem get?_freshHandle (ring : PictureRing) (placement : Placement) :
    ring.get? (ring.freshHandle placement) = none := by
  cases found : ring.get? (ring.freshHandle placement) with
  | none => rfl
  | some picture =>
    have current := (entryAt?_eq_some_iff.mp (get?_eq_some_iff.mp found)).1
    have ahead := congrArg PictureHandle.generation current
    cases placement with
    | grow => exact absurd (index_valid_of_get? found) (Nat.lt_irrefl _)
    | recycle index | refill index => exact absurd ahead (Nat.succ_ne_self _)

/-- Storage carries the parameter sets that it is asked for with, recycled or not. -/
theorem sets_storageAt (placed : ring.placement? = some placement) (sps : Sps) (pps : Pps) :
    (ring.storageAt sps pps placement).sps = sps ∧
      (ring.storageAt sps pps placement).pps = pps := by
  rcases storageAt_cases placed sps pps with ⟨stale, -, -, kept⟩ | ⟨-, made⟩
  · rw [kept]
    exact ⟨rfl, rfl⟩
  · rw [made]
    exact ⟨rfl, rfl⟩

/-- A picture with the given parameter sets was admitted under the handle. Of the pictures there
were before, those in `remaining` are left. -/
structure Replaced (before after : PictureRing) (sps : Sps) (pps : Pps) (handle : PictureHandle)
    (remaining : List (PictureHandle × Picture)) (admitted : Picture) : Prop where
  makesRoom : MakesRoom before.entries remaining
  /-- Pictures that are left stay as they are and in their order, and the new one comes last. -/
  entries : after.entries = remaining ++ [(handle, admitted)]
  handles : after.handles = remaining.map Prod.fst ++ [handle]
  found : after.get? handle = some admitted
  kept : ∀ entry ∈ remaining, after.get? entry.1 = some entry.2
  /-- The handle of a picture that had to go names nothing. -/
  gone : ∀ entry ∈ before.entries, entry ∉ remaining → after.get? entry.1 = none
  poc : admitted.poc = before.pocLast + 1
  pocLast : after.pocLast = before.pocLast + 1
  referenced : admitted.referenced = true
  reconstructed : admitted.reconstructed = false
  fieldPic : admitted.fieldPic = false
  sps : admitted.sps = sps
  pps : admitted.pps = pps

/-- An admission replaces the first picture that is no longer referenced, and nothing else. -/
theorem Consistent.replaced (consistent : ring.Consistent)
    (placed : ring.placement? = some placement) (sps : Sps) (pps : Pps) :
    let storage := ring.storageAt sps pps placement
    Replaced ring (ring.place placement storage) sps pps (ring.freshHandle placement)
      (ring.entries.eraseP fun entry => !entry.2.referenced)
      (storage.admittedAt (ring.pocLast + 1)) := by
  intro storage
  have after := consistent.place placed storage
  have entries := consistent.entries_place placed storage
  have kept : ∀ entry ∈ ring.entries.eraseP fun entry => !entry.2.referenced,
      (ring.place placement storage).get? entry.1 = some entry.2 := fun entry member =>
    after.mem_entries_iff.mp (entries ▸ List.mem_append_left _ member)
  obtain ⟨withSps, withPps⟩ := sets_storageAt placed sps pps
  refine ⟨makesRoom_eraseP _, entries, ?_, get?_freshHandle_place placed storage, kept, ?_, rfl,
    rfl, rfl, rfl, rfl, withSps, withPps⟩
  · rw [after.handles_eq, entries, List.map_append]
    rfl
  · rintro ⟨handle, picture⟩ member taken
    rw [consistent.mem_entries_iff] at member
    cases found : (ring.place placement storage).get? handle with
    | none => rfl
    | some other =>
      have held := after.mem_entries_iff.mpr found
      rw [entries, List.mem_append, List.mem_singleton] at held
      rcases held with stays | fresh
      · have same := consistent.mem_entries_iff.mp (List.mem_of_mem_eraseP stays)
        rw [member] at same
        exact absurd (Option.some.inj same ▸ stays) taken
      · rw [(Prod.mk.inj fresh).1, get?_freshHandle] at member
        cases member

/-- A picture that is still referenced is not the one that makes room. -/
theorem mem_eraseP_of_referenced {entries : List (PictureHandle × Picture)}
    {entry : PictureHandle × Picture} (member : entry ∈ entries)
    (referenced : entry.2.referenced = true) :
    entry ∈ entries.eraseP fun entry => !entry.2.referenced :=
  (List.mem_eraseP_of_neg (by simp [referenced])).mpr member

end PictureRing

namespace RingService

variable {ρ : Type} {held : HeldRing ρ}

/-- No request adds a slot beyond the capacity. -/
theorem Served.housed {request : RingRequest} {outcome : Except EncodeError Unit}
    {after : HeldRing ρ} (served : Served held request outcome after)
    (housed : held.1.Housed) : after.1.Housed := by
  cases served with
  | admitted sps pps placed => exact housed.place placed _
  | exhausted sps pps full => exact housed
  | edited step => exact housed.edit step
  | refused step error kind => exact housed.edit step

/-- The slots of a ring stay within its capacity through any number of requests. -/
theorem housed_heldAfter (housed : held.1.Housed) (requests : List RingRequest) :
    (heldAfter held requests).1.Housed := by
  induction requests generalizing held with
  | nil => exact housed
  | cons request later inductionHypothesis =>
    exact inductionHypothesis ((serve_cases held request).housed housed)

/-- What an admission does to a ring, whatever requests it has served before. It is refused exactly
when the ring holds as many pictures as it has places and all of them are still referenced, and then
nothing changes. Otherwise the first picture in the order of admission that is no longer referenced
goes, if there is one, all others stay as they are, and the new picture comes last, as `Replaced`
says. No picture that is still referenced is touched either way. -/
theorem admission_replaces_first_unreferenced (capacity : Nat) (adaptiveQp : Bool)
    (output : List ρ) (requests : List RingRequest) (sps : Sps) (pps : Pps) :
    let held : HeldRing ρ := heldAfter (.empty capacity adaptiveQp, output) requests
    let ring := held.1
    let reply := PictureRing.acquire sps pps held
    ((∃ error, reply.outcome = .error error) ↔
      ring.size = capacity ∧ ∀ entry ∈ ring.entries, entry.2.referenced = true) ∧
    (∀ error, reply.outcome = .error error →
      error = .ringExhausted capacity ∧ reply.state.1 = ring) ∧
    (∀ handle, reply.outcome = .ok handle → ∃ remaining admitted,
      PictureRing.Replaced ring reply.state.1 sps pps handle remaining admitted) ∧
    ∀ handle picture, ring.get? handle = some picture → picture.referenced = true →
      reply.state.1.get? handle = some picture := by
  intro held ring reply
  have housed : ring.Housed := housed_heldAfter (PictureRing.housed_empty capacity adaptiveQp) _
  have limit : ring.capacity = capacity := capacity_heldAfter _ requests
  have full := housed.placement?_eq_none_iff
  rw [limit] at full
  rw [← full]
  cases placed : ring.placement? with
  | none =>
    obtain ⟨outcome, state⟩ := PictureRing.acquire_of_exhausted placed sps pps held.2
    have refused : reply.outcome = .error (.ringExhausted capacity) := limit ▸ outcome
    have unchanged : reply.state.1 = ring := by rw [state]
    rw [refused, unchanged]
    refine ⟨iff_of_true ⟨_, rfl⟩ rfl, fun error fails => ⟨(Except.error.inj fails).symm, rfl⟩,
      fun handle succeeds => (nomatch succeeds), fun handle picture found _ => found⟩
  | some placement =>
    obtain ⟨outcome, state⟩ := PictureRing.acquire_of_placement placed sps pps held.2
    have replaced := housed.consistent.replaced placed sps pps
    have issued : reply.outcome = .ok (ring.freshHandle placement) := outcome
    have after : reply.state.1 = ring.place placement (ring.storageAt sps pps placement) := by
      rw [state]
    rw [issued, after]
    refine ⟨iff_of_false (fun ⟨_, fails⟩ => nomatch fails) (fun none => nomatch none),
      fun error fails => (nomatch fails), fun handle succeeds => ?_, ?_⟩
    · rw [← Except.ok.inj succeeds]
      exact ⟨_, _, replaced⟩
    · intro handle picture found referenced
      have member := housed.consistent.mem_entries_iff.mpr found
      exact replaced.kept _ (PictureRing.mem_eraseP_of_referenced member referenced)

/-- The first of two pictures was released, so the third one takes its place under another handle,
and the second one stays as it is. -/
theorem admission_replaces_first_unreferenced_smallRequests :
    let held := heldAfter (.empty 2 false, [1, 2, 3]) (smallRequests.take 4)
    let reply := PictureRing.acquire (graySps ⟨2, 2⟩) {} held
    held.1.handles = [⟨0, 0⟩, ⟨1, 0⟩] ∧ reply.outcome = .ok ⟨0, 1⟩ ∧
      reply.state.1.handles = [⟨1, 0⟩, ⟨0, 1⟩] ∧
      ∃ remaining admitted, PictureRing.Replaced held.1 reply.state.1 (graySps ⟨2, 2⟩) {} ⟨0, 1⟩
        remaining admitted := by
  intro held reply
  have succeeds : reply.outcome = .ok ⟨0, 1⟩ := by decide +kernel
  obtain ⟨-, -, replaces, -⟩ := admission_replaces_first_unreferenced 2 false [1, 2, 3]
    (smallRequests.take 4) (graySps ⟨2, 2⟩) {}
  exact ⟨by decide +kernel, succeeds, by decide +kernel, replaces _ succeeds⟩

end RingService

end EncoderControl
