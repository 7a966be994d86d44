import Mathlib.Data.List.Perm.Subperm
import EncoderControl.Proofs.Ring.Service

/-!
# Slots, order and positions

Admission, eviction and clearing each change the slots, the order of admission and the counter of
positions on their own. They stay in step all the same: the order names exactly the occupied slots,
and positions ascend along it up to the last one given out. The arena grows only when every slot is
occupied, which is why it never holds more slots than the ring may hold pictures.
-/

namespace EncoderControl

namespace PictureRing

variable {ring : PictureRing} {placement : Placement}

/-- Slots and order agree, and positions ascend in the order of admission. -/
structure Ordered (ring : PictureRing) : Prop where
  consistent : ring.Consistent
  arena : ring.slots.length ≤ ring.capacity
  ascending : (ring.entries.map fun entry => entry.2.poc).Pairwise (· < ·)
  bounded : ∀ entry ∈ ring.entries, entry.2.poc ≤ ring.pocLast

/-- A new ring is in order. -/
theorem ordered_empty (capacity : Nat) (adaptiveQp : Bool) :
    (empty capacity adaptiveQp).Ordered where
  consistent := consistent_empty capacity adaptiveQp
  arena := Nat.zero_le capacity
  ascending := List.Pairwise.nil
  bounded := by simp

/-! ### The arena -/

/-- The order of admission names existing slots only. -/
theorem Consistent.index_lt (consistent : ring.Consistent) {index : Nat}
    (member : index ∈ ring.order) : index < ring.slots.length := by
  rw [consistent.mem_order_iff] at member
  by_contra outside
  have past : ring.slots[index]? = none := List.getElem?_eq_none (Nat.le_of_not_lt outside)
  simp [pictureAt?, past] at member

/-- There are no more pictures than slots. -/
theorem Consistent.length_order_le (consistent : ring.Consistent) :
    ring.order.length ≤ ring.slots.length := by
  have inside : ring.order ⊆ List.range ring.slots.length := fun index member =>
    List.mem_range.mpr (consistent.index_lt member)
  simpa using (List.subperm_of_subset consistent.nodup inside).length_le

/-- A new slot is only made when the ring has room and no slot is vacant. -/
theorem occupied_of_grow (placed : ring.placement? = some .grow) :
    ring.order.length < ring.capacity ∧
      ∀ index < ring.slots.length, (ring.pictureAt? index).isSome := by
  unfold placement? at placed
  split at placed
  · cases placed
  · split at placed
    · rename_i room
      split at placed
      · cases placed
      · rename_i noneVacant
        refine ⟨room, fun index valid => ?_⟩
        rw [List.findIdx?_eq_none_iff] at noneVacant
        have occupied := noneVacant ring.slots[index] (List.getElem_mem valid)
        rw [pictureAt?, List.getElem?_eq_getElem valid, Option.bind_some]
        simpa using occupied
    · cases placed

/-- A slot is only added to a ring that may hold more pictures than it has slots. -/
theorem Consistent.length_slots_lt_of_grow (consistent : ring.Consistent)
    (placed : ring.placement? = some .grow) : ring.slots.length < ring.capacity := by
  obtain ⟨room, occupied⟩ := occupied_of_grow placed
  have all : List.range ring.slots.length ⊆ ring.order := by
    intro index member
    rw [consistent.mem_order_iff]
    exact occupied index (List.mem_range.mp member)
  have count := (List.subperm_of_subset List.nodup_range all).length_le
  rw [List.length_range] at count
  omega

/-- Admission keeps the arena within the capacity. -/
theorem Consistent.length_slots_place_le (consistent : ring.Consistent)
    (arena : ring.slots.length ≤ ring.capacity) (placed : ring.placement? = some placement)
    (storage : Picture) : (ring.place placement storage).slots.length ≤ ring.capacity := by
  cases placement with
  | recycle index | refill index =>
    change (ring.slots.set index _).length ≤ ring.capacity
    rw [List.length_set]
    exact arena
  | grow =>
    change (ring.slots ++ [_]).length ≤ ring.capacity
    rw [List.length_append]
    exact consistent.length_slots_lt_of_grow placed

/-- Edits neither add slots nor take any away. -/
theorem length_slots_edit (ring : PictureRing) (step : RingEdit) :
    (ring.edit step).slots.length = ring.slots.length := by
  have written (handle : PictureHandle) (change : Picture → Picture) :
      (ring.edit (.write handle change)).slots.length = ring.slots.length := by
    rcases edit_write_cases ring handle change with ⟨picture, -, written⟩ | ⟨-, kept⟩
    · rw [written, overwrite, List.length_set]
    · rw [kept]
  cases step with
  | release handle => rw [edit_release]; exact written handle _
  | write handle change => exact written handle change
  | clear => exact List.length_map _
  | evict handle =>
    rcases edit_evict_cases ring handle with ⟨picture, -, -, vacated⟩ | ⟨-, kept⟩
    · rw [vacated, vacate, List.length_set]
    · rw [kept]

/-! ### Steps -/

/-- The admitted picture comes last in the order and takes the next position. -/
theorem Ordered.place (ordered : ring.Ordered) (placed : ring.placement? = some placement)
    (storage : Picture) : (ring.place placement storage).Ordered := by
  have entries := ordered.consistent.entries_place placed storage
  have remaining : ∀ entry ∈ ring.entries.eraseP fun entry => !entry.2.referenced,
      entry.2.poc ≤ ring.pocLast := fun entry member =>
    ordered.bounded entry (List.mem_of_mem_eraseP member)
  refine ⟨ordered.consistent.place placed storage,
    ordered.consistent.length_slots_place_le ordered.arena placed storage, ?_, ?_⟩
  · rw [entries, List.map_append, List.pairwise_append]
    refine ⟨ordered.ascending.sublist (List.eraseP_sublist.map _), List.pairwise_singleton .., ?_⟩
    intro earlier earlierMember last isLast
    obtain ⟨entry, member, rfl⟩ := List.mem_map.mp earlierMember
    rw [List.mem_singleton.mp isLast]
    exact Int.lt_add_one_of_le (remaining entry member)
  · intro entry member
    change entry.2.poc ≤ ring.pocLast + 1
    rw [entries, List.mem_append, List.mem_singleton] at member
    rcases member with earlier | rfl
    · have bound := remaining entry earlier
      omega
    · exact Int.le_refl _

/-- Edits that leave positions alone keep a ring in order. -/
theorem Ordered.edit (ordered : ring.Ordered) {step : RingEdit} (keeps : step.KeepsPoc) :
    (ring.edit step).Ordered := by
  obtain ⟨pocLast, capacity, -⟩ := shape_edit ring step
  have entries := ordered.consistent.entries_edit step
  have positions := RingEdit.positions_sublist keeps ring.entries
  refine ⟨ordered.consistent.edit step, ?_, ?_, ?_⟩
  · rw [length_slots_edit, capacity]
    exact ordered.arena
  · rw [entries]
    exact ordered.ascending.sublist positions
  · intro entry member
    rw [entries] at member
    obtain ⟨earlier, earlierMember, same⟩ :=
      List.mem_map.mp (positions.subset (List.mem_map_of_mem member))
    rw [pocLast, ← same]
    exact ordered.bounded earlier earlierMember

end PictureRing

/-- A request that leaves the positions of pictures alone. -/
def RingRequest.KeepsPoc : RingRequest → Prop
  | .acquire .. => True
  | .edit step => step.KeepsPoc

namespace RingService

variable {ρ : Type} {held : HeldRing ρ}

section Served

variable {request : RingRequest} {outcome : Except EncodeError Unit} {after : HeldRing ρ}

/-- A request that leaves positions alone keeps a ring in order, whatever it comes to. -/
theorem Served.ordered (served : Served held request outcome after) (ordered : held.1.Ordered)
    (keeps : request.KeepsPoc) : after.1.Ordered := by
  cases served with
  | admitted sps pps placed => exact ordered.place placed _
  | exhausted sps pps full => exact ordered
  | edited step => exact ordered.edit keeps
  | refused step error kind => exact ordered.edit keeps

/-- The counter of positions goes on by one with each admission and by nothing else. -/
theorem Served.pocLast (served : Served held request outcome after) (records : List Record) :
    let made : RingTurn ρ := ⟨request, held, ⟨outcome, after, records⟩⟩
    after.1.pocLast = held.1.pocLast + if made.isAdmission then 1 else 0 := by
  cases served with
  | admitted sps pps placed => rfl
  | exhausted sps pps full => exact (Int.add_zero _).symm
  | edited step => exact (held.1.shape_edit step).1.trans (Int.add_zero _).symm
  | refused step error kind => exact (held.1.shape_edit step).1.trans (Int.add_zero _).symm

/-- No request changes the capacity. -/
theorem Served.capacity (served : Served held request outcome after) :
    after.1.capacity = held.1.capacity := by
  cases served with
  | admitted sps pps placed => rfl
  | exhausted sps pps full => rfl
  | edited step => exact (held.1.shape_edit step).2.1
  | refused step error kind => exact (held.1.shape_edit step).2.1

/-- No request finds the ring in a state that its own operations do not leave. -/
theorem Served.ne_invalidInternalState (served : Served held request outcome after) :
    outcome ≠ .error .invalidInternalState := by
  cases served with
  | admitted sps pps placed => simp
  | exhausted sps pps full => simp
  | edited step => simp
  | refused step error kind => rcases kind with rfl | ⟨poc, rfl⟩ <;> simp

end Served

/-- A ring stays in order through any number of requests. -/
theorem ordered_heldAfter (ordered : held.1.Ordered) {requests : List RingRequest}
    (keeps : ∀ request ∈ requests, request.KeepsPoc) : (heldAfter held requests).1.Ordered := by
  induction requests generalizing held with
  | nil => exact ordered
  | cons request later inductionHypothesis =>
    rw [List.forall_mem_cons] at keeps
    exact inductionHypothesis ((serve_cases held request).ordered ordered keeps.1) keeps.2

/-- The last position counts the pictures admitted. -/
theorem pocLast_heldAfter (held : HeldRing ρ) (requests : List RingRequest) :
    (heldAfter held requests).1.pocLast =
      held.1.pocLast + admissions (turnsOf held requests) := by
  induction requests generalizing held with
  | nil => exact (Int.add_zero _).symm
  | cons request later inductionHypothesis =>
    have first : (request.serve held).state.1.pocLast =
        held.1.pocLast + if (turn held request).isAdmission then 1 else 0 :=
      (serve_cases held request).pocLast _
    have rest := inductionHypothesis (request.serve held).state
    change (heldAfter (request.serve held).state later).1.pocLast = _
    rw [rest, first, turnsOf, admissions, admissions, List.countP_cons]
    split <;> omega

/-- The capacity is the one that the ring was made with. -/
theorem capacity_heldAfter (held : HeldRing ρ) (requests : List RingRequest) :
    (heldAfter held requests).1.capacity = held.1.capacity := by
  induction requests generalizing held with
  | nil => rfl
  | cons request later inductionHypothesis =>
    exact (inductionHypothesis (request.serve held).state).trans
      (serve_cases held request).capacity

/-- Slots, order and positions stay in step, whatever is asked of a ring. For every capacity and
all requests, through any handles, that leave positions alone: the order names each occupied slot
once and no other, neither the arena nor the pictures in it outgrow the capacity, and positions
ascend in the order of admission up to the last one, which counts the admissions. No request is
ever answered with an invalid state. -/
theorem ring_stays_in_order (capacity : Nat) (adaptiveQp : Bool) (output : List ρ)
    (requests : List RingRequest) (keeps : ∀ request ∈ requests, request.KeepsPoc) :
    let new : HeldRing ρ := (.empty capacity adaptiveQp, output)
    let ring := (heldAfter new requests).1
    ring.order.Nodup ∧
      (∀ index ∈ ring.order, index < ring.slots.length) ∧
      (∀ index, (ring.pictureAt? index).isSome ↔ index ∈ ring.order) ∧
      ring.slots.length ≤ capacity ∧
      ring.size ≤ capacity ∧
      (ring.entries.map fun entry => entry.2.poc).Pairwise (· < ·) ∧
      (∀ entry ∈ ring.entries, entry.2.poc ≤ ring.pocLast) ∧
      ring.pocLast + 1 = admissions (turnsOf new requests) ∧
      ∀ turn ∈ turnsOf new requests, turn.reply.outcome ≠ .error .invalidInternalState := by
  intro new ring
  have ordered : ring.Ordered :=
    ordered_heldAfter (PictureRing.ordered_empty capacity adaptiveQp) keeps
  have limit : ring.capacity = capacity := capacity_heldAfter new requests
  have arena : ring.slots.length ≤ capacity := limit ▸ ordered.arena
  have counted : ring.pocLast = -1 + admissions (turnsOf new requests) :=
    pocLast_heldAfter new requests
  refine ⟨ordered.consistent.nodup, fun index => ordered.consistent.index_lt,
    fun index => (ordered.consistent.mem_order_iff index).symm, arena,
    ordered.consistent.length_order_le.trans arena, ordered.ascending, ordered.bounded, by omega,
    ?_⟩
  intro turn member
  obtain ⟨reached, request, -, rfl⟩ := exists_of_mem_turnsOf member
  exact (serve_cases reached request).ne_invalidInternalState

/-- Four pictures pass through two places, each of which is taken twice. -/
theorem ring_stays_in_order_smallRequests :
    let ring := (heldAfter (.empty 2 false, [1, 2, 3]) smallRequests).1
    ring.handles = [⟨0, 1⟩, ⟨1, 2⟩] ∧ ring.order.Nodup ∧ ring.size ≤ 2 ∧ ring.pocLast + 1 = 4 := by
  have keeps : ∀ request ∈ smallRequests, request.KeepsPoc := by
    simp [smallRequests, RingRequest.KeepsPoc, RingEdit.KeepsPoc]
  obtain ⟨nodup, -, -, -, size, -, -, counted, -⟩ :=
    ring_stays_in_order 2 false [1, 2, 3] smallRequests keeps
  exact ⟨by decide +kernel, nodup, size, counted.trans (by decide +kernel)⟩

end RingService

end EncoderControl
