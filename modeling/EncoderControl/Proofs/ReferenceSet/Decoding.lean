import EncoderControl.Config
import EncoderControl.Proofs.ReferenceSet.Table
import Mathlib.Data.List.Nodup
import Mathlib.Data.List.Perm.Basic
import Mathlib.Data.List.Perm.Subperm

/-!
# What a predicted set decodes to

A decoder rebuilds a predicted set from the set before it and from one indication for each slot. The
indications of an automatic prediction are accepted when as many slots are taken as the entry has
references; which references took them is not looked at. This module says exactly when the decoded
set is nevertheless the stored one. Equal distances in the earlier set are what can come between.
-/

namespace EncoderControl

namespace ReferenceSet

/-- The reference that one indication puts at a distance: 1 a used one, 2 an unused one, 0 none. -/
def readIdc (delta : Int) : Nat → Option Reference
  | 1 => some ⟨delta, true⟩
  | 2 => some ⟨delta, false⟩
  | _ => none

/-- The references that a decoder reads, one indication for each slot of the earlier set, in
ascending order. -/
def decodeIdc (earlier : ReferenceSet) (deltaRps : Int) (refIdc : List Nat) : List Reference :=
  sortReferences ((earlier.slots.zip refIdc).filterMap fun signalled =>
    readIdc (signalled.1 + deltaRps) signalled.2)

/-- The earlier set can tell the references apart: it has a slot for each of several references at
one distance, and these are all used or all unused. -/
structure Covers (earlier : ReferenceSet) (deltaRps : Int) (references : List Reference) :
    Prop where
  enough : ∀ reference ∈ references,
    (references.countP fun other => other.delta = reference.delta) ≤
      earlier.slots.countP fun slot => slot + deltaRps = reference.delta
  alike : ∀ reference ∈ references, ∀ other ∈ references,
    reference.delta = other.delta → reference.used = other.used

/-- The references that take the slots of the earlier set, one for each slot that is taken. -/
def taken (references : List Reference) (earlier : ReferenceSet) (deltaRps : Int) :
    List Reference :=
  earlier.slots.filterMap fun slot =>
    references.find? fun reference => reference.delta = slot + deltaRps

/-- Reading back the indication of a slot gives the reference that took it. -/
theorem readIdc_slotIdc (references : List Reference) (delta : Int) :
    readIdc delta (slotIdc references delta) =
      references.find? fun reference => reference.delta = delta := by
  unfold slotIdc
  cases found : references.find? fun reference => reference.delta = delta with
  | none => rfl
  | some reference =>
    have atDelta : reference.delta = delta := by simpa using List.find?_some found
    obtain ⟨place, used⟩ := reference
    cases atDelta
    cases used <;> rfl

/-- A slot is taken exactly when its indication is not zero. -/
theorem slotIdc_ne_zero_iff (references : List Reference) (delta : Int) :
    slotIdc references delta ≠ 0 ↔
      (references.find? fun reference => reference.delta = delta).isSome := by
  unfold slotIdc
  cases references.find? fun reference => reference.delta = delta with
  | none => simp
  | some reference => cases used : reference.used <;> simp [used]

section Predicted

variable {references : List Reference} {earlier : ReferenceSet} {deltaRps : Int}
  {refIdc : List Nat}

/-- A prediction is accepted when as many slots are taken as there are references. -/
theorem predictIdc?_eq_some_iff :
    predictIdc? references earlier deltaRps = some refIdc ↔
      (taken references earlier deltaRps).length = references.length ∧
        refIdc = earlier.slots.map fun slot => slotIdc references (slot + deltaRps) := by
  have counted : ((earlier.slots.map fun slot =>
      slotIdc references (slot + deltaRps)).countP (· ≠ 0)) =
        (taken references earlier deltaRps).length := by
    rw [taken, List.length_filterMap_eq_countP, List.countP_map]
    refine List.countP_congr fun slot _ => ?_
    simpa using slotIdc_ne_zero_iff references (slot + deltaRps)
  unfold predictIdc?
  simp only [counted]
  split
  · rename_i full
    simp [full, eq_comm]
  · rename_i short
    simp [short]

/-- A decoder reads the references that took the slots. -/
theorem decodeIdc_of_predictIdc?
    (accepted : predictIdc? references earlier deltaRps = some refIdc) :
    decodeIdc earlier deltaRps refIdc = sortReferences (taken references earlier deltaRps) := by
  rw [decodeIdc, (predictIdc?_eq_some_iff.mp accepted).2, taken, ← List.map_prod_left_eq_zip,
    List.filterMap_map]
  congr 2
  funext slot
  exact readIdc_slotIdc references (slot + deltaRps)

/-- The reference that takes a slot stands at its distance. -/
theorem mem_taken {reference : Reference} (member : reference ∈ taken references earlier deltaRps) :
    reference ∈ references ∧
      (references.find? fun other => other.delta = reference.delta) = some reference := by
  obtain ⟨slot, -, found⟩ := List.mem_filterMap.mp member
  have atSlot : reference.delta = slot + deltaRps := by simpa using List.find?_some found
  exact ⟨List.mem_of_find?_eq_some found, atSlot ▸ found⟩

/-- References that are told apart each take as many slots as they stand in the list. -/
theorem Covers.subperm_taken (covers : Covers earlier deltaRps references) :
    references.Subperm (taken references earlier deltaRps) := by
  -- Counting each reference is enough, and what is counted of it are the slots at its distance.
  refine List.subperm_ext_iff.mpr fun reference member => ?_
  have repeated : references.count reference ≤
      references.countP fun other => other.delta = reference.delta := by
    refine List.countP_mono_left fun other _ same => ?_
    simpa using congrArg Reference.delta (eq_of_beq same)
  have slotted : (earlier.slots.countP fun slot => slot + deltaRps = reference.delta) ≤
      (taken references earlier deltaRps).count reference := by
    rw [List.count, taken, List.countP_filterMap]
    refine List.countP_mono_left fun slot _ atSlot => ?_
    have atSlot : slot + deltaRps = reference.delta := by simpa using atSlot
    rw [atSlot]
    cases found : references.find? fun other => other.delta = reference.delta with
    | none =>
      have nowhere := List.find?_eq_none.mp found reference member
      simp at nowhere
    | some first =>
      have atDelta : first.delta = reference.delta := by simpa using List.find?_some found
      have used := covers.alike first (List.mem_of_find?_eq_some found) reference member atDelta
      obtain rfl : first = reference := by
        cases first; cases reference; cases atDelta; cases used; rfl
      simp
  exact repeated.trans ((covers.enough reference member).trans slotted)

/-- When the slots are taken by exactly the references, the references are told apart. -/
theorem covers_of_perm (same : (taken references earlier deltaRps).Perm references) :
    Covers earlier deltaRps references where
  enough reference _ := by
    rw [← same.countP_eq, taken, List.countP_filterMap]
    refine List.countP_mono_left fun slot _ atSlot => ?_
    cases found : references.find? fun other => other.delta = slot + deltaRps with
    | none => simp [found] at atSlot
    | some first =>
      have atDelta : first.delta = slot + deltaRps := by simpa using List.find?_some found
      simpa [found, atDelta] using atSlot
  alike reference member other otherMember atDelta := by
    have first := (mem_taken (same.mem_iff.mpr member)).2
    have second := (mem_taken (same.mem_iff.mpr otherMember)).2
    rw [atDelta, second] at first
    cases first
    rfl

/-- References that are all used or all unused at each distance have one sorted order. -/
theorem sortReferences_eq_of_perm {left right : List Reference} (same : left.Perm right)
    (alike : ∀ reference ∈ right, ∀ other ∈ right,
      reference.delta = other.delta → reference.used = other.used) :
    sortReferences left = sortReferences right := by
  have sorted : (sortReferences left).Perm (sortReferences right) :=
    (sortReferences_perm left).trans (same.trans (sortReferences_perm right).symm)
  refine sorted.eq_of_pairwise ?_ (sortReferences_ascending left) (sortReferences_ascending right)
  intro reference other member otherMember below above
  have atDelta : reference.delta = other.delta := le_antisymm below above
  have used := alike reference (same.mem_iff.mp ((sortReferences_perm left).mem_iff.mp member))
    other ((sortReferences_perm right).mem_iff.mp otherMember) atDelta
  cases reference; cases other; cases atDelta; cases used; rfl

/-- An accepted prediction decodes to the references exactly when the earlier set tells them
apart. -/
theorem decodeIdc_eq_iff (accepted : predictIdc? references earlier deltaRps = some refIdc) :
    decodeIdc earlier deltaRps refIdc = sortReferences references ↔
      Covers earlier deltaRps references := by
  rw [decodeIdc_of_predictIdc? accepted]
  constructor
  · intro decoded
    refine covers_of_perm ((sortReferences_perm _).symm.trans ?_)
    rw [decoded]
    exact sortReferences_perm references
  · intro covers
    -- Accepting only compares lengths; together with the references being among those that took
    -- the slots this makes the two lists the same up to their order.
    have counted := (predictIdc?_eq_some_iff.mp accepted).1
    have same := covers.subperm_taken.perm_of_length_le counted.le
    exact sortReferences_eq_of_perm same.symm covers.alike

/-- Different slots are taken by references at different distances. -/
theorem nodup_map_delta_taken (distinct : earlier.slots.Nodup) :
    ((taken references earlier deltaRps).map Reference.delta).Nodup := by
  rw [taken, List.map_filterMap]
  refine distinct.filterMap fun slot other delta atSlot atOther => ?_
  obtain ⟨first, found, rfl⟩ := Option.map_eq_some_iff.mp atSlot
  obtain ⟨second, foundOther, sameDelta⟩ := Option.map_eq_some_iff.mp atOther
  have firstDelta : first.delta = slot + deltaRps := by simpa using List.find?_some found
  have secondDelta : second.delta = other + deltaRps := by simpa using List.find?_some foundOther
  omega

/-- Slots that are all different are taken by each reference at most as often as it is there. -/
theorem taken_subperm (distinct : earlier.slots.Nodup) :
    (taken references earlier deltaRps).Subperm references :=
  List.subperm_of_subset (nodup_map_delta_taken distinct).of_map fun _ member =>
    (mem_taken member).1

/-- When slots that are all different predict a list of references, these are what took the
slots. -/
theorem taken_perm_of_predictIdc?
    (accepted : predictIdc? references earlier deltaRps = some refIdc)
    (distinct : earlier.slots.Nodup) : (taken references earlier deltaRps).Perm references :=
  (taken_subperm distinct).perm_of_length_le (predictIdc?_eq_some_iff.mp accepted).1.ge

/-- An earlier set whose slots are all different tells every accepted list of references apart. -/
theorem covers_of_nodup (accepted : predictIdc? references earlier deltaRps = some refIdc)
    (distinct : earlier.slots.Nodup) : Covers earlier deltaRps references :=
  covers_of_perm (taken_perm_of_predictIdc? accepted distinct)

end Predicted

/-- A set that an automatic entry stores as predicted holds the references of the entry, and its
indications are those of an accepted prediction. -/
theorem ofEntry_predicted {index : Nat} {before entry : GopEntry} {earlier : ReferenceSet}
    (automatic : entry.prediction = .auto)
    (predicted : (ofEntry index before earlier entry).1.predicted = true) :
    (ofEntry index before earlier entry).1.references = sortReferences entry.references ∧
      predictIdc? entry.references earlier (ofEntry index before earlier entry).1.deltaRps =
        some (ofEntry index before earlier entry).1.refIdc := by
  unfold ofEntry at predicted ⊢
  simp only [automatic] at predicted ⊢
  split at predicted
  · rename_i refIdc accepted
    exact ⟨rfl, accepted⟩
  · cases predicted

end ReferenceSet

namespace ReferencePlan

variable {gopList : List GopEntry} {gopSize extraSets : Nat} {fieldCoding : Bool}
  {plan : ReferencePlan}

/-- In an accepted table, an entry with automatic prediction whose set is stored as predicted keeps
its references, up to their order. A decoder reads exactly the stored set out of the indications
when, and only when, the set before it has a slot for each of several references at one distance and
these references are all used or all unused. The slots of that set being different is enough. -/
theorem automatic_set_decodes_iff
    (accepted : (build gopList gopSize extraSets fieldCoding).outcome = .ok plan) {place : Nat}
    {entry : GopEntry} {earlier set : ReferenceSet} (inTable : place + 1 < gopSize + extraSets)
    (atEntry : gopList[place + 1]? = some entry) (automatic : entry.prediction = .auto)
    (atEarlier : plan.sets[place]? = some earlier) (atSet : plan.sets[place + 1]? = some set)
    (predicted : set.predicted = true) :
    set.references.Perm entry.references ∧
      (ReferenceSet.decodeIdc earlier set.deltaRps set.refIdc = set.references ↔
        earlier.Covers set.deltaRps entry.references) ∧
      (earlier.slots.Nodup →
        ReferenceSet.decodeIdc earlier set.deltaRps set.refIdc = set.references) := by
  obtain ⟨enough, built, table, rfl⟩ := build_eq_ok_iff.mp accepted
  have counted : built.length = gopSize + extraSets := by
    rw [ReferenceSet.length_ofTable? table, List.length_take, Nat.min_eq_left enough]
  rw [getElem?_sets_ofBuilt (by omega)] at atEarlier atSet
  obtain ⟨earlierBuilt, earlierAt, rfl⟩ := Option.map_eq_some_iff.mp atEarlier
  obtain ⟨before, beforeAt⟩ : ∃ before, gopList[place]? = some before :=
    ⟨_, List.getElem?_eq_getElem (by omega)⟩
  have beforeTaken : (gopList.take (gopSize + extraSets))[place]? = some before := by
    rw [List.getElem?_take_of_lt (by omega), beforeAt]
  have entryTaken : (gopList.take (gopSize + extraSets))[place + 1]? = some entry := by
    rw [List.getElem?_take_of_lt inTable, atEntry]
  have chained := ReferenceSet.getElem?_ofTable? table beforeTaken entryTaken earlierAt
  rw [chained, Option.map_some, Option.some.injEq] at atSet
  subst atSet
  obtain ⟨stored, indications⟩ := ReferenceSet.ofEntry_predicted automatic predicted
  rw [stored]
  have decodes := ReferenceSet.decodeIdc_eq_iff indications
  exact ⟨ReferenceSet.sortReferences_perm entry.references, decodes,
    fun distinct => decodes.mpr (ReferenceSet.covers_of_nodup indications distinct)⟩

/-- The second set of the default table is read back as it is stored. -/
theorem lowDelayTable_set_decodes :
    ∃ plan earlier set, (build GopEntry.lowDelayTable 4 0 false).outcome = .ok plan ∧
      plan.sets[0]? = some earlier ∧ plan.sets[1]? = some set ∧
      ReferenceSet.decodeIdc earlier set.deltaRps set.refIdc = set.references := by
  obtain ⟨plan, accepted, rfl⟩ :
      ∃ plan, (build GopEntry.lowDelayTable 4 0 false).outcome = .ok plan ∧ plan = ⟨_, _⟩ :=
    ⟨_, rfl, rfl⟩
  refine ⟨_, _, _, accepted, rfl, rfl, ?_⟩
  have inTable : 0 + 1 < 4 + 0 := by decide
  exact (automatic_set_decodes_iff accepted inTable rfl rfl rfl rfl rfl).2.2 (by decide)

/-- A table whose first set repeats a distance. Both of its slots are taken by one reference of the
second entry, which makes up for the other reference having no slot. -/
def repeatedSlotTable : List GopEntry :=
  [ { poc := 1, references := [⟨-1, true⟩, ⟨-1, true⟩] },
    { poc := 2, references := [⟨-2, true⟩, ⟨-5, true⟩], prediction := .auto } ]

/-- A set that repeats a distance can make another set decode differently from how it is stored. -/
theorem repeatedSlotTable_decodes_differently :
    ∃ plan earlier set, (build repeatedSlotTable 2 0 false).outcome = .ok plan ∧
      plan.sets[0]? = some earlier ∧ plan.sets[1]? = some set ∧ set.predicted = true ∧
      set.references = [⟨-5, true⟩, ⟨-2, true⟩] ∧
      ReferenceSet.decodeIdc earlier set.deltaRps set.refIdc = [⟨-2, true⟩, ⟨-2, true⟩] := by
  obtain ⟨plan, accepted, rfl⟩ : ∃ plan, (build repeatedSlotTable 2 0 false).outcome = .ok plan ∧
    plan = ⟨_, _⟩ := ⟨_, rfl, rfl⟩
  exact ⟨_, _, _, accepted, rfl, rfl, rfl, rfl, rfl⟩

end ReferencePlan

end EncoderControl
