import Mathlib.Data.List.Basic
import Mathlib.Data.List.Induction
import EncoderControl.Proofs.ParameterSet.Lookups

/-!
# What a store answers after a history of calls

A store has no memory of its calls but its entries. Still its answers can be read off the history: a
set has to be written exactly if it was stored since it was last asked for and since the store was
cleared, and calls about other sets could as well be left out.
-/

namespace EncoderControl

namespace ParameterStore

variable {α : Type}

/-- A call of a store. -/
inductive Call (α : Type) where
  | insert (id : Nat) (set : α)
  | get (id : Nat)
  /-- Asks whether the set has to be written, and takes it as written from then on. -/
  | ask (id : Nat)
  | clear

/-- What a call leaves of the store. -/
def Call.apply : Call α → ParameterStore α → ParameterStore α
  | .insert id set, store => store.insert id set
  | .get _, store => store
  | .ask id, store => store.markWritten id
  | .clear, _ => empty

/-- The store after several calls of a new one, the first call first. -/
def after (calls : List (Call α)) : ParameterStore α :=
  calls.foldl (fun store call => call.apply store) empty

/-- Whether a call is about the set with this id. Clearing a store is about all sets. -/
def Call.concerns (id : Nat) : Call α → Bool
  | .insert other _ | .get other | .ask other => other == id
  | .clear => true

/-- The set with this id was stored, and since then neither asked for nor cleared away. -/
def StoredSince (id : Nat) (calls : List (Call α)) : Prop :=
  ∃ earlier set later, calls = earlier ++ .insert id set :: later ∧
    .ask id ∉ later ∧ .clear ∉ later

/-- An empty store has nothing to write. -/
@[simp] theorem needsWriting_empty (id : Nat) :
    (empty : ParameterStore α).needsWriting id = false := rfl

/-- Every set of the store has to be written. -/
def Unwritten (store : ParameterStore α) : Prop :=
  ∀ id, store.needsWriting id = false → store.get? id = none

/-- All sets of an empty store have to be written, as there are none. -/
theorem unwritten_empty : (empty : ParameterStore α).Unwritten := fun _ _ => rfl

/-- A set that is stored has to be written, like all others. -/
theorem Unwritten.insert {store : ParameterStore α} (unwritten : store.Unwritten) (id : Nat)
    (set : α) : (store.insert id set).Unwritten := by
  intro other settled
  rw [needsWriting_insert] at settled
  rw [get?_insert]
  split at settled
  · cases settled
  · rename_i elsewhere
    rw [if_neg elsewhere]
    exact unwritten other settled

/-- The last call is made on the store that the earlier ones left. -/
theorem after_snoc (calls : List (Call α)) (call : Call α) :
    after (calls ++ [call]) = call.apply (after calls) := by
  simp [after]

/-- One more call makes a set to be written by storing it, and leaves it so unless it asks for it or
clears the store. -/
theorem storedSince_snoc_iff {id : Nat} {calls : List (Call α)} {call : Call α} :
    StoredSince id (calls ++ [call]) ↔
      (∃ set, call = .insert id set) ∨ StoredSince id calls ∧ call ≠ .ask id ∧ call ≠ .clear := by
  constructor
  · rintro ⟨earlier, set, later, split, unasked, uncleared⟩
    rcases List.eq_nil_or_concat' later with rfl | ⟨between, last, rfl⟩
    · have same := (List.append_inj' split rfl).2
      exact .inl ⟨set, List.singleton_inj.mp same⟩
    · rw [← List.cons_append, ← List.append_assoc] at split
      obtain ⟨rfl, same⟩ := List.append_inj' split rfl
      obtain rfl := List.singleton_inj.mp same
      simp only [List.mem_append, List.mem_singleton, not_or] at unasked uncleared
      exact .inr ⟨⟨earlier, set, between, rfl, unasked.1, uncleared.1⟩, Ne.symm unasked.2,
        Ne.symm uncleared.2⟩
  · rintro (⟨set, rfl⟩ | ⟨⟨earlier, set, later, rfl, unasked, uncleared⟩, otherwise, keeps⟩)
    · exact ⟨calls, set, [], rfl, List.not_mem_nil, List.not_mem_nil⟩
    · refine ⟨earlier, set, later ++ [call], by simp, ?_, ?_⟩
      · simp [unasked, Ne.symm otherwise]
      · simp [uncleared, Ne.symm keeps]

/-- A set has to be written exactly if it was stored since it was last asked for and since the store
was cleared. -/
theorem needsWriting_after_iff (calls : List (Call α)) (id : Nat) :
    (after calls).needsWriting id = true ↔ StoredSince id calls := by
  induction calls using List.reverseRecOn with
  | nil =>
    refine iff_of_false Bool.false_ne_true ?_
    rintro ⟨earlier, set, later, split, -⟩
    simp at split
  | append_singleton calls call inductionHypothesis =>
    rw [after_snoc, storedSince_snoc_iff, ← inductionHypothesis]
    cases call with
    | insert other set =>
      rw [Call.apply, needsWriting_insert]
      by_cases own : id = other
      · simp [own]
      · simp [own, Ne.symm own]
    | get other => simp [Call.apply]
    | ask other =>
      rw [Call.apply, needsWriting_markWritten]
      by_cases own : id = other
      · simp [own]
      · simp [own, Ne.symm own]
    | clear => simp [Call.apply]

/-! ### Calls about other sets -/

/-- A call about other sets leaves an entry alone. -/
theorem Call.entry?_apply_of_not_concerns {id : Nat} {call : Call α}
    (elsewhere : call.concerns id = false) (store : ParameterStore α) :
    entry? (call.apply store) id = store.entry? id := by
  cases call with
  | insert other set =>
    have skipped : other ≠ id := beq_eq_false_iff_ne.mp elsewhere
    rw [apply, entry?_insert, if_neg skipped.symm]
  | get other => rfl
  | ask other =>
    have skipped : other ≠ id := beq_eq_false_iff_ne.mp elsewhere
    rw [apply, entry?_markWritten]
    simp [skipped.symm]
  | clear => cases elsewhere

/-- What a call makes of an entry depends on no other one. -/
theorem Call.entry?_apply_congr {id : Nat} (call : Call α) {store other : ParameterStore α}
    (same : store.entry? id = other.entry? id) :
    entry? (call.apply store) id = entry? (call.apply other) id := by
  cases call with
  | insert stored set => rw [apply, apply, entry?_insert, entry?_insert, same]
  | get asked => exact same
  | ask asked => rw [apply, apply, entry?_markWritten, entry?_markWritten, same]
  | clear => rfl

/-- An entry comes from the calls about its own set. -/
theorem entry?_after_filter (calls : List (Call α)) (id : Nat) :
    entry? (after (calls.filter (Call.concerns id))) id = entry? (after calls) id := by
  induction calls using List.reverseRecOn with
  | nil => rfl
  | append_singleton calls call inductionHypothesis =>
    rw [List.filter_append, after_snoc]
    cases about : call.concerns id with
    | true =>
      rw [List.filter_cons_of_pos about, List.filter_nil, after_snoc]
      exact call.entry?_apply_congr inductionHypothesis
    | false =>
      rw [List.filter_cons_of_neg (by simp [about]), List.filter_nil, List.append_nil,
        Call.entry?_apply_of_not_concerns about, inductionHypothesis]

/-- Calls about other sets make no difference to what is answered about a set. -/
theorem answers_after_filter (calls : List (Call α)) (id : Nat) :
    let own := after (calls.filter (Call.concerns id))
    own.get? id = (after calls).get? id ∧ own.needsWriting id = (after calls).needsWriting id := by
  intro own
  rw [get?, get?, needsWriting, needsWriting, entry?_after_filter]
  exact ⟨rfl, rfl⟩

end ParameterStore

end EncoderControl
