import EncoderControl.ParameterSet.Store

/-!
# Looking up parameter sets

A store answers for an id with what was stored under it last, and with whether it was written since
then. No other id plays a part, and writing a set changes none. All of this holds whatever order the
entries are in.
-/

namespace EncoderControl

namespace ParameterStore

variable {α : Type}

/-- Storing a set changes the entry of its id and no other. -/
theorem entry?_insert (store : ParameterStore α) (id : Nat) (set : α) (other : Nat) :
    entry? (store.insert id set) other =
      if other = id then some ⟨id, set, true⟩ else store.entry? other := by
  obtain ⟨entries⟩ := store
  simp only [insert, entry?]
  induction entries with
  | nil => by_cases same : other = id <;> simp [insertEntry, same, eq_comm]
  | cons head tail inductionHypothesis =>
    by_cases own : other = id
    · subst own
      by_cases first : other < head.id
      · simp [insertEntry, first]
      by_cases replaced : other = head.id
      · simp [insertEntry, replaced]
      · simp [insertEntry, first, replaced, inductionHypothesis, Ne.symm replaced]
    · have skipped : ¬id = other := fun same => own same.symm
      by_cases first : id < head.id
      · simp [insertEntry, first, own, skipped]
      by_cases replaced : id = head.id
      · simp [insertEntry, ← replaced, own, skipped]
      · simp [insertEntry, first, replaced, own, inductionHypothesis, List.find?_cons]

/-- Writing a set settles its own entry. -/
theorem entry?_markWritten (store : ParameterStore α) (id other : Nat) :
    entry? (store.markWritten id) other =
      (store.entry? other).map fun entry =>
        if other = id then { entry with changed := false } else entry := by
  obtain ⟨entries⟩ := store
  simp only [markWritten, entry?]
  induction entries with
  | nil => rfl
  | cons head tail inductionHypothesis =>
    by_cases here : head.id = other
    · by_cases written : other = id <;> simp [here, written]
    · by_cases written : head.id = id
      · rw [written] at here
        simp [here, written, inductionHypothesis]
      · simp [here, written, inductionHypothesis]

/-- A store holds the set that was stored last. -/
theorem get?_insert (store : ParameterStore α) (id : Nat) (set : α) (other : Nat) :
    (store.insert id set).get? other = if other = id then some set else store.get? other := by
  rw [get?, entry?_insert]
  split <;> rfl

/-- Writing sets changes none. -/
@[simp] theorem get?_markWritten (store : ParameterStore α) (id other : Nat) :
    (store.markWritten id).get? other = store.get? other := by
  rw [get?, entry?_markWritten, Option.map_map]
  refine congrArg (Option.map · (store.entry? other)) (funext fun entry => ?_)
  rw [Function.comp_apply]
  split <;> rfl

/-- A set that was stored has to be written. -/
theorem needsWriting_insert (store : ParameterStore α) (id : Nat) (set : α) (other : Nat) :
    (store.insert id set).needsWriting other =
      if other = id then true else store.needsWriting other := by
  rw [needsWriting, entry?_insert]
  split <;> rfl

/-- A set that was written need not be written again. -/
theorem needsWriting_markWritten (store : ParameterStore α) (id other : Nat) :
    (store.markWritten id).needsWriting other =
      if other = id then false else store.needsWriting other := by
  rw [needsWriting, needsWriting, entry?_markWritten, Option.map_map]
  cases store.entry? other with
  | none => simp
  | some entry => by_cases own : other = id <;> simp [own]

end ParameterStore

end EncoderControl
