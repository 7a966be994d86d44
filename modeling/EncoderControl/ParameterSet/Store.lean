/-!
# Stores of parameter sets

A store holds the parameter sets in force, by id in ascending order, and remembers which of them
changed since they were last written to the stream. A set that is stored counts as changed; asking
whether it needs writing settles the question until it is stored again.
-/

namespace EncoderControl

/-- A parameter set in force. -/
structure StoredSet (α : Type) where
  id : Nat
  set : α
  /-- Stored since it was last written. -/
  changed : Bool

/-- Parameter sets by id, in ascending order. -/
structure ParameterStore (α : Type) where
  entries : List (StoredSet α)

namespace ParameterStore

variable {α : Type}

/-- The store without any set. -/
def empty : ParameterStore α := ⟨[]⟩

instance : Inhabited (ParameterStore α) := ⟨empty⟩

/-- Puts an entry in its place among others, instead of the one with the same id. -/
def insertEntry (entry : StoredSet α) : List (StoredSet α) → List (StoredSet α)
  | [] => [entry]
  | head :: tail =>
    if entry.id < head.id then entry :: head :: tail
    else if entry.id = head.id then entry :: tail
    else head :: insertEntry entry tail

/-- Stores `set` under `id` in place of any other one, and marks it as changed. -/
def insert (store : ParameterStore α) (id : Nat) (set : α) : ParameterStore α :=
  ⟨insertEntry ⟨id, set, true⟩ store.entries⟩

/-- The entry with the given id. -/
def entry? (store : ParameterStore α) (id : Nat) : Option (StoredSet α) :=
  store.entries.find? fun entry => entry.id = id

/-- The set with the given id. -/
def get? (store : ParameterStore α) (id : Nat) : Option α :=
  (store.entry? id).map StoredSet.set

/-- The set with the lowest id. -/
def first? (store : ParameterStore α) : Option α :=
  store.entries.head?.map StoredSet.set

/-- Ids of the sets in force, in ascending order. -/
def ids (store : ParameterStore α) : List Nat :=
  store.entries.map StoredSet.id

/-- Number of sets in force. -/
def size (store : ParameterStore α) : Nat :=
  store.entries.length

/-- Whether no set is in force. -/
def isEmpty (store : ParameterStore α) : Bool :=
  store.entries.isEmpty

/-- Whether the set with this id was stored since it was last written. -/
def needsWriting (store : ParameterStore α) (id : Nat) : Bool :=
  ((store.entry? id).map StoredSet.changed).getD false

/-- Takes the set with this id as written. -/
def markWritten (store : ParameterStore α) (id : Nat) : ParameterStore α :=
  ⟨store.entries.map fun entry => if entry.id = id then { entry with changed := false } else entry⟩

end ParameterStore

end EncoderControl
