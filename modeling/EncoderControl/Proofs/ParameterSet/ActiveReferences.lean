import EncoderControl.Config.PictureSet
import Mathlib.Data.List.Count

/-!
# The default number of active references

A picture parameter set gives one number of active references for all pictures that do not give
their own. It is the one that most entries of the GOP ask for. The numbers are counted one by one up
to the largest, so two things are to be kept apart: a number that no picture can have stops the
count, and a number that wins it may still not be signalled.
-/

namespace EncoderControl

/-- The entry asks for a number of active references that a picture can have. -/
def GopEntry.ActiveInRange (entry : GopEntry) : Prop :=
  0 ≤ entry.numRefPicsActive ∧ entry.numRefPicsActive ≤ Config.maxActiveReferences

instance : DecidablePred GopEntry.ActiveInRange :=
  fun _ => inferInstanceAs (Decidable (_ ∧ _))

/-- The number is the smallest one of those that occur most often. -/
structure IsLeastMode (values : List Int) (mode : Nat) : Prop where
  most : ∀ value, values.count value ≤ values.count (mode : Int)
  least : ∀ smaller : Nat, smaller < mode → values.count (smaller : Int) < values.count (mode : Int)

/-- Of the numbers that occur most often only one is the smallest. -/
theorem IsLeastMode.unique {values : List Int} {mode other : Nat} (isMode : IsLeastMode values mode)
    (isOther : IsLeastMode values other) : mode = other := by
  rcases Nat.lt_trichotomy mode other with before | same | after
  · exact absurd (isMode.most other) (Nat.not_le_of_lt (isOther.least mode before))
  · exact same
  · exact absurd (isOther.most mode) (Nat.not_le_of_lt (isMode.least other after))

namespace Config

/-! ### The numbers that the entries ask for -/

section Entries

variable {index : Nat} {entries : List GopEntry}

/-- The numbers are read off as long as each of them is in range. -/
theorem activeReferences_eq_ok_iff {counts : List Nat} :
    activeReferences index entries = .ok counts ↔
      (∀ entry ∈ entries, entry.ActiveInRange) ∧
        counts = entries.map fun entry => entry.numRefPicsActive.toNat := by
  induction entries generalizing index counts with
  | nil =>
    constructor
    · rintro ⟨⟩
      exact ⟨fun entry member => absurd member List.not_mem_nil, rfl⟩
    · rintro ⟨-, rfl⟩
      rfl
  | cons entry later inductionHypothesis =>
    rw [List.forall_mem_cons, activeReferences]
    split
    · rename_i inRange
      cases read : activeReferences (index + 1) later with
      | ok laterCounts =>
        obtain ⟨laterInRange, rfl⟩ := inductionHypothesis.mp read
        constructor
        · rintro ⟨⟩
          exact ⟨⟨inRange, laterInRange⟩, rfl⟩
        · rintro ⟨-, rfl⟩
          rfl
      | error failure =>
        constructor
        · rintro ⟨⟩
        · rintro ⟨⟨-, laterInRange⟩, -⟩
          have fine : activeReferences (index + 1) later = .ok _ :=
            inductionHypothesis.mpr ⟨laterInRange, rfl⟩
          rw [read] at fine
          cases fine
    · rename_i outOfRange
      constructor
      · rintro ⟨⟩
      · rintro ⟨⟨inRange, -⟩, -⟩
        exact absurd inRange outOfRange

/-- The first number out of range is reported with its place in the table. -/
theorem activeReferences_eq_error_iff {failure : EncodeError} :
    activeReferences index entries = .error failure ↔
      ∃ earlier entry later, entries = earlier ++ entry :: later ∧
        (∀ before ∈ earlier, before.ActiveInRange) ∧ ¬ entry.ActiveInRange ∧
        failure = .invalidGopEntry
          (.activeReferences (index + earlier.length) entry.numRefPicsActive) := by
  induction entries generalizing index with
  | nil =>
    constructor
    · rintro ⟨⟩
    · rintro ⟨earlier, entry, later, split, -⟩
      cases earlier <;> cases split
  | cons first rest inductionHypothesis =>
    rw [activeReferences]
    split
    · rename_i inRange
      have passesOn : (do
          let counts ← activeReferences (index + 1) rest
          pure (first.numRefPicsActive.toNat :: counts)) = Except.error failure ↔
          activeReferences (index + 1) rest = .error failure := by
        cases activeReferences (index + 1) rest with
        | ok => constructor <;> rintro ⟨⟩
        | error => exact Iff.rfl
      rw [passesOn, inductionHypothesis]
      constructor
      · rintro ⟨earlier, entry, later, rfl, earlierInRange, outOfRange, rfl⟩
        refine ⟨first :: earlier, entry, later, rfl, ?_, outOfRange, ?_⟩
        · exact List.forall_mem_cons.mpr ⟨inRange, earlierInRange⟩
        · rw [List.length_cons, Nat.add_assoc, Nat.add_comm 1]
      · rintro ⟨earlier, entry, later, whole, earlierInRange, outOfRange, rfl⟩
        cases earlier with
        | nil =>
          cases whole
          exact absurd inRange outOfRange
        | cons head earlier =>
          cases whole
          refine ⟨earlier, entry, later, rfl, ?_, outOfRange, ?_⟩
          · exact (List.forall_mem_cons.mp earlierInRange).2
          · rw [List.length_cons, Nat.add_assoc, Nat.add_comm 1]
    · rename_i outOfRange
      constructor
      · rintro ⟨⟩
        refine ⟨[], first, rest, rfl, ?_, outOfRange, rfl⟩
        exact fun before member => absurd member List.not_mem_nil
      · rintro ⟨earlier, entry, later, whole, earlierInRange, -, rfl⟩
        cases earlier with
        | nil =>
          cases whole
          rfl
        | cons head earlier =>
          cases whole
          exact absurd (List.forall_mem_cons.mp earlierInRange).1 outOfRange

end Entries

/-! ### The number that occurs most often -/

section MostFrequent

variable (values : List Nat) (limit : Nat)

/-- The most frequent value does not exceed the limit. -/
theorem mostFrequent_le : mostFrequent values limit ≤ limit := by
  induction limit with
  | zero => exact Nat.le_refl _
  | succ limit inductionHypothesis =>
    rw [mostFrequent]
    split
    · exact Nat.le_refl _
    · exact Nat.le_succ_of_le inductionHypothesis

/-- No number up to the limit occurs more often. -/
theorem count_le_count_mostFrequent :
    ∀ value ≤ limit, values.count value ≤ values.count (mostFrequent values limit) := by
  induction limit with
  | zero =>
    intro value isZero
    rw [Nat.le_zero.mp isZero]
    exact Nat.le_refl _
  | succ limit inductionHypothesis =>
    intro value bounded
    rw [mostFrequent]
    split
    · rename_i overtaken
      rcases Nat.le_succ_iff.mp bounded with bounded | rfl
      · exact Nat.le_of_lt (Nat.lt_of_le_of_lt (inductionHypothesis value bounded) overtaken)
      · exact Nat.le_refl _
    · rename_i kept
      rcases Nat.le_succ_iff.mp bounded with bounded | rfl
      · exact inductionHypothesis value bounded
      · exact Nat.le_of_not_lt kept

/-- Each smaller number occurs less often. -/
theorem count_lt_count_mostFrequent :
    ∀ smaller < mostFrequent values limit,
      values.count smaller < values.count (mostFrequent values limit) := by
  induction limit with
  | zero =>
    intro smaller isSmaller
    exact absurd isSmaller (Nat.not_lt_zero _)
  | succ limit inductionHypothesis =>
    rw [mostFrequent]
    split
    · rename_i overtaken
      intro smaller isSmaller
      have atMost := count_le_count_mostFrequent values limit smaller (Nat.le_of_lt_succ isSmaller)
      exact Nat.lt_of_le_of_lt atMost overtaken
    · exact inductionHypothesis

end MostFrequent

/-! ### The default -/

/-- The numbers of active references that the entries of the GOP ask for. -/
def activeAsked (config : Config) : List Int :=
  config.gopEntries.map GopEntry.numRefPicsActive

section Default

variable {config : Config}

/-- Numbers in range occur as often as they do when read off as natural ones. -/
theorem count_activeAsked (inRange : ∀ entry ∈ config.gopEntries, entry.ActiveInRange)
    (value : Nat) :
    config.activeAsked.count (value : Int) =
      (config.gopEntries.map fun entry => entry.numRefPicsActive.toNat).count value := by
  have asked : config.activeAsked =
      (config.gopEntries.map fun entry => entry.numRefPicsActive.toNat).map Int.ofNat := by
    rw [activeAsked, List.map_map]
    refine List.map_congr_left fun entry member => ?_
    exact (Int.toNat_of_nonneg (inRange entry member).1).symm
  rw [asked]
  exact List.count_map_of_injective _ _ (fun _ _ => Int.ofNat.inj) value

/-- A number out of range is not asked for by entries in range. -/
theorem count_activeAsked_of_outside (inRange : ∀ entry ∈ config.gopEntries, entry.ActiveInRange)
    {value : Int} (outside : value < 0 ∨ maxActiveReferences < value) :
    config.activeAsked.count value = 0 := by
  refine List.count_eq_zero.mpr fun member => ?_
  obtain ⟨entry, isEntry, rfl⟩ := List.mem_map.mp member
  obtain ⟨nonneg, bounded⟩ := inRange entry isEntry
  omega

/-- Among entries in range, only the numbers in range have to be compared. -/
theorem isLeastMode_of_bounded (inRange : ∀ entry ∈ config.gopEntries, entry.ActiveInRange)
    {mode : Nat}
    (most : ∀ value : Nat, value ≤ maxActiveReferences →
      config.activeAsked.count (value : Int) ≤ config.activeAsked.count (mode : Int))
    (least : ∀ smaller : Nat, smaller < mode →
      config.activeAsked.count (smaller : Int) < config.activeAsked.count (mode : Int)) :
    IsLeastMode config.activeAsked mode := by
  refine ⟨fun value => ?_, least⟩
  by_cases outside : value < 0 ∨ maxActiveReferences < value
  · rw [count_activeAsked_of_outside inRange outside]
    exact Nat.zero_le _
  · obtain ⟨number, rfl⟩ := Int.eq_ofNat_of_zero_le (show 0 ≤ value by omega)
    exact most number (by omega)

/-- Among entries in range, the number found by counting is the smallest most frequent one. -/
theorem isLeastMode_mostFrequent (inRange : ∀ entry ∈ config.gopEntries, entry.ActiveInRange) :
    IsLeastMode config.activeAsked
      (mostFrequent (config.gopEntries.map fun entry => entry.numRefPicsActive.toNat)
        maxActiveReferences) := by
  apply isLeastMode_of_bounded inRange
  · intro value bounded
    rw [count_activeAsked inRange, count_activeAsked inRange]
    exact count_le_count_mostFrequent _ _ value bounded
  · intro smaller isSmaller
    rw [count_activeAsked inRange, count_activeAsked inRange]
    exact count_lt_count_mostFrequent _ _ smaller isSmaller

/-- What counting comes to. -/
inductive DefaultActive (config : Config) : Except EncodeError Nat → Prop where
  | outOfRange (earlier : List GopEntry) (entry : GopEntry) (later : List GopEntry)
      (entries : config.gopEntries = earlier ++ entry :: later)
      (earlierInRange : ∀ before ∈ earlier, before.ActiveInRange)
      (outOfRange : ¬ entry.ActiveInRange) :
      DefaultActive config
        (.error (.invalidGopEntry (.activeReferences earlier.length entry.numRefPicsActive)))
  | unsignalled (inRange : ∀ entry ∈ config.gopEntries, entry.ActiveInRange)
      (isMode : IsLeastMode config.activeAsked maxActiveReferences) :
      DefaultActive config (.error (.invalidGopEntry (.defaultActive maxActiveReferences)))
  | signalled (inRange : ∀ entry ∈ config.gopEntries, entry.ActiveInRange) (active : Nat)
      (fits : active < maxActiveReferences) (isMode : IsLeastMode config.activeAsked active) :
      DefaultActive config (.ok active)

/-- Looking for the default number comes to one of the ends that `DefaultActive` lists. -/
theorem defaultActiveReferences_cases (config : Config) :
    DefaultActive config config.defaultActiveReferences := by
  unfold defaultActiveReferences
  cases read : activeReferences 0 config.gopEntries with
  | error failure =>
    obtain ⟨earlier, entry, later, entries, earlierInRange, outOfRange, rfl⟩ :=
      activeReferences_eq_error_iff.mp read
    rw [Nat.zero_add]
    exact .outOfRange earlier entry later entries earlierInRange outOfRange
  | ok counts =>
    obtain ⟨inRange, rfl⟩ := activeReferences_eq_ok_iff.mp read
    have isMode := isLeastMode_mostFrequent inRange
    have bounded := mostFrequent_le
      (config.gopEntries.map fun entry => entry.numRefPicsActive.toNat) maxActiveReferences
    simp only [bind, Except.bind]
    split
    · rename_i reaches
      rw [Nat.le_antisymm bounded reaches] at isMode ⊢
      exact .unsignalled inRange isMode
    · rename_i below
      exact .signalled inRange _ (Nat.lt_of_not_le below) isMode

/-- The default number is the least mode of the numbers asked for, if they are in range and it can
be signalled. -/
theorem defaultActiveReferences_eq_ok_iff {active : Nat} :
    config.defaultActiveReferences = .ok active ↔
      (∀ entry ∈ config.gopEntries, entry.ActiveInRange) ∧
        active < maxActiveReferences ∧ IsLeastMode config.activeAsked active := by
  have known := config.defaultActiveReferences_cases
  generalize config.defaultActiveReferences = outcome at known
  constructor
  · rintro rfl
    cases known with
    | signalled inRange _ fits isMode => exact ⟨inRange, fits, isMode⟩
  · rintro ⟨inRange, fits, isMode⟩
    cases known with
    | outOfRange earlier entry later entries earlierInRange outOfRange =>
      have isEntry : entry ∈ config.gopEntries := by
        rw [entries]
        exact List.mem_append_cons_self
      exact absurd (inRange entry isEntry) outOfRange
    | unsignalled _ isMax =>
      rw [isMode.unique isMax] at fits
      exact absurd fits (Nat.lt_irrefl _)
    | signalled _ found _ isFound => rw [isFound.unique isMode]

/-- Among entries in range, the largest number wins exactly when it occurs more often than each
smaller one. -/
theorem isLeastMode_max_iff (inRange : ∀ entry ∈ config.gopEntries, entry.ActiveInRange) :
    IsLeastMode config.activeAsked maxActiveReferences ↔
      ∀ smaller < maxActiveReferences, config.activeAsked.count (smaller : Int) <
        config.activeAsked.count (maxActiveReferences : Int) := by
  constructor
  · exact IsLeastMode.least
  · intro least
    refine isLeastMode_of_bounded inRange (fun value bounded => ?_) least
    rcases Nat.lt_or_eq_of_le bounded with below | rfl
    · exact Nat.le_of_lt (least value below)
    · exact Nat.le_refl _

/-- There is no default number if one asked for is out of range, or the most frequent one cannot be
signalled. -/
theorem exists_defaultActiveReferences_eq_error_iff :
    (∃ failure, config.defaultActiveReferences = .error failure) ↔
      (∃ entry ∈ config.gopEntries, ¬ entry.ActiveInRange) ∨
        ∀ smaller < maxActiveReferences, config.activeAsked.count (smaller : Int) <
          config.activeAsked.count (maxActiveReferences : Int) := by
  by_cases inRange : ∀ entry ∈ config.gopEntries, entry.ActiveInRange
  · have none : ¬ ∃ entry ∈ config.gopEntries, ¬ entry.ActiveInRange := by
      rintro ⟨entry, isEntry, outOfRange⟩
      exact outOfRange (inRange entry isEntry)
    rw [or_iff_right none, ← isLeastMode_max_iff inRange]
    have known := config.defaultActiveReferences_cases
    generalize config.defaultActiveReferences = outcome at known
    cases known with
    | outOfRange earlier entry later entries earlierInRange outOfRange =>
      refine absurd ⟨entry, ?_, outOfRange⟩ none
      rw [entries]
      exact List.mem_append_cons_self
    | unsignalled _ isMax => exact iff_of_true ⟨_, rfl⟩ isMax
    | signalled _ found fits isFound =>
      refine iff_of_false ?_ fun isMax => ?_
      · rintro ⟨failure, ⟨⟩⟩
      · exact absurd (isFound.unique isMax) (Nat.ne_of_lt fits)
  · refine iff_of_true ?_ (.inl (by push Not at inRange; exact inRange))
    cases found : config.defaultActiveReferences with
    | ok active => exact absurd (defaultActiveReferences_eq_ok_iff.mp found).1 inRange
    | error failure => exact ⟨failure, rfl⟩

end Default

/-- The default number of active references. For every configuration, a number is found exactly when
each entry of the GOP asks for a number from 0 to 16, and then it is the smallest one of those that
most entries ask for, which must not be 16. All else is refused: an entry with another number, and
16 when more entries ask for it than for any smaller number. An empty GOP gives 0, and entries
behind the GOP do not matter. -/
theorem default_active_is_least_mode (config : Config) :
    (∀ active, config.defaultActiveReferences = .ok active ↔
      (∀ entry ∈ config.gopEntries, entry.ActiveInRange) ∧
        active < maxActiveReferences ∧ IsLeastMode config.activeAsked active) ∧
    ((∃ failure, config.defaultActiveReferences = .error failure) ↔
      (∃ entry ∈ config.gopEntries, ¬ entry.ActiveInRange) ∨
        ∀ smaller < maxActiveReferences, config.activeAsked.count (smaller : Int) <
          config.activeAsked.count (maxActiveReferences : Int)) ∧
    (config.gopEntries = [] → config.defaultActiveReferences = .ok 0) ∧
    ∀ gopList, gopList.take config.gopSize = config.gopEntries →
      { config with gopList }.defaultActiveReferences = config.defaultActiveReferences := by
  refine ⟨fun active => defaultActiveReferences_eq_ok_iff,
    exists_defaultActiveReferences_eq_error_iff, fun empty => ?_, fun gopList sameGop => ?_⟩
  · rw [defaultActiveReferences, empty]
    rfl
  · have sameEntries : { config with gopList }.gopEntries = config.gopEntries := sameGop
    rw [defaultActiveReferences, sameEntries, defaultActiveReferences]

/-- Of two numbers asked for equally often the smaller one is the default. -/
example :
    defaultActiveReferences
        { gopSize := 2, gopList := [.ofDeltas 1 .b 0 [-1, -2], .ofDeltas 2 .b 0 [-1]] } =
      .ok 1 := by
  rfl

end Config

end EncoderControl
