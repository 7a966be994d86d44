import EncoderControl.Proofs.ReferenceSet.Shape
import EncoderControl.ReferenceSet.Selector

/-!
# Plan and selector agree

The plan lays out the sets of the GOP, those of the extra entries and that of the first bottom field
one after the other; the selector computes indices into this list from the configuration alone. The
rule that both follow is stated here on the table itself: `Config.Assigned` names the index of a
picture, exactly one for each. Which records are made when a set is missing is of no concern, since
none is.
-/

namespace EncoderControl

/-! ### The last place of a value -/

section LastIndex

variable {target : Int} {list : List Int}

/-- Only what is not in the list has no last index. -/
theorem lastIndexOf?_eq_none_iff : lastIndexOf? target list = none ↔ target ∉ list := by
  induction list with
  | nil => simp [lastIndexOf?]
  | cons head tail inductionHypothesis =>
    unfold lastIndexOf?
    cases found : lastIndexOf? target tail with
    | none =>
      have absent := inductionHypothesis.mp found
      by_cases atHead : head = target
      · simp [atHead]
      · simp [atHead, absent, Ne.symm atHead]
    | some place =>
      have present : target ∈ tail := by
        by_contra absent
        rw [inductionHypothesis.mpr absent] at found
        cases found
      simp [present]

/-- The last place of a value holds it, and no later place does. -/
theorem lastIndexOf?_eq_some {place : Nat} (found : lastIndexOf? target list = some place) :
    list[place]? = some target ∧ ∀ later, place < later → list[later]? ≠ some target := by
  induction list generalizing place with
  | nil => cases found
  | cons head tail inductionHypothesis =>
    unfold lastIndexOf? at found
    cases inTail : lastIndexOf? target tail with
    | some tailPlace =>
      simp only [inTail, Option.some.injEq] at found
      obtain ⟨holds, last⟩ := inductionHypothesis inTail
      subst found
      refine ⟨holds, fun later past => ?_⟩
      obtain ⟨before, rfl⟩ : ∃ before, later = before + 1 := ⟨later - 1, by omega⟩
      exact last before (by omega)
    | none =>
      have absent := lastIndexOf?_eq_none_iff.mp inTail
      simp only [inTail] at found
      split at found
      · rename_i atHead
        cases found
        refine ⟨congrArg some atHead, fun later past holds => absent ?_⟩
        obtain ⟨before, rfl⟩ : ∃ before, later = before + 1 := ⟨later - 1, by omega⟩
        exact List.mem_of_getElem? holds
      · cases found

end LastIndex

/-! ### The rule -/

namespace Config

/-- Decoding is refreshed at every intra picture. -/
def Refreshes (config : Config) : Prop :=
  0 < config.intraPeriod ∧ 0 < config.decodingRefreshType

instance (config : Config) : Decidable config.Refreshes :=
  inferInstanceAs (Decidable (_ ∧ _))

/-- A field that follows the very first field. -/
def IsFirstBottomField (config : Config) (poc : Int) (fieldPic : Bool) : Prop :=
  config.fieldCoding = true ∧ fieldPic = true ∧ poc = 1

instance (config : Config) (poc : Int) (fieldPic : Bool) :
    Decidable (config.IsFirstBottomField poc fieldPic) :=
  inferInstanceAs (Decidable (_ ∧ _ ∧ _))

/-- A position in the table stands for the picture at `poc`. With a refresh, positions run from 1 to
the period and stand for all pictures that are whole periods away. -/
def StandsFor (config : Config) (position poc : Int) : Prop :=
  if config.Refreshes then
    1 ≤ position ∧ position ≤ config.intraPeriod ∧ config.intraPeriod ∣ poc - position
  else
    position = poc

instance (config : Config) (position poc : Int) : Decidable (config.StandsFor position poc) :=
  inferInstanceAs (Decidable (if config.Refreshes then _ else _))

/-- The extra entry at this place has a set for the picture at `poc`. -/
def HasExtra (config : Config) (poc : Int) (place : Nat) : Prop :=
  place < config.extraSets ∧
    ∃ entry, config.gopList[config.gopSize + place]? = some entry ∧ config.StandsFor entry.poc poc

/-- The index of the set that a picture or field at `poc` is to have. -/
inductive Assigned (config : Config) (poc : Int) (gopId : Nat) (fieldPic : Bool) : Nat → Prop where
  | firstBottomField (first : config.IsFirstBottomField poc fieldPic) :
      Assigned config poc gopId fieldPic (config.gopSize + config.extraSets)
  /-- Of several extra entries the last one counts. -/
  | extra (other : ¬ config.IsFirstBottomField poc fieldPic) (place : Nat)
      (present : config.HasExtra poc place)
      (last : ∀ later, place < later → ¬ config.HasExtra poc later) :
      Assigned config poc gopId fieldPic (config.gopSize + place)
  /-- A picture without an extra entry has the set of its position in the GOP. -/
  | ofGop (other : ¬ config.IsFirstBottomField poc fieldPic)
      (absent : ∀ place, ¬ config.HasExtra poc place) : Assigned config poc gopId fieldPic gopId

variable {config : Config} {poc : Int} {gopId : Nat} {fieldPic : Bool}

/-- The rule names one index at most. -/
theorem Assigned.unique {index other : Nat} (first : config.Assigned poc gopId fieldPic index)
    (second : config.Assigned poc gopId fieldPic other) : index = other := by
  cases first with
  | firstBottomField isFirst =>
    cases second with
    | firstBottomField => rfl
    | extra notFirst => exact absurd isFirst notFirst
    | ofGop notFirst => exact absurd isFirst notFirst
  | extra notFirst place present last =>
    cases second with
    | firstBottomField isFirst => exact absurd isFirst notFirst
    | extra _ otherPlace otherPresent otherLast =>
      have notBefore : ¬ place < otherPlace := fun before => last otherPlace before otherPresent
      have notAfter : ¬ otherPlace < place := fun after => otherLast place after present
      omega
    | ofGop _ absent => exact absurd present (absent place)
  | ofGop notFirst absent =>
    cases second with
    | firstBottomField isFirst => exact absurd isFirst notFirst
    | extra _ place present => exact absurd present (absent place)
    | ofGop => rfl

end Config

/-! ### The selector follows the rule -/

namespace SetSelector

variable {config : Config} {poc : Int} {gopId : Nat} {fieldPic : Bool}

/-- Counted from 1 to the period, exactly one position is whole periods away. -/
theorem wrapped_iff {period position : Int} (positive : 0 < period) :
    (if poc % period = 0 then period else poc % period) = position ↔
      1 ≤ position ∧ position ≤ period ∧ period ∣ poc - position := by
  have nonneg := Int.emod_nonneg poc positive.ne'
  have below := Int.emod_lt_of_pos poc positive
  constructor
  · rintro rfl
    split
    · rename_i wraps
      exact ⟨positive, le_rfl, Int.dvd_sub (Int.dvd_of_emod_eq_zero wraps) (Int.dvd_refl period)⟩
    · exact ⟨by omega, below.le, Int.dvd_self_sub_emod⟩
  · rintro ⟨atLeast, atMost, whole⟩
    have remainder : poc % period = position % period :=
      Int.emod_eq_emod_iff_emod_sub_eq_zero.mpr (Int.emod_eq_zero_of_dvd whole)
    rw [remainder]
    -- Every position is its own remainder, except that the whole period leaves none.
    by_cases full : position = period
    · simp [full]
    · have small : position % period = position := Int.emod_eq_of_lt (by omega) (by omega)
      rw [small, if_neg (by omega)]

/-- The selector matches with the one position that stands for a picture. -/
theorem matchedPoc_eq_iff {position : Int} :
    (ofConfig config).matchedPoc poc = position ↔ config.StandsFor position poc := by
  unfold Config.StandsFor matchedPoc ofConfig
  by_cases refreshes : config.Refreshes
  · simp only [if_pos refreshes]
    rw [if_pos (show 0 < config.intraPeriod ∧ 0 < config.decodingRefreshType from refreshes)]
    exact wrapped_iff refreshes.1
  · simp only [if_neg refreshes]
    rw [if_neg (show ¬ (0 < config.intraPeriod ∧ 0 < config.decodingRefreshType) from refreshes)]
    exact eq_comm

/-- The selector knows the extra entries by their positions. -/
theorem getElem?_extraPocs_eq_some_iff {place : Nat} {position : Int} :
    (ofConfig config).extraPocs[place]? = some position ↔
      place < config.extraSets ∧
        ∃ entry, config.gopList[config.gopSize + place]? = some entry ∧ entry.poc = position := by
  simp only [ofConfig, List.getElem?_map, List.getElem?_take, List.getElem?_drop]
  split
  · rename_i isExtra
    simp [isExtra]
  · rename_i past
    simp [past]

/-- An extra entry has a set for a picture when the selector finds it at the matched position. -/
theorem getElem?_extraPocs_matchedPoc_iff {place : Nat} :
    (ofConfig config).extraPocs[place]? = some ((ofConfig config).matchedPoc poc) ↔
      config.HasExtra poc place := by
  rw [getElem?_extraPocs_eq_some_iff]
  unfold Config.HasExtra
  simp only [← matchedPoc_eq_iff, eq_comm]

/-- Without the first bottom field in view, the last extra entry for the picture decides. -/
theorem assigned_resolveForSop (other : ¬ config.IsFirstBottomField poc fieldPic) :
    config.Assigned poc gopId fieldPic ((ofConfig config).resolveForSop poc gopId) := by
  unfold resolveForSop
  cases found : lastIndexOf? ((ofConfig config).matchedPoc poc) (ofConfig config).extraPocs with
  | none =>
    have absent := lastIndexOf?_eq_none_iff.mp found
    exact .ofGop other fun place present =>
      absent (List.mem_of_getElem? (getElem?_extraPocs_matchedPoc_iff.mpr present))
  | some place =>
    obtain ⟨holds, last⟩ := lastIndexOf?_eq_some found
    exact .extra other place (getElem?_extraPocs_matchedPoc_iff.mp holds) fun later past present =>
      last later past (getElem?_extraPocs_matchedPoc_iff.mpr present)

/-- The first bottom field is told apart, all other pictures are resolved in the same way. -/
theorem select_of_not_firstBottomField (other : ¬ config.IsFirstBottomField poc fieldPic) :
    (ofConfig config).select poc gopId fieldPic = (ofConfig config).resolveForSop poc gopId := by
  unfold select
  split
  · rename_i index fields
    have coded : config.fieldCoding = true := by
      by_contra frames
      simp [ofConfig, frames] at fields
    rw [if_neg fun first => other ⟨coded, first⟩]
  · rfl

/-- The selector follows the rule. -/
theorem assigned_select :
    config.Assigned poc gopId fieldPic ((ofConfig config).select poc gopId fieldPic) := by
  by_cases first : config.IsFirstBottomField poc fieldPic
  · obtain ⟨coded, field, atOne⟩ := first
    have index : (ofConfig config).select poc gopId fieldPic =
        config.gopSize + config.extraSets := by
      simp [select, ofConfig, coded, field, atOne]
    rw [index]
    exact .firstBottomField ⟨coded, field, atOne⟩
  · rw [select_of_not_firstBottomField first]
    exact assigned_resolveForSop first

/-- With a refresh, pictures that are whole periods apart are resolved alike. -/
theorem resolveForSop_add_periods (refreshes : config.Refreshes) (periods : Int) :
    (ofConfig config).resolveForSop (poc + periods * config.intraPeriod) gopId =
      (ofConfig config).resolveForSop poc gopId := by
  have same : (ofConfig config).matchedPoc (poc + periods * config.intraPeriod) =
      (ofConfig config).matchedPoc poc := by
    unfold matchedPoc ofConfig
    rw [if_pos (show 0 < config.intraPeriod ∧ 0 < config.decodingRefreshType from refreshes)]
    simp only [Int.add_mul_emod_self_right]
  unfold resolveForSop
  rw [same]

/-- Choosing for a slice succeeds when the list of the sequence has a set at the index. -/
theorem selectForSlice_of_some {selector : SetSelector} {slice : Slice} {set : ReferenceSet}
    {index : Nat} (chosen : selector.select slice.poc gopId slice.fieldPic = index)
    (found : slice.sps.referenceSets[index]? = some set) :
    selector.selectForSlice gopId slice = ⟨.ok set, { slice with referenceSet := index }, []⟩ := by
  subst chosen
  simp [selectForSlice, found]

end SetSelector

namespace Config

variable {config : Config} {plan : ReferencePlan} {poc : Int} {gopId index : Nat} {fieldPic : Bool}

/-- An assigned index lies in the list that is built for the configuration. -/
theorem Assigned.lt_length
    (built : (ReferencePlan.build config.gopList config.gopSize config.extraSets
      config.fieldCoding).outcome = .ok plan)
    (inList : gopId < plan.sets.length) (assigned : config.Assigned poc gopId fieldPic index) :
    index < plan.sets.length := by
  have counted := ReferencePlan.length_sets built
  cases assigned with
  | firstBottomField first =>
    rw [counted, first.1]
    simp
  | extra other place present last =>
    have isExtra := present.1
    omega
  | ofGop => exact inList

/-- The selector finds the set of every picture in the list that is built for the configuration. Its
index is the one that the rule assigns, and with a refresh the choice repeats from period to period
for all pictures but the first bottom field. -/
theorem selection_agrees_with_plan
    (built : (ReferencePlan.build config.gopList config.gopSize config.extraSets
      config.fieldCoding).outcome = .ok plan)
    (slice : Slice) (carries : slice.sps.referenceSets = plan.sets)
    (inList : gopId < plan.sets.length) :
    (∃ index set, index < plan.sets.length ∧ plan.sets[index]? = some set ∧
      (SetSelector.ofConfig config).selectForSlice gopId slice =
        ⟨.ok set, { slice with referenceSet := index }, []⟩ ∧
      ∀ other, config.Assigned slice.poc gopId slice.fieldPic other ↔ other = index) ∧
    (config.Refreshes → ∀ periods : Int,
      ¬ config.IsFirstBottomField slice.poc slice.fieldPic →
      ¬ config.IsFirstBottomField (slice.poc + periods * config.intraPeriod) slice.fieldPic →
      (SetSelector.ofConfig config).select (slice.poc + periods * config.intraPeriod) gopId
          slice.fieldPic =
        (SetSelector.ofConfig config).select slice.poc gopId slice.fieldPic) := by
  constructor
  · have assigned : config.Assigned slice.poc gopId slice.fieldPic _ := SetSelector.assigned_select
    have inside := assigned.lt_length built inList
    have found := List.getElem?_eq_getElem inside
    refine ⟨_, _, inside, found, SetSelector.selectForSlice_of_some rfl (by rw [carries, found]), ?_⟩
    intro other
    constructor
    · intro alsoAssigned
      exact alsoAssigned.unique assigned
    · rintro rfl
      exact assigned
  · intro refreshes periods here there
    rw [SetSelector.select_of_not_firstBottomField here,
      SetSelector.select_of_not_firstBottomField there,
      SetSelector.resolveForSop_add_periods refreshes periods]

/-- Two extra entries for the last picture of a period of eight, in a sequence of fields. -/
def refreshedConfig : Config where
  gopSize := 2
  gopList :=
    [ { poc := 1, references := [⟨-1, true⟩] },
      { poc := 2, references := [⟨-2, true⟩] },
      { poc := 8, references := [⟨-8, true⟩] },
      { poc := 8, references := [⟨-8, true⟩, ⟨-4, false⟩] } ]
  extraSets := 2
  intraPeriod := 8
  decodingRefreshType := 1
  fieldCoding := true

/-- The field that is one period before the first one takes the set of the second extra entry, and
so does the field that is one period after it. -/
theorem refreshedConfig_selection :
    ∃ plan, (ReferencePlan.build refreshedConfig.gopList 2 2 true).outcome = .ok plan ∧
      0 < plan.sets.length ∧
      (∃ set, plan.sets[3]? = some set ∧ set.references = [⟨-8, true⟩, ⟨-4, false⟩] ∧
        (SetSelector.ofConfig refreshedConfig).selectForSlice 0
            ⟨.b, -8, true, 0, { referenceSets := plan.sets }, default⟩ =
          ⟨.ok set, ⟨.b, -8, true, 3, { referenceSets := plan.sets }, default⟩, []⟩) ∧
      (SetSelector.ofConfig refreshedConfig).select (-8 + 2 * 8) 0 true =
        (SetSelector.ofConfig refreshedConfig).select (-8) 0 true := by
  obtain ⟨plan, built, inList, fourth⟩ :
      ∃ plan, (ReferencePlan.build refreshedConfig.gopList 2 2 true).outcome = .ok plan ∧
        0 < plan.sets.length ∧
        (plan.sets[3]?).map ReferenceSet.references = some [⟨-8, true⟩, ⟨-4, false⟩] :=
    ⟨_, rfl, by decide, rfl⟩
  obtain ⟨⟨index, set, -, found, chosen, assigned⟩, repeats⟩ :=
    selection_agrees_with_plan built ⟨.b, -8, true, 0, { referenceSets := plan.sets }, default⟩ rfl
      inList
  have second : refreshedConfig.Assigned (-8) 0 true 3 := by
    refine .extra (by decide) 1 ⟨by decide, _, rfl, by decide⟩ fun later past present => ?_
    have isExtra : later < 2 := present.1
    omega
  obtain rfl : 3 = index := (assigned 3).mp second
  rw [found] at fourth
  have repeated := repeats (by decide) 2
    (show ¬ refreshedConfig.IsFirstBottomField (-8) true by decide)
    (show ¬ refreshedConfig.IsFirstBottomField (-8 + 2 * 8) true by decide)
  exact ⟨plan, built, inList, ⟨set, found, Option.some.inj fourth, chosen⟩, repeated⟩

end Config

end EncoderControl
