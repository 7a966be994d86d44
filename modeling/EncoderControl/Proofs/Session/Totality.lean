import EncoderControl.Proofs.ReferenceSet.Leading
import EncoderControl.Proofs.Session.Retuning
import EncoderControl.Proofs.Tiles.Partition

/-!
# Configurations that no session can be asked for

A configuration is either taken or refused, wherever its lists are too short and its tables do not
fit: no list is read before its length is known. Two settings are not looked at before they are used
while the picture parameter sets are built. The depth of samples moves the lower bound of the
initial quantizer, and with enough bits it passes the upper one. The size of a coding tree unit
divides the picture, also when it is zero. Such a configuration is neither taken nor refused, unless
something is refused before.
-/

namespace EncoderControl

/-- How many tiles of one direction are given a size, and the sizes given. -/
def TileConfig.given (tiles : TileConfig) : TileAxis → Nat × List Nat
  | .columns => (tiles.numColumnsMinus1, tiles.columnWidths)
  | .rows => (tiles.numRowsMinus1, tiles.rowHeights)

/-- A refusal is never a fault. -/
theorem mapError_refused_ne_fault {ε α : Type} (outcome : Except ε α) {fault : Fault} :
    outcome.mapError Stop.refused ≠ .error (.fault fault) := by
  cases outcome <;> nofun

namespace Logged

variable {ε α β : Type}

/-- Where a computation can only be refused, it takes what follows it to break. -/
theorem outcome_refused_bind_eq_fault_iff {first : Logged ε α}
    {next : α → Logged (Stop ε) β} {fault : Fault} :
    (first.mapError Stop.refused >>= next).outcome = .error (.fault fault) ↔
      ∃ value, first.outcome = .ok value ∧ (next value).outcome = .error (.fault fault) := by
  rw [outcome_bind, outcome_mapError]
  cases first.outcome with
  | ok value =>
    constructor
    · intro breaks
      exact ⟨value, rfl, breaks⟩
    · rintro ⟨_, ⟨⟩, breaks⟩
      exact breaks
  | error failure => exact iff_of_false nofun nofun

/-- What always succeeds adds no failure. -/
theorem outcome_bind_eq_error_iff_of_ok {first : Logged ε α} {next : α → Logged ε β} {failure : ε}
    (succeeds : ∀ value, ∃ result, (next value).outcome = .ok result) :
    (first >>= next).outcome = .error failure ↔ first.outcome = .error failure := by
  rw [outcome_bind_eq_error_iff]
  constructor
  · rintro (fails | ⟨value, -, fails⟩)
    · exact fails
    · obtain ⟨result, done⟩ := succeeds value
      rw [done] at fails
      cases fails
  · exact .inl

end Logged

/-- Sizes found too large are as many as are asked for. -/
theorem enough_of_noRoom {axis other : TileAxis} {countMinus1 extent total whole : Nat}
    {uniform : Bool} {sizes : List Nat}
    (refused : checkTileAxis axis countMinus1 extent uniform sizes =
      .error (.tileLayout other (.noRoom total whole))) :
    other = axis ∧ countMinus1 ≤ sizes.length := by
  unfold checkTileAxis at refused
  dsimp only at refused
  split at refused
  · cases refused
  split at refused
  · cases refused
  split at refused
  · cases refused
  split at refused
  · cases refused
  rename_i enough
  split at refused
  · cases refused
    exact ⟨rfl, Nat.le_of_not_lt enough⟩
  · cases refused

namespace Config

/-- The initial quantizer is brought into a range that the depth of samples leaves nothing of. -/
def CrossesBounds (config : Config) : Prop :=
  config.capabilities.adaptPpsQp = true ∧ 51 < Sps.qpBdOffset config.bitDepthLuma

/-- The picture is measured in units that have no width or no height. -/
def MeasuresInNothing (config : Config) : Prop :=
  config.capabilities.tilesAndWavefronts = true ∧
    (config.maxCuSize.width = 0 ∨ config.maxCuSize.height = 0)

/-- What breaks while the picture parameter sets are built, the quantizer before the tiles. -/
inductive Breaks (config : Config) : Fault → Prop where
  | crossedBounds (crosses : config.CrossesBounds) : Breaks config .crossedBounds
  | emptyBlock (ordered : ¬ config.CrossesBounds) (empty : config.MeasuresInNothing) :
      Breaks config .emptyBlock

/-- A configuration breaks creation by crossed bounds or by measuring in units of size zero. -/
theorem exists_breaks_iff {config : Config} :
    (∃ fault, config.Breaks fault) ↔ config.CrossesBounds ∨ config.MeasuresInNothing := by
  constructor
  · rintro ⟨_, crosses | ⟨-, empty⟩⟩
    · exact .inl crosses
    · exact .inr empty
  · intro either
    by_cases crosses : config.CrossesBounds
    · exact ⟨_, .crossedBounds crosses⟩
    · exact ⟨_, .emptyBlock crosses (either.resolve_left crosses)⟩

/-- Nothing is refused before the quantizer of the picture parameter sets is settled. -/
structure ReachesPictureSets (config : Config) : Prop where
  gop : ¬ (config.fieldCoding = true ∧ config.gopSize = 0)
  long : config.gopSize + config.extraSets ≤ config.gopList.length
  leading : 0 < config.gopSize + config.extraSets →
    ∀ first, config.gopList[0]? = some first → first.prediction = .none
  lists : ∀ path, config.capabilities.scalingLists = true → config.scalingList ≠ .file path
  buffer : config.needsHrd = true → 0 < config.cpbSize
  active : ∃ active, config.defaultActiveReferences = .ok active

/-! ### What the steps come to -/

variable {config : Config} {id : Nat} {sps : Sps} {sets : List ReferenceSet} {fault : Fault}

/-- Of the depths that fit 32 bits, those from 17 bits on leave nothing of the range, except for the
upper half, which counts as negative. -/
theorem crossesBounds_iff (fits : config.bitDepthLuma < UInt32.size) :
    config.CrossesBounds ↔ config.capabilities.adaptPpsQp = true ∧
      17 ≤ config.bitDepthLuma ∧ config.bitDepthLuma < 2 ^ 31 := by
  have bounded : config.bitDepthLuma < 4294967296 := fits
  clear fits
  refine and_congr_right fun _ => ?_
  change 51 < 6 * (Int.bmod config.bitDepthLuma 4294967296 - 8) ↔ _
  rw [Int.bmod_def]
  omega

/-- Scaling lists can be set up unless they are to come from a file. -/
theorem exists_scalingListEnabled_iff :
    (∃ enabled, config.scalingListEnabled.outcome = .ok enabled) ↔
      ∀ path, config.capabilities.scalingLists = true → config.scalingList ≠ .file path := by
  unfold scalingListEnabled
  split
  · rename_i capable
    cases config.scalingList with
    | off => exact iff_of_true ⟨_, rfl⟩ (fun path _ => ScalingListMode.noConfusion)
    | default => exact iff_of_true ⟨_, rfl⟩ (fun path _ => ScalingListMode.noConfusion)
    | file path =>
      refine iff_of_false ?_ fun none => none path capable rfl
      rintro ⟨enabled, ⟨⟩⟩
  · rename_i incapable
    exact iff_of_true ⟨_, rfl⟩ fun path capable => absurd capable incapable

/-- Usability information can be built unless it needs a buffer and has none. -/
theorem exists_buildVui_iff :
    (∃ vui, config.buildVui.outcome = .ok vui) ↔ (config.needsHrd = true → 0 < config.cpbSize) := by
  unfold buildVui
  split
  · rename_i needed
    rw [Nat.pos_iff_ne_zero]
    simp only [Logged.outcome_bind_eq_ok_iff, outcome_deriveTiming]
    by_cases empty : config.cpbSize = 0
    · simp [empty, needed]
    · simp only [empty, if_false]
      refine iff_of_true ?_ (fun _ => empty)
      split <;> exact ⟨_, _, rfl, rfl⟩
  · rename_i unneeded
    exact iff_of_true ⟨_, rfl⟩ fun needed => absurd needed unneeded

/-- The sequence parameter set is built unless its scaling lists or its buffer are refused. -/
theorem exists_buildSps_iff :
    (∃ sps, (config.buildSps id sets).outcome = .ok sps) ↔
      (∀ path, config.capabilities.scalingLists = true → config.scalingList ≠ .file path) ∧
        (config.needsHrd = true → 0 < config.cpbSize) := by
  rw [← exists_scalingListEnabled_iff, ← exists_buildVui_iff]
  simp only [buildSps, Logged.outcome_bind_eq_ok_iff]
  constructor
  · rintro ⟨sps, enabled, lists, vui, usability, -⟩
    exact ⟨⟨enabled, lists⟩, vui, usability⟩
  · rintro ⟨⟨enabled, lists⟩, vui, usability⟩
    exact ⟨_, enabled, lists, vui, usability, (), rfl, rfl⟩

/-- Only crossed bounds leave the initial quantizer without a value. -/
theorem initQpMinus26?_eq_none_iff
    (range : sps.qpBdOffsetLuma = Sps.qpBdOffset config.bitDepthLuma) :
    config.initQpMinus26? sps = none ↔ config.CrossesBounds := by
  unfold initQpMinus26? CrossesBounds
  split
  · rename_i adapts
    rw [clamp?_eq_none_iff, range, and_iff_right adapts]
    omega
  · rename_i settled
    exact iff_of_false (Option.some_ne_none 0) fun crosses => settled crosses.1

/-- Checking tiles is a fault exactly for coding tree units without samples. -/
theorem checkTiles_eq_fault_iff :
    config.checkTiles = .error (.fault fault) ↔
      fault = .emptyBlock ∧ (config.maxCuSize.width = 0 ∨ config.maxCuSize.height = 0) := by
  unfold checkTiles
  by_cases empty : config.maxCuSize.width = 0 ∨ config.maxCuSize.height = 0
  · rw [if_pos empty, and_iff_left empty]
    constructor
    · rintro ⟨⟩
      rfl
    · rintro rfl
      rfl
  · rw [if_neg empty]
    exact iff_of_false (mapError_refused_ne_fault _) fun breaks => empty breaks.2

/-- A layout is refused for one of its directions. -/
theorem checkTileAxis_of_checkTiles {error : EncodeError}
    (refused : config.checkTiles = .error (.refused error)) :
    checkTileAxis .columns config.tiles.numColumnsMinus1 config.sizeInCtus.width
        config.tiles.uniformSpacing config.tiles.columnWidths = .error error ∨
      checkTileAxis .rows config.tiles.numRowsMinus1 config.sizeInCtus.height
        config.tiles.uniformSpacing config.tiles.rowHeights = .error error := by
  unfold checkTiles at refused
  dsimp only at refused
  split at refused
  · cases refused
  · cases columns : checkTileAxis .columns config.tiles.numColumnsMinus1 config.sizeInCtus.width
      config.tiles.uniformSpacing config.tiles.columnWidths with
    | error defect =>
      rw [columns] at refused
      cases refused
      exact .inl rfl
    | ok =>
      rw [columns] at refused
      change Except.mapError Stop.refused (checkTileAxis .rows ..) = _ at refused
      cases rows : checkTileAxis .rows config.tiles.numRowsMinus1 config.sizeInCtus.height
        config.tiles.uniformSpacing config.tiles.rowHeights with
      | error defect =>
        rw [rows] at refused
        cases refused
        exact .inr rfl
      | ok =>
        rw [rows] at refused
        cases refused

/-- Sizes that are too few are never added up: no sum of them is found too large, and none of them
small enough. -/
theorem checkTiles_of_missingSizes {axis : TileAxis}
    (missing : (config.tiles.given axis).2.length < (config.tiles.given axis).1) :
    (∀ total extent,
      config.checkTiles ≠ .error (.refused (.tileLayout axis (.noRoom total extent)))) ∧
    (config.tiles.uniformSpacing = false → config.checkTiles ≠ .ok ()) := by
  refine ⟨fun total extent refused => ?_, fun sized accepted => ?_⟩
  · rcases checkTileAxis_of_checkTiles refused with columns | rows
    · obtain ⟨rfl, enough⟩ := enough_of_noRoom columns
      exact Nat.not_lt_of_le enough missing
    · obtain ⟨rfl, enough⟩ := enough_of_noRoom rows
      exact Nat.not_lt_of_le enough missing
  · obtain ⟨-, columns, rows⟩ := checkTiles_eq_ok_iff.mp accepted
    rw [sized] at columns rows
    cases axis with
    | columns => exact Nat.not_lt_of_le (sum_take_lt_of_accepted columns).1 missing
    | rows => exact Nat.not_lt_of_le (sum_take_lt_of_accepted rows).1 missing

/-- Adding tiles is a fault exactly when the picture is measured in units of size zero. -/
theorem addTiles_eq_fault_iff {pps : Pps} :
    config.addTiles pps = .error (.fault fault) ↔
      fault = .emptyBlock ∧ config.MeasuresInNothing := by
  unfold addTiles MeasuresInNothing
  split
  · rename_i capable
    rw [and_iff_right capable, ← checkTiles_eq_fault_iff]
    cases config.checkTiles with
    | error stop =>
      constructor
      · rintro ⟨⟩
        rfl
      · rintro ⟨⟩
        rfl
    | ok => exact iff_of_false nofun nofun
  · rename_i incapable
    exact iff_of_false nofun fun breaks => incapable breaks.2.1

/-- What breaks does not depend on the id of the picture parameter set. -/
theorem pps?_eq_fault_iff (id : Nat)
    (range : sps.qpBdOffsetLuma = Sps.qpBdOffset config.bitDepthLuma) :
    config.pps? sps id = .error (.fault fault) ↔
      (∃ active, config.defaultActiveReferences = .ok active) ∧ config.Breaks fault := by
  unfold pps?
  cases config.defaultActiveReferences with
  | error failure => exact iff_of_false nofun nofun
  | ok active =>
    rw [and_iff_right ⟨active, rfl⟩]
    cases initial : config.initQpMinus26? sps with
    | none =>
      have crosses := (initQpMinus26?_eq_none_iff range).mp initial
      constructor
      · rintro ⟨⟩
        exact .crossedBounds crosses
      · rintro (_ | ⟨ordered, -⟩)
        · rfl
        · exact absurd crosses ordered
    | some initQp =>
      have ordered : ¬ config.CrossesBounds := by
        rw [← initQpMinus26?_eq_none_iff range, initial]
        exact Option.some_ne_none initQp
      refine addTiles_eq_fault_iff.trans ?_
      constructor
      · rintro ⟨rfl, empty⟩
        exact .emptyBlock ordered empty
      · rintro (crosses | ⟨-, empty⟩)
        · exact absurd crosses ordered
        · exact ⟨rfl, empty⟩

end Config

namespace Session

variable {κ γ η : Type} [CostEvaluator γ] {config : Config} {sps : Sps} {fault : Fault}

/-- The second picture parameter set breaks like the first one, so only the first one can. -/
theorem buildPpsStore_eq_fault_iff
    (range : sps.qpBdOffsetLuma = Sps.qpBdOffset config.bitDepthLuma) :
    (buildPpsStore config sps).outcome = .error (.fault fault) ↔
      (∃ active, config.defaultActiveReferences = .ok active) ∧ config.Breaks fault := by
  have breaks (id : Nat) : (config.buildPps sps id).outcome = .error (.fault fault) ↔
      (∃ active, config.defaultActiveReferences = .ok active) ∧ config.Breaks fault := by
    rw [← Config.pps?_eq_fault_iff id range]
    exact Logged.outcome_bind_eq_error_iff_of_ok fun pps => ⟨pps, rfl⟩
  unfold buildPpsStore
  rw [Logged.outcome_bind_eq_error_iff, breaks]
  constructor
  · rintro (first | ⟨pps, -, later⟩)
    · exact first
    · split at later
      · rw [Logged.outcome_bind_eq_error_iff_of_ok fun _ => ⟨_, rfl⟩] at later
        exact (breaks 1).mp later
      · cases later
  · exact .inl

/-- Creation breaks where its picture parameter sets do, once reference sets and sequence parameter
set are built. -/
theorem create_eq_fault_iff (config : Config) (own : κ) (factory : LaneFactory γ η)
    (fault : Fault) :
    (create config own factory).outcome = .error (.fault fault) ↔
      config.ReachesPictureSets ∧ config.Breaks fault := by
  unfold create
  split
  · rename_i fieldsWithoutGop
    exact iff_of_false nofun fun breaks => breaks.1.gop fieldsWithoutGop
  · rename_i gop
    constructor
    · intro broken
      obtain ⟨plan, planned, broken⟩ := Logged.outcome_refused_bind_eq_fault_iff.mp broken
      obtain ⟨sps, built, broken⟩ := Logged.outcome_refused_bind_eq_fault_iff.mp broken
      -- Making the lanes and reporting the session cannot fail.
      rw [Logged.outcome_bind_eq_error_iff_of_ok fun ppsStore => ⟨_, rfl⟩,
        buildPpsStore_eq_fault_iff (Config.settled_of_buildSps built).2] at broken
      obtain ⟨long, leading⟩ := ReferencePlan.exists_build_iff.mp ⟨plan, planned⟩
      obtain ⟨lists, buffer⟩ := Config.exists_buildSps_iff.mp ⟨sps, built⟩
      exact ⟨⟨gop, long, leading, lists, buffer, broken.1⟩, broken.2⟩
    · rintro ⟨reaches, breaks⟩
      obtain ⟨plan, planned⟩ := ReferencePlan.exists_build_iff.mpr ⟨reaches.long, reaches.leading⟩
      obtain ⟨sps, built⟩ := Config.exists_buildSps_iff.mpr ⟨reaches.lists, reaches.buffer⟩
      refine Logged.outcome_refused_bind_eq_fault_iff.mpr ⟨plan, planned, ?_⟩
      refine Logged.outcome_refused_bind_eq_fault_iff.mpr ⟨sps, built, ?_⟩
      rw [Logged.outcome_bind_eq_error_iff_of_ok fun ppsStore => ⟨_, rfl⟩,
        buildPpsStore_eq_fault_iff (Config.settled_of_buildSps built).2]
      exact ⟨reaches.active, breaks⟩

/-- A table that is too short is refused before it is read. -/
theorem create_of_short (own : κ) (factory : LaneFactory γ η)
    (short : config.gopList.length < config.gopSize + config.extraSets) :
    (create config own factory).outcome = .error (.refused
      (if config.fieldCoding = true ∧ config.gopSize = 0 then .invalidConfig .fieldsWithoutGop
      else .invalidGopEntry
        (.tooShort config.gopList.length (config.gopSize + config.extraSets)))) := by
  unfold create
  split
  · rfl
  · rw [Logged.outcome_bind, Logged.outcome_mapError, ReferencePlan.outcome_build, if_pos short]
    rfl

/-- Which configurations a session can be asked for. For every configuration, and whatever the
lanes are made of, creation gives a session or a refusal unless the configuration, with nothing to
be refused before, has its initial quantizer brought into a range without any value or its tiles
measured in empty units; then it is neither, for the first one of these reasons. The range is empty
from 17 bits on. A table that is too short is always refused, and tile sizes that are too few are
never added up. -/
theorem creation_answers_iff (config : Config) (own : κ) (factory : LaneFactory γ η) :
    let outcome := (create config own factory).outcome
    ((∃ session, outcome = .ok session) ∨ (∃ error, outcome = .error (.refused error)) ↔
      ¬ (config.ReachesPictureSets ∧ (config.CrossesBounds ∨ config.MeasuresInNothing))) ∧
    (∀ fault, outcome = .error (.fault fault) ↔
      config.ReachesPictureSets ∧ config.Breaks fault) ∧
    (config.bitDepthLuma < UInt32.size →
      (config.CrossesBounds ↔ config.capabilities.adaptPpsQp = true ∧
        17 ≤ config.bitDepthLuma ∧ config.bitDepthLuma < 2 ^ 31)) ∧
    (config.gopList.length < config.gopSize + config.extraSets →
      ∃ error, outcome = .error (.refused error)) ∧
    ∀ axis, (config.tiles.given axis).2.length < (config.tiles.given axis).1 →
      (∀ total extent,
        config.checkTiles ≠ .error (.refused (.tileLayout axis (.noRoom total extent)))) ∧
      (config.tiles.uniformSpacing = false → config.checkTiles ≠ .ok ()) := by
  intro outcome
  have breaks := create_eq_fault_iff config own factory
  refine ⟨?_, breaks, Config.crossesBounds_iff, fun short => ⟨_, create_of_short own factory short⟩,
    fun axis => Config.checkTiles_of_missingSizes⟩
  rw [← Config.exists_breaks_iff]
  constructor
  · rintro answers ⟨reaches, fault, broken⟩
    have faults : outcome = _ := (breaks fault).mpr ⟨reaches, broken⟩
    rw [faults] at answers
    rcases answers with ⟨session, ⟨⟩⟩ | ⟨error, ⟨⟩⟩
  · intro unbroken
    cases answer : outcome with
    | ok session => exact .inl ⟨session, rfl⟩
    | error stop =>
      cases stop with
      | refused error => exact .inr ⟨error, rfl⟩
      | fault fault =>
        obtain ⟨reaches, broken⟩ := (breaks fault).mp answer
        exact absurd ⟨reaches, fault, broken⟩ unbroken

/-- Samples of 17 bits, and coding tree units without a width, break the creation of a session. -/
theorem deepSamples_and_emptyUnits_break_creation :
    (create { smallConfig with bitDepthLuma := 17 } () plainFactory).outcome =
        .error (.fault .crossedBounds) ∧
      (create { smallConfig with maxCuSize := ⟨0, 64⟩ } () plainFactory).outcome =
        .error (.fault .emptyBlock) :=
  ⟨rfl, rfl⟩

end Session

end EncoderControl
