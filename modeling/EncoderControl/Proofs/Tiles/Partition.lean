import EncoderControl.Config.Tiles
import Mathlib.Algebra.GroupWithZero.Nat

/-!
# Tile layouts as partitions

A layout is accepted by comparing numbers and sums, never by looking at the tiles that it makes. For
most of what a partition is, that is enough: the columns and rows of an accepted layout come in the
number asked for and add up to the picture, and the last of them is not empty. What no sum shows is
a size of zero among those that were given. The layout is a partition exactly when there is none.
-/

namespace EncoderControl

/-- Sizes of the tiles in one direction: those that are given, and the last one, which takes the
rest. -/
def tileExtents (countMinus1 extent : Nat) (sizes : List Nat) : List Nat :=
  let given := sizes.take countMinus1
  given ++ [extent - given.sum]

/-- As many tiles as asked for fill the picture in one direction, and the last one has a part of
it. -/
structure FillsExtent (tiles : List Nat) (count extent : Nat) : Prop where
  counted : tiles.length = count
  total : tiles.sum = extent
  last : ∀ size ∈ tiles.getLast?, 1 ≤ size

/-- The tiles cut the picture up in one direction, and none of them is empty. -/
structure PartitionsExtent (tiles : List Nat) (count extent : Nat) : Prop extends
    FillsExtent tiles count extent where
  positive : ∀ size ∈ tiles, 1 ≤ size

section Axis

variable {axis : TileAxis} {countMinus1 extent : Nat} {uniform : Bool} {sizes : List Nat}

/-- A direction is accepted for its numbers, and for the sum of the sizes unless they are
uniform. -/
theorem checkTileAxis_eq_ok_iff :
    checkTileAxis axis countMinus1 extent uniform sizes = .ok () ↔
      countMinus1 < maxTiles ∧ countMinus1 < extent ∧
        (uniform = false → 0 < countMinus1 →
          countMinus1 ≤ sizes.length ∧ (sizes.take countMinus1).sum < extent) := by
  have sum : (sizes.take countMinus1).foldr (· + ·) 0 = (sizes.take countMinus1).sum := rfl
  unfold checkTileAxis
  rw [sum]
  constructor
  · intro accepted
    split at accepted
    · cases accepted
    split at accepted
    · cases accepted
    rename_i few fits
    refine ⟨Nat.lt_of_not_le few, Nat.lt_of_not_le fits, fun notUniform someGiven => ?_⟩
    rw [if_neg (by simp [notUniform, Nat.ne_of_gt someGiven])] at accepted
    split at accepted
    · cases accepted
    split at accepted
    · cases accepted
    rename_i enough room
    exact ⟨Nat.le_of_not_lt enough, Nat.lt_of_not_le room⟩
  · rintro ⟨few, fits, sized⟩
    rw [if_neg (Nat.not_le_of_lt few), if_neg (Nat.not_le_of_lt fits)]
    split
    · rfl
    · rename_i given
      rw [not_or, Bool.not_eq_true] at given
      obtain ⟨enough, room⟩ := sized given.1 (Nat.pos_of_ne_zero given.2)
      rw [if_neg (Nat.not_lt_of_le enough), if_neg (Nat.not_le_of_lt room)]

/-- The sizes of an accepted direction leave room for the last tile, also when there are none. -/
theorem sum_take_lt_of_accepted
    (accepted : checkTileAxis axis countMinus1 extent false sizes = .ok ()) :
    countMinus1 ≤ sizes.length ∧ (sizes.take countMinus1).sum < extent := by
  obtain ⟨-, fits, sized⟩ := checkTileAxis_eq_ok_iff.mp accepted
  rcases Nat.eq_zero_or_pos countMinus1 with rfl | someGiven
  · exact ⟨Nat.zero_le _, fits⟩
  · exact sized rfl someGiven

/-- The tiles of an accepted direction fill the picture. -/
theorem fillsExtent_of_accepted
    (accepted : checkTileAxis axis countMinus1 extent false sizes = .ok ()) :
    FillsExtent (tileExtents countMinus1 extent sizes) (countMinus1 + 1) extent := by
  obtain ⟨enough, room⟩ := sum_take_lt_of_accepted accepted
  constructor
  · rw [tileExtents, List.length_append, List.length_take_of_le enough, List.length_singleton]
  · rw [tileExtents, List.sum_append, List.sum_singleton, Nat.add_sub_of_le (Nat.le_of_lt room)]
  · intro size isLast
    rw [tileExtents, List.getLast?_concat, Option.mem_some_iff] at isLast
    omega

/-- The tiles of an accepted direction are all there but for those that were given no size. -/
theorem partitionsExtent_iff_of_accepted
    (accepted : checkTileAxis axis countMinus1 extent false sizes = .ok ()) :
    PartitionsExtent (tileExtents countMinus1 extent sizes) (countMinus1 + 1) extent ↔
      0 ∉ sizes.take countMinus1 := by
  have fills := fillsExtent_of_accepted accepted
  constructor
  · intro partitions empty
    have positive := partitions.positive 0 (List.mem_append_left _ empty)
    exact absurd positive (Nat.not_succ_le_zero 0)
  · intro noneEmpty
    refine ⟨fills, fun size member => ?_⟩
    rcases List.mem_append.mp member with given | last
    · exact Nat.pos_of_ne_zero fun empty => noneEmpty (empty ▸ given)
    · apply fills.last
      rw [tileExtents, List.getLast?_concat, List.mem_singleton.mp last]
      exact rfl

end Axis

namespace Config

/-- Widths of the tile columns in coding tree units. -/
def tileColumns (config : Config) : List Nat :=
  tileExtents config.tiles.numColumnsMinus1 config.sizeInCtus.width config.tiles.columnWidths

/-- Heights of the tile rows in coding tree units. -/
def tileRows (config : Config) : List Nat :=
  tileExtents config.tiles.numRowsMinus1 config.sizeInCtus.height config.tiles.rowHeights

/-- A layout is accepted when it is in both directions. -/
theorem checkTiles_eq_ok_iff {config : Config} :
    config.checkTiles = .ok () ↔
      (config.maxCuSize.width ≠ 0 ∧ config.maxCuSize.height ≠ 0) ∧
        checkTileAxis .columns config.tiles.numColumnsMinus1 config.sizeInCtus.width
          config.tiles.uniformSpacing config.tiles.columnWidths = .ok () ∧
        checkTileAxis .rows config.tiles.numRowsMinus1 config.sizeInCtus.height
          config.tiles.uniformSpacing config.tiles.rowHeights = .ok () := by
  unfold checkTiles
  by_cases noUnits : config.maxCuSize.width = 0 ∨ config.maxCuSize.height = 0
  · rw [if_pos noUnits]
    simp [← not_or, noUnits]
  · rw [if_neg noUnits]
    rw [not_or] at noUnits
    rw [and_iff_right noUnits]
    cases checkTileAxis .columns config.tiles.numColumnsMinus1 config.sizeInCtus.width
      config.tiles.uniformSpacing config.tiles.columnWidths with
    | error defect => exact iff_of_false nofun fun same => nomatch same.1
    | ok =>
      cases checkTileAxis .rows config.tiles.numRowsMinus1 config.sizeInCtus.height
        config.tiles.uniformSpacing config.tiles.rowHeights with
      | error defect => exact iff_of_false nofun fun same => nomatch same.2
      | ok => exact iff_of_true rfl ⟨rfl, rfl⟩

/-- An accepted layout fills the picture, and partitions it unless it has tiles of size zero. Where
sizes are given, there are as many columns as asked for, their widths add up to the picture, and the
last one has at least one unit; none of them is empty if and only if none of the widths that were
given for them is zero. The same holds of the rows. Where tiles are uniform the picture has at least
one unit for each column and for each row. -/
theorem accepted_layout_partitions_iff (config : Config)
    (accepted : config.checkTiles = .ok ()) :
    (config.tiles.uniformSpacing = false →
      let columns := config.tiles.numColumnsMinus1 + 1
      let rows := config.tiles.numRowsMinus1 + 1
      FillsExtent config.tileColumns columns config.sizeInCtus.width ∧
        FillsExtent config.tileRows rows config.sizeInCtus.height ∧
        (PartitionsExtent config.tileColumns columns config.sizeInCtus.width ↔
          0 ∉ config.tiles.columnWidths.take config.tiles.numColumnsMinus1) ∧
        (PartitionsExtent config.tileRows rows config.sizeInCtus.height ↔
          0 ∉ config.tiles.rowHeights.take config.tiles.numRowsMinus1)) ∧
      config.tiles.numColumnsMinus1 + 1 ≤ config.sizeInCtus.width ∧
      config.tiles.numRowsMinus1 + 1 ≤ config.sizeInCtus.height := by
  obtain ⟨-, columns, rows⟩ := checkTiles_eq_ok_iff.mp accepted
  refine ⟨fun sized => ?_, (checkTileAxis_eq_ok_iff.mp columns).2.1,
    (checkTileAxis_eq_ok_iff.mp rows).2.1⟩
  rw [sized] at columns rows
  exact ⟨fillsExtent_of_accepted columns, fillsExtent_of_accepted rows,
    partitionsExtent_iff_of_accepted columns, partitionsExtent_iff_of_accepted rows⟩

/-- A picture of 7 by 4 units in three columns and two rows of different sizes. -/
def unevenLayout : Config where
  tiles := { numColumnsMinus1 := 2, numRowsMinus1 := 1, columnWidths := [3, 2], rowHeights := [1] }

/-- The columns of this layout are 3, 2 and 2 units wide, its rows 1 and 3 units high. -/
theorem accepted_layout_partitions_iff_unevenLayout :
    unevenLayout.checkTiles = .ok () ∧ unevenLayout.tileColumns = [3, 2, 2] ∧
      unevenLayout.tileRows = [1, 3] ∧ PartitionsExtent unevenLayout.tileColumns 3 7 ∧
      PartitionsExtent unevenLayout.tileRows 2 4 := by
  have accepted : unevenLayout.checkTiles = .ok () := rfl
  obtain ⟨-, -, columns, rows⟩ := (accepted_layout_partitions_iff unevenLayout accepted).1 rfl
  exact ⟨accepted, rfl, rfl, columns.mpr (by decide), rows.mpr (by decide)⟩

/-- The same picture in two columns, the first of which is given no width. -/
def emptyColumnLayout : Config where
  tiles := { numColumnsMinus1 := 1, columnWidths := [0] }

/-- An empty column is accepted: the picture is not partitioned by a layout that passes. -/
theorem emptyColumnLayout_accepted :
    emptyColumnLayout.checkTiles = .ok () ∧ emptyColumnLayout.tiles.uniformSpacing = false ∧
      emptyColumnLayout.tileColumns = [0, 7] ∧
      ¬PartitionsExtent emptyColumnLayout.tileColumns
        (emptyColumnLayout.tiles.numColumnsMinus1 + 1) emptyColumnLayout.sizeInCtus.width := by
  refine ⟨rfl, rfl, rfl, fun partitions => ?_⟩
  exact absurd (partitions.positive 0 (by decide)) (by decide)

end Config

end EncoderControl
