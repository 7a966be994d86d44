import EncoderControl.Picture
import Mathlib.Logic.ExistsUnique

/-!
# Activity layers cover the picture

A layer cuts the picture into partitions of one size, which halves from layer to layer. The size
need not be a power of two, nor need it divide the picture, so the last partitions in a direction
may reach beyond its edge. Still every sample lies in exactly one partition, and no partition lies
beyond the edge altogether: this holds at all depths and for coding tree units of any size, empty
ones included.

Partitions are counted in machine words. The count is repeated here with every step checked. A count
may be too large for its word, but no division is without an answer, and no shift goes further than
a word is long unless the depth does.
-/

namespace EncoderControl

/-! ### Blocks in one direction -/

/-- The blocks that cover an extent are those that start inside it. -/
theorem lt_blocksToCover_iff {extent block index : Nat} (positive : 0 < block) :
    index < blocksToCover extent block ↔ index * block < extent := by
  have enough : extent ≤ blocksToCover extent block * block := le_blocksToCover_mul positive
  have noneSpare : blocksToCover extent block * block < extent + block :=
    blocksToCover_mul_lt positive
  constructor
  · intro inside
    have complete : (index + 1) * block ≤ blocksToCover extent block * block :=
      Nat.mul_le_mul_right block inside
    rw [Nat.succ_mul] at complete
    omega
  · intro starts
    exact Nat.lt_of_mul_lt_mul_right (Nat.lt_of_lt_of_le starts enough)

/-- The block that a position falls in is one of those that cover the extent. -/
theorem div_lt_blocksToCover {extent block position : Nat} (positive : 0 < block)
    (inside : position < extent) : position / block < blocksToCover extent block :=
  (lt_blocksToCover_iff positive).mpr
    (Nat.lt_of_le_of_lt (Nat.div_mul_le_self position block) inside)

/-! ### Operations on machine words -/

namespace Word

/-- The value, if a word holds it. -/
def hold? (value : Nat) : Option Nat :=
  if value < UInt32.size then some value else none

/-- The difference, unless it is negative. -/
def sub? (value subtrahend : Nat) : Option Nat :=
  if subtrahend ≤ value then some (value - subtrahend) else none

/-- The quotient, unless the divisor is zero. -/
def div? (value divisor : Nat) : Option Nat :=
  if divisor = 0 then none else some (value / divisor)

/-- The value shifted to the right, by fewer bits than a word has. -/
def shiftRight? (value bits : Nat) : Option Nat :=
  if bits < 32 then some (value >>> bits) else none

/-- A word holds the values below its size. -/
theorem hold?_eq_some_iff {value held : Nat} :
    hold? value = some held ↔ value < UInt32.size ∧ value = held := by
  rw [hold?, Option.ite_none_right_eq_some, Option.some.injEq]

/-- `blocksToCover` in words. -/
def blocksToCover? (extent block : Nat) : Option Nat := do
  let total ← hold? (extent + block)
  let roundedUp ← sub? total 1
  div? roundedUp block

/-- Blocks can be counted in words if they are not empty and the sum that is divided fits. -/
theorem blocksToCover?_eq_some_iff {extent block count : Nat} :
    blocksToCover? extent block = some count ↔
      (0 < block ∧ extent + block < UInt32.size) ∧ blocksToCover extent block = count := by
  simp only [blocksToCover?, Option.bind_eq_bind, Option.bind_eq_some_iff, hold?_eq_some_iff,
    sub?, div?, Option.ite_none_right_eq_some, Option.ite_none_left_eq_some, Option.some.injEq]
  constructor
  · rintro ⟨_, ⟨fits, rfl⟩, _, ⟨-, rfl⟩, nonempty, rfl⟩
    exact ⟨⟨Nat.pos_of_ne_zero nonempty, fits⟩, rfl⟩
  · rintro ⟨⟨positive, fits⟩, rfl⟩
    exact ⟨_, ⟨fits, rfl⟩, _, ⟨by omega, rfl⟩, Nat.ne_of_gt positive, rfl⟩

end Word

namespace ActivityLayer

/-! ### Partitions and their activities -/

/-- Index of the activity of the partition in this column and row. Activities are kept row by
row. -/
def indexAt (layer : ActivityLayer) (column row : Nat) : Nat :=
  row * layer.numPartitions.width + column

/-- The sample at `x` and `y` lies in the partition in this column and row. -/
structure Holds (layer : ActivityLayer) (column row x y : Nat) : Prop where
  left : column * layer.partitionSize.width ≤ x
  right : x < column * layer.partitionSize.width + layer.partitionSize.width
  top : row * layer.partitionSize.height ≤ y
  bottom : y < row * layer.partitionSize.height + layer.partitionSize.height

/-- The partitions of the layer cut the picture up: there is neither a gap nor a spare partition,
and each partition has an activity of its own. -/
structure Covers (layer : ActivityLayer) (picture : Resolution) : Prop where
  /-- Every sample lies in one partition only, and its coordinates tell in which one. -/
  holds_iff : ∀ x < picture.width, ∀ y < picture.height, ∀ column row,
    layer.Holds column row x y ↔
      column = x / layer.partitionSize.width ∧ row = y / layer.partitionSize.height
  /-- The partition that a sample lies in is one of the layer, and has an activity. -/
  present : ∀ x < picture.width, ∀ y < picture.height,
    x / layer.partitionSize.width < layer.numPartitions.width ∧
      y / layer.partitionSize.height < layer.numPartitions.height ∧
      layer.indexAt (x / layer.partitionSize.width) (y / layer.partitionSize.height) <
        layer.activity.size
  /-- Every partition holds a sample of the picture. -/
  occupied : ∀ column < layer.numPartitions.width, ∀ row < layer.numPartitions.height,
    ∃ x < picture.width, ∃ y < picture.height, layer.Holds column row x y
  /-- Every activity is that of one partition only. -/
  numbered : ∀ index < layer.activity.size, ∃! place : Nat × Nat,
    place.1 < layer.numPartitions.width ∧ place.2 < layer.numPartitions.height ∧
      layer.indexAt place.1 place.2 = index

section Partitions

variable (layer : ActivityLayer)

/-- Dividing its coordinates by the size of a partition tells where a sample lies. -/
theorem holds_iff_div (width : 0 < layer.partitionSize.width)
    (height : 0 < layer.partitionSize.height) (column row x y : Nat) :
    layer.Holds column row x y ↔
      column = x / layer.partitionSize.width ∧ row = y / layer.partitionSize.height := by
  rw [eq_comm (a := column), eq_comm (a := row), Nat.div_eq_iff width, Nat.div_eq_iff height]
  constructor
  · rintro ⟨left, right, top, bottom⟩
    omega
  · rintro ⟨⟨left, right⟩, top, bottom⟩
    exact ⟨left, by omega, top, by omega⟩

/-- An index is split into column and row by the number of columns. -/
theorem indexAt_eq_iff {column row index : Nat} (inRow : column < layer.numPartitions.width) :
    layer.indexAt column row = index ↔
      index / layer.numPartitions.width = row ∧ index % layer.numPartitions.width = column := by
  rw [Nat.div_mod_unique (Nat.zero_lt_of_lt inRow), and_iff_left inRow, indexAt, Nat.mul_comm,
    Nat.add_comm]

/-- The index of a partition of the layer is below their number. -/
theorem indexAt_lt_area {column row : Nat} (inRow : column < layer.numPartitions.width)
    (inLayer : row < layer.numPartitions.height) :
    layer.indexAt column row < layer.numPartitions.area := by
  have split := ((layer.indexAt_eq_iff inRow).mp (rfl : layer.indexAt column row = _)).1
  rw [Resolution.area, Nat.mul_comm, ← Nat.div_lt_iff_lt_mul (Nat.zero_lt_of_lt inRow), split]
  exact inLayer

/-- Every index below the number of partitions is that of one partition only. -/
theorem existsUnique_indexAt {index : Nat} (inRange : index < layer.numPartitions.area) :
    ∃! place : Nat × Nat, place.1 < layer.numPartitions.width ∧
      place.2 < layer.numPartitions.height ∧ layer.indexAt place.1 place.2 = index := by
  have someColumns : 0 < layer.numPartitions.width := by
    refine Nat.pos_of_ne_zero fun noColumns => ?_
    rw [Resolution.area, noColumns, Nat.zero_mul] at inRange
    exact Nat.not_lt_zero index inRange
  have inRow : index % layer.numPartitions.width < layer.numPartitions.width :=
    Nat.mod_lt index someColumns
  refine ⟨(index % layer.numPartitions.width, index / layer.numPartitions.width),
    ⟨inRow, ?_, (layer.indexAt_eq_iff inRow).mpr ⟨rfl, rfl⟩⟩, ?_⟩
  · rw [Nat.div_lt_iff_lt_mul someColumns, Nat.mul_comm]
    exact inRange
  · rintro ⟨column, row⟩ ⟨columnInRow, -, isIndex⟩
    obtain ⟨rowIs, columnIs⟩ := (layer.indexAt_eq_iff columnInRow).mp isIndex
    rw [rowIs, columnIs]

end Partitions

/-! ### Every layer covers the picture -/

section Layers

variable {picture partitionSize : Resolution}

/-- There is one activity for each partition. -/
theorem size_activity_ofPartitions (picture partitionSize : Resolution) :
    (ofPartitions picture partitionSize).activity.size =
      (ofPartitions picture partitionSize).numPartitions.area :=
  Array.size_replicate

/-- Partitions that are not empty cover a picture of any size. -/
theorem covers_ofPartitions (width : 0 < partitionSize.width) (height : 0 < partitionSize.height) :
    (ofPartitions picture partitionSize).Covers picture where
  holds_iff x _ y _ column row := holds_iff_div _ width height column row x y
  present x inWidth y inHeight := by
    have column : x / partitionSize.width < blocksToCover picture.width partitionSize.width :=
      div_lt_blocksToCover width inWidth
    have row : y / partitionSize.height < blocksToCover picture.height partitionSize.height :=
      div_lt_blocksToCover height inHeight
    rw [size_activity_ofPartitions]
    exact ⟨column, row, indexAt_lt_area _ column row⟩
  occupied column inRow row inLayer := by
    -- The sample in the upper left corner of a partition is one of the picture.
    have inWidth : column * partitionSize.width < picture.width :=
      (lt_blocksToCover_iff width).mp inRow
    have inHeight : row * partitionSize.height < picture.height :=
      (lt_blocksToCover_iff height).mp inLayer
    exact ⟨_, inWidth, _, inHeight, Nat.le_refl _, Nat.lt_add_of_pos_right width, Nat.le_refl _,
      Nat.lt_add_of_pos_right height⟩
  numbered index inRange := by
    rw [size_activity_ofPartitions] at inRange
    exact existsUnique_indexAt _ inRange

/-- Partitions are not empty at any depth, not even those of an empty coding tree unit. -/
theorem partitionAt_positive (ctu : Resolution) (depth : Nat) :
    0 < (partitionAt ctu depth).width ∧ 0 < (partitionAt ctu depth).height :=
  ⟨Nat.le_max_left .., Nat.le_max_left ..⟩

/-- The layers of a picture are those of the depths down to the deepest. -/
theorem getElem?_allOf_eq_some_iff {sps : Sps} {pps : Pps} {depth : Nat} {layer : ActivityLayer} :
    (allOf sps pps)[depth]? = some layer ↔ depth ≤ pps.maxCuDeltaQpDepth ∧
      ofPartitions sps.resolution (partitionAt sps.maxCuSize depth) = layer := by
  rw [allOf, List.getElem?_map, Option.map_eq_some_iff]
  simp only [List.getElem?_eq_some_iff, List.getElem_range, List.length_range, exists_prop]
  constructor
  · rintro ⟨_, ⟨inRange, rfl⟩, rfl⟩
    exact ⟨Nat.le_of_lt_succ inRange, rfl⟩
  · rintro ⟨notDeeper, rfl⟩
    exact ⟨depth, ⟨Nat.lt_succ_of_le notDeeper, rfl⟩, rfl⟩

end Layers

/-! ### Layers in machine words -/

/-- `partitionAt` in words. -/
def partitionInWords? (ctu : Resolution) (depth : Nat) : Option Resolution := do
  let width ← Word.shiftRight? ctu.width depth
  let height ← Word.shiftRight? ctu.height depth
  pure ⟨max 1 width, max 1 height⟩

/-- `ofPartitions` in words. -/
def layerInWords? (picture partitionSize : Resolution) : Option ActivityLayer := do
  let columns ← Word.blocksToCover? picture.width partitionSize.width
  let rows ← Word.blocksToCover? picture.height partitionSize.height
  let count ← Word.hold? (columns * rows)
  pure
    { partitionSize := partitionSize
      numPartitions := ⟨columns, rows⟩
      activity := Array.replicate count 0.0
      averageActivity := 0.0 }

/-- The layers of the first `count` depths in words, one after the other. -/
def layersInWords? (sps : Sps) : (count : Nat) → Option (List ActivityLayer)
  | 0 => some []
  | depth + 1 => do
    let earlier ← layersInWords? sps depth
    let partitionSize ← partitionInWords? sps.maxCuSize depth
    let layer ← layerInWords? sps.resolution partitionSize
    pure (earlier ++ [layer])

/-- The counts of a layer fit machine words, and so do the sums on the way to them. -/
structure CountsFit (picture partitionSize : Resolution) : Prop where
  columns : picture.width + partitionSize.width < UInt32.size
  rows : picture.height + partitionSize.height < UInt32.size
  all : (picture.inBlocksOf partitionSize).area < UInt32.size

section Words

variable {picture partitionSize : Resolution} {layer : ActivityLayer}
  {layers : List ActivityLayer}

/-- `CountsFit` as a conjunction, which can be decided. -/
theorem countsFit_iff : CountsFit picture partitionSize ↔
    picture.width + partitionSize.width < UInt32.size ∧
      picture.height + partitionSize.height < UInt32.size ∧
      (picture.inBlocksOf partitionSize).area < UInt32.size :=
  ⟨fun fits => ⟨fits.columns, fits.rows, fits.all⟩, fun ⟨columns, rows, all⟩ =>
    ⟨columns, rows, all⟩⟩

instance : Decidable (CountsFit picture partitionSize) :=
  decidable_of_iff _ countsFit_iff.symm

/-- At a depth within a word partitions are found in words as well. -/
theorem partitionInWords?_of_shallow {depth : Nat} (shallow : depth < 32) (ctu : Resolution) :
    partitionInWords? ctu depth = some (partitionAt ctu depth) := by
  simp only [partitionInWords?, Word.shiftRight?, if_pos shallow]
  rfl

/-- Partitions that are not empty can be counted in words if the counts fit. -/
theorem layerInWords?_eq_some_iff (width : 0 < partitionSize.width)
    (height : 0 < partitionSize.height) :
    layerInWords? picture partitionSize = some layer ↔
      CountsFit picture partitionSize ∧ ofPartitions picture partitionSize = layer := by
  simp only [layerInWords?, Option.bind_eq_bind, Option.bind_eq_some_iff, Word.hold?_eq_some_iff,
    Word.blocksToCover?_eq_some_iff, Option.pure_def, Option.some.injEq]
  constructor
  · rintro ⟨_, ⟨⟨-, columns⟩, rfl⟩, _, ⟨⟨-, rows⟩, rfl⟩, _, ⟨all, rfl⟩, rfl⟩
    exact ⟨⟨columns, rows, all⟩, rfl⟩
  · rintro ⟨⟨columns, rows, all⟩, rfl⟩
    exact ⟨_, ⟨⟨width, columns⟩, rfl⟩, _, ⟨⟨height, rows⟩, rfl⟩, _, ⟨all, rfl⟩, rfl⟩

/-- The layers of depths within a word can all be made in words if all their counts fit. -/
theorem layersInWords?_eq_some_iff {sps : Sps} {count : Nat} (shallow : count ≤ 32) :
    layersInWords? sps count = some layers ↔
      (∀ depth < count, CountsFit sps.resolution (partitionAt sps.maxCuSize depth)) ∧
        (List.range count).map (fun depth =>
          ofPartitions sps.resolution (partitionAt sps.maxCuSize depth)) = layers := by
  -- The layers made so far are any list of which the statement holds already, so it is generalized.
  induction count generalizing layers with
  | zero => simp [layersInWords?]
  | succ depth inductionHypothesis =>
    obtain ⟨width, height⟩ := partitionAt_positive sps.maxCuSize depth
    have inWord : depth < 32 := shallow
    simp only [layersInWords?, partitionInWords?_of_shallow inWord, Option.bind_eq_bind,
      Option.bind_some, Option.bind_eq_some_iff, layerInWords?_eq_some_iff width height,
      inductionHypothesis (Nat.le_of_lt inWord), Option.pure_def, Option.some.injEq,
      List.range_succ, List.map_append, List.map_singleton, Nat.forall_lt_succ_right]
    constructor
    · rintro ⟨_, ⟨earlier, rfl⟩, _, ⟨fits, rfl⟩, rfl⟩
      exact ⟨⟨earlier, fits⟩, rfl⟩
    · rintro ⟨⟨earlier, fits⟩, rfl⟩
      exact ⟨_, ⟨earlier, rfl⟩, _, ⟨fits, rfl⟩, rfl⟩

/-- Only as many layers can be made in words as a word has bits. -/
theorem le_of_layersInWords? {sps : Sps} {count : Nat}
    (made : layersInWords? sps count = some layers) : count ≤ 32 := by
  cases count with
  | zero => exact Nat.zero_le 32
  | succ depth =>
    simp only [layersInWords?, partitionInWords?, Word.shiftRight?, Option.bind_eq_bind,
      Option.bind_eq_some_iff, Option.ite_none_right_eq_some] at made
    obtain ⟨-, -, -, ⟨-, ⟨inWord, -⟩, -⟩, -⟩ := made
    exact inWord

/-- The layers of a picture can be made in words if no depth is beyond a word and all counts fit. -/
theorem isSome_layersInWords?_iff (sps : Sps) (count : Nat) :
    (layersInWords? sps count).isSome = true ↔
      count ≤ 32 ∧ ∀ depth < count, CountsFit sps.resolution (partitionAt sps.maxCuSize depth) := by
  rw [Option.isSome_iff_exists]
  constructor
  · rintro ⟨layers, made⟩
    have shallow := le_of_layersInWords? made
    exact ⟨shallow, ((layersInWords?_eq_some_iff shallow).mp made).1⟩
  · rintro ⟨shallow, fit⟩
    exact ⟨_, (layersInWords?_eq_some_iff shallow).mpr ⟨fit, rfl⟩⟩

end Words

end ActivityLayer

namespace Picture

/-- A picture with adaptive quantization has one activity layer for each depth of quantizer changes.
The partitions of a layer are coding tree units divided as often, down to single samples. None is
empty, and they cover the picture. In machine words the same layers come out exactly if all their
counts fit. -/
theorem activity_layers_cover_picture (sps : Sps) (pps : Pps)
    (shallow : pps.maxCuDeltaQpDepth ≤ 31) :
    let layers := (ofSets sps pps true).activityLayers
    layers.length = pps.maxCuDeltaQpDepth + 1 ∧
      (∀ depth layer, layers[depth]? = some layer →
        layer.partitionSize.width = max 1 (sps.maxCuSize.width >>> depth) ∧
          layer.partitionSize.height = max 1 (sps.maxCuSize.height >>> depth) ∧
          ActivityLayer.ofPartitions? sps.resolution layer.partitionSize = some layer ∧
          layer.Covers sps.resolution) ∧
      (ActivityLayer.layersInWords? sps (pps.maxCuDeltaQpDepth + 1) = some layers ↔
        ∀ layer ∈ layers, ActivityLayer.CountsFit sps.resolution layer.partitionSize) := by
  intro layers
  have layersAre : layers = ActivityLayer.allOf sps pps := rfl
  refine ⟨?_, ?_, ?_⟩
  · rw [layersAre, ActivityLayer.allOf, List.length_map, List.length_range]
  · intro depth layer isLayer
    obtain ⟨-, rfl⟩ := ActivityLayer.getElem?_allOf_eq_some_iff.mp isLayer
    obtain ⟨width, height⟩ := ActivityLayer.partitionAt_positive sps.maxCuSize depth
    have nonempty := not_or.mpr ⟨Nat.ne_of_gt width, Nat.ne_of_gt height⟩
    exact ⟨rfl, rfl, if_neg nonempty, ActivityLayer.covers_ofPartitions width height⟩
  · rw [ActivityLayer.layersInWords?_eq_some_iff (Nat.succ_le_succ shallow), layersAre,
      ActivityLayer.allOf, and_iff_left rfl, List.forall_mem_map]
    simp only [List.mem_range]
    exact Iff.rfl

/-- A picture of 100 by 50 samples in coding tree units of 24 by 3. -/
def unevenUnits : Sps where
  resolution := ⟨100, 50⟩
  maxCuSize := ⟨24, 3⟩

/-- Quantizers change down to units that are divided five times. -/
def deepChanges : Pps where
  maxCuDeltaQpDepth := 5

/-- Of the widths only the last two divide that of the picture. -/
theorem activity_layers_cover_picture_unevenUnits :
    let layers := (ofSets unevenUnits deepChanges true).activityLayers
    deepChanges.maxCuDeltaQpDepth ≤ 31 ∧ layers.length = 6 ∧
      layers.map ActivityLayer.partitionSize =
        [⟨24, 3⟩, ⟨12, 1⟩, ⟨6, 1⟩, ⟨3, 1⟩, ⟨1, 1⟩, ⟨1, 1⟩] ∧
      layers.map ActivityLayer.numPartitions =
        [⟨5, 17⟩, ⟨9, 50⟩, ⟨17, 50⟩, ⟨34, 50⟩, ⟨100, 50⟩, ⟨100, 50⟩] ∧
      (∀ layer ∈ layers, layer.Covers ⟨100, 50⟩) ∧
      ActivityLayer.layersInWords? unevenUnits 6 = some layers := by
  intro layers
  have shallow : deepChanges.maxCuDeltaQpDepth ≤ 31 := by decide
  obtain ⟨length, each, inWords⟩ := activity_layers_cover_picture unevenUnits deepChanges shallow
  refine ⟨shallow, length, by decide, by decide, ?_, inWords.mpr (by decide)⟩
  intro layer member
  obtain ⟨depth, isLayer⟩ := List.mem_iff_getElem?.mp member
  exact (each depth layer isLayer).2.2.2

end Picture

end EncoderControl
