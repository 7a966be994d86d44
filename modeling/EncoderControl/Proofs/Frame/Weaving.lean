import Mathlib.Data.List.Basic
import Mathlib.Tactic.Ring
import EncoderControl.Proofs.Frame.Separation

/-!
# Weaving fields

The two fields of a frame hold its lines by turns, so that weaving them should give the frame back.
Separation pairs the lines up and leaves out a line without a partner. A picture of even height
still has such lines: its chroma planes have an odd height when it is even only once, and then the
last chroma line of the top field, for which there is a place, stays blank. What is said here is
what the fields do hold, and exactly when nothing is lost.
-/

namespace EncoderControl

namespace Plane

/-- Samples of the line with this index, in a plane whose lines are `width` samples long. -/
def line (plane : Plane) (width index : Nat) : List UInt16 :=
  (plane.toList.drop (index * width)).take width

/-- A line whose samples are all zero. -/
def blankLine (width : Nat) : List UInt16 :=
  List.replicate width 0

/-- The plane of `height` lines that are those of `top` and of `bottom` by turns. -/
def weave (top bottom : Plane) (width height : Nat) : Plane :=
  ((List.range height).flatMap fun index =>
    (if index % 2 = 0 then top else bottom).line width (index / 2)).toArray

/-- The lines of `field` are the lines 0, 2, 4, … of the frame's plane `source`, or 1, 3, 5, … if it
is the bottom field, as far as that plane has them. -/
def HasAlternateLines (field source : Plane) (width height : Nat) (top : Bool) : Prop :=
  ∀ index, 2 * index + (if top then 0 else 1) < height →
    field.line width index = source.line width (2 * index + if top then 0 else 1)

/-- The last line has a partner, or there is nothing to be lost with it. -/
def LastLineDispensable (source : Plane) (width height : Nat) : Prop :=
  height % 2 = 0 ∨ source.line width (height - 1) = blankLine width

instance (source : Plane) (width height : Nat) :
    Decidable (LastLineDispensable source width height) :=
  inferInstanceAs (Decidable (_ ∨ _))

section Lines

variable {source upper lower : Plane} {width height : Nat}

/-- A plane consists of its lines. -/
theorem flatMap_line (plane : Plane) (width height : Nat) :
    ((List.range height).flatMap fun index => plane.line width index) =
      plane.toList.take (height * width) := by
  induction height with
  | zero => simp
  | succ height inductionHypothesis =>
    rw [List.range_succ, List.flatMap_append, inductionHypothesis, Nat.succ_mul, List.take_add]
    simp [line]

/-- A plane is the sequence of its lines. -/
theorem toArray_flatMap_line (size : source.size = height * width) :
    ((List.range height).flatMap fun index => source.line width index).toArray = source := by
  rw [flatMap_line, List.take_of_length_le (by simp [size])]

/-- Planes with the same samples on a line have the same line. -/
theorem line_eq_of_getElem? {first second : Plane} {one other : Nat}
    (same : ∀ x < width, first[one * width + x]? = second[other * width + x]?) :
    first.line width one = second.line width other := by
  refine List.ext_getElem? fun x => ?_
  rw [line, line, List.getElem?_take, List.getElem?_take]
  split
  · rename_i inLine
    rw [List.getElem?_drop, List.getElem?_drop, Array.getElem?_toList, Array.getElem?_toList]
    exact same x inLine
  · rfl

/-- What separation leaves of a plane: the fields hold the lines that have a partner, and a line
without one is blank in the top field. -/
structure PairsSeparated (source upper lower : Plane) (width height : Nat) : Prop where
  top : ∀ index < height / 2, upper.line width index = source.line width (2 * index)
  bottom : ∀ index < height / 2, lower.line width index = source.line width (2 * index + 1)
  unpaired : height % 2 = 1 → upper.line width (height / 2) = blankLine width

namespace PairsSeparated

variable (separated : PairsSeparated source upper lower width height)

include separated

/-- The bottom field has all of its lines. -/
theorem hasAlternateLines_bottom : HasAlternateLines lower source width height false := by
  intro index inside
  simp only [Bool.false_eq_true, if_false] at inside ⊢
  exact separated.bottom index (by omega)

/-- The top field has all of its lines, unless the last one lacks a partner and is not blank. -/
theorem hasAlternateLines_top_iff :
    HasAlternateLines upper source width height true ↔ LastLineDispensable source width height := by
  simp only [HasAlternateLines, if_true, Nat.add_zero]
  constructor
  · intro all
    rcases Nat.mod_two_eq_zero_or_one height with paired | odd
    · exact .inl paired
    · have last := all (height / 2) (by omega)
      rw [separated.unpaired odd, show 2 * (height / 2) = height - 1 by omega] at last
      exact .inr last.symm
  · intro dispensable index inside
    by_cases hasPartner : index < height / 2
    · exact separated.top index hasPartner
    · have odd : height % 2 = 1 := by omega
      have blank := dispensable.resolve_left (by omega)
      rw [show index = height / 2 by omega, separated.unpaired odd,
        show 2 * (height / 2) = height - 1 by omega, blank]

/-- Lines with a partner come back by turns. -/
theorem turn_eq {index : Nat} (hasPartner : index / 2 < height / 2) :
    (if index % 2 = 0 then upper else lower).line width (index / 2) = source.line width index := by
  split
  · rw [separated.top _ hasPartner, show 2 * (index / 2) = index by omega]
  · rw [separated.bottom _ hasPartner, show 2 * (index / 2) + 1 = index by omega]

/-- Weaving gives the plane back, unless its last line is lost. -/
theorem weave_eq_iff (size : source.size = height * width) :
    weave upper lower width height = source ↔ LastLineDispensable source width height := by
  have whole := toArray_flatMap_line size
  rcases Nat.mod_two_eq_zero_or_one height with paired | odd
  · refine iff_of_true ?_ (.inl paired)
    rw [weave, List.flatMap_congr fun index member => separated.turn_eq ?_, whole]
    have inside := List.mem_range.mp member
    omega
  · -- All lines but the last one have a partner, so that both planes agree up to there.
    obtain ⟨before, rfl⟩ := Nat.exists_eq_add_one_of_ne_zero (show height ≠ 0 by omega)
    let front := (List.range before).flatMap fun index => source.line width index
    have turns : ((List.range before).flatMap fun index =>
        (if index % 2 = 0 then upper else lower).line width (index / 2)) = front := by
      refine List.flatMap_congr fun index member => separated.turn_eq ?_
      have inside := List.mem_range.mp member
      omega
    have woven : weave upper lower width (before + 1) = (front ++ blankLine width).toArray := by
      rw [weave, List.range_succ, List.flatMap_append, turns, List.flatMap_singleton,
        if_pos (show before % 2 = 0 by omega), ← separated.unpaired odd,
        show (before + 1) / 2 = before / 2 by omega]
    have original : source = (front ++ source.line width before).toArray := by
      rw [← List.flatMap_singleton (fun index => source.line width index), ← List.flatMap_append,
        ← List.range_succ, whole]
    have agree : weave upper lower width (before + 1) = source ↔
        source.line width before = blankLine width := by
      constructor
      · intro same
        have lists := List.toArray_inj (woven.symm.trans (same.trans original))
        exact (List.append_cancel_left lists).symm
      · intro blank
        rw [woven, ← blank]
        exact original.symm
    rw [agree, LastLineDispensable, Nat.add_sub_cancel]
    exact (or_iff_right (by omega)).symm

end PairsSeparated

end Lines

section Separated

variable {source target : Plane} {width height : Nat}

/-- Lines that have a partner are copied, each of them whole. -/
theorem line_separateField (size : source.size = height * width)
    (room : height / 2 * width ≤ target.size) (top : Bool) {index : Nat}
    (hasPartner : index < height / 2) :
    (separateField source target width width height top).line width index =
      source.line width (2 * index + if top then 0 else 1) := by
  refine line_eq_of_getElem? fun x inLine => ?_
  let first := if top then 0 else 1
  have atMost : first ≤ 1 := by
    simp only [first]
    split <;> omega
  have start : (if top then 0 else width) = first * width := by
    simp only [first]
    split <;> simp
  have position : first * width + index * (2 * width) = (2 * index + first) * width := by ring
  have inSource : first * width + index * (2 * width) + width ≤ source.size := by
    rw [position, size, ← Nat.succ_mul]
    exact Nat.mul_le_mul_right width (by omega)
  have inTarget : 0 + index * width + width ≤ target.size := by
    rw [Nat.zero_add, ← Nat.succ_mul]
    exact (Nat.mul_le_mul_right width hasPartner).trans room
  have copied := getElem?_copyAlternateLines_of_whole source (Nat.le_refl width) hasPartner inLine
    inSource inTarget
  rwa [position, Nat.zero_add, ← start] at copied

/-- Lines behind those that have a partner stay as they are. -/
theorem line_separateField_of_unpaired (top : Bool) {index : Nat} (unpaired : height / 2 ≤ index) :
    (separateField source target width width height top).line width index =
      target.line width index := by
  refine line_eq_of_getElem? fun x _ => ?_
  refine getElem?_copyAlternateLines_of_outside source fun line among y inLine _ _ => ?_
  have before : (line + 1) * width ≤ index * width := Nat.mul_le_mul_right width (by omega)
  rw [Nat.succ_mul] at before
  omega

/-- Every line of a blank plane is blank. -/
theorem line_replicate_zero {count width index : Nat} (room : (index + 1) * width ≤ count) :
    line (Array.replicate count 0) width index = blankLine width := by
  rw [Nat.succ_mul] at room
  rw [line, Array.toList_replicate, List.drop_replicate, List.take_replicate, blankLine,
    Nat.min_eq_left (by omega)]

/-- Separation into planes that have a place for every line of their field. -/
theorem pairsSeparated_separateField (size : source.size = height * width) :
    let blank := Array.replicate ((height + 1) / 2 * width) 0
    PairsSeparated source (separateField source blank width width height true)
      (separateField source blank width width height false) width height := by
  intro blank
  have room : height / 2 * width ≤ blank.size := by
    rw [Array.size_replicate]
    exact Nat.mul_le_mul_right width (by omega)
  exact
    { top := fun index hasPartner => line_separateField size room true hasPartner
      bottom := fun index hasPartner => line_separateField size room false hasPartner
      unpaired := fun odd => by
        rw [line_separateField_of_unpaired true (Nat.le_refl _)]
        exact line_replicate_zero (Nat.mul_le_mul_right width (by omega)) }

end Separated

end Plane

namespace Frame

variable {frame field : Frame} {plane : Nat} {source : Plane} {top : Bool}

/-! ### Sizes -/

/-- The planes of a well-formed frame are those that its format has, each of its own size. -/
theorem WellFormed.size_plane (wellFormed : frame.WellFormed)
    (given : frame.planes[plane]? = some source) :
    plane < frame.format.numPlanes ∧
      source.size = (frame.planeSize plane).height * (frame.planeSize plane).width := by
  have lengths := congrArg (fun sizes => sizes[plane]?) wellFormed
  simp only [planeLengths, List.getElem?_map, given, Option.map_some] at lengths
  obtain ⟨index, isPlane, same⟩ := Option.map_eq_some_iff.mp lengths.symm
  obtain ⟨inside, rfl⟩ := List.getElem?_eq_some_iff.mp isPlane
  rw [List.length_range] at inside
  rw [List.getElem_range, Resolution.area, Nat.mul_comm] at same
  exact ⟨inside, same.symm⟩

/-- Chroma planes have half the lines of the picture, rounded up, in one of the formats that can
have them and all of its lines in the others. -/
theorem height_planeSize (format : ChromaFormat) (picture : Resolution) (plane : Nat) :
    (format.planeSize picture plane).height =
      if plane ≠ 0 ∧ format.shiftY = 1 then (picture.height + 1) / 2 else picture.height := by
  unfold ChromaFormat.planeSize
  by_cases luma : plane = 0
  · simp [luma]
  · cases format <;>
      simp [luma, ChromaFormat.shiftY, Resolution.inBlocksOf, blocksToCover]

/-- The planes of a field are as wide as those of the frame. When the picture has an even height
they have a place for every second line, counted from the first one. -/
theorem planeSize_fieldResolution (even : frame.resolution.height % 2 = 0) (plane : Nat) :
    (frame.format.planeSize frame.fieldResolution plane).width = (frame.planeSize plane).width ∧
      (frame.format.planeSize frame.fieldResolution plane).height =
        ((frame.planeSize plane).height + 1) / 2 := by
  constructor
  · unfold Frame.planeSize ChromaFormat.planeSize
    split <;> rfl
  · simp only [planeSize, height_planeSize, fieldResolution]
    split <;> omega

/-- A plane has an odd height when its lines are halved once more than the luma lines, and those are
even only once. -/
theorem odd_height_planeSize_iff (even : frame.resolution.height % 2 = 0)
    (inside : plane < frame.format.numPlanes) :
    (frame.planeSize plane).height % 2 = 1 ↔
      plane ≠ 0 ∧ frame.format = .yuv420 ∧ frame.resolution.height % 4 = 2 := by
  have halved : plane ≠ 0 ∧ frame.format.shiftY = 1 ↔ plane ≠ 0 ∧ frame.format = .yuv420 := by
    refine and_congr_right fun chroma => ?_
    cases format : frame.format <;> simp [ChromaFormat.shiftY]
    rw [format, ChromaFormat.numPlanes] at inside
    omega
  rw [planeSize, height_planeSize, ← and_assoc, ← halved]
  split
  · rename_i chroma
    simp only [chroma, ne_eq, not_false_eq_true, and_self, true_and]
    omega
  · rename_i notHalved
    simp only [notHalved, false_and, iff_false]
    omega

/-! ### The fields of a frame -/

/-- A frame without planes to spare has both fields. -/
theorem exists_field? (fits : frame.planes.length ≤ frame.format.numPlanes) (top : Bool) :
    ∃ field, frame.field? top = some field :=
  ⟨_, if_pos fits⟩

/-- The field has the planes of a blank one, with the samples of the frame in them. -/
theorem getElem?_planes_of_field? (found : frame.field? top = some field)
    (inside : plane < frame.format.numPlanes) (given : frame.planes[plane]? = some source) :
    let blank := Array.replicate (frame.format.planeSize frame.fieldResolution plane).area 0
    let size := frame.planeSize plane
    field.planes[plane]? =
      some (Plane.separateField source blank size.width size.width size.height top) := by
  unfold field? at found
  split at found
  · cases found
    simp [blank, given, List.getElem?_range inside]
  · cases found

/-- A field has the planes that its size and format call for. -/
theorem wellFormed_field? (found : frame.field? top = some field) : field.WellFormed := by
  unfold field? at found
  split at found
  · cases found
    have blankLengths := wellFormed_blank frame.fieldResolution frame.format
    unfold WellFormed planeLengths at blankLengths ⊢
    refine Eq.trans (List.ext_getElem? fun plane => ?_) blankLengths
    simp only [List.getElem?_map, List.getElem?_mapIdx, Option.map_map]
    congr 1
    funext target
    simp only [Function.comp_apply]
    split
    · rfl
    · exact Plane.size_separateField ..
  · cases found

/-! ### What is lost -/

/-- Both fields of the frame have all of their lines, in every plane, and weaving them gives the
plane back. -/
def LosesNoLine (frame : Frame) : Prop :=
  ∃ top bottom, frame.field? true = some top ∧ frame.field? false = some bottom ∧
    ∀ plane source, frame.planes[plane]? = some source →
      let size := frame.planeSize plane
      ∃ upper lower, top.planes[plane]? = some upper ∧ bottom.planes[plane]? = some lower ∧
        Plane.HasAlternateLines upper source size.width size.height true ∧
        Plane.HasAlternateLines lower source size.width size.height false ∧
        Plane.weave upper lower size.width size.height = source

/-- The fields of a well-formed frame of even height hold all lines that have a partner. -/
theorem exists_pairsSeparated (wellFormed : frame.WellFormed)
    (even : frame.resolution.height % 2 = 0) :
    ∃ top bottom, frame.field? true = some top ∧ frame.field? false = some bottom ∧
      ∀ plane source, frame.planes[plane]? = some source →
        let size := frame.planeSize plane
        ∃ upper lower, top.planes[plane]? = some upper ∧ bottom.planes[plane]? = some lower ∧
          Plane.PairsSeparated source upper lower size.width size.height := by
  have count : frame.planes.length = frame.format.numPlanes := by
    simpa [planeLengths] using congrArg List.length wellFormed
  obtain ⟨top, isTop⟩ := exists_field? count.le true
  obtain ⟨bottom, isBottom⟩ := exists_field? count.le false
  refine ⟨top, bottom, isTop, isBottom, fun plane source given => ?_⟩
  obtain ⟨inside, size⟩ := wellFormed.size_plane given
  obtain ⟨width, height⟩ := planeSize_fieldResolution even plane
  have separated := Plane.pairsSeparated_separateField size
  refine ⟨_, _, getElem?_planes_of_field? isTop inside given,
    getElem?_planes_of_field? isBottom inside given, ?_⟩
  rwa [Resolution.area, width, height, Nat.mul_comm]

/-- Nothing is lost exactly when every last line without a partner is blank. -/
theorem losesNoLine_iff_dispensable (wellFormed : frame.WellFormed)
    (even : frame.resolution.height % 2 = 0) :
    frame.LosesNoLine ↔ ∀ plane source, frame.planes[plane]? = some source →
      Plane.LastLineDispensable source (frame.planeSize plane).width
        (frame.planeSize plane).height := by
  obtain ⟨top, bottom, isTop, isBottom, separate⟩ := exists_pairsSeparated wellFormed even
  constructor
  · rintro ⟨otherTop, otherBottom, foundTop, foundBottom, keep⟩ plane source given
    obtain ⟨upper, lower, inTop, inBottom, -, -, woven⟩ := keep plane source given
    obtain ⟨sameUpper, sameLower, inTop', inBottom', separated⟩ := separate plane source given
    cases isTop.symm.trans foundTop
    cases isBottom.symm.trans foundBottom
    cases inTop.symm.trans inTop'
    cases inBottom.symm.trans inBottom'
    exact (separated.weave_eq_iff (wellFormed.size_plane given).2).mp woven
  · intro dispensable
    refine ⟨top, bottom, isTop, isBottom, fun plane source given => ?_⟩
    obtain ⟨upper, lower, inTop, inBottom, separated⟩ := separate plane source given
    have blank := dispensable plane source given
    exact ⟨upper, lower, inTop, inBottom, separated.hasAlternateLines_top_iff.mpr blank,
      separated.hasAlternateLines_bottom,
      (separated.weave_eq_iff (wellFormed.size_plane given).2).mpr blank⟩

/-- What the fields of a frame hold. Of a well-formed frame of even height, in any format, both
fields exist and have exactly the planes they should have. In every plane they hold each line that
has a partner, and the bottom field has all of its lines. Only chroma lines can lack a partner, and
only when their planes have half of the lines of a picture whose height is even once: then the last
one of the top field is blank. So nothing is lost, and weaving gives all planes back, exactly when
every such line was blank from the start. -/
theorem fields_lose_only_unpaired_lines (frame : Frame) (wellFormed : frame.WellFormed)
    (even : frame.resolution.height % 2 = 0) :
    (∃ top bottom, frame.field? true = some top ∧ frame.field? false = some bottom ∧
      top.WellFormed ∧ bottom.WellFormed ∧
      ∀ plane source, frame.planes[plane]? = some source →
        let size := frame.planeSize plane
        ∃ upper lower, top.planes[plane]? = some upper ∧ bottom.planes[plane]? = some lower ∧
          Plane.PairsSeparated source upper lower size.width size.height ∧
          Plane.HasAlternateLines lower source size.width size.height false) ∧
      (∀ plane < frame.format.numPlanes, (frame.planeSize plane).height % 2 = 1 ↔
        plane ≠ 0 ∧ frame.format = .yuv420 ∧ frame.resolution.height % 4 = 2) ∧
      (frame.LosesNoLine ↔ ∀ plane source, frame.planes[plane]? = some source →
        Plane.LastLineDispensable source (frame.planeSize plane).width
          (frame.planeSize plane).height) := by
  refine ⟨?_, fun plane inside => odd_height_planeSize_iff even inside,
    losesNoLine_iff_dispensable wellFormed even⟩
  obtain ⟨top, bottom, isTop, isBottom, separate⟩ := exists_pairsSeparated wellFormed even
  refine ⟨top, bottom, isTop, isBottom, wellFormed_field? isTop, wellFormed_field? isBottom,
    fun plane source given => ?_⟩
  obtain ⟨upper, lower, inTop, inBottom, separated⟩ := separate plane source given
  exact ⟨upper, lower, inTop, inBottom, separated, separated.hasAlternateLines_bottom⟩

/-- A picture of six lines whose last chroma lines are blank. -/
def blankTailFrame : Frame :=
  ⟨⟨2, 6⟩, .yuv420, [#[1, 2, 3, 4, 5, 6, 7, 8, 9, 10, 11, 12], #[13, 14, 0], #[15, 16, 0]]⟩

/-- The chroma planes of a picture of six lines have three of them, and nothing is lost when the
third one is blank. -/
theorem fields_lose_only_unpaired_lines_blankTailFrame :
    blankTailFrame.WellFormed ∧ blankTailFrame.resolution.height % 2 = 0 ∧
      (blankTailFrame.planeSize 1).height % 2 = 1 ∧ blankTailFrame.LosesNoLine := by
  have wellFormed : blankTailFrame.WellFormed := by decide
  have even : blankTailFrame.resolution.height % 2 = 0 := rfl
  obtain ⟨-, parity, lost⟩ := fields_lose_only_unpaired_lines blankTailFrame wellFormed even
  refine ⟨wellFormed, even, (parity 1 (by decide)).mpr (by decide), lost.mpr ?_⟩
  have dispensable : ∀ plane < 3, ∀ source ∈ blankTailFrame.planes[plane]?,
      Plane.LastLineDispensable source (blankTailFrame.planeSize plane).width
        (blankTailFrame.planeSize plane).height := by decide
  intro plane source given
  exact dispensable plane (wellFormed.size_plane given).1 source given

/-- A picture of two lines with a single line of chroma. -/
def twoLineFrame : Frame := ⟨⟨2, 2⟩, .yuv420, [#[1, 2, 3, 4], #[5], #[6]]⟩

/-- The chroma line of a picture of two lines is lost, although both of its fields have a place for
one. -/
theorem twoLineFrame_loses_chroma :
    twoLineFrame.WellFormed ∧ twoLineFrame.resolution.height % 2 = 0 ∧
      ¬ twoLineFrame.LosesNoLine := by
  refine ⟨by decide, rfl, ?_⟩
  rintro ⟨top, bottom, isTop, -, keep⟩
  obtain ⟨upper, lower, inTop, -, hasLines, -⟩ := keep 1 #[5] rfl
  cases isTop
  cases inTop
  exact absurd (hasLines 0 (by decide)) (by decide)

end Frame

end EncoderControl
