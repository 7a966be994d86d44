import Mathlib.Tactic.Ring
import EncoderControl.Proofs.Frame.Separation

/-!
# Separation on shrinking slices

A field can also be separated without any positions. Both planes are looked at as slices: a line is
copied from the front of one to the front of the other, and then both move on by cutting off their
fronts. Every cut and every copy has its precondition, and a cut that would go past the end goes up
to the end instead. Here these preconditions are checked, each in its place, and shown to hold
always; what comes out is the separated field, sample by sample.
-/

namespace EncoderControl

namespace Plane

/-! ### Slices -/

/-- The slice from index `start` on, which must not lie past the end. -/
def sliceFrom? (slice : List UInt16) (start : Nat) : Option (List UInt16) :=
  if start ≤ slice.length then some (slice.drop start) else none

/-- The first `count` samples of the slice, which must have as many. -/
def sliceUpTo? (slice : List UInt16) (count : Nat) : Option (List UInt16) :=
  if count ≤ slice.length then some (slice.take count) else none

/-- Overwrites a slice with another one, which must be of the same length. -/
def overwrite? (slice other : List UInt16) : Option (List UInt16) :=
  if slice.length = other.length then some other else none

/-- The slice behind its first `count` samples, or behind its end if it is shorter. -/
def advance? (slice : List UInt16) (count : Nat) : Option (List UInt16) :=
  sliceFrom? slice (min count slice.length)

/-- Copies up to `lines` lines of `width` samples from the front of one slice to the front of
another. From line to line the source moves on by `step` samples, and the target by `stride`. -/
def copyFrontLines? (stride step width : Nat) :
    (lines : Nat) → (source target : List UInt16) → Option (List UInt16)
  | 0, _, target => some target
  | lines + 1, source, target =>
    if source.length < width ∨ target.length < width then some target
    else do
      let place ← sliceUpTo? target width
      let line ← sliceUpTo? source width
      let copied ← overwrite? place line
      let written := copied ++ target.drop width
      let targetLeft ← advance? written stride
      let sourceLeft ← advance? source step
      let rest ← copyFrontLines? stride step width lines sourceLeft targetLeft
      pure (written.take stride ++ rest)

/-- The source from the field's first line on. The bottom field starts one line into it. -/
def fieldFront? (source : List UInt16) (stride : Nat) (top : Bool) : Option (List UInt16) :=
  if top then some source else advance? source stride

/-- Copies one field of `source` into `target`. -/
def separateSlices? (source target : List UInt16) (stride step width height : Nat) (top : Bool) :
    Option (List UInt16) := do
  let front ← fieldFront? source stride top
  copyFrontLines? stride step width (height / 2) front target

/-! ### No operation fails -/

/-- The cut stops at the end, so it never goes past it. -/
theorem advance?_eq_drop (slice : List UInt16) (count : Nat) :
    advance? slice count = some (slice.drop count) := by
  rw [advance?, sliceFrom?, if_pos (Nat.min_le_right ..)]
  obtain inside | beyond := Nat.le_total count slice.length
  · rw [Nat.min_eq_left inside]
  · rw [Nat.min_eq_right beyond, List.drop_length, List.drop_of_length_le beyond]

/-- One round of the loop on slices that both hold a whole line. -/
theorem copyFrontLines?_succ {stride step width lines : Nat} {source target written : List UInt16}
    (inSource : width ≤ source.length) (inTarget : width ≤ target.length)
    (overwritten : source.take width ++ target.drop width = written) :
    copyFrontLines? stride step width (lines + 1) source target =
      (copyFrontLines? stride step width lines (source.drop step) (written.drop stride)).map
        (written.take stride ++ ·) := by
  have sameLength : (target.take width).length = (source.take width).length := by
    rw [List.length_take_of_le inTarget, List.length_take_of_le inSource]
  rw [copyFrontLines?, if_neg (by omega), sliceUpTo?, if_pos inTarget, sliceUpTo?, if_pos inSource]
  simp only [Option.bind_eq_bind, Option.bind_some, overwrite?, if_pos sameLength, overwritten,
    advance?_eq_drop, Option.map_eq_bind]
  rfl

/-- Lines without samples change nothing. -/
theorem copyFrontLines?_of_empty (stride step lines : Nat) (source target : List UInt16) :
    copyFrontLines? stride step 0 lines source target = some target := by
  induction lines generalizing source target with
  | zero => rfl
  | succ lines inductionHypothesis =>
    rw [copyFrontLines?_succ (Nat.zero_le _) (Nat.zero_le _) rfl, inductionHypothesis,
      List.take_zero, List.drop_zero, List.nil_append, Option.map_some, List.take_append_drop]

/-! ### In step with the positions -/

section InStep

variable (source : Plane) {stride step width : Nat}

/-- From a position on, a list of samples is as long as its plane is from there on. -/
theorem length_drop_toList (plane : Plane) (start : Nat) :
    (plane.toList.drop start).length = plane.size - start := by
  rw [List.length_drop, Array.length_toList]

/-- Seen from where the line goes, copying it is overwriting the front. -/
theorem drop_copySamples {start into : Nat} {target : Plane}
    (inSource : start + width ≤ source.size) (inTarget : into + width ≤ target.size) :
    (copySamples source start into width target).toList.drop into =
      (source.toList.drop start).take width ++ (target.toList.drop into).drop width := by
  have lineLength : ((source.toList.drop start).take width).length = width := by
    rw [List.length_take, length_drop_toList]
    omega
  refine List.ext_getElem? fun index => ?_
  rw [List.getElem?_drop, Array.getElem?_toList, getElem?_copySamples]
  by_cases inLine : index < width
  · have inside : start + index < source.size := by omega
    rw [if_pos (by omega), Nat.add_sub_cancel_left, List.getElem?_append_left (by omega),
      List.getElem?_take_of_lt inLine, List.getElem?_drop, Array.getElem?_toList,
      Array.getD_eq_getD_getElem?, Array.getElem?_eq_getElem inside, Option.getD_some]
  · have behind : into + (width + (index - width)) = into + index := by omega
    rw [if_neg (by omega), List.getElem?_append_right (by omega), lineLength, List.getElem?_drop,
      List.getElem?_drop, Array.getElem?_toList, behind]

/-- The lines still to come leave the samples before them as they are. -/
theorem drop_copyAlternateLines (lines start into : Nat) (target : Plane) :
    let after := copyAlternateLines source stride width lines start (into + stride) target
    after.toList.drop into =
      (target.toList.drop into).take stride ++ after.toList.drop (into + stride) := by
  intro after
  have sameFront :
      (after.toList.drop into).take stride = (target.toList.drop into).take stride := by
    refine List.ext_getElem? fun index => ?_
    by_cases inFront : index < stride
    · rw [List.getElem?_take_of_lt inFront, List.getElem?_take_of_lt inFront, List.getElem?_drop,
        List.getElem?_drop, Array.getElem?_toList, Array.getElem?_toList]
      refine getElem?_copyAlternateLines_of_outside source fun line _ x _ _ _ => ?_
      omega
    · rw [List.getElem?_take_eq_none (by omega), List.getElem?_take_eq_none (by omega)]
  calc after.toList.drop into
      = (after.toList.drop into).take stride ++ (after.toList.drop into).drop stride :=
        (List.take_append_drop ..).symm
    _ = (target.toList.drop into).take stride ++ after.toList.drop (into + stride) := by
        rw [sameFront, List.drop_drop]

/-- The loop on slices computes what the loop on positions does. Where the source moves on by
something else than two strides, the target must be used up after its first line. -/
theorem copyFrontLines?_eq_drop {lines start into : Nat} {sourceLeft : List UInt16}
    {target : Plane} (nonempty : 0 < width) (steps : step = 2 * stride ∨ target.size ≤ stride)
    (inStep : sourceLeft = source.toList.drop start ∨ target.size ≤ into) :
    copyFrontLines? stride step width lines sourceLeft (target.toList.drop into) =
      some ((copyAlternateLines source stride width lines start into target).toList.drop into) := by
  induction lines generalizing start into sourceLeft target with
  | zero => rfl
  | succ lines inductionHypothesis =>
    have sourceLength := length_drop_toList source start
    have targetLength := length_drop_toList target into
    by_cases cutShort : source.size < start + width ∨ target.size < into + width
    · have stops : sourceLeft.length < width ∨ (target.toList.drop into).length < width := by
        obtain rfl | usedUp := inStep <;> omega
      rw [copyFrontLines?, if_pos stops, copyAlternateLines, if_pos cutShort]
    · -- The target is not used up, so the source is where it should be.
      obtain rfl : sourceLeft = source.toList.drop start := inStep.resolve_right (by omega)
      have overwritten : (copySamples source start into width target).toList.drop into =
          (source.toList.drop start).take width ++ (target.toList.drop into).drop width :=
        drop_copySamples source (by omega) (by omega)
      have nextInStep :
          source.toList.drop (start + step) = source.toList.drop (start + 2 * stride) ∨
            (copySamples source start into width target).size ≤ into + stride := by
        rw [size_copySamples]
        exact steps.imp (fun twice => by rw [twice]) (fun short => by omega)
      rw [copyFrontLines?_succ (by omega) (by omega) overwritten.symm, List.drop_drop,
        List.drop_drop, inductionHypothesis (by rwa [size_copySamples]) nextInStep,
        Option.map_some, copyAlternateLines, if_neg cutShort, drop_copyAlternateLines]

end InStep

/-! ### Sample by sample -/

/-- The `line`-th line of a field in the frame it is taken from. -/
def frameLine (top : Bool) (line : Nat) : Nat := 2 * line + if top then 0 else 1

/-- The field's lines of `source` are in `field`, as far as they are whole in both planes, and the
rest of `field` is what was in `target`: padding, lines cut short, and what lies behind them. -/
structure HasWholeLines (source target field : Plane) (stride width height : Nat) (top : Bool) :
    Prop where
  sameSize : field.size = target.size
  copied : ∀ line < height / 2, ∀ x < width,
    frameLine top line * stride + width ≤ source.size → line * stride + width ≤ target.size →
      field[line * stride + x]? = source[frameLine top line * stride + x]?
  kept : ∀ index,
    (∀ line < height / 2, ∀ x < width, frameLine top line * stride + width ≤ source.size →
      line * stride + width ≤ target.size → index ≠ line * stride + x) →
        field[index]? = target[index]?

section Separation

variable (source target : Plane) {stride width : Nat} (height : Nat) (top : Bool)

/-- Separation copies the lines that both planes hold whole, and touches nothing else. -/
theorem hasWholeLines_separateField (packed : width ≤ stride) :
    HasWholeLines source target (separateField source target stride width height top) stride width
      height top := by
  have position (line : Nat) :
      (if top then 0 else stride) + line * (2 * stride) = frameLine top line * stride := by
    cases top <;> simp only [frameLine, if_true, if_false, Bool.false_eq_true] <;> ring
  constructor
  case sameSize => exact size_separateField ..
  case copied =>
    intro line among x inLine inSource inTarget
    rw [← position] at inSource ⊢
    rw [← Nat.zero_add (line * stride)] at inTarget ⊢
    exact getElem?_copyAlternateLines_of_whole source packed among inLine inSource inTarget
  case kept =>
    intro index outside
    refine getElem?_copyAlternateLines_of_outside source ?_
    intro line among x inLine inSource inTarget
    rw [position] at inSource
    rw [Nat.zero_add] at inTarget ⊢
    exact outside line among x inLine inSource inTarget

/-- Planes whose lines hold no samples stay as they are. -/
theorem separateField_of_empty : separateField source target stride 0 height top = target := by
  refine Array.ext_getElem? fun index => ?_
  refine getElem?_copyAlternateLines_of_outside source fun line _ x inLine _ _ => ?_
  exact absurd inLine (Nat.not_lt_zero x)

/-- Separation on slices succeeds, and computes what separation by positions does. -/
theorem separateSlices?_eq_separateField {step : Nat}
    (steps : step = 2 * stride ∨ target.size ≤ stride) :
    separateSlices? source.toList target.toList stride step width height top =
      some (separateField source target stride width height top).toList := by
  have front : fieldFront? source.toList stride top =
      some (source.toList.drop (if top then 0 else stride)) := by
    cases top
    · exact advance?_eq_drop source.toList stride
    · rfl
  rw [separateSlices?, front, Option.bind_eq_bind, Option.bind_some]
  obtain rfl | nonempty := Nat.eq_zero_or_pos width
  · rw [copyFrontLines?_of_empty, separateField_of_empty]
  · let start := if top then 0 else stride
    have inStep : copyFrontLines? stride step width (height / 2) (source.toList.drop start)
          (target.toList.drop 0) =
        some ((separateField source target stride width height top).toList.drop 0) :=
      copyFrontLines?_eq_drop source nonempty steps (.inl rfl)
    rwa [List.drop_zero, List.drop_zero] at inStep

end Separation

/-- Separation copies the whole lines of the field and changes nothing else, for planes of any size
whose lines may be padded. Done on slices, none of its operations goes out of range. Twice the
stride may be more than a machine word holds, so `step` may also be something else, but only where
the target has no second line. -/
theorem separation_copies_whole_lines (source target : Plane) (stride width height : Nat)
    (top : Bool) (packed : width ≤ stride) :
    HasWholeLines source target (separateField source target stride width height top) stride width
        height top ∧
      ∀ step, step = 2 * stride ∨ target.size ≤ stride →
        separateSlices? source.toList target.toList stride step width height top =
          some (separateField source target stride width height top).toList :=
  ⟨hasWholeLines_separateField source target height top packed, fun _ steps =>
    separateSlices?_eq_separateField source target height top steps⟩

/-- Lines of two samples and one of padding. Both planes end right behind the last sample. -/
theorem separation_copies_whole_lines_withoutLastPadding :
    let source : Plane := #[10, 11, 19, 20, 21, 29, 30, 31, 39, 40, 41]
    let target : Plane := #[0, 0, 9, 0, 0]
    2 ≤ 3 ∧ (6 = 2 * 3 ∨ target.size ≤ 3) ∧
      separateField source target 3 2 4 false = #[20, 21, 9, 40, 41] ∧
      HasWholeLines source target (separateField source target 3 2 4 false) 3 2 4 false ∧
      separateSlices? source.toList target.toList 3 6 2 4 false = some [20, 21, 9, 40, 41] := by
  intro source target
  have packed : 2 ≤ 3 := by decide
  have twice : 6 = 2 * 3 ∨ target.size ≤ 3 := by decide
  have field : separateField source target 3 2 4 false = #[20, 21, 9, 40, 41] := by decide
  obtain ⟨hasWholeLines, onSlices⟩ :=
    separation_copies_whole_lines source target 3 2 4 false packed
  refine ⟨packed, twice, field, hasWholeLines, ?_⟩
  rw [onSlices 6 twice, field]

end Plane

end EncoderControl
