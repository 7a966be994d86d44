import EncoderControl.Frame.Field

/-!
# Separation by positions

Separation walks down both planes at once and stops at the first line that is cut short. Seen from
a single sample it is simpler: a line is copied exactly if it lies whole in both planes, because no
line before it can then be cut short, and everything else in the target stays as it is.
-/

namespace EncoderControl

namespace Plane

/-- Steps from line to line add up. -/
theorem lineStart_succ (start step line : Nat) :
    start + (line + 1) * step = start + step + line * step := by
  rw [Nat.succ_mul, Nat.add_comm (line * step), Nat.add_assoc]

variable (source : Plane) {stride width : Nat}

/-- The copied samples come from the source, all others stay. -/
theorem getElem?_copySamples (start into count index : Nat) (target : Plane) :
    (copySamples source start into count target)[index]? =
      if into ≤ index ∧ index < into + count ∧ index < target.size then
        some (source.getD (start + (index - into)) 0)
      else target[index]? := by
  induction count generalizing start into target with
  | zero => rw [copySamples, if_neg (by omega)]
  | succ count inductionHypothesis =>
    rw [copySamples, inductionHypothesis, Array.size_setIfInBounds, Array.getElem?_setIfInBounds]
    by_cases first : into = index
    · subst first
      by_cases inside : into < target.size
      · rw [if_neg (by omega), if_pos rfl, if_pos inside, if_pos (by omega), Nat.sub_self,
          Nat.add_zero]
      · rw [if_neg (by omega), if_pos rfl, if_neg inside, if_neg (by omega),
          Array.getElem?_eq_none (Nat.le_of_not_lt inside)]
    · rw [if_neg first]
      by_cases later : into + 1 ≤ index ∧ index < into + 1 + count ∧ index < target.size
      · have shifted : start + 1 + (index - (into + 1)) = start + (index - into) := by omega
        rw [if_pos later, if_pos (by omega), shifted]
      · rw [if_neg later, if_neg (by omega)]

/-- A sample that lies in no line that is whole in both planes stays as it is. -/
theorem getElem?_copyAlternateLines_of_outside {lines start into index : Nat} {target : Plane}
    (outside : ∀ line < lines, ∀ x < width, start + line * (2 * stride) + width ≤ source.size →
      into + line * stride + width ≤ target.size → index ≠ into + line * stride + x) :
    (copyAlternateLines source stride width lines start into target)[index]? = target[index]? := by
  induction lines generalizing start into target with
  | zero => rfl
  | succ lines inductionHypothesis =>
    rw [copyAlternateLines]
    split
    · rfl
    · rename_i whole
      have first := outside 0 (Nat.zero_lt_succ lines)
      rw [inductionHypothesis, getElem?_copySamples]
      · refine if_neg fun copied => ?_
        exact first (index - into) (by omega) (by omega) (by omega) (by omega)
      · intro line among x inLine inSource inTarget
        rw [size_copySamples] at inTarget
        have next := outside (line + 1) (Nat.succ_lt_succ among) x inLine
        rw [lineStart_succ start (2 * stride) line, lineStart_succ into stride line] at next
        exact next inSource inTarget

/-- A line that is whole in both planes is copied. -/
theorem getElem?_copyAlternateLines_of_whole {lines start into line x : Nat} {target : Plane}
    (packed : width ≤ stride) (among : line < lines) (inLine : x < width)
    (inSource : start + line * (2 * stride) + width ≤ source.size)
    (inTarget : into + line * stride + width ≤ target.size) :
    (copyAlternateLines source stride width lines start into target)[into + line * stride + x]? =
      source[start + line * (2 * stride) + x]? := by
  induction line generalizing lines start into target with
  | zero =>
    obtain ⟨later, rfl⟩ := Nat.exists_eq_succ_of_ne_zero (Nat.ne_zero_of_lt among)
    rw [Nat.zero_mul, Nat.add_zero] at inSource inTarget ⊢
    -- All later lines start behind this one.
    have behind : ∀ line < later, ∀ y < width,
        start + 2 * stride + line * (2 * stride) + width ≤ source.size →
        into + stride + line * stride + width ≤
          (copySamples source start into width target).size →
        into + x ≠ into + stride + line * stride + y := by
      intro line _ y _ _ _
      omega
    rw [copyAlternateLines, if_neg (by omega), getElem?_copyAlternateLines_of_outside source behind,
      getElem?_copySamples, if_pos (by omega), Nat.add_sub_cancel_left, Nat.zero_mul, Nat.add_zero]
    have inside : start + x < source.size := by omega
    rw [Array.getD_eq_getD_getElem?, Array.getElem?_eq_getElem inside, Option.getD_some]
  | succ line inductionHypothesis =>
    obtain ⟨later, rfl⟩ := Nat.exists_eq_succ_of_ne_zero (Nat.ne_zero_of_lt among)
    rw [lineStart_succ] at inSource inTarget
    have whole : ¬ (source.size < start + width ∨ target.size < into + width) := by omega
    rw [copyAlternateLines, if_neg whole, lineStart_succ into stride line,
      lineStart_succ start (2 * stride) line]
    refine inductionHypothesis (Nat.lt_of_succ_lt_succ among) inSource ?_
    rwa [size_copySamples]

end Plane

end EncoderControl
