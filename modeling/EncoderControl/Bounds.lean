/-!
# Bounds

Values brought into a range. A range whose bounds are crossed holds nothing, so there is no value to
bring into it.
-/

namespace EncoderControl

/-- The value in the range that is nearest to `value`, if the range holds one. -/
def clamp? (lower upper value : Int) : Option Int :=
  if lower ≤ upper then some (max lower (min upper value)) else none

/-- Only crossed bounds leave a value without a place. -/
theorem clamp?_eq_none_iff {lower upper value : Int} :
    clamp? lower upper value = none ↔ upper < lower := by
  unfold clamp?
  split <;> simp <;> omega

end EncoderControl
