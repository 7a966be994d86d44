import EncoderControl.Config.Rate
import Mathlib.Data.Nat.Cast.Order.Field
import Mathlib.Data.Rat.Cast.Order
import Mathlib.Tactic.Ring

/-!
# Ticks of a slowed clock

When only every few frames are coded, a tick grows by that ratio. Its units are multiplied as long
as they fit 32 bits, and then the tick grows exactly. Beyond that the units per second are divided
instead and rounded down, so that a tick is never shorter than asked for, and longer unless the
ratio divides them. But nothing keeps the division from leaving no units at all. For the rates with
an entry of their own that takes a ratio beyond the units per second; for all others the units per
second are so few that the division never leaves any.
-/

namespace EncoderControl

namespace TimingInfo

/-- Length of a tick in seconds. -/
def tick (clock : TimingInfo) : ℚ :=
  clock.numUnitsInTick / clock.timeScale

/-- How the clock `slowed` follows from the clock `nominal` when ticks are to be `ratio` times as
long. -/
structure Lengthens (ratio : Nat) (nominal slowed : TimingInfo) : Prop where
  hasUnits : 0 < slowed.numUnitsInTick
  unitsFit : slowed.numUnitsInTick < UInt32.size
  scaleFits : slowed.timeScale < UInt32.size
  /-- It runs as long as the scaled units of a tick fit, and then up to the ratio that the nominal
  units per second allow. -/
  runs_iff : 0 < slowed.timeScale ↔
    nominal.numUnitsInTick * ratio < UInt32.size ∨ ratio ≤ nominal.timeScale
  exact_of_fits : nominal.numUnitsInTick * ratio < UInt32.size →
    slowed.tick = ratio * nominal.tick
  atLeast : 0 < slowed.timeScale → ratio * nominal.tick ≤ slowed.tick
  /-- Beyond the units that fit, the length is exact when the division is. -/
  exact_iff : ¬ nominal.numUnitsInTick * ratio < UInt32.size → 0 < slowed.timeScale →
    (slowed.tick = ratio * nominal.tick ↔ ratio ∣ nominal.timeScale)

section Slowed

variable {frameRate ratio : Nat}

/-- Nominal clocks run, and fit 32 bits. -/
theorem nominalClock_bounds (frameRate : Nat) :
    (0 < (nominalClock frameRate).1 ∧ (nominalClock frameRate).1 < UInt32.size) ∧
      0 < (nominalClock frameRate).2 ∧ (nominalClock frameRate).2 < UInt32.size := by
  unfold nominalClock
  split <;> decide

/-- A ratio of one leaves the nominal clock. -/
theorem ofFrameRate_one (frameRate : Nat) :
    ofFrameRate frameRate 1 =
      { present := true
        numUnitsInTick := (nominalClock frameRate).1
        timeScale := (nominalClock frameRate).2 } := rfl

/-- As long as they fit, the units of a tick are multiplied. -/
theorem ofFrameRate_of_fits (coded : 1 ≤ ratio)
    (fits : (nominalClock frameRate).1 * ratio < UInt32.size) :
    ofFrameRate frameRate ratio =
      { present := true
        numUnitsInTick := (nominalClock frameRate).1 * ratio
        timeScale := (nominalClock frameRate).2 } := by
  rcases Nat.lt_or_eq_of_le coded with several | rfl
  · rw [ofFrameRate, if_neg (Nat.not_le_of_lt several), if_pos fits]
  · rw [ofFrameRate_one, Nat.mul_one]

/-- When they do not fit, the units per second are divided. -/
theorem ofFrameRate_of_not_fits (overflows : ¬ (nominalClock frameRate).1 * ratio < UInt32.size) :
    ofFrameRate frameRate ratio =
      { present := true
        numUnitsInTick := (nominalClock frameRate).1
        timeScale := (nominalClock frameRate).2 / ratio } := by
  have several : ¬ ratio ≤ 1 := by
    intro single
    have atMost : (nominalClock frameRate).1 * ratio ≤ (nominalClock frameRate).1 * 1 :=
      Nat.mul_le_mul_left _ single
    rw [Nat.mul_one] at atMost
    exact overflows (Nat.lt_of_le_of_lt atMost (nominalClock_bounds frameRate).1.2)
  rw [ofFrameRate, if_neg several, if_neg overflows]

/-- Dividing the units per second makes a tick at least `ratio` times as long, and exactly that if
nothing is rounded off. -/
theorem ratio_mul_tick_le {units scale : Nat} (hasUnits : 0 < units) (runs : 0 < scale / ratio) :
    (ratio : ℚ) * (units / scale) ≤ units / (scale / ratio : Nat) ∧
      ((units : ℚ) / (scale / ratio : Nat) = ratio * (units / scale) ↔ ratio ∣ scale) := by
  have divided : scale / ratio * ratio ≤ scale := Nat.div_mul_le_self scale ratio
  have quotientPositive : (0 : ℚ) < (scale / ratio : Nat) := by exact_mod_cast runs
  have scalePositive : (0 : ℚ) < scale := by
    exact_mod_cast Nat.lt_of_lt_of_le runs (Nat.div_le_self scale ratio)
  rw [← mul_div_assoc, div_le_div_iff₀ scalePositive quotientPositive,
    div_eq_div_iff quotientPositive.ne' scalePositive.ne']
  norm_cast
  have regrouped : ratio * units * (scale / ratio) = units * (scale / ratio * ratio) := by ring
  rw [regrouped, Nat.dvd_iff_div_mul_eq]
  constructor
  · exact Nat.mul_le_mul_left units divided
  · constructor
    · intro same
      exact (Nat.eq_of_mul_eq_mul_left hasUnits same).symm
    · intro whole
      rw [whole]

/-- A tick that still fits its field is lengthened by the ratio itself. -/
theorem lengthens_of_fits (coded : 1 ≤ ratio)
    (fits : (nominalClock frameRate).1 * ratio < UInt32.size) :
    Lengthens ratio (ofFrameRate frameRate 1) (ofFrameRate frameRate ratio) := by
  obtain ⟨⟨hasUnits, -⟩, runs, scaleFits⟩ := nominalClock_bounds frameRate
  have grown : (((nominalClock frameRate).1 * ratio : Nat) : ℚ) / (nominalClock frameRate).2 =
      ratio * ((nominalClock frameRate).1 / (nominalClock frameRate).2) := by
    rw [Nat.cast_mul, ← mul_div_assoc, mul_comm]
  rw [ofFrameRate_of_fits coded fits, ofFrameRate_one]
  exact
    { hasUnits := Nat.mul_pos hasUnits coded
      unitsFit := fits
      scaleFits := scaleFits
      runs_iff := iff_of_true runs (.inl fits)
      exact_of_fits := fun _ => grown
      atLeast := fun _ => grown.ge
      exact_iff := fun overflows => absurd fits overflows }

/-- A tick that would not fit stays, and the clock is slowed instead. -/
theorem lengthens_of_not_fits (coded : 1 ≤ ratio)
    (overflows : ¬ (nominalClock frameRate).1 * ratio < UInt32.size) :
    Lengthens ratio (ofFrameRate frameRate 1) (ofFrameRate frameRate ratio) := by
  obtain ⟨⟨hasUnits, unitsFit⟩, -, scaleFits⟩ := nominalClock_bounds frameRate
  have runs : 0 < (nominalClock frameRate).2 / ratio ↔ ratio ≤ (nominalClock frameRate).2 :=
    Nat.div_pos_iff.trans (and_iff_right coded)
  rw [ofFrameRate_of_not_fits overflows, ofFrameRate_one]
  exact
    { hasUnits := hasUnits
      unitsFit := unitsFit
      scaleFits := Nat.lt_of_le_of_lt (Nat.div_le_self _ ratio) scaleFits
      runs_iff := runs.trans (or_iff_right overflows).symm
      exact_of_fits := fun fits => absurd fits overflows
      atLeast := fun stillRuns => (ratio_mul_tick_le hasUnits stillRuns).1
      exact_iff := fun _ stillRuns => (ratio_mul_tick_le hasUnits stillRuns).2 }

end Slowed

/-- The clock of slowed frames. For every nominal frame rate and every ratio from one on, a tick has
units, and units of ticks and seconds fit 32 bits. As long as its scaled units fit them too, a tick
grows exactly by the ratio. Beyond that the clock runs exactly up to the ratio that its nominal
units per second allow; as long as it runs, a tick grows at least by the ratio, and by no more
exactly if the ratio divides these units. -/
theorem ticks_lengthen_while_clock_runs (frameRate ratio : Nat) (coded : 1 ≤ ratio) :
    Lengthens ratio (TimingInfo.ofFrameRate frameRate 1)
      (TimingInfo.ofFrameRate frameRate ratio) := by
  by_cases fits : (nominalClock frameRate).1 * ratio < UInt32.size
  · exact lengthens_of_fits coded fits
  · exact lengthens_of_not_fits coded fits

/-- At 30 frames per second, coding one frame of ten thousand divides the clock, without a rest. -/
theorem ticks_lengthen_while_clock_runs_tenThousandth :
    (TimingInfo.ofFrameRate 30 10000).timeScale = 2700 ∧
      (TimingInfo.ofFrameRate 30 10000).tick =
        (10000 : Nat) * (TimingInfo.ofFrameRate 30 1).tick := by
  have lengthens := ticks_lengthen_while_clock_runs 30 10000 (by decide)
  exact ⟨rfl, (lengthens.exact_iff (by decide) (by decide)).mpr (by decide)⟩

/-- From some ratio on, a clock has no units per second left: for a rate with an entry of its own,
beyond the nominal ones, and for any other rate, as soon as the units of a tick do not fit. -/
theorem overslowed_clock_stops :
    (1 ≤ 27000001 ∧ 27000001 < UInt32.size ∧
      (TimingInfo.ofFrameRate 30 27000001).timeScale = 0) ∧
    1 ≤ 4290677 ∧ 4290677 < UInt32.size ∧
      (TimingInfo.ofFrameRate 29 4290677).timeScale = 0 := by
  decide

end TimingInfo

end EncoderControl
