import EncoderControl.Frame

/-!
# Limits of the machine

Positions in output order, the distances between them, quantizer values, sizes and counts are
integers without bounds in this library. The machine has words for them: signed ones of 32 bits for
positions, distances and quantizer values, unsigned ones of 32 bits for the sizes of pictures and of
what they are divided into, and unsigned ones of 64 bits for lengths and for whatever is counted up
by one picture, batch or generation at a time. Where a result is meant to be reduced to its word, or
replaced because it does not fit, the definition at hand does so. Everywhere else a result that its
word cannot hold is a fault, `Fault.wordOverflow`, of a program that checks its arithmetic. One that
does not check goes on with the remainder, of which nothing is said here. So a statement about calls
is one about calls whose results all fit. Counters of 64 bits are taken to have room for ever.

Storage is limited as well. An allocation of more bytes than `maxAllocation` is a fault of any
program, `Fault.capacityOverflow`. One within the limit is taken to succeed.

Fields are cut out of a frame before anything is compared, so `Frame.takeField` observes the limit
on storage itself. What the admission of a picture may run into depends on the state of the session.
`Session.performOnMachine` makes calls with those limits observed, and does what the session does
wherever none of them is exceeded.
-/

namespace EncoderControl

/-- Most bytes that can be allocated at once, the largest signed word of 64 bits. -/
def maxAllocation : Nat :=
  UInt64.size / 2 - 1

/-- Bytes that a sample takes. -/
def bytesPerSample : Nat := 2

/-- Quotients that are rounded up do not exceed the extent. -/
theorem blocksToCover_le {extent block : Nat} (positive : 0 < block) :
    blocksToCover extent block ≤ extent := by
  rw [blocksToCover, Nat.div_le_iff_le_mul_add_pred positive]
  have unscaled := Nat.le_mul_of_pos_left extent positive
  omega

/-- No plane of a picture is larger than the one that holds luma. -/
theorem ChromaFormat.area_planeSize_le (format : ChromaFormat) (picture : Resolution)
    (plane : Nat) : (format.planeSize picture plane).area ≤ picture.area := by
  unfold planeSize
  split
  · exact Nat.le_refl _
  · exact Nat.mul_le_mul (blocksToCover_le (by cases format <;> decide))
      (blocksToCover_le (by cases format <;> decide))

namespace Frame

/-- Each plane of a frame of this size and format can be allocated. -/
def Allocatable (resolution : Resolution) (format : ChromaFormat) : Prop :=
  ∀ plane < format.numPlanes,
    bytesPerSample * (format.planeSize resolution plane).area ≤ maxAllocation

instance (resolution : Resolution) (format : ChromaFormat) :
    Decidable (Allocatable resolution format) :=
  inferInstanceAs (Decidable (∀ plane < format.numPlanes, _))

/-- The plane that holds luma decides whether a frame can be allocated. -/
theorem allocatable_iff (resolution : Resolution) (format : ChromaFormat) :
    Allocatable resolution format ↔ bytesPerSample * resolution.area ≤ maxAllocation := by
  constructor
  · intro allocatable
    exact allocatable 0 (by cases format <;> decide)
  · intro luma plane _
    exact Nat.le_trans (Nat.mul_le_mul_left _ (format.area_planeSize_le resolution plane)) luma

end Frame

end EncoderControl
