/-!
# Picture geometry

Sizes of pictures, the chroma formats that decide how many planes a picture has, and the number
of blocks it takes to cover a picture.
-/

namespace EncoderControl

/-- A width and a height, counted in samples or in blocks. -/
structure Resolution where
  width : Nat
  height : Nat
deriving DecidableEq, Inhabited

/-- Number of blocks of `block` samples needed to cover `extent` samples, rounded up. -/
def blocksToCover (extent block : Nat) : Nat :=
  (extent + block - 1) / block

/-- Blocks of a positive size cover the whole extent. -/
theorem le_blocksToCover_mul {extent block : Nat} (positive : 0 < block) :
    extent ≤ blocksToCover extent block * block := by
  have split := Nat.div_add_mod (extent + block - 1) block
  have small := Nat.mod_lt (extent + block - 1) positive
  rw [Nat.mul_comm] at split
  unfold blocksToCover
  omega

/-- Every block but the last one lies inside the extent, so no block is spare. -/
theorem blocksToCover_mul_lt {extent block : Nat} (positive : 0 < block) :
    blocksToCover extent block * block < extent + block := by
  have bound := Nat.div_mul_le_self (extent + block - 1) block
  unfold blocksToCover
  omega

namespace Resolution

/-- Number of blocks of the size `block` needed to cover the resolution in each direction. -/
def inBlocksOf (resolution block : Resolution) : Resolution where
  width := blocksToCover resolution.width block.width
  height := blocksToCover resolution.height block.height

/-- Number of `block` by `block` units needed to cover the resolution. There is none for empty
units. -/
def inBlocks? (resolution : Resolution) (block : Nat) : Option Resolution :=
  if block = 0 then none else some (resolution.inBlocksOf ⟨block, block⟩)

/-- Number of samples or blocks in a rectangle of this size. -/
def area (resolution : Resolution) : Nat :=
  resolution.width * resolution.height

end Resolution

/-- Chroma subsampling of a picture. -/
inductive ChromaFormat where
  | monochrome
  | yuv420
  | yuv422
  | yuv444
deriving DecidableEq

namespace ChromaFormat

instance : Inhabited ChromaFormat := ⟨yuv420⟩

/-- The format with the given `chroma_format_idc`. -/
def ofIdc? : Int → Option ChromaFormat
  | 0 => some monochrome
  | 1 => some yuv420
  | 2 => some yuv422
  | 3 => some yuv444
  | _ => none

/-- Name used in messages. -/
def name : ChromaFormat → String
  | monochrome => "Monochrome"
  | yuv420 => "Yuv420"
  | yuv422 => "Yuv422"
  | yuv444 => "Yuv444"

/-- Horizontal subsampling shift of the chroma planes. -/
def shiftX : ChromaFormat → Nat
  | monochrome | yuv420 | yuv422 => 1
  | yuv444 => 0

/-- Vertical subsampling shift of the chroma planes. -/
def shiftY : ChromaFormat → Nat
  | monochrome | yuv420 => 1
  | yuv422 | yuv444 => 0

/-- Number of sample planes of a picture. -/
def numPlanes : ChromaFormat → Nat
  | monochrome => 1
  | yuv420 | yuv422 | yuv444 => 3

/-- Size in samples of the plane with index `plane` of a picture. Plane 0 holds luma; a chroma
plane covers the picture with subsampled samples, so its size rounds up. -/
def planeSize (format : ChromaFormat) (picture : Resolution) (plane : Nat) : Resolution :=
  if plane = 0 then picture
  else picture.inBlocksOf ⟨1 <<< format.shiftX, 1 <<< format.shiftY⟩

/-- Luma has the size of the picture. -/
@[simp] theorem planeSize_zero (format : ChromaFormat) (picture : Resolution) :
    format.planeSize picture 0 = picture := rfl

end ChromaFormat

end EncoderControl
