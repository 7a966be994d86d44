import EncoderControl.Geometry

/-!
# Profiles, tiers and levels

The conformance point of a stream: its profile, tier and level, the profiles whose decoders can
decode it, and the constraints it keeps to.
-/

namespace EncoderControl

/-- Profiles of the coded format. -/
inductive Profile where
  | none
  | main
  | main10
  | mainStillPicture
  | mainRext
  | highThroughputRext
  | next
deriving DecidableEq

namespace Profile

instance : Inhabited Profile := ⟨main⟩

/-- Value of `general_profile_idc`, which is also the index of the compatibility flag. -/
def idc : Profile → Fin 32
  | none => 0
  | main => 1
  | main10 => 2
  | mainStillPicture => 3
  | mainRext => 4
  | highThroughputRext => 5
  | next => 6

/-- All profiles in the order of their values. -/
def all : List Profile :=
  [none, main, main10, mainStillPicture, mainRext, highThroughputRext, next]

/-- The profile with the given value. -/
def ofIdc? (value : Int) : Option Profile :=
  all.find? fun profile => (profile.idc.val : Int) = value

/-- What a number is written for is read back from it. -/
theorem ofIdc?_idc (profile : Profile) : ofIdc? profile.idc.val = some profile := by
  cases profile <;> rfl

end Profile

/-- Levels of the stream. -/
inductive Level where
  | l1
  | l2
  | l2_1
  | l3
  | l3_1
  | l4
  | l4_1
  | l5
  | l5_1
  | l5_2
  | l6
  | l6_1
  | l6_2
deriving DecidableEq

namespace Level

instance : Inhabited Level := ⟨l4⟩

/-- Value of `general_level_idc`, 30 times the number of the level. -/
def idc : Level → Nat
  | l1 => 30
  | l2 => 60
  | l2_1 => 63
  | l3 => 90
  | l3_1 => 93
  | l4 => 120
  | l4_1 => 123
  | l5 => 150
  | l5_1 => 153
  | l5_2 => 156
  | l6 => 180
  | l6_1 => 183
  | l6_2 => 186

/-- All levels in ascending order. -/
def all : List Level :=
  [l1, l2, l2_1, l3, l3_1, l4, l4_1, l5, l5_1, l5_2, l6, l6_1, l6_2]

/-- The level with the given value. -/
def ofIdc? (value : Int) : Option Level :=
  all.find? fun level => (level.idc : Int) = value

/-- What a number is written for is read back from it. -/
theorem ofIdc?_idc (level : Level) : ofIdc? level.idc = some level := by
  cases level <;> rfl

end Level

/-- Tiers of a level. -/
inductive Tier where
  | main
  | high
deriving DecidableEq

namespace Tier

instance : Inhabited Tier := ⟨main⟩

/-- The tier with the given value of `general_tier_flag`. -/
def ofFlag? : Int → Option Tier
  | 0 => some main
  | 1 => some high
  | _ => none

end Tier

/-- Profile, tier and level of a stream with the constraints it keeps to. -/
structure ProfileTierLevel where
  profile : Profile := default
  tier : Tier := default
  level : Level := default
  /-- One flag per profile value: decoders of that profile decode the stream. -/
  compatibility : Vector Bool 32 := .replicate 32 false
  progressiveSource : Bool := false
  interlacedSource : Bool := false
  nonPacked : Bool := false
  frameOnly : Bool := false
  intra : Bool := false
  onePictureOnly : Bool := false
  lowerBitRate : Bool := false
  /-- Largest bit depth of the stream. -/
  bitDepth : Nat := 0
  chromaFormat : ChromaFormat := default
deriving Inhabited

namespace ProfileTierLevel

/-- Marks the stream as decodable by decoders of `profile`. -/
def setCompatible (constraints : ProfileTierLevel) (profile : Profile) : ProfileTierLevel :=
  { constraints with
    compatibility := constraints.compatibility.set profile.idc.val true profile.idc.isLt }

/-- Whether decoders of `profile` decode the stream. -/
def isCompatible (constraints : ProfileTierLevel) (profile : Profile) : Bool :=
  constraints.compatibility[profile.idc]

/-- Values of the profiles whose decoders decode the stream, in ascending order. -/
def compatibleIdcs (constraints : ProfileTierLevel) : List Nat :=
  (constraints.compatibility.toList.mapIdx fun index flag => (index, flag)).filterMap fun entry =>
    if entry.2 then some entry.1 else none

end ProfileTierLevel

end EncoderControl
