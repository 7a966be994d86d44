/-!
# The GOP table

A group of pictures is described by a table with one entry per picture in coding order. An entry
says where the picture stands, how its quantizer deviates from the base value, which earlier and
later pictures it predicts from, and how that list of references is itself predicted from the one
before it.
-/

namespace EncoderControl

/-- Kinds of slices, by the prediction they may use. -/
inductive SliceType where
  | b
  | p
  | i
deriving DecidableEq

namespace SliceType

instance : Inhabited SliceType := ⟨b⟩

/-- The kind with the given `slice_type` code. -/
def ofCode? : Int → Option SliceType
  | 0 => some b
  | 1 => some p
  | 2 => some i
  | _ => none

/-- Name used in records. -/
def name : SliceType → String
  | b => "B"
  | p => "P"
  | i => "I"

/-- Whether the slice is coded without reference to other pictures. -/
def isIntra : SliceType → Bool
  | i => true
  | b | p => false

end SliceType

/-- One reference of a picture: its distance in output order, and whether the picture predicts
from it or merely keeps it alive for later pictures. -/
structure Reference where
  delta : Int
  used : Bool
deriving DecidableEq, Inhabited

/-- How the reference set of an entry is predicted from the set of the entry before it. -/
inductive SetPrediction where
  /-- The set is spelled out. -/
  | none
  /-- The indications are found by matching both sets. -/
  | auto
  /-- The set is rebuilt from the set before it, shifted by `deltaRps`, by one indication for each
  of its references and one for the picture before itself. -/
  | explicit (deltaRps : Int) (refIdc : List Nat)
deriving DecidableEq

/-- Static description of one position in the GOP. -/
structure GopEntry where
  /-- Position in output order, counted from the start of the GOP. -/
  poc : Int := -1
  sliceType : SliceType := .p
  temporalId : Nat := 0
  qpOffset : Int := 0
  qpModelOffset : Float := 0.0
  qpModelScale : Float := 0.0
  cbQpOffset : Int := 0
  crQpOffset : Int := 0
  tcOffsetDiv2 : Int := 0
  betaOffsetDiv2 : Int := 0
  numRefPicsActive : Int := 0
  references : List Reference := []
  prediction : SetPrediction := .none
deriving Inhabited

/-- An entry that predicts from all of its references, given by their distances. -/
def GopEntry.ofDeltas (poc : Int) (sliceType : SliceType) (qpOffset : Int) (deltas : List Int) :
    GopEntry where
  poc := poc
  sliceType := sliceType
  qpOffset := qpOffset
  numRefPicsActive := deltas.length
  references := deltas.map fun delta => ⟨delta, true⟩

end EncoderControl
