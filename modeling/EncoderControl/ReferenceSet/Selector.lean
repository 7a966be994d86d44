import EncoderControl.Config
import EncoderControl.Error
import EncoderControl.Journal
import EncoderControl.Slice

/-!
# Choice of the reference set

A picture normally takes the set of its position in the GOP. Entries that follow the GOP in the
table are sets for particular output positions, which count from the last intra picture when
pictures are refreshed periodically. The first bottom field of a sequence has a set of its own.
-/

namespace EncoderControl

/-- Index of the last element that equals `target`. -/
def lastIndexOf? (target : Int) : List Int → Option Nat
  | [] => none
  | head :: tail =>
    match lastIndexOf? target tail with
    | some index => some (index + 1)
    | none => if head = target then some 0 else none

/-- Chooses the reference set of each picture. -/
structure SetSelector where
  gopSize : Nat
  /-- Output positions of the entries that follow the GOP. -/
  extraPocs : List Int
  /-- Pictures from one intra picture to the next, when decoding is refreshed there. -/
  refreshPeriod : Option Int
  /-- Index of the set of the first bottom field, with field coding. -/
  fieldSet : Option Nat
deriving DecidableEq, Inhabited

namespace SetSelector

/-- The selector that fits the list of sets built for the configuration. -/
def ofConfig (config : Config) : SetSelector where
  gopSize := config.gopSize
  extraPocs := ((config.gopList.drop config.gopSize).take config.extraSets).map GopEntry.poc
  refreshPeriod :=
    if 0 < config.intraPeriod ∧ 0 < config.decodingRefreshType then some config.intraPeriod
    else none
  fieldSet := if config.fieldCoding then some (config.gopSize + config.extraSets) else none

/-- The output position that extra entries are matched with. With a refresh it counts from the
intra picture before, which itself counts as the last picture of its period. -/
def matchedPoc (selector : SetSelector) (poc : Int) : Int :=
  match selector.refreshPeriod with
  | some period => if poc % period = 0 then period else poc % period
  | none => poc

/-- Index of the set of the picture at `poc`, which stands at the position `gopId` of its GOP in
coding order. The first bottom field is not told apart. -/
def resolveForSop (selector : SetSelector) (poc : Int) (gopId : Nat) : Nat :=
  match lastIndexOf? (selector.matchedPoc poc) selector.extraPocs with
  | some index => selector.gopSize + index
  | none => gopId

/-- Index of the set of a picture or field. The field at output position 1 takes the set of the
first bottom field. -/
def select (selector : SetSelector) (poc : Int) (gopId : Nat) (fieldPic : Bool) : Nat :=
  match selector.fieldSet with
  | some index => if fieldPic ∧ poc = 1 then index else selector.resolveForSop poc gopId
  | none => selector.resolveForSop poc gopId

/-- Chooses the set of the slice, notes its index in the slice and answers with the set. -/
def selectForSlice (selector : SetSelector) (gopId : Nat) :
    Operation Slice EncodeError ReferenceSet := do
  let slice ← Operation.read
  let index := selector.select slice.poc gopId slice.fieldPic
  Operation.write { slice with referenceSet := index }
  match slice.sps.referenceSets[index]? with
  | some set => pure set
  | none =>
    Operation.log .error s!"slice at POC {slice.poc} selected missing RPS {index}"
    Operation.fail .invalidInternalState

end SetSelector

end EncoderControl
