import Mathlib.Data.List.Basic
import EncoderControl.Quantizer

/-!
# Quantizers of a whole sequence

The quantizer of a picture depends on the pictures decided before it, but only through the switch.
What follows takes the switch out of the state: the slices coded so far determine it, so that each
decision of a sequence is a sum of shares that can be read off the settings and those slices. The
numbers of the model of an entry are not looked at, and need not even be numbers.
-/

namespace EncoderControl

namespace Quantizer

/-- A slice to be decided, and where its picture stands in the GOP. -/
structure Request where
  gopIndex : Nat
  slice : Slice

/-- What was decided for a slice, and the switch as it was left then. -/
structure Decision where
  qp : Int
  latch : SwitchLatch

/-- Decides slices one after the other. -/
def decideAll {ε : Type} : List Request → Operation Quantizer (Stop ε) (List Decision)
  | [] => pure []
  | request :: later => do
    let qp ← decide request.gopIndex request.slice
    let reached ← Operation.read
    let decisions ← decideAll later
    pure (⟨qp, reached.latch⟩ :: decisions)

/-! ### The shares of a quantizer -/

/-- A value brought into the range of quantizers that the bit depth allows. -/
def inRange (sps : Sps) (value : Int) : Int :=
  max (-sps.qpBdOffsetLuma) (min 51 value)

/-- One of the slices stands at the switch position. -/
def SwitchMet (config : Config) (slices : List Slice) : Prop :=
  ∃ slice ∈ slices, config.switchPoc = some slice.poc

instance (config : Config) (slices : List Slice) : Decidable (SwitchMet config slices) :=
  inferInstanceAs (Decidable (∃ slice ∈ slices, config.switchPoc = some slice.poc))

/-- The switch after these slices. -/
def latchAfter (config : Config) (slices : List Slice) : SwitchLatch :=
  if config.costMode ≠ .lossless ∧ SwitchMet config slices then .active config.switchDqp
  else .inactive

/-- What the picture at `poc` has collected before its position in the GOP counts, when `slices`
are coded, its own included. -/
def collectedQp (config : Config) (slices : List Slice) (poc : Int) : Int :=
  config.baseQp + (if SwitchMet config slices then config.switchDqp else 0) + config.dqpAt poc

/-- A picture that would not be lossless any more with another quantizer: nothing varies quantizers
inside pictures, it collected the lowest one, and it may bypass the transform. -/
def StaysLossless (config : Config) (slice : Slice) (qp : Int) : Prop :=
  config.maxDeltaQp = 0 ∧ config.lumaLevelToDeltaQp = false ∧ qp = -slice.sps.qpBdOffsetLuma ∧
    slice.pps.transquantBypassEnabled = true

/-- What the position in the GOP may add to the quantizer of a picture that collected `qp`. -/
inductive PositionShare (config : Config) (request : Request) (qp : Int) : Int → Prop where
  | intra (intra : request.slice.sliceType = .i) :
      PositionShare config request qp config.intraQpOffset
  | lossless (inter : request.slice.sliceType ≠ .i)
      (stays : StaysLossless config request.slice qp) : PositionShare config request qp 0
  | pastTable (inter : request.slice.sliceType ≠ .i)
      (past : config.gopList.length ≤ request.gopIndex) : PositionShare config request qp 0
  | entry (inter : request.slice.sliceType ≠ .i) (varies : ¬StaysLossless config request.slice qp)
      (inTable : request.gopIndex < config.gopList.length) (steps : Int) (least : 0 ≤ steps)
      (most : steps ≤ 3) :
      PositionShare config request qp (config.gopList[request.gopIndex].qpOffset + steps)

/-- The decision for a slice is the one that the settings call for when `slices` are coded, this one
included. -/
structure Lawful (config : Config) (slices : List Slice) (request : Request)
    (decision : Decision) : Prop where
  bounds : -request.slice.sps.qpBdOffsetLuma ≤ decision.qp ∧ decision.qp ≤ 51
  lossless : config.costMode = .lossless →
    decision.qp = inRange request.slice.sps 4 ∧ decision.latch = .inactive
  lossy : config.costMode ≠ .lossless →
    decision.latch = (if SwitchMet config slices then .active config.switchDqp else .inactive) ∧
      ∃ share, PositionShare config request
          (collectedQp config slices request.slice.poc) share ∧
        decision.qp = inRange request.slice.sps
          (collectedQp config slices request.slice.poc + share)

/-! ### One decision -/

section Decision

variable {config : Config} {quantizer : Quantizer} {coded : List Slice} {request : Request}

/-- The model adds at least nothing and at most three, whatever its numbers are. -/
theorem modelSteps_bounds (entry : GopEntry) (qp : Int) :
    0 ≤ modelSteps entry qp ∧ modelSteps entry qp ≤ 3 := by
  unfold modelSteps
  grind

/-- The test for a lossless picture decides `StaysLossless`. -/
theorem keepsLossless_iff (config : Config) (slice : Slice) (qp : Int) :
    keepsLossless config slice qp = true ↔ StaysLossless config slice qp := by
  simp [keepsLossless, StaysLossless, and_assoc]

/-- Slices of type I are intra coded, and no others. -/
theorem isIntra_iff (sliceType : SliceType) : sliceType.isIntra = true ↔ sliceType = .i := by
  cases sliceType <;> decide

/-- What the position in the GOP adds is a share of one of the listed kinds. -/
theorem positionShare_positionOffset (config : Config) (request : Request) (qp : Int) :
    PositionShare config request qp
      (positionOffset config request.gopIndex request.slice qp) := by
  unfold positionOffset
  by_cases intra : request.slice.sliceType = .i
  · rw [if_pos ((isIntra_iff _).mpr intra)]
    exact .intra intra
  rw [if_neg (mt (isIntra_iff _).mp intra)]
  by_cases stays : StaysLossless config request.slice qp
  · rw [if_pos ((keepsLossless_iff ..).mpr stays)]
    exact .lossless intra stays
  rw [if_neg (mt (keepsLossless_iff ..).mp stays)]
  by_cases inTable : request.gopIndex < config.gopList.length
  · rw [List.getElem?_eq_getElem inTable]
    have steps := modelSteps_bounds config.gopList[request.gopIndex]
      (qp + config.gopList[request.gopIndex].qpOffset)
    exact .entry intra stays inTable _ steps.1 steps.2
  · rw [List.getElem?_eq_none (Nat.le_of_not_lt inTable)]
    exact .pastTable intra (Nat.le_of_not_lt inTable)

/-- Where the lowest quantizer is not above the highest one, every value can be brought into range.
-/
theorem bounded?_eq_inRange (sps : Sps) (bounded : -sps.qpBdOffsetLuma ≤ 51) (qp : Int) :
    bounded? sps qp = some (inRange sps qp) :=
  if_pos bounded

/-- A value brought into range is in range. -/
theorem inRange_bounds (sps : Sps) (bounded : -sps.qpBdOffsetLuma ≤ 51) (value : Int) :
    -sps.qpBdOffsetLuma ≤ inRange sps value ∧ inRange sps value ≤ 51 := by
  unfold inRange
  omega

/-- The state of the quantizer once these slices are coded. -/
structure Reached (config : Config) (coded : List Slice) (quantizer : Quantizer) : Prop where
  settings : quantizer.config = config
  latch : quantizer.latch = latchAfter config coded

/-- One more slice meets the switch if an earlier one did or it stands there itself. -/
theorem switchMet_snoc (config : Config) (coded : List Slice) (slice : Slice) :
    SwitchMet config (coded ++ [slice]) ↔
      SwitchMet config coded ∨ config.switchPoc = some slice.poc := by
  simp only [SwitchMet, List.mem_append, List.mem_singleton, or_and_right, exists_or,
    exists_eq_left]

/-- One decision takes the slice into account. -/
theorem Reached.latchAt (reached : Reached config coded quantizer) (slice : Slice) :
    quantizer.latchAt slice.poc = latchAfter config (coded ++ [slice]) := by
  unfold Quantizer.latchAt
  rw [reached.settings, reached.latch]
  simp only [latchAfter, switchMet_snoc]
  by_cases lossless : config.costMode = .lossless
  · simp [lossless]
  · by_cases here : config.switchPoc = some slice.poc <;> simp [lossless, here]

/-- A decision only moves the switch, also when the bit depth allows no quantizer at all. -/
theorem state_decide {ε : Type} (quantizer : Quantizer) (gopIndex : Nat) (slice : Slice) :
    (Quantizer.decide (ε := ε) gopIndex slice quantizer).state =
      { quantizer with latch := quantizer.latchAt slice.poc } := by
  simp only [Quantizer.decide, Operation.read_bind_apply, Operation.write_bind_apply]
  cases quantizer.qp? gopIndex slice <;>
    simp only [Operation.fail_apply, Operation.log_bind_apply, Operation.pure_apply]

/-- The state after a decision belongs to the slices coded then. -/
theorem Reached.state_decide {ε : Type} (reached : Reached config coded quantizer)
    (gopIndex : Nat) (slice : Slice) :
    Reached config (coded ++ [slice])
      (Quantizer.decide (ε := ε) gopIndex slice quantizer).state := by
  rw [Quantizer.state_decide]
  exact ⟨reached.settings, reached.latchAt slice⟩

/-- The switch adds its offset once a slice met it, unless the session is lossless. -/
theorem offset_latchAfter (lossy : config.costMode ≠ .lossless) (slices : List Slice) :
    (latchAfter config slices).offset =
      if SwitchMet config slices then config.switchDqp else 0 := by
  by_cases met : SwitchMet config slices <;> simp [latchAfter, lossy, met, SwitchLatch.offset]

/-- One decision succeeds, is lawful, and leaves the state that belongs to the slices coded then. -/
theorem Reached.decide {ε : Type} (reached : Reached config coded quantizer)
    (bounded : -request.slice.sps.qpBdOffsetLuma ≤ 51) :
    let reply := Quantizer.decide (ε := ε) request.gopIndex request.slice quantizer
    let slices := coded ++ [request.slice]
    Reached config slices reply.state ∧
      ∃ qp, reply.outcome = .ok qp ∧ Lawful config slices request ⟨qp, reply.state.latch⟩ := by
  intro reply slices
  have next : Reached config slices reply.state := reached.state_decide request.gopIndex _
  have decided : quantizer.qp? request.gopIndex request.slice =
      some (inRange request.slice.sps (quantizer.unboundedQp request.gopIndex request.slice)) :=
    bounded?_eq_inRange _ bounded _
  have outcome : reply.outcome =
      .ok (inRange request.slice.sps (quantizer.unboundedQp request.gopIndex request.slice)) := by
    simp only [reply, Quantizer.decide, Operation.read_bind_apply, Operation.write_bind_apply,
      decided, Operation.log_bind_apply, Operation.pure_apply]
  refine ⟨next, _, outcome, ?_⟩
  rw [next.latch]
  refine ⟨inRange_bounds _ bounded _, fun lossless => ?_, fun lossy => ?_⟩
  · have value : quantizer.unboundedQp request.gopIndex request.slice = 4 := by
      simp only [unboundedQp, reached.settings, lossless, if_true, losslessQp]
    exact ⟨congrArg (inRange request.slice.sps) value, by simp [latchAfter, lossless]⟩
  · have value : quantizer.unboundedQp request.gopIndex request.slice =
        collectedQp config slices request.slice.poc +
          positionOffset config request.gopIndex request.slice
            (collectedQp config slices request.slice.poc) := by
      simp only [unboundedQp, reached.settings, if_neg lossy, reached.latchAt,
        offset_latchAfter lossy, collectedQp, slices]
    exact ⟨by simp [latchAfter, lossy], _, positionShare_positionOffset ..,
      congrArg (inRange request.slice.sps) value⟩

end Decision

/-! ### All decisions -/

/-- Deciding the slices one after the other succeeds, and each decision is lawful for the slices
coded up to it. -/
theorem Reached.decideAll {ε : Type} {config : Config} {quantizer : Quantizer} {coded : List Slice}
    (reached : Reached config coded quantizer) (requests : List Request)
    (bounded : ∀ request ∈ requests, -request.slice.sps.qpBdOffsetLuma ≤ 51) :
    ∃ decisions, (Quantizer.decideAll (ε := ε) requests quantizer).outcome = .ok decisions ∧
      decisions.length = requests.length ∧
      ∀ index request decision, requests[index]? = some request →
        decisions[index]? = some decision →
        Lawful config (coded ++ (requests.take (index + 1)).map Request.slice) request
          decision := by
  induction requests generalizing quantizer coded with
  | nil => exact ⟨[], rfl, rfl, by simp⟩
  | cons request later inductionHypothesis =>
    rw [List.forall_mem_cons] at bounded
    obtain ⟨next, qp, decided, lawful⟩ := reached.decide (ε := ε) bounded.1
    obtain ⟨decisions, rest, length, restLawful⟩ := inductionHypothesis next bounded.2
    let first := Quantizer.decide (ε := ε) request.gopIndex request.slice quantizer
    refine ⟨⟨qp, first.state.latch⟩ :: decisions, ?_, congrArg (· + 1) length, ?_⟩
    · rw [Quantizer.decideAll, Operation.bind_apply_of_ok decided]
      simp only [Operation.read_bind_apply, Operation.bind_apply_of_ok rest, Operation.pure_apply]
      rfl
    · intro index found decision present answered
      cases index with
      | zero =>
        cases present
        cases answered
        exact lawful
      | succ index =>
        have here := restLawful index found decision present answered
        rw [List.append_assoc] at here
        exact here

/-- A switch that some slices met is met by more slices. -/
theorem SwitchMet.mono {config : Config} {slices more : List Slice} (contained : slices ⊆ more)
    (met : SwitchMet config slices) : SwitchMet config more := by
  obtain ⟨slice, member, here⟩ := met
  exact ⟨slice, contained member, here⟩

/-- The quantizers of a sequence follow from the settings and the slices coded so far. Whatever the
settings are, deciding any slices one after the other, in any output order and at any positions in
the GOP, gives every one of them a quantizer within the bounds of its bit depth. Lossless coding
decides for 4 and leaves the switch alone. Otherwise the quantizer is the base value with the share
of the switch, once a slice at its position was coded, of the output position, and of the position
in the GOP; and the switch is on from that slice for good. -/
theorem decisions_follow_coded_slices {ε : Type} (config : Config) (requests : List Request)
    (bounded : ∀ request ∈ requests, -request.slice.sps.qpBdOffsetLuma ≤ 51) :
    ∃ decisions,
      (decideAll (ε := ε) requests { config := config }).outcome = .ok decisions ∧
        decisions.length = requests.length ∧
        (∀ index request decision, requests[index]? = some request →
          decisions[index]? = some decision →
          Lawful config ((requests.take (index + 1)).map Request.slice) request decision) ∧
        decisions.Pairwise fun earlier later =>
          ∀ offset, earlier.latch = .active offset → later.latch = .active offset := by
  have start : Reached config [] { config := config } := ⟨rfl, by simp [latchAfter, SwitchMet]⟩
  obtain ⟨decisions, decided, length, lawful⟩ := start.decideAll (ε := ε) requests bounded
  refine ⟨decisions, decided, length, lawful, ?_⟩
  rw [List.pairwise_iff_getElem]
  intro first second firstInside secondInside before offset on
  have here := lawful first requests[first] decisions[first] (by simp) (by simp)
  have there := lawful second requests[second] decisions[second] (by simp) (by simp)
  rw [List.nil_append] at here there
  by_cases lossless : config.costMode = .lossless
  · rw [(here.lossless lossless).2] at on
    contradiction
  · rw [(here.lossy lossless).1] at on
    by_cases met : SwitchMet config ((requests.take (first + 1)).map Request.slice)
    · have longer : (requests.take (first + 1)).map Request.slice ⊆
          (requests.take (second + 1)).map Request.slice :=
        List.map_subset _ (List.take_subset_take_left _ (by omega))
      rw [(there.lossy lossless).1, if_pos (met.mono longer), ← on, if_pos met]
    · rw [if_neg met] at on
      contradiction

/-- A switch at position 1, and a quantizer change at position 3. -/
def switchingConfig : Config where
  switchPoc := some 1
  switchDqp := 3
  dqps := some [0, 0, 0, 1]

/-- Four slices of ten bit video. The third one stands at the switch position, and the fourth one
past the end of the GOP. -/
def switchingRequests : List Request :=
  [(0, .i, 0), (1, .b, 2), (0, .b, 1), (9, .p, 3)].map fun (gopIndex, sliceType, poc) =>
    ⟨gopIndex, { sliceType, poc, sps := { qpBdOffsetLuma := 12 }, pps := {} }⟩

/-- The switch stays on after its position, and adds to the next quantizer. -/
theorem decisions_follow_coded_slices_switching :
    (∀ request ∈ switchingRequests, -request.slice.sps.qpBdOffsetLuma ≤ 51) ∧
      ∃ decisions,
        (decideAll (ε := Unit) switchingRequests { config := switchingConfig }).outcome =
            .ok decisions ∧
          ∃ last, decisions[3]? = some last ∧ last.qp = 36 ∧ last.latch = .active 3 := by
  have bounded : ∀ request ∈ switchingRequests, -request.slice.sps.qpBdOffsetLuma ≤ 51 := by decide
  obtain ⟨decisions, decided, length, lawful, -⟩ :=
    decisions_follow_coded_slices (ε := Unit) switchingConfig switchingRequests bounded
  refine ⟨bounded, decisions, decided, ?_⟩
  have inside : 3 < decisions.length := by rw [length]; decide
  have last := lawful 3 _ decisions[3] rfl (List.getElem?_eq_getElem inside)
  obtain ⟨on, share, added, qp⟩ := last.lossy (by decide)
  refine ⟨decisions[3], List.getElem?_eq_getElem inside, ?_, on.trans (by decide)⟩
  have nothing : share = 0 := by
    cases added with
    | intra intra => exact absurd intra (by decide)
    | lossless inter stays => rfl
    | pastTable inter past => rfl
    | entry inter varies inTable => exact absurd inTable (by decide)
  rw [qp, nothing]
  decide

end Quantizer

end EncoderControl
