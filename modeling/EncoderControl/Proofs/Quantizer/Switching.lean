import Mathlib.Data.List.Chain
import EncoderControl.Config.PictureSet
import EncoderControl.Proofs.Quantizer.Decisions

/-!
# The two switches of a sequence

A configured switch acts twice. The parameter set of a picture is chosen from its output position
alone, which is compared with the switch position; the quantizer takes the switch from a latch,
which closes when a slice at exactly that position is decided. Nothing in either makes the two
agree: the latch misses a position that no slice stands at. They agree on sequences that start at
position zero and leave no position out, with any number of slices at each.
-/

namespace EncoderControl

/-- The second slice stands at the same output position as the first, or at the next one. -/
def Slice.Follows (earlier later : Slice) : Prop :=
  later.poc = earlier.poc ∨ later.poc = earlier.poc + 1

instance : DecidableRel Slice.Follows := fun earlier later =>
  inferInstanceAs (Decidable (later.poc = earlier.poc ∨ later.poc = earlier.poc + 1))

/-- The slices start at position zero, never go back, and leave no position out. -/
structure Gapless (slices : List Slice) : Prop where
  start : ∀ first ∈ slices.head?, first.poc = 0
  steps : slices.IsChain Slice.Follows

namespace Gapless

variable {coded later : List Slice} {slice : Slice}

/-- The slices coded first have no gap either. -/
theorem left (gapless : Gapless (coded ++ later)) : Gapless coded where
  start first present := gapless.start first (by
    rw [List.head?_append, Option.mem_def.mp present]
    rfl)
  steps := gapless.steps.left_of_append

/-- Slices without gaps stand at all positions from zero to the one of the latest slice. -/
theorem exists_poc_eq_iff (gapless : Gapless (coded ++ [slice])) (position : Int) :
    (∃ met ∈ coded ++ [slice], met.poc = position) ↔ 0 ≤ position ∧ position ≤ slice.poc := by
  induction coded using List.reverseRecOn generalizing slice position with
  | nil =>
    have start := gapless.start slice rfl
    simp only [List.nil_append, List.mem_singleton, exists_eq_left]
    omega
  | append_singleton earlier prior inductionHypothesis =>
    have before := inductionHypothesis gapless.left
    have follows : prior.Follows slice :=
      (List.isChain_append.mp gapless.steps).2.2 prior (by simp) slice (by simp)
    have least := ((before prior.poc).mp ⟨prior, by simp, rfl⟩).1
    simp only [List.mem_append, List.mem_singleton, or_and_right, exists_or,
      exists_eq_left] at before ⊢
    simp only [before, Slice.Follows] at follows ⊢
    omega

end Gapless

/-- The switch position lies at or before `poc`. -/
def Config.SwitchReached (config : Config) (poc : Int) : Prop :=
  ∃ switchPoc, config.switchPoc = some switchPoc ∧ switchPoc ≤ poc

/-- A position takes its change from the table, or has none. -/
theorem Config.dqpAt_mem_bounds {config : Config} {lower upper : Int} (below : lower ≤ 0)
    (above : 0 ≤ upper)
    (deltas : ∀ table ∈ config.dqps, ∀ delta ∈ table, lower ≤ delta ∧ delta ≤ upper) (poc : Int) :
    lower ≤ config.dqpAt poc ∧ config.dqpAt poc ≤ upper := by
  unfold Config.dqpAt
  split
  · cases tabled : (config.dqps.getD [])[poc.toNat]? with
    | none => exact ⟨below, above⟩
    | some delta =>
      cases given : config.dqps with
      | none => simp [given] at tabled
      | some table =>
        rw [given, Option.getD_some] at tabled
        exact deltas table given delta (List.mem_of_getElem? tabled)
  · exact ⟨below, above⟩

/-- The set of a picture whose quantizer change leaves room for the switch. -/
theorem Config.ppsIdAt_of_bounds {config : Config} (wideGamut : config.wcgEnabled = true)
    {poc : Int} (bounds : 0 ≤ config.dqpAt poc ∧ config.dqpAt poc ≤ 254) :
    ∃ id, config.ppsIdAt poc = some id ∧
      (config.SwitchReached poc → (id : Int) = config.dqpAt poc + 1) ∧
      (¬config.SwitchReached poc → (id : Int) = config.dqpAt poc) := by
  unfold Config.ppsIdAt Config.SwitchReached
  rw [if_pos wideGamut]
  simp only [Option.any_eq_true, decide_eq_true_eq]
  by_cases reached : ∃ switchPoc, config.switchPoc = some switchPoc ∧ switchPoc ≤ poc
  · simp only [if_pos reached]
    rw [if_pos (by omega)]
    exact ⟨_, rfl, fun _ => by omega, absurd reached⟩
  · simp only [if_neg reached]
    rw [if_pos (by omega)]
    exact ⟨_, rfl, (absurd · reached), fun _ => by omega⟩

namespace Quantizer

variable {config : Config} {quantizer : Quantizer} {coded : List Slice} {request : Request}

/-- Without gaps, the slices so far have met the switch if the latest one has reached it. -/
theorem switchMet_iff_switchReached {slice : Slice} (gapless : Gapless (coded ++ [slice]))
    (switchable : ∀ switchPoc ∈ config.switchPoc, 0 ≤ switchPoc) :
    SwitchMet config (coded ++ [slice]) ↔ config.SwitchReached slice.poc := by
  unfold SwitchMet Config.SwitchReached
  cases switchAt : config.switchPoc with
  | none => simp
  | some switchPoc =>
    have met := gapless.exists_poc_eq_iff switchPoc
    have least := switchable switchPoc switchAt
    simp only [Option.some.injEq, exists_eq_left']
    simp only [eq_comm (a := switchPoc)]
    rw [met, and_iff_right least]

/-- The switch is off as long as no slice met it. -/
theorem latchAfter_eq_inactive_iff (lossy : config.costMode ≠ .lossless) (slices : List Slice) :
    latchAfter config slices = .inactive ↔ ¬SwitchMet config slices := by
  by_cases met : SwitchMet config slices <;> simp [latchAfter, lossy, met]

/-- A bit depth that allows no quantizer ends the decision. -/
theorem outcome_decide_of_crossedBounds {ε : Type} (quantizer : Quantizer) (gopIndex : Nat)
    {slice : Slice} (crossed : 51 < -slice.sps.qpBdOffsetLuma) :
    (decide (ε := ε) gopIndex slice quantizer).outcome = .error (.fault .crossedBounds) := by
  have none : quantizer.qp? gopIndex slice = none := clamp?_eq_none_iff.mpr crossed
  simp only [decide, Operation.read_bind_apply, Operation.write_bind_apply, none,
    Operation.fail_apply]

/-- The quantizer once these slices were asked for, one after the other, whatever was answered. -/
def after (ε : Type) (config : Config) (requests : List Request) : Quantizer :=
  requests.foldl
    (fun quantizer request => (decide (ε := ε) request.gopIndex request.slice quantizer).state)
    { config := config }

/-- The state kept over any calls belongs to the slices they were made for. -/
theorem reached_after (ε : Type) (config : Config) (requests : List Request) :
    Reached config (requests.map Request.slice) (after ε config requests) := by
  induction requests using List.reverseRecOn with
  | nil => exact ⟨rfl, by simp [after, latchAfter, SwitchMet]⟩
  | append_singleton earlier request inductionHypothesis =>
    rw [List.map_append, List.map_singleton, after, List.foldl_append]
    exact inductionHypothesis.state_decide request.gopIndex request.slice

/-- The parameter set chosen for a slice and the answer to the call that decides its quantizer
count the same quantizer change, and both or neither count the switch. -/
structure SwitchesAgree {ε : Type} (config : Config) (request : Request)
    (reply : Reply Quantizer (Stop ε) Int) : Prop where
  parameterSet : ∃ id, config.ppsIdAt request.slice.poc = some id ∧
    (id : Int) =
      config.dqpAt request.slice.poc + if reply.state.latch = .inactive then 0 else 1
  quantizer : -request.slice.sps.qpBdOffsetLuma ≤ 51 → ∃ share,
    PositionShare config request
        (config.baseQp + reply.state.latch.offset + config.dqpAt request.slice.poc) share ∧
      reply.outcome = .ok (inRange request.slice.sps
        (config.baseQp + reply.state.latch.offset + config.dqpAt request.slice.poc + share))
  unanswered : 51 < -request.slice.sps.qpBdOffsetLuma →
    reply.outcome = .error (.fault .crossedBounds)

/-- One decision agrees with the parameter set, provided that the slices up to it have no gap. -/
theorem Reached.switchesAgree {ε : Type} (reached : Reached config coded quantizer)
    (wideGamut : config.wcgEnabled = true) (lossy : config.costMode ≠ .lossless)
    (switchable : ∀ switchPoc ∈ config.switchPoc, 0 ≤ switchPoc)
    (deltas : ∀ table ∈ config.dqps, ∀ delta ∈ table, 0 ≤ delta ∧ delta ≤ 254)
    (gapless : Gapless (coded ++ [request.slice])) :
    SwitchesAgree config request
      (Quantizer.decide (ε := ε) request.gopIndex request.slice quantizer) := by
  have latch := (reached.state_decide (ε := ε) request.gopIndex request.slice).latch
  have met := switchMet_iff_switchReached gapless switchable
  refine ⟨?_, fun bounded => ?_, outcome_decide_of_crossedBounds quantizer request.gopIndex⟩
  · obtain ⟨id, chosen, switched, unswitched⟩ := Config.ppsIdAt_of_bounds wideGamut
      (Config.dqpAt_mem_bounds (by decide) (by decide) deltas request.slice.poc)
    refine ⟨id, chosen, ?_⟩
    rw [latch]
    by_cases here : config.SwitchReached request.slice.poc
    · have active : latchAfter config (coded ++ [request.slice]) ≠ .inactive :=
        mt (latchAfter_eq_inactive_iff lossy _).mp (not_not.mpr (met.mpr here))
      rw [if_neg active, switched here]
    · have inactive := (latchAfter_eq_inactive_iff lossy _).mpr (mt met.mp here)
      rw [if_pos inactive, unswitched here, Int.add_zero]
  · obtain ⟨-, qp, decided, lawful⟩ := reached.decide (ε := ε) bounded
    obtain ⟨-, share, added, sum⟩ := lawful.lossy lossy
    rw [collectedQp, ← offset_latchAfter lossy, ← latch] at added sum
    exact ⟨share, added, decided.trans (congrArg Except.ok sum)⟩

/-- The two switches coincide. With wide colour gamut control, lossy coding, no negative switch
position and quantizer changes that leave room for the switch, take any slices that start at
position zero, never go back and leave no position out, any number of them at each. Every call that
decides one of them counts the switch if and only if the parameter set of its picture does, and both
count the same quantizer change. -/
theorem switches_coincide {ε : Type} (config : Config) (requests : List Request)
    (wideGamut : config.wcgEnabled = true) (lossy : config.costMode ≠ .lossless)
    (switchable : ∀ switchPoc ∈ config.switchPoc, 0 ≤ switchPoc)
    (deltas : ∀ table ∈ config.dqps, ∀ delta ∈ table, 0 ≤ delta ∧ delta ≤ 254)
    (gapless : Gapless (requests.map Request.slice)) (index : Nat)
    (inside : index < requests.length) :
    SwitchesAgree config requests[index]
      (decide (ε := ε) requests[index].gopIndex requests[index].slice
        (after ε config (requests.take index))) := by
  have here : requests.map Request.slice =
      (requests.take index).map Request.slice ++ [requests[index].slice] ++
        (requests.drop (index + 1)).map Request.slice := by
    rw [← List.map_singleton, ← List.map_append, List.take_append_getElem inside, ← List.map_append,
      List.take_append_drop]
  rw [here] at gapless
  exact (reached_after ε config _).switchesAgree wideGamut lossy switchable deltas gapless.left

/-- A switch at position 1 with wide colour gamut control, and a quantizer change there. -/
def wideGamutConfig : Config where
  wcgChromaQp := some { cbScale := 1.0, crScale := 1.0, scale := -0.46, offset := 9.26 }
  switchPoc := some 1
  switchDqp := 2
  dqps := some [0, 3]

/-- Intra slices at the given positions. -/
def intraRequests (pocs : List Int) : List Request :=
  pocs.map fun poc => ⟨0, { sliceType := .i, poc, sps := {}, pps := {} }⟩

/-- The second slice of the picture at the switch position has the set 4 and the quantizer
32 + 2 + 3. -/
theorem switches_coincide_secondSlice :
    wideGamutConfig.wcgEnabled = true ∧ wideGamutConfig.costMode ≠ .lossless ∧
      wideGamutConfig.ppsIdAt 1 = some 4 ∧
      (decide (ε := Unit) 0 { sliceType := .i, poc := 1, sps := {}, pps := {} }
        (after Unit wideGamutConfig (intraRequests [0, 1]))).outcome = .ok 37 := by
  have agrees := switches_coincide (ε := Unit) wideGamutConfig (intraRequests [0, 1, 1])
    rfl (by decide) (by decide) (by decide) ⟨by decide, by decide⟩ 2 (by decide)
  obtain ⟨id, chosen, count⟩ := agrees.parameterSet
  obtain ⟨share, added, answered⟩ := agrees.quantizer (by decide)
  have four : (id : Int) = 4 := count.trans (by decide)
  have nothing : share = 0 := by
    cases added with
    | intra => rfl
    | lossless inter => exact absurd rfl inter
    | pastTable inter => exact absurd rfl inter
    | entry inter => exact absurd rfl inter
  rw [Int.ofNat_inj.mp four] at chosen
  rw [nothing] at answered
  exact ⟨rfl, by decide, chosen, answered⟩

/-- A position left out separates the two: the set counts the switch, the quantizer does not. -/
example :
    let request : Request := ⟨0, { sliceType := .i, poc := 2, sps := {}, pps := {} }⟩
    wideGamutConfig.ppsIdAt 2 = some 1 ∧
      (decide (ε := Unit) request.gopIndex request.slice
        (after Unit wideGamutConfig (intraRequests [0]))).state.latch = .inactive := by
  decide

end Quantizer

end EncoderControl
