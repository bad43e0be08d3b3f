import ClockController.Proofs.DecodedRate
import ClockController.Synthesis.Fractional

/-!
# ClockController.Proofs.Synthesis.FractionalSearch

The search for dividers with a fractional feedback divider always ends without a fault. What it finds serves a rate of
the output band, with the smallest output divider and the smallest input divider that can.

## Main definitions

`FractionalSearch.Dividers.Serves`, `FractionalSearch.Dividers.Smallest`: dividers that serve an output.
`FractionalSearch.Dividers.achieved`: the rate that dividers achieve.

## Main results

`FractionalSearch.search_cases`: how the search can end.
`FractionalSearch.Dividers.Smallest.run_search`: the smallest dividers for the output aimed at are found.
`FractionalSearch.Dividers.Serves.rate_eq`: the rate of dividers that serve, without overflow.
`FractionalSearch.Dividers.Serves.achieved_le`, `FractionalSearch.Dividers.Serves.le_achieved`,
`FractionalSearch.Dividers.Serves.achieved_eq_iff`: how far that rate stays below the output that is served.
`FractionalSearch.Dividers.Serves.fractionalRate_eq`: the fraction is read back to the thousandth, so the
dividers decode to their rate.
-/

namespace ClockController

/-! ### Running attempts -/

namespace Attempt

variable {α β : Type}

theorem run_bind_of_ok {attempt : Attempt α} {next : α → Attempt β} {value : α}
    (ends : attempt.run = .ok (.ok value)) : (attempt >>= next).run = (next value).run := by
  rw [ExceptT.run_bind, ends]
  rfl

theorem run_bind_of_error {attempt : Attempt α} {next : α → Attempt β} {reason : Unreachable}
    (ends : attempt.run = .ok (.error reason)) : (attempt >>= next).run = .ok (.error reason) := by
  rw [ExceptT.run_bind, ends]
  rfl

theorem run_bind_liftM_of_fault {checked : Checked α} {next : α → Attempt β} {fault : Fault}
    (faults : checked = .error fault) : ((liftM checked : Attempt α) >>= next).run = .error fault := by
  subst faults
  rfl

theorem run_bind_of_fault {attempt : Attempt α} {next : α → Attempt β} {fault : Fault}
    (faults : attempt.run = .error fault) : (attempt >>= next).run = .error fault := by
  rw [ExceptT.run_bind, faults]
  rfl

theorem run_bind_liftM {checked : Checked α} {next : α → Attempt β} {value : α}
    (exists_ : checked = .ok value) : ((liftM checked : Attempt α) >>= next).run = (next value).run := by
  subst exists_
  rfl

theorem run_liftM {checked : Checked α} {value : α} (exists_ : checked = .ok value) :
    (liftM checked : Attempt α).run = .ok (.ok value) := by
  subst exists_
  rfl

/-- An attempt after another one succeeds exactly if both do. -/
theorem bind_eq_ok_iff {attempt : Attempt α} {next : α → Attempt β} {result : β} :
    (attempt >>= next).run = .ok (.ok result) ↔
      ∃ value, attempt.run = .ok (.ok value) ∧ (next value).run = .ok (.ok result) := by
  constructor
  · intro ends
    rw [ExceptT.run_bind] at ends
    cases first : attempt.run with
    | error fault =>
      rw [first] at ends
      cases ends
    | ok answer =>
      cases answer with
      | error reason =>
        rw [first] at ends
        cases ends
      | ok value =>
        rw [first] at ends
        exact ⟨value, rfl, ends⟩
  · rintro ⟨value, first, ends⟩
    rw [run_bind_of_ok first, ends]

end Attempt

namespace FractionalSearch

/-- Looking for the first value that passes a test, where the test always has a result. -/
theorem findM?_eq {test : Nat → Checked Bool} {passes : Nat → Bool} {values : List Nat}
    (tested : ∀ value ∈ values, test value = .ok (passes value)) :
    values.findM? test = .ok (values.find? passes) := by
  induction values with
  | nil => rfl
  | cons value rest ih =>
    have later := ih (fun other member => tested other (List.mem_cons_of_mem value member))
    rw [List.findM?, tested value List.mem_cons_self, Checked.ok_bind, List.find?_cons]
    cases passes value with
    | true => rfl
    | false => exact later

/-! ### The three choices -/

/-- A multiplier is the smallest one tried that lifts a target above the lower end of the output band. -/
structure Lifts (target multiplier : Nat) : Prop where
  two_le : 2 ≤ multiplier
  le : multiplier ≤ 99
  above : 85_700_000 < multiplier * target
  smallest : ∀ smaller, 2 ≤ smaller → smaller < multiplier → smaller * target ≤ 85_700_000

theorem find?_multipliers_iff {target multiplier : Nat} :
    multipliers.find? (fun multiplier => Band.output.low < multiplier * target) = some multiplier ↔
      Lifts target multiplier := by
  simp only [multipliers, List.find?_range'_eq_some, List.mem_range'_1, decide_eq_true_iff, Bool.not_eq_true',
    decide_eq_false_iff_not, Nat.not_lt]
  constructor
  · rintro ⟨above, ⟨two_le, lt⟩, smallest⟩
    exact ⟨two_le, by omega, above, smallest⟩
  · rintro ⟨two_le, le, above, smallest⟩
    exact ⟨above, ⟨two_le, by omega⟩, smallest⟩

/-- A low target is lifted by the first multiplier that brings it above the lower end of the band. -/
theorem run_lift {target : Nat} (low : target < Band.output.low) :
    (lift target).run =
      .ok (match multipliers.find? (fun multiplier => Band.output.low < multiplier * target) with
        | some multiplier => .ok (multiplier * target)
        | none => .error .targetTooLow) := by
  have product : ∀ multiplier ∈ multipliers, multiplier * target < rateBound := by
    intro multiplier member
    simp only [multipliers, List.mem_range'_1] at member
    calc
      multiplier * target ≤ 99 * 85_700_000 := Nat.mul_le_mul (by omega) (Nat.le_of_lt low)
      _ < rateBound := by decide
  have tested : ∀ multiplier ∈ multipliers,
      (do
        let lifted ← Checked.mul multiplier target
        return decide (Band.output.low < lifted) : Checked Bool) =
      .ok (decide (Band.output.low < multiplier * target)) := by
    intro multiplier member
    rw [Checked.mul_of_lt (product multiplier member)]
    rfl
  rw [lift, Attempt.run_bind_liftM (findM?_eq tested)]
  cases found : multipliers.find? (fun multiplier => Band.output.low < multiplier * target) with
  | none => rfl
  | some multiplier =>
    exact Attempt.run_liftM (Checked.mul_of_lt (product multiplier (List.mem_of_find?_eq_some found)))

/-- The output divider is the first that brings the oscillator into its band. -/
theorem run_outputDivider {output : Nat} (small : 7 * output < rateBound) :
    (outputDivider output).run =
      .ok (match outputDividers.find? (fun divider => divider * output ∈ Band.oscillator) with
        | some divider => .ok divider
        | none => .error .noOutputDivider) := by
  have tested : ∀ divider ∈ outputDividers,
      (do
        let oscillator ← Checked.mul divider output
        return decide (oscillator ∈ Band.oscillator) : Checked Bool) =
      .ok (decide (divider * output ∈ Band.oscillator)) := by
    intro divider member
    simp only [outputDividers, List.mem_range'_1] at member
    have product : divider * output < rateBound :=
      Nat.lt_of_le_of_lt (Nat.mul_le_mul_right output (by omega)) small
    rw [Checked.mul_of_lt product]
    rfl
  rw [outputDivider, Attempt.run_bind_liftM (findM?_eq tested)]
  cases outputDividers.find? (fun divider => divider * output ∈ Band.oscillator) <;> rfl

/-- The input divider is the first that brings the phase detector into its band. -/
theorem run_inputDivider (reference : Nat) :
    (inputDivider reference).run =
      .ok (match inputDividers.find? (fun divider => reference / divider ∈ Band.fastPhaseDetector) with
        | some divider => .ok divider
        | none => .error .noInputDivider) := by
  have tested : ∀ divider ∈ inputDividers,
      (do
        let detector ← Checked.div reference divider
        return decide (detector ∈ Band.fastPhaseDetector) : Checked Bool) =
      .ok (decide (reference / divider ∈ Band.fastPhaseDetector)) := by
    intro divider member
    simp only [inputDividers, List.mem_range'_1] at member
    rw [Checked.div_of_pos (by omega)]
    rfl
  rw [inputDivider, Attempt.run_bind_liftM (findM?_eq tested)]
  cases inputDividers.find? (fun divider => reference / divider ∈ Band.fastPhaseDetector) <;> rfl

/-! ### Dividers that serve an output -/

/-- Dividers that give an output up to the thousandths of the feedback divider, within the bands. -/
structure Dividers.Serves (reference output : Nat) (dividers : Dividers) : Prop where
  input_pos : 0 < dividers.input
  input_le : dividers.input ≤ 63
  output_pos : 0 < dividers.output
  output_le : dividers.output ≤ 7
  detector : reference / dividers.input ∈ Band.fastPhaseDetector
  oscillator : dividers.output * output ∈ Band.oscillator
  milliFeedback :
    dividers.milliFeedback = output * dividers.output * dividers.input * 1000 / reference

namespace Dividers

variable {reference output : Nat} {dividers : Dividers}

theorem Serves.input_mul_le (serves : dividers.Serves reference output) :
    10_000_000 * dividers.input ≤ reference :=
  (Nat.le_div_iff_mul_le serves.input_pos).mp serves.detector.1

theorem Serves.oscillator_le (serves : dividers.Serves reference output) :
    output * dividers.output ≤ 2_400_000_000 := by
  rw [Nat.mul_comm]
  exact serves.oscillator.2

theorem Serves.reference_pos (serves : dividers.Serves reference output) : 0 < reference :=
  Nat.lt_of_lt_of_le (Nat.mul_pos (by decide) serves.input_pos) serves.input_mul_le

end Dividers

/-- Dividers that serve an output with the smallest output divider and the smallest input divider that do. -/
structure Dividers.Smallest (reference output : Nat) (dividers : Dividers) : Prop
    extends dividers.Serves reference output where
  output_smallest : ∀ smaller, 0 < smaller → smaller < dividers.output → smaller * output < 600_000_000
  input_smallest : ∀ smaller, 0 < smaller → smaller < dividers.input → 40_000_000 < reference / smaller

/-- The output dividers before the first usable one leave the oscillator below its band. -/
theorem find?_outputDividers_iff {output divider : Nat} :
    outputDividers.find? (fun divider => divider * output ∈ Band.oscillator) = some divider ↔
      divider * output ∈ Band.oscillator ∧ (0 < divider ∧ divider ≤ 7) ∧
        ∀ smaller, 0 < smaller → smaller < divider → smaller * output < 600_000_000 := by
  rw [outputDividers, List.find?_range'_eq_some, List.mem_range'_1, decide_eq_true_iff]
  have bounds : 1 ≤ divider ∧ divider < 1 + 7 ↔ 0 < divider ∧ divider ≤ 7 := by omega
  rw [bounds]
  refine and_congr_right fun inBand => and_congr_right fun _ => forall_congr' fun smaller => ?_
  refine imp_congr_right fun _ => imp_congr_right fun lt => ?_
  have le : smaller * output ≤ divider * output := Nat.mul_le_mul_right output (Nat.le_of_lt lt)
  have high : smaller * output ≤ 2_400_000_000 := Nat.le_trans le inBand.2
  rw [Bool.not_eq_true', decide_eq_false_iff_not, Band.mem_iff, ← Nat.not_le]
  exact not_congr (and_iff_left high)

/-- The input dividers before the first usable one leave the phase detector above its band. -/
theorem find?_inputDividers_iff {reference divider : Nat} :
    inputDividers.find? (fun divider => reference / divider ∈ Band.fastPhaseDetector) = some divider ↔
      reference / divider ∈ Band.fastPhaseDetector ∧ (0 < divider ∧ divider ≤ 63) ∧
        ∀ smaller, 0 < smaller → smaller < divider → 40_000_000 < reference / smaller := by
  rw [inputDividers, List.find?_range'_eq_some, List.mem_range'_1, decide_eq_true_iff]
  have bounds : 1 ≤ divider ∧ divider < 1 + 63 ↔ 0 < divider ∧ divider ≤ 63 := by omega
  rw [bounds]
  refine and_congr_right fun inBand => and_congr_right fun _ => forall_congr' fun smaller => ?_
  refine imp_congr_right fun present => imp_congr_right fun lt => ?_
  have le : reference / divider ≤ reference / smaller := Nat.div_le_div_left (Nat.le_of_lt lt) present
  have low : 10_000_000 ≤ reference / smaller := Nat.le_trans inBand.1 le
  rw [Bool.not_eq_true', decide_eq_false_iff_not, Band.mem_iff, ← Nat.not_le]
  exact not_congr (and_iff_right low)

/-- The smallest dividers that serve an output are the ones that are found for it. -/
theorem Dividers.Smallest.run_dividersFor {reference output : Nat} {dividers : Dividers}
    (smallest : dividers.Smallest reference output) (small : 7 * output < rateBound) :
    (dividersFor reference output).run = .ok (.ok dividers) := by
  have outputRun := run_outputDivider small
  have inputRun := run_inputDivider reference
  rw [find?_outputDividers_iff.mpr
    ⟨smallest.oscillator, ⟨smallest.output_pos, smallest.output_le⟩, smallest.output_smallest⟩] at outputRun
  rw [find?_inputDividers_iff.mpr
    ⟨smallest.detector, ⟨smallest.input_pos, smallest.input_le⟩, smallest.input_smallest⟩] at inputRun
  -- The band of the oscillator, tested on the way, bounds every product after it.
  have undivided := smallest.oscillator_le
  have scaled : output * dividers.output * dividers.input ≤ 2_400_000_000 * 63 :=
    Nat.mul_le_mul undivided smallest.input_le
  have bound := Checked.rateBound_eq
  rw [dividersFor, Attempt.run_bind_of_ok outputRun, Attempt.run_bind_of_ok inputRun,
    Attempt.run_bind_liftM (Checked.mul_of_lt (by omega)), Attempt.run_bind_liftM (Checked.mul_of_lt (by omega)),
    Attempt.run_bind_liftM (Checked.mul_of_lt (by omega)),
    Attempt.run_bind_liftM (Checked.div_of_pos smallest.reference_pos),
    ← smallest.milliFeedback]
  rfl

/-- The dividers for an output, if there are any, are the smallest ones that serve it. -/
theorem run_dividersFor {reference output : Nat} (small : 7 * output < rateBound) :
    (∃ reason, (dividersFor reference output).run = .ok (.error reason)) ∨
      ∃ dividers, (dividersFor reference output).run = .ok (.ok dividers) ∧
        dividers.Smallest reference output := by
  have outputRun := run_outputDivider small
  have inputRun := run_inputDivider reference
  cases outputFound : outputDividers.find? (fun divider => divider * output ∈ Band.oscillator) with
  | none =>
    rw [outputFound] at outputRun
    exact .inl ⟨_, Attempt.run_bind_of_error outputRun⟩
  | some outputDivider =>
    rw [outputFound] at outputRun
    cases inputFound : inputDividers.find? (fun divider => reference / divider ∈ Band.fastPhaseDetector) with
    | none =>
      rw [inputFound] at inputRun
      exact .inl ⟨_, (Attempt.run_bind_of_ok outputRun).trans (Attempt.run_bind_of_error inputRun)⟩
    | some inputDivider =>
      obtain ⟨oscillator, ⟨output_pos, output_le⟩, output_smallest⟩ := find?_outputDividers_iff.mp outputFound
      obtain ⟨detector, ⟨input_pos, input_le⟩, input_smallest⟩ := find?_inputDividers_iff.mp inputFound
      have smallest : Dividers.Smallest reference output
          ⟨inputDivider, outputDivider, output * outputDivider * inputDivider * 1000 / reference⟩ :=
        { input_pos, input_le, output_pos, output_le, detector, oscillator, milliFeedback := rfl, output_smallest,
          input_smallest }
      exact .inr ⟨_, smallest.run_dividersFor small, smallest⟩

/-- The search for a target aims at an output: at the target itself, or at the lifted target if that lies
below the output band. -/
def Aims (target output : Nat) : Prop :=
  if target < Band.output.low then (lift target).run = .ok (.ok output) else output = target

/-- A lifted target stays below twice the lower end of the output band. -/
theorem Lifts.mul_lt {target multiplier : Nat} (lifts : Lifts target multiplier) (low : target < 85_700_000) :
    multiplier * target < 171_400_000 := by
  rcases Nat.eq_or_lt_of_le lifts.two_le with rfl | more
  · omega
  · -- The multiplier before this one does not lift the target above the lower end.
    obtain ⟨previous, rfl⟩ : ∃ previous, multiplier = previous + 1 := ⟨multiplier - 1, by omega⟩
    have short := lifts.smallest previous (by omega) (Nat.lt_succ_self _)
    rw [Nat.succ_mul]
    omega

/-- A low target is lifted to the smallest multiple that lies above the lower end of the output band. -/
theorem lift_eq_ok_iff {target output : Nat} (low : target < Band.output.low) :
    (lift target).run = .ok (.ok output) ↔ ∃ multiplier, Lifts target multiplier ∧ multiplier * target = output := by
  rw [run_lift low]
  constructor
  · intro lifts
    split at lifts
    next multiplier found =>
      cases lifts
      exact ⟨multiplier, find?_multipliers_iff.mp found, rfl⟩
    next => cases lifts
  · rintro ⟨multiplier, lifts, rfl⟩
    rw [find?_multipliers_iff.mpr lifts]

/-- From the lower end of the output band on, a target stands for itself. -/
theorem aims_self {target : Nat} (low : 85_700_000 ≤ target) : Aims target target := by
  have notLow : ¬ target < Band.output.low := Nat.not_lt.mpr low
  rw [Aims, if_neg notLow]

/-- The output aimed at stays below the upper end of the output band if the target does. -/
theorem aims_lt {target output : Nat} (below : target < 2_400_000_000) (aims : Aims target output) :
    output < 2_400_000_000 := by
  unfold Aims at aims
  split at aims
  next low =>
    obtain ⟨multiplier, lifts, rfl⟩ := (lift_eq_ok_iff low).mp aims
    exact Nat.lt_trans (lifts.mul_lt low) (by decide)
  next => exact aims ▸ below

/-! ### How the search ends -/

/-- The search is one for dividers that serve the output aimed at. -/
theorem run_search_of_aims {reference target output : Nat} (inBand : reference ∈ Band.reference)
    (below : target < 2_400_000_000) (aims : Aims target output) :
    (search reference target).run = (some <$> dividersFor reference output).run := by
  have notHigh : target < Band.output.high := below
  unfold Aims at aims
  rw [search, if_pos inBand]
  split at aims
  next low =>
    rw [if_pos low, Attempt.run_bind_of_ok aims]
    rfl
  next notLow =>
    subst aims
    rw [if_neg notLow, if_pos notHigh]
    rfl

/-- A target from the upper end of the output band on has no dividers. -/
theorem run_search_of_high {reference target : Nat} (inBand : reference ∈ Band.reference)
    (high : 2_400_000_000 ≤ target) : (search reference target).run = .ok (.ok none) := by
  have notLow : ¬ target < Band.output.low := Nat.not_lt.mpr (Nat.le_trans (by decide) high)
  have notBelow : ¬ target < Band.output.high := Nat.not_lt.mpr high
  rw [search, if_pos inBand, if_neg notLow, if_neg notBelow]
  rfl

theorem exists_aims (target : Nat) :
    (∃ output, Aims target output) ∨
      target < Band.output.low ∧ (lift target).run = .ok (.error .targetTooLow) := by
  by_cases low : target < Band.output.low
  · have lifting := run_lift low
    cases found : multipliers.find? (fun multiplier => Band.output.low < multiplier * target) with
    | none =>
      rw [found] at lifting
      exact .inr ⟨low, lifting⟩
    | some multiplier =>
      rw [found] at lifting
      exact .inl ⟨multiplier * target, by rwa [Aims, if_pos low]⟩
  · exact .inl ⟨target, by rw [Aims, if_neg low]⟩

/-- The search ends with a reason for no dividers, or with none because the target is too high, or with the smallest
dividers that serve the output aimed at. -/
theorem search_cases (reference target : Nat) :
    (∃ reason, (search reference target).run = .ok (.error reason)) ∨
      (search reference target).run = .ok (.ok none) ∧ 2_400_000_000 ≤ target ∨
      ∃ dividers output, (search reference target).run = .ok (.ok (some dividers)) ∧ target < 2_400_000_000 ∧
        Aims target output ∧ dividers.Smallest reference output := by
  by_cases inBand : reference ∈ Band.reference
  · by_cases below : target < 2_400_000_000
    · rcases exists_aims target with ⟨output, aims⟩ | ⟨low, refused⟩
      · have small : 7 * output < rateBound := by
          have output_lt := aims_lt below aims
          rw [Checked.rateBound_eq]
          omega
        have searching := run_search_of_aims inBand below aims
        rw [ExceptT.run_map] at searching
        rcases run_dividersFor small with ⟨reason, ends⟩ | ⟨dividers, ends, smallest⟩
        · rw [ends] at searching
          exact .inl ⟨reason, searching⟩
        · rw [ends] at searching
          exact .inr (.inr ⟨dividers, output, searching, below, aims, smallest⟩)
      · rw [search, if_pos inBand, if_pos low]
        exact .inl ⟨_, Attempt.run_bind_of_error refused⟩
    · have high : 2_400_000_000 ≤ target := Nat.le_of_not_lt below
      exact .inr (.inl ⟨run_search_of_high inBand high, high⟩)
  · rw [search, if_neg inBand]
    exact .inl ⟨_, rfl⟩

theorem mem_reference_of_search {reference target : Nat} {found : Option Dividers}
    (finds : (search reference target).run = .ok (.ok found)) : reference ∈ Band.reference := by
  unfold search at finds
  split at finds
  next inBand => exact inBand
  next => cases finds

/-- The dividers found for a target below the upper end of the band are the smallest that serve the output aimed at. -/
theorem exists_smallest_of_search {reference target : Nat} {dividers : Dividers}
    (finds : (search reference target).run = .ok (.ok (some dividers))) :
    target < 2_400_000_000 ∧ ∃ output, Aims target output ∧ dividers.Smallest reference output := by
  rcases search_cases reference target with ⟨_, ends⟩ | ⟨ends, _⟩ | ⟨same, output, ends, below, aims, smallest⟩
  all_goals
    rw [finds] at ends
    cases ends
  exact ⟨below, output, aims, smallest⟩

theorem Dividers.Smallest.run_search {reference target output : Nat} {dividers : Dividers}
    (smallest : dividers.Smallest reference output) (inBand : reference ∈ Band.reference)
    (below : target < 2_400_000_000) (aims : Aims target output) :
    (search reference target).run = .ok (.ok (some dividers)) := by
  have bound := Checked.rateBound_eq
  have once : output * 1 ≤ output * dividers.output := Nat.mul_le_mul_left _ smallest.output_pos
  have upper := smallest.oscillator_le
  have found := smallest.run_dividersFor (by omega)
  rw [run_search_of_aims inBand below aims, ExceptT.run_map, found]
  rfl

/-- An output that no output divider lifts to the band of the oscillator is refused. -/
theorem run_search_of_slow {reference target output : Nat} (inBand : reference ∈ Band.reference)
    (below : target < 2_400_000_000) (aims : Aims target output) (slow : 7 * output < 600_000_000) :
    (search reference target).run = .ok (.error .noOutputDivider) := by
  have bound := Checked.rateBound_eq
  have outputRun := @run_outputDivider output (by omega)
  have none : outputDividers.find? (fun divider => divider * output ∈ Band.oscillator) = none := by
    refine List.find?_range'_eq_none.mpr fun divider _ last => ?_
    have least : divider * output ≤ 7 * output := Nat.mul_le_mul_right output (by omega)
    rw [Bool.not_eq_true', decide_eq_false_iff_not, Band.mem_iff]
    exact fun inside => Nat.not_le.mpr (Nat.lt_of_le_of_lt least slow) inside.1
  rw [none] at outputRun
  have refused : (dividersFor reference output).run = .ok (.error .noOutputDivider) :=
    Attempt.run_bind_of_error outputRun
  rw [run_search_of_aims inBand below aims, ExceptT.run_map, refused]
  rfl

/-! ### What dividers that serve give -/

namespace Dividers

variable {reference output : Nat} {dividers : Dividers}

/-- The feedback divider stays far below what its field can hold. -/
theorem Serves.milliFeedback_le (serves : dividers.Serves reference output) :
    dividers.milliFeedback ≤ 240_000 := by
  rw [serves.milliFeedback]
  apply Nat.div_le_of_le_mul
  -- The detector runs at 10 MHz at least, and 240 times that is the upper end for the oscillator.
  have scaled := Nat.mul_le_mul_right dividers.input serves.oscillator_le
  have fast := serves.input_mul_le
  omega

/-- The feedback divider is rounded down, so that it gives no more than the output that is served. -/
theorem Serves.product_le (serves : dividers.Serves reference output) :
    reference * dividers.milliFeedback ≤ output * dividers.output * dividers.input * 1000 := by
  rw [serves.milliFeedback]
  exact Nat.mul_div_le _ _

theorem Serves.reference_mul_le (serves : dividers.Serves reference output) :
    reference * dividers.milliFeedback ≤ 2_400_000_000 * 63 * 1000 :=
  Nat.le_trans serves.product_le
    (Nat.mul_le_mul_right 1000 (Nat.mul_le_mul serves.oscillator_le serves.input_le))

/-- The rate of dividers that serve, without overflow. -/
theorem Serves.rate_eq (serves : dividers.Serves reference output) :
    dividers.rate reference =
      .ok (reference * dividers.milliFeedback / dividers.output / dividers.input / 1000) := by
  have product : reference * dividers.milliFeedback < rateBound :=
    Nat.lt_of_le_of_lt serves.reference_mul_le (by decide)
  rw [rate, Checked.mul_of_lt product, Checked.ok_bind, Checked.div_of_pos serves.output_pos,
    Checked.ok_bind, Checked.div_of_pos serves.input_pos, Checked.ok_bind]
  rfl

theorem Serves.reference_lt (serves : dividers.Serves reference output) :
    reference < 40_000_001 * dividers.input :=
  (Nat.div_lt_iff_lt_mul serves.input_pos).mp (Nat.lt_succ_of_le serves.detector.2)

theorem Serves.le_scaled (serves : dividers.Serves reference output) :
    600_000_000 * dividers.input ≤ output * dividers.output * dividers.input := by
  rw [Nat.mul_comm output]
  exact Nat.mul_le_mul_right _ serves.oscillator.1

/-- Rounding the feedback divider costs less than one thousandth of it. -/
theorem Serves.lt_product (serves : dividers.Serves reference output) :
    output * dividers.output * dividers.input * 1000 < reference * dividers.milliFeedback + reference := by
  rw [serves.milliFeedback]
  exact Nat.lt_mul_div_succ _ serves.reference_pos

/-- The oscillator is faster than the reference, so that the feedback divider is not zero. -/
theorem Serves.milliFeedback_pos (serves : dividers.Serves reference output) : 0 < dividers.milliFeedback := by
  have slow := serves.reference_lt
  have scaled := serves.le_scaled
  rw [serves.milliFeedback]
  exact Nat.div_pos (by omega) serves.reference_pos

/-- The rate that dividers achieve. -/
def achieved (reference : Nat) (dividers : Dividers) : Nat :=
  reference * dividers.milliFeedback / (dividers.output * dividers.input * 1000)

theorem mul_divider (output : Nat) (dividers : Dividers) :
    output * dividers.output * dividers.input * 1000 = output * (dividers.output * dividers.input * 1000) := by
  rw [Nat.mul_assoc, Nat.mul_assoc, ← Nat.mul_assoc dividers.output]

theorem Serves.divider_pos (serves : dividers.Serves reference output) :
    0 < dividers.output * dividers.input * 1000 :=
  Nat.mul_pos (Nat.mul_pos serves.output_pos serves.input_pos) (by decide)

theorem Serves.divider_le (serves : dividers.Serves reference output) :
    dividers.output * dividers.input * 1000 ≤ reference := by
  have fast := serves.input_mul_le
  have small := Nat.mul_le_mul_right dividers.input serves.output_le
  omega

/-- The divisions of the rate are a single one. -/
theorem Serves.rate_eq_achieved (serves : dividers.Serves reference output) :
    dividers.rate reference = .ok (dividers.achieved reference) := by
  rw [serves.rate_eq, Nat.div_div_eq_div_mul, Nat.div_div_eq_div_mul, ← Nat.mul_assoc]
  rfl

theorem Serves.achieved_le (serves : dividers.Serves reference output) : dividers.achieved reference ≤ output := by
  have product := serves.product_le
  rw [mul_divider] at product
  calc
    dividers.achieved reference ≤
        output * (dividers.output * dividers.input * 1000) / (dividers.output * dividers.input * 1000) :=
      Nat.div_le_div_right product
    _ = output := Nat.mul_div_cancel _ serves.divider_pos

/-- Rounding the feedback divider costs less than the phase detector gives in a thousandth, and rounding the rate less
than 1 Hz. -/
theorem Serves.mul_divider_lt (serves : dividers.Serves reference output) :
    output * (dividers.output * dividers.input * 1000) <
      (dividers.achieved reference + 1) * (dividers.output * dividers.input * 1000) + reference := by
  have below := serves.lt_product
  have rounded : reference * dividers.milliFeedback <
      dividers.achieved reference * (dividers.output * dividers.input * 1000) +
        dividers.output * dividers.input * 1000 := Nat.lt_div_mul_add serves.divider_pos
  rw [mul_divider] at below
  rw [Nat.succ_mul]
  omega

/-- Rounding the feedback divider and the rate itself costs 40.001 kHz at most. -/
theorem Serves.le_achieved (serves : dividers.Serves reference output) :
    output ≤ dividers.achieved reference + 40_001 := by
  refine Nat.le_of_not_gt fun above => ?_
  have slow := serves.reference_lt
  have near := serves.mul_divider_lt
  have far := Nat.mul_le_mul_right (dividers.output * dividers.input * 1000) above
  have undivided : 1 * dividers.input ≤ dividers.output * dividers.input :=
    Nat.mul_le_mul_right _ serves.output_pos
  rw [Nat.succ_mul] at near
  rw [Nat.succ_mul, Nat.add_mul] at far
  omega

/-- The output is met exactly if the feedback divider needs no rounding. -/
theorem Serves.achieved_eq_iff (serves : dividers.Serves reference output) :
    dividers.achieved reference = output ↔ reference ∣ output * dividers.output * dividers.input * 1000 := by
  constructor
  · intro met
    have most : dividers.achieved reference * (dividers.output * dividers.input * 1000) ≤
        reference * dividers.milliFeedback := Nat.div_mul_le_self _ _
    rw [met, ← mul_divider] at most
    exact ⟨dividers.milliFeedback, Nat.le_antisymm most serves.product_le⟩
  · intro divides
    have whole : reference * dividers.milliFeedback = output * dividers.output * dividers.input * 1000 := by
      rw [serves.milliFeedback, Nat.mul_div_cancel' divides]
    rw [achieved, whole, mul_divider, Nat.mul_div_cancel _ serves.divider_pos]

/-- The rate of dividers that serve is never zero. -/
theorem Serves.achieved_pos (serves : dividers.Serves reference output) : 0 < dividers.achieved reference := by
  have once : reference * 1 ≤ reference * dividers.milliFeedback :=
    Nat.mul_le_mul_left _ serves.milliFeedback_pos
  rw [Nat.mul_one] at once
  exact Nat.div_pos (Nat.le_trans serves.divider_le once) serves.divider_pos

theorem Serves.rate_pos (serves : dividers.Serves reference output) {rate : Nat}
    (gives : dividers.rate reference = .ok rate) : 0 < rate := by
  rw [serves.rate_eq_achieved] at gives
  cases gives
  exact serves.achieved_pos

/-- The setting that holds the dividers, with a modulation. -/
def setting (dividers : Dividers) (spreadRate slope : Nat) : Setting where
  input := dividers.input
  feedback := dividers.feedback
  output := dividers.output
  fraction := dividers.fraction
  spreadRate
  slope

theorem fraction_lt (dividers : Dividers) : dividers.fraction < 16_777_216 := by
  simp only [fraction, Nat.shiftLeft_eq]
  omega

/-- The rounded fraction counts the same thousandths as the feedback divider. -/
theorem thousandths_fraction (dividers : Dividers) :
    (dividers.fraction * 1000 + 500) >>> 24 = dividers.milliFeedback % 1000 := by
  -- The unit of the fraction is so small that rounding to it is undone by rounding to thousandths.
  simp only [fraction, Nat.shiftLeft_eq, Nat.shiftRight_eq_div_pow]
  omega

theorem Serves.fits (serves : dividers.Serves reference output) {spreadRate slope : Nat}
    (spreadRateFits : spreadRate < 1 <<< PllField.spreadRate.width)
    (slopeFits : slope < 1 <<< PllField.slope.width) : (dividers.setting spreadRate slope).Fits where
  input := Nat.lt_of_le_of_lt serves.input_le (by decide)
  feedback :=
    Nat.lt_of_le_of_lt (Nat.div_le_div_right serves.milliFeedback_le) (by decide : 240_000 / 1000 < 1 <<< 11)
  output := Nat.lt_of_le_of_lt serves.output_le (by decide)
  fraction := dividers.fraction_lt
  spreadRate := spreadRateFits
  slope := slopeFits

/-- A setting with the dividers decodes to their rate. -/
theorem Serves.fractionalRate_eq (serves : dividers.Serves reference output) {setting : Setting}
    (fits : setting.Fits) (input : setting.input = dividers.input)
    (feedback : setting.feedback = dividers.feedback) (outputDivider : setting.output = dividers.output)
    (fraction : setting.fraction = dividers.fraction) :
    ControlWords.fractionalRate reference setting = dividers.rate reference := by
  have whole : setting.feedback * 1000 + (setting.fraction * 1000 + 500) >>> 24 = dividers.milliFeedback := by
    rw [feedback, fraction, thousandths_fraction, Dividers.feedback]
    omega
  have product : reference * dividers.milliFeedback < rateBound :=
    Nat.lt_of_le_of_lt serves.reference_mul_le (by decide)
  rw [serves.rate_eq, ControlWords.fractionalRate_eq fits (by rwa [whole]) (input ▸ serves.input_pos)
    (outputDivider ▸ serves.output_pos), whole, input, outputDivider]
  -- The divisions are the same ones in another order.
  rw [Nat.div_div_eq_div_mul, Nat.div_div_eq_div_mul, Nat.div_div_eq_div_mul, Nat.div_div_eq_div_mul,
    Nat.mul_comm 1000, Nat.mul_assoc]

end Dividers

/-- The solution for dividers. -/
def Dividers.solution (reference : Nat) (dividers : Dividers) : Solution where
  words := (dividers.setting 0 0).words
  rate := dividers.achieved reference
  isFallback := false

end FractionalSearch

/-- The solution in fractional mode, if there is one, is the fallback or packs dividers that serve the output
aimed at. -/
theorem solveFractional_cases (reference target : Nat) :
    (∃ reason, (solveFractional reference target).run = .ok (.error reason)) ∨
      (solveFractional reference target).run = .ok (.ok .fallback) ∨
      ∃ dividers output rate, (FractionalSearch.search reference target).run = .ok (.ok (some dividers)) ∧
        dividers.Serves reference output ∧ dividers.rate reference = .ok rate ∧
        (solveFractional reference target).run = .ok (.ok ⟨(dividers.setting 0 0).words, rate, false⟩) := by
  unfold solveFractional
  rcases FractionalSearch.search_cases reference target with ⟨reason, ends⟩ | ⟨ends, _⟩ |
    ⟨dividers, output, ends, _, _, smallest⟩
  · exact .inl ⟨reason, Attempt.run_bind_of_error ends⟩
  · exact .inr (.inl (by rw [Attempt.run_bind_of_ok ends]; rfl))
  · have serves := smallest.toServes
    refine .inr (.inr ⟨dividers, output, _, ends, serves, serves.rate_eq, ?_⟩)
    rw [Attempt.run_bind_of_ok ends, Attempt.run_bind_liftM serves.rate_eq]
    rfl

/-- The solution packs the smallest dividers that serve the output aimed at. -/
theorem FractionalSearch.Dividers.Smallest.run_solveFractional {reference target output : Nat}
    {dividers : FractionalSearch.Dividers} (smallest : dividers.Smallest reference output)
    (inBand : reference ∈ Band.reference) (below : target < 2_400_000_000)
    (aims : FractionalSearch.Aims target output) :
    (solveFractional reference target).run = .ok (.ok (dividers.solution reference)) := by
  rw [solveFractional, Attempt.run_bind_of_ok (smallest.run_search inBand below aims),
    Attempt.run_bind_liftM smallest.rate_eq_achieved]
  rfl

theorem run_solveFractional_of_slow {reference target : Nat} (inBand : reference ∈ Band.reference)
    (low : 85_700_000 ≤ target) (slow : 7 * target < 600_000_000) :
    (solveFractional reference target).run = .ok (.error .noOutputDivider) :=
  Attempt.run_bind_of_error
    (FractionalSearch.run_search_of_slow inBand (by omega) (FractionalSearch.aims_self low) slow)

end ClockController
