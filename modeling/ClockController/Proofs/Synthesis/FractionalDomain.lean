import ClockController.Proofs.Synthesis.FractionalSearch
import Mathlib.Algebra.Order.Floor.Div
import Mathlib.Tactic.Linarith
import Mathlib.Tactic.Zify

/-!
# ClockController.Proofs.Synthesis.FractionalDomain

The targets that fractional mode accepts, and what it answers for them.

The smallest dividers have a closed form. They exist exactly where the reference is fast enough for the phase detector,
and an output divider of seven lifts the output to the band of the oscillator.

## Main definitions

`FractionalSearch.StandsFor`: the output that stands for a target.
`FractionalSearch.Accepts`: a target is accepted, with an output that stands for it.
`FractionalSearch.Dividers.ofOutput`: the smallest dividers for an output in closed form.

## Main results

`FractionalSearch.Dividers.Smallest.eq_ofOutput`, `FractionalSearch.Accepts.smallest`: where there are dividers that
serve an output, the closed form gives the smallest ones.
`FractionalSearch.search_eq_some_iff`, `FractionalSearch.search_eq_none_iff`: what the search finds.
`solveFractional_eq_ok_iff`: what solving answers.
`solveFractional_domain`: when there is a solution, and the setting that it packs.
`solveFractional_accuracy`: how far the rate of a solution stays below the output.
-/

namespace ClockController

namespace FractionalSearch

/-! ### The output that stands for a target -/

/-- A target of the output band stands for itself, and its smallest multiple above the lower end of the band for a low
one. -/
inductive StandsFor (target : Nat) : Nat → Prop
  | itself (high : 85_700_000 ≤ target) : StandsFor target target
  | lifted {multiplier : Nat} (low : target < 85_700_000) (lifts : Lifts target multiplier) :
      StandsFor target (multiplier * target)

theorem aims_iff {target output : Nat} : Aims target output ↔ StandsFor target output := by
  constructor
  · intro aims
    unfold Aims at aims
    split at aims
    next low =>
      obtain ⟨multiplier, lifts, rfl⟩ := (lift_eq_ok_iff low).mp aims
      exact .lifted low lifts
    next notLow =>
      subst aims
      exact .itself (Nat.le_of_not_lt notLow)
  · intro stands
    cases stands with
    | itself high => exact aims_self high
    | lifted low lifts =>
      have below : target < Band.output.low := low
      rw [Aims, if_pos below, lift_eq_ok_iff below]
      exact ⟨_, lifts, rfl⟩

theorem StandsFor.eq_self {target output : Nat} (stands : StandsFor target output) (high : 85_700_000 ≤ target) :
    output = target := by
  cases stands with
  | itself => rfl
  | lifted low => exact absurd high (Nat.not_le.mpr low)

/-! ### The smallest dividers in closed form -/

/-- The input divider brings a reference below 40.000001 MHz, and the output divider the oscillator to 600 MHz. -/
def Dividers.ofOutput (reference output : Nat) : Dividers where
  input := reference / 40_000_001 + 1
  output := 600_000_000 ⌈/⌉ output
  milliFeedback := output * (600_000_000 ⌈/⌉ output) * (reference / 40_000_001 + 1) * 1000 / reference

namespace Dividers.Smallest

variable {reference output : Nat} {dividers : Dividers}

theorem input_eq (smallest : dividers.Smallest reference output) :
    dividers.input = reference / 40_000_001 + 1 := by
  apply Nat.le_antisymm
  · by_contra more
    have fast := smallest.input_smallest (reference / 40_000_001 + 1) (Nat.succ_pos _) (Nat.lt_of_not_le more)
    have reached : 40_000_001 * (reference / 40_000_001 + 1) ≤ reference :=
      (Nat.le_div_iff_mul_le (Nat.succ_pos _)).mp fast
    omega
  · have slow := smallest.reference_lt
    omega

theorem output_eq (smallest : dividers.Smallest reference output) :
    dividers.output = 600_000_000 ⌈/⌉ output := by
  have reached : 600_000_000 ≤ output * dividers.output := by
    rw [Nat.mul_comm]
    exact smallest.oscillator.1
  have positive : 0 < output := Nat.pos_of_ne_zero fun zero => by simp [zero] at reached
  apply Nat.le_antisymm
  · by_contra more
    have enough : 600_000_000 ≤ output * (600_000_000 ⌈/⌉ output) := le_smul_ceilDiv positive
    have present : 0 < 600_000_000 ⌈/⌉ output := Nat.pos_of_ne_zero fun zero => by simp [zero] at enough
    have short := smallest.output_smallest _ present (Nat.lt_of_not_le more)
    rw [Nat.mul_comm] at short
    exact absurd enough (Nat.not_le.mpr short)
  · exact (ceilDiv_le_iff_le_mul positive).mpr reached

theorem eq_ofOutput (smallest : dividers.Smallest reference output) :
    dividers = ofOutput reference output := by
  have milliFeedback := smallest.milliFeedback
  rw [smallest.input_eq, smallest.output_eq] at milliFeedback
  cases dividers
  simp only [ofOutput, mk.injEq]
  exact ⟨smallest.input_eq, smallest.output_eq, milliFeedback⟩

end Dividers.Smallest

/-- A target is accepted for a reference, with an output that stands for it. -/
structure Accepts (reference target output : Nat) : Prop where
  fast : 10_000_000 ≤ reference
  slow : reference ≤ 200_000_000
  below : target < 2_400_000_000
  stands : StandsFor target output
  reaches : 600_000_000 ≤ 7 * output

namespace Accepts

variable {reference target output : Nat}

theorem inBand (accepts : Accepts reference target output) : reference ∈ Band.reference :=
  ⟨Nat.le_trans (by decide) accepts.fast, accepts.slow⟩

theorem output_lt (accepts : Accepts reference target output) : output < 2_400_000_000 :=
  aims_lt accepts.below (aims_iff.mpr accepts.stands)

theorem output_pos (accepts : Accepts reference target output) : 0 < output := by
  have reaches := accepts.reaches
  omega

/-- The oscillator stays below the upper end of its band: it runs at the output, or less than twice as fast as it has
to. -/
theorem oscillator_lt (accepts : Accepts reference target output) :
    (600_000_000 ⌈/⌉ output) * output < 2_400_000_000 := by
  have below := accepts.output_lt
  rcases Nat.eq_zero_or_pos (600_000_000 ⌈/⌉ output) with zero | present
  · simp [zero]
  · obtain ⟨previous, isSucc⟩ := Nat.exists_eq_succ_of_ne_zero (Nat.ne_of_gt present)
    -- The output divider before this one leaves the oscillator below its band.
    have short : output * previous < 600_000_000 := by
      rw [← Nat.not_le, ← ceilDiv_le_iff_le_mul accepts.output_pos, isSucc]
      exact Nat.not_succ_le_self previous
    rw [isSucc, Nat.succ_mul, Nat.mul_comm]
    rcases Nat.eq_zero_or_pos previous with rfl | divides
    · omega
    · have once : output * 1 ≤ output * previous := Nat.mul_le_mul_left _ divides
      omega

/-- The dividers in closed form are the smallest that serve the output of an accepted target. -/
theorem smallest (accepts : Accepts reference target output) :
    (Dividers.ofOutput reference output).Smallest reference output := by
  have positive := accepts.output_pos
  have fast := accepts.fast
  have slow := accepts.slow
  have reached : 600_000_000 ≤ output * (600_000_000 ⌈/⌉ output) := le_smul_ceilDiv positive
  constructor
  · constructor
    case input_pos => exact Nat.succ_pos _
    case input_le =>
      show reference / 40_000_001 + 1 ≤ 63
      omega
    case output_pos => exact Nat.pos_of_ne_zero fun zero : 600_000_000 ⌈/⌉ output = 0 => by simp [zero] at reached
    case output_le =>
      apply (ceilDiv_le_iff_le_mul positive).mpr
      rw [Nat.mul_comm]
      exact accepts.reaches
    case detector =>
      constructor
      · show 10_000_000 ≤ reference / (reference / 40_000_001 + 1)
        rw [Nat.le_div_iff_mul_le (Nat.succ_pos _)]
        omega
      · show reference / (reference / 40_000_001 + 1) ≤ 40_000_000
        rw [← Nat.lt_succ_iff, Nat.div_lt_iff_lt_mul (Nat.succ_pos _)]
        omega
    case oscillator =>
      rw [Nat.mul_comm] at reached
      exact ⟨reached, Nat.le_of_lt accepts.oscillator_lt⟩
    case milliFeedback => rfl
  · intro smaller _ (lt : smaller < 600_000_000 ⌈/⌉ output)
    rwa [← Nat.not_le, ceilDiv_le_iff_le_mul positive, Nat.not_le, Nat.mul_comm] at lt
  · intro smaller present (lt : smaller < reference / 40_000_001 + 1)
    rw [← Nat.succ_le_iff, Nat.le_div_iff_mul_le present]
    have fits := Nat.mul_le_mul_left 40_000_001 (Nat.le_of_lt_succ lt)
    omega

end Accepts

/-! ### What the search finds -/

variable {reference target : Nat}

theorem search_eq_some_iff {dividers : Dividers} :
    (search reference target).run = .ok (.ok (some dividers)) ↔
      ∃ output, Accepts reference target output ∧ dividers = .ofOutput reference output := by
  constructor
  · intro finds
    obtain ⟨below, output, aims, smallest⟩ := exists_smallest_of_search finds
    have inBand := mem_reference_of_search finds
    have divided := smallest.input_mul_le
    have present := smallest.input_pos
    have scaled := Nat.mul_le_mul_right output smallest.output_le
    refine ⟨output, ⟨by omega, inBand.2, below, aims_iff.mp aims, ?_⟩, smallest.eq_ofOutput⟩
    exact Nat.le_trans smallest.oscillator.1 scaled
  · rintro ⟨output, accepts, rfl⟩
    exact accepts.smallest.run_search accepts.inBand accepts.below (aims_iff.mpr accepts.stands)

theorem search_eq_none_iff :
    (search reference target).run = .ok (.ok none) ↔ reference ∈ Band.reference ∧ 2_400_000_000 ≤ target := by
  constructor
  · intro finds
    refine ⟨mem_reference_of_search finds, ?_⟩
    rcases search_cases reference target with ⟨_, ends⟩ | ⟨_, high⟩ | ⟨_, _, ends, _⟩
    · rw [finds] at ends
      cases ends
    · exact high
    · rw [finds] at ends
      cases ends
  · rintro ⟨inBand, high⟩
    exact run_search_of_high inBand high

end FractionalSearch

/-! ### What solving answers -/

open FractionalSearch

section Answers

variable {reference target : Nat} {solution : Solution}

/-- A solution is the fallback for a target that is too high, or packs the dividers of an accepted target. -/
theorem solveFractional_eq_ok_iff :
    (solveFractional reference target).run = .ok (.ok solution) ↔
      (reference ∈ Band.reference ∧ 2_400_000_000 ≤ target ∧ solution = .fallback) ∨
        ∃ output, Accepts reference target output ∧
          solution = (Dividers.ofOutput reference output).solution reference := by
  constructor
  · intro solves
    rcases search_cases reference target with ⟨reason, ends⟩ | ⟨ends, _⟩ | ⟨dividers, _, ends, _, _, smallest⟩
    · rw [solveFractional, Attempt.run_bind_of_error ends] at solves
      cases solves
    · rw [solveFractional, Attempt.run_bind_of_ok ends] at solves
      cases solves
      obtain ⟨inBand, high⟩ := search_eq_none_iff.mp ends
      exact .inl ⟨inBand, high, rfl⟩
    · rw [solveFractional, Attempt.run_bind_of_ok ends, Attempt.run_bind_liftM smallest.rate_eq_achieved] at solves
      cases solves
      obtain ⟨output, accepts, rfl⟩ := search_eq_some_iff.mp ends
      exact .inr ⟨output, accepts, rfl⟩
  · rintro (⟨inBand, high, rfl⟩ | ⟨output, accepts, rfl⟩)
    · rw [solveFractional, Attempt.run_bind_of_ok (run_search_of_high inBand high)]
      rfl
    · exact accepts.smallest.run_solveFractional accepts.inBand accepts.below (aims_iff.mpr accepts.stands)

/-- A target is refused where there is no solution: solving never ends in a fault. -/
theorem solveFractional_refuses_iff :
    (∃ reason, (solveFractional reference target).run = .ok (.error reason)) ↔
      ∀ solution, (solveFractional reference target).run ≠ .ok (.ok solution) := by
  rcases solveFractional_cases reference target with ⟨reason, ends⟩ | ends | ⟨_, _, _, _, _, _, ends⟩
  · simp [ends]
  · simp [ends]
  · simp [ends]

/-- Below the upper end of the output band there is a solution, and not the fallback, exactly for accepted targets. -/
theorem exists_solution_iff (below : target < 2_400_000_000) :
    (∃ solution, (solveFractional reference target).run = .ok (.ok solution)) ↔
      ∃ output, Accepts reference target output := by
  constructor
  · rintro ⟨solution, solves⟩
    rcases solveFractional_eq_ok_iff.mp solves with ⟨_, high, _⟩ | ⟨output, accepts, _⟩
    · exact absurd below (Nat.not_lt.mpr high)
    · exact ⟨output, accepts⟩
  · rintro ⟨output, accepts⟩
    exact ⟨_, solveFractional_eq_ok_iff.mpr (.inr ⟨output, accepts, rfl⟩)⟩

theorem genuine_of_lt (below : target < 2_400_000_000)
    (solves : (solveFractional reference target).run = .ok (.ok solution)) : solution.isFallback = false := by
  rcases solveFractional_eq_ok_iff.mp solves with ⟨_, high, _⟩ | ⟨_, _, rfl⟩
  · exact absurd below (Nat.not_lt.mpr high)
  · rfl

/-- A solution other than the fallback packs the dividers of an accepted target. -/
theorem exists_accepts_of_genuine (solves : (solveFractional reference target).run = .ok (.ok solution))
    (genuine : solution.isFallback = false) :
    ∃ output, Accepts reference target output ∧
      solution = (Dividers.ofOutput reference output).solution reference := by
  rcases solveFractional_eq_ok_iff.mp solves with ⟨_, _, rfl⟩ | accepted
  · cases genuine
  · exact accepted

end Answers

/-- The setting that stands for an output in fractional mode. -/
structure Setting.FractionalFor (reference output : Nat) (setting : Setting) : Prop where
  input_eq : setting.input = reference / 40_000_001 + 1
  input_le : setting.input ≤ 5
  output_eq : setting.output = 600_000_000 ⌈/⌉ output
  feedback_eq : setting.feedback = output * setting.output * setting.input / reference
  feedback_ge : 14 ≤ setting.feedback
  feedback_le : setting.feedback ≤ 239
  fraction_eq : setting.fraction =
    (output * setting.output * setting.input * 1000 / reference % 1000 * 2 ^ 24 + 500) / 1000
  fraction_lt : setting.fraction < 2 ^ 24

namespace FractionalSearch.Accepts

variable {reference target output : Nat}

theorem fits (accepts : Accepts reference target output) :
    ((Dividers.ofOutput reference output).setting 0 0).Fits :=
  accepts.smallest.fits (by decide) (by decide)

theorem setting_solution (accepts : Accepts reference target output) :
    ((Dividers.ofOutput reference output).solution reference).words.setting =
      (Dividers.ofOutput reference output).setting 0 0 :=
  Setting.words_setting accepts.fits

/-- Without its thousandths the feedback divider is the whole quotient of oscillator and phase detector. -/
theorem feedback_eq (reference output : Nat) :
    (Dividers.ofOutput reference output).feedback =
      output * (Dividers.ofOutput reference output).output * (Dividers.ofOutput reference output).input /
        reference := by
  rw [Dividers.feedback, Dividers.ofOutput, Nat.div_div_eq_div_mul, Nat.mul_div_mul_right _ _ (by decide)]

theorem fractionalFor (accepts : Accepts reference target output) :
    ((Dividers.ofOutput reference output).setting 0 0).FractionalFor reference output := by
  have smallest := accepts.smallest
  have fast := smallest.input_mul_le
  have slow := smallest.reference_lt
  have lower := smallest.le_scaled
  have upper := Nat.mul_lt_mul_of_pos_right accepts.oscillator_lt smallest.input_pos
  rw [Nat.mul_comm _ output] at upper
  refine
    { input_eq := rfl
      input_le := ?_
      output_eq := rfl
      feedback_eq := feedback_eq reference output
      feedback_ge := ?_
      feedback_le := ?_
      fraction_eq := ?_
      fraction_lt := Dividers.fraction_lt _ }
  · have bound := accepts.slow
    show reference / 40_000_001 + 1 ≤ 5
    omega
  · show 14 ≤ (Dividers.ofOutput reference output).feedback
    rw [feedback_eq, Nat.le_div_iff_mul_le smallest.reference_pos]
    omega
  · show (Dividers.ofOutput reference output).feedback ≤ 239
    rw [feedback_eq, ← Nat.lt_succ_iff, Nat.div_lt_iff_lt_mul smallest.reference_pos]
    exact Nat.lt_of_lt_of_le upper (by omega)
  · show (Dividers.ofOutput reference output).fraction = _
    rw [Dividers.fraction, Nat.shiftLeft_eq]
    rfl

end FractionalSearch.Accepts

/-- Fractional mode refuses a reference outside its band and answers a target that is too high with the fallback. Any
other target has a solution exactly if the reference is fast enough and an output stands for the target that seven times
the output divider lifts to the band of the oscillator; the words of the solution hold the setting for that output. -/
theorem solveFractional_domain (reference target : Nat) :
    let answer := (solveFractional reference target).run
    let reachable := 10_000_000 ≤ reference ∧ ∃ output, StandsFor target output ∧ 600_000_000 ≤ 7 * output
    (reference ∉ Band.reference → ∃ reason, answer = .ok (.error reason)) ∧
    (reference ∈ Band.reference → 2_400_000_000 ≤ target → answer = .ok (.ok .fallback)) ∧
    (reference ∈ Band.reference → target < 2_400_000_000 →
      ((∃ solution, answer = .ok (.ok solution) ∧ solution.isFallback = false) ↔ reachable) ∧
      ((∃ reason, answer = .ok (.error reason)) ↔ ¬ reachable)) ∧
    ∀ solution, answer = .ok (.ok solution) → solution.isFallback = false →
      ∃ output setting, StandsFor target output ∧ setting.FractionalFor reference output ∧
        solution.words = setting.words ∧ solution.words.setting = setting := by
  intro answer reachable
  refine ⟨fun outside => ?_, fun inBand high => ?_, fun inBand below => ?_, fun solution solves genuine => ?_⟩
  · refine solveFractional_refuses_iff.mpr fun solution solves => ?_
    rcases solveFractional_eq_ok_iff.mp solves with ⟨inBand, _⟩ | ⟨_, accepts, _⟩
    · exact outside inBand
    · exact outside accepts.inBand
  · exact solveFractional_eq_ok_iff.mpr (.inl ⟨inBand, high, rfl⟩)
  · have reachable_iff : (∃ output, Accepts reference target output) ↔ reachable :=
      ⟨fun ⟨output, accepts⟩ => ⟨accepts.fast, output, accepts.stands, accepts.reaches⟩,
        fun ⟨fast, output, stands, reaches⟩ => ⟨output, fast, inBand.2, below, stands, reaches⟩⟩
    rw [solveFractional_refuses_iff, ← reachable_iff, ← exists_solution_iff below]
    constructor
    · exact exists_congr fun solution => and_iff_left_of_imp (genuine_of_lt below)
    · exact not_exists.symm
  · obtain ⟨output, accepts, rfl⟩ := exists_accepts_of_genuine solves genuine
    exact ⟨output, _, accepts.stands, accepts.fractionalFor, rfl, accepts.setting_solution⟩

/-- From 80.000001 MHz, 60 MHz is lifted to 120 MHz, for which the feedback divider takes the smallest value there is.
From 24 MHz, 42.855 MHz is lifted to a rate that no output divider brings to the band of the oscillator. -/
theorem solveFractional_domain_lifted :
    let solution : Solution := ⟨⟨0x200E, 0xFFBE7750, 0⟩, 119_992_001, false⟩
    ((solveFractional 80_000_001 60_000_000).run = .ok (.ok solution) ∧ solution.isFallback = false ∧
      ∃ output setting, StandsFor 60_000_000 output ∧ setting.FractionalFor 80_000_001 output ∧
        solution.words.setting = setting ∧ setting.feedback = 14) ∧
    24_000_000 ∈ Band.reference ∧ ∃ reason, (solveFractional 24_000_000 42_855_000).run = .ok (.error reason) := by
  intro solution
  have solves : (solveFractional 80_000_001 60_000_000).run = .ok (.ok solution) := rfl
  obtain ⟨_, _, _, packs⟩ := solveFractional_domain 80_000_001 60_000_000
  obtain ⟨output, setting, stands, packed, _, reads⟩ := packs solution solves rfl
  have inBand : 24_000_000 ∈ Band.reference := by decide
  obtain ⟨_, _, accepted, _⟩ := solveFractional_domain 24_000_000 42_855_000
  refine ⟨⟨solves, rfl, output, setting, stands, packed, reads, ?_⟩, inBand, ?_⟩
  · rw [← reads]
    decide
  · refine (accepted inBand (by decide)).2.mpr fun ⟨_, lifted, stands, reaches⟩ => ?_
    cases stands with
    | itself high => exact absurd high (by decide)
    | @lifted multiplier _ lifts =>
      -- Twice the target lies above the lower end of the band already.
      have twice : multiplier = 2 := by
        refine Nat.le_antisymm (Nat.le_of_not_lt fun more => ?_) lifts.two_le
        exact absurd (lifts.smallest 2 (Nat.le_refl 2) more) (by decide)
      subst twice
      exact absurd reaches (by decide)

/-! ### Accuracy -/

/-- A solution never runs faster than the output that stands for the target. It runs slower by less than 1 Hz and what a
thousandth of the feedback divider gives, which is 40.001 kHz at most. -/
theorem solveFractional_accuracy {reference target : Nat} {solution : Solution}
    (solves : (solveFractional reference target).run = .ok (.ok solution))
    (genuine : solution.isFallback = false) :
    ∃ output, StandsFor target output ∧ solution.rate ≤ output ∧
      ((output : Int) - solution.rate - 1) * 1000 * solution.words.setting.input * solution.words.setting.output <
        reference ∧
      output ≤ solution.rate + 40_001 := by
  obtain ⟨output, accepts, rfl⟩ := exists_accepts_of_genuine solves genuine
  have serves := accepts.smallest.toServes
  refine ⟨output, accepts.stands, serves.achieved_le, ?_, serves.le_achieved⟩
  have near := serves.mul_divider_lt
  rw [accepts.setting_solution]
  dsimp only [Dividers.setting, Dividers.solution]
  generalize Dividers.ofOutput reference output = dividers at near ⊢
  zify at near
  linarith

/-- The whole of 40.001 kHz can be lost. -/
theorem solveFractional_accuracy_worst :
    let solution : Solution := ⟨⟨0x4011, 0x553F7D10, 0⟩, 693_320_012, false⟩
    (solveFractional 160_000_003 693_360_013).run = .ok (.ok solution) ∧ solution.isFallback = false ∧
      (∃ output, StandsFor 693_360_013 output ∧ solution.rate ≤ output ∧
        ((output : Int) - solution.rate - 1) * 1000 * solution.words.setting.input * solution.words.setting.output <
          (160_000_003 : Nat) ∧
        output ≤ solution.rate + 40_001) ∧
      solution.rate + 40_001 = 693_360_013 := by
  intro solution
  have solves : (solveFractional 160_000_003 693_360_013).run = .ok (.ok solution) := rfl
  exact ⟨solves, rfl, solveFractional_accuracy solves rfl, by decide⟩

end ClockController
