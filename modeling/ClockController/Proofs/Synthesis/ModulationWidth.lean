import ClockController.Proofs.Synthesis.SpreadDerivation

/-!
# ClockController.Proofs.Synthesis.ModulationWidth

The modulation of the derived setting against the one that is asked for.

A modulation is asked for with a frequency and a depth, which can be arbitrarily large. Its rate and its slope are
defined here without a bound. The solver computes them in 64 bits, and compares the slope with its field only after a
shift that drops what leaves these bits: a slope that is far too wide can come out as one that fits.

## Main definitions

`SpreadSpectrum.Modulation`: a modulation that is asked for, with its exact rate and slope.
`SpreadSpectrum.Modulation.Fits`: the exact values fit their fields.
`SpreadSpectrum.Modulation.Computed`: nothing that decides about the answer is lost in 64 bits.
`SpreadSpectrum.Modulation.AnsweredBy`: an answer with the exact values, or a refusal where these do not fit.

## Main results

`FractionalSearch.Accepts.solveSpreadDerived_cases`: how the solver ends for an accepted target.
`solveSpreadDerived_exact_iff`: the answer is the exact one if and only if nothing is lost.
`solveSpreadDerived_wrapped`: a slope of 48 bits that is answered with one of 14.
-/

namespace ClockController

namespace SpreadSpectrum

/-- A modulation that is asked for, beside a feedback divider in thousandths. -/
structure Modulation where
  reference : Nat
  milliFeedback : Nat
  -- In Hz.
  frequency : Nat
  -- In units of 0.01 %.
  depth : Nat

namespace Modulation

variable (asked : Modulation)

/-- The exact modulation rate. -/
def rate : Nat :=
  asked.reference / 2 / (2 * asked.frequency) - 1

def step : Nat :=
  asked.milliFeedback * asked.depth / asked.rate

/-- The exact slope. -/
def slope : Nat :=
  asked.step * 2 ^ 24 / 100_000

/-- The slope of the lower 40 bits of the step. -/
def keptSlope : Nat :=
  asked.step % 2 ^ 40 * 2 ^ 24 / 100_000

def RateFits : Prop :=
  0 < asked.rate ∧ asked.rate ≤ 0x7FF

/-- The exact rate and slope fit their fields. A rate of zero does not. -/
structure Fits : Prop where
  rate : asked.RateFits
  slope : asked.slope ≤ 0xFFFFFF

/-- The values that decide about the answer have 64 bits, the step with its shift by 24 bits included. A value that is
not reached does not count, and neither does a step of which the shift leaves too much for the field. -/
structure Computed : Prop where
  period : 2 * asked.frequency < 2 ^ 64
  deviation : asked.RateFits → asked.milliFeedback * asked.depth < 2 ^ 64
  step : asked.RateFits → asked.keptSlope ≤ 0xFFFFFF → asked.step < 2 ^ 40

/-- A run of the solver ends, with a solution exactly if the modulation fits, and then with the exact rate and slope. -/
structure AnsweredBy (run : Checked (Except Unreachable Solution)) : Prop where
  ends : ∃ answer, run = .ok answer
  solves_iff : (∃ solution, run = .ok (.ok solution)) ↔ asked.Fits
  exact : ∀ solution, run = .ok (.ok solution) →
    solution.words.setting.spreadRate = asked.rate ∧ solution.words.setting.slope = asked.slope

variable {asked}

/-- What the shift leaves of a slope is all of it exactly if the step has 40 bits. -/
theorem keptSlope_eq_iff : asked.keptSlope = asked.slope ↔ asked.step < 2 ^ 40 := by
  rw [keptSlope, slope]
  omega

theorem keptSlope_le : asked.keptSlope ≤ asked.slope :=
  Nat.div_le_div_right (Nat.mul_le_mul_right _ (Nat.mod_le _ _))

/-- A slope that fits is computed without loss. -/
theorem step_lt_of_slope_le (fits : asked.slope ≤ 0xFFFFFF) : asked.step < 2 ^ 40 := by
  rw [slope] at fits
  omega

/-- A depth of at most 100 % and a frequency of 63 bits are computed without loss. -/
theorem computed_of_le (divided : asked.milliFeedback ≤ 240_000) (shallow : asked.depth ≤ 10_000)
    (slow : asked.frequency < 2 ^ 63) : asked.Computed := by
  have deviation : asked.milliFeedback * asked.depth ≤ 240_000 * 10_000 := Nat.mul_le_mul divided shallow
  have step : asked.step ≤ asked.milliFeedback * asked.depth := Nat.div_le_self _ _
  exact { period := by omega, deviation := fun _ => by omega, step := fun _ _ => by omega }

/-- The modulation rate of the solver is the exact one, or a fault where the period of the modulation is too long. -/
theorem run_modulationRate_cases (asked : Modulation) :
    (2 ^ 64 ≤ 2 * asked.frequency ∧
        (modulationRate asked.reference asked.frequency).run = .error .multiply) ∨
      (2 * asked.frequency < 2 ^ 64 ∧ ¬ asked.RateFits ∧
        ∃ reason, (modulationRate asked.reference asked.frequency).run = .ok (.error reason)) ∨
      2 * asked.frequency < 2 ^ 64 ∧ asked.RateFits ∧
        (modulationRate asked.reference asked.frequency).run = .ok (.ok asked.rate) := by
  have bound : rateBound = 2 ^ 64 := rfl
  rw [RateFits, rate, Nat.mul_comm 2]
  rcases Nat.lt_or_ge (asked.frequency * 2) rateBound with period | long
  · rcases run_modulationRate asked.reference period with ⟨reason, ends, unfit⟩ | ⟨found, ends, steps, positive, fits⟩
    · rw [maxRate] at unfit
      exact .inr (.inl ⟨period, by omega, reason, ends⟩)
    · rw [maxRate] at fits
      rw [ends, steps]
      exact .inr (.inr ⟨period, ⟨positive, fits⟩, rfl⟩)
  · have present : asked.frequency ≠ 0 := by omega
    rw [modulationRate, if_neg present]
    exact .inl ⟨long, Attempt.run_bind_liftM_of_fault (Checked.mul_of_le long)⟩

/-- The slope of the solver is what the shift leaves, or a fault where the deviation is too large. -/
theorem run_slope_cases (rateFits : asked.RateFits) :
    (2 ^ 64 ≤ asked.milliFeedback * asked.depth ∧
        (SpreadSpectrum.slope asked.milliFeedback asked.depth asked.rate).run = .error .multiply) ∨
      (asked.milliFeedback * asked.depth < 2 ^ 64 ∧ 0xFFFFFF < asked.keptSlope ∧
        ∃ reason, (SpreadSpectrum.slope asked.milliFeedback asked.depth asked.rate).run = .ok (.error reason)) ∨
      asked.milliFeedback * asked.depth < 2 ^ 64 ∧ asked.keptSlope ≤ 0xFFFFFF ∧
        (SpreadSpectrum.slope asked.milliFeedback asked.depth asked.rate).run = .ok (.ok asked.keptSlope) := by
  rcases Nat.lt_or_ge (asked.milliFeedback * asked.depth) rateBound with deviation | wide
  · have run := run_slope deviation rateFits.1
    rw [shifted_eq] at run
    rcases run with ⟨reason, ends, tooWide⟩ | ⟨_, ends, rfl, narrow⟩
    · exact .inr (.inl ⟨deviation, tooWide, reason, ends⟩)
    · exact .inr (.inr ⟨deviation, narrow, ends⟩)
  · rw [SpreadSpectrum.slope]
    exact .inl ⟨wide, Attempt.run_bind_liftM_of_fault (Checked.mul_of_le wide)⟩

end Modulation

end SpreadSpectrum

open FractionalSearch SpreadSpectrum

namespace FractionalSearch

/-- The modulation that is asked for beside the dividers for an output. -/
def modulationFor (reference output frequency depth : Nat) : Modulation where
  reference
  milliFeedback := (Dividers.ofOutput reference output).milliFeedback
  frequency
  depth

namespace Accepts

variable {reference target output frequency depth : Nat} {asked : Modulation}

/-- For an accepted target the solver ends in a fault, with a reason or with what the shift leaves of the slope. -/
theorem solveSpreadDerived_cases (accepts : Accepts reference target output)
    (asked_eq : asked = modulationFor reference output frequency depth) :
    (¬ asked.Computed ∧ ∃ fault, (solveSpreadDerived reference target frequency depth).run = .error fault) ∨
      (asked.Computed ∧ ¬ asked.Fits ∧
        ∃ reason, (solveSpreadDerived reference target frequency depth).run = .ok (.error reason)) ∨
      asked.RateFits ∧ asked.keptSlope ≤ 0xFFFFFF ∧ (asked.Computed ↔ asked.step < 2 ^ 40) ∧
        (solveSpreadDerived reference target frequency depth).run =
          .ok (.ok ((Dividers.ofOutput reference output).modulated reference asked.rate asked.keptSlope)) := by
  subst asked_eq
  have finds : (search reference target).run = .ok (.ok (some (.ofOutput reference output))) :=
    search_eq_some_iff.mpr ⟨output, accepts, rfl⟩
  rw [solveSpreadDerived, Attempt.run_bind_of_ok finds]
  dsimp only
  rcases Modulation.run_modulationRate_cases (modulationFor reference output frequency depth) with
    ⟨long, faults⟩ | ⟨period, unfit, reason, refused⟩ | ⟨period, rateFits, found⟩
  · exact .inl ⟨fun computed => Nat.not_lt.mpr long computed.period, _, Attempt.run_bind_of_fault faults⟩
  · have computed : (modulationFor reference output frequency depth).Computed :=
      { period, deviation := fun fits => absurd fits unfit, step := fun fits => absurd fits unfit }
    exact .inr (.inl ⟨computed, fun fits => unfit fits.rate, reason, Attempt.run_bind_of_error refused⟩)
  · rw [Attempt.run_bind_of_ok (show (modulationRate reference frequency).run = _ from found)]
    rcases Modulation.run_slope_cases rateFits with
      ⟨wide, faults⟩ | ⟨deviation, tooWide, reason, refused⟩ | ⟨deviation, narrow, found⟩
    · exact .inl ⟨fun computed => Nat.not_lt.mpr wide (computed.deviation rateFits), _,
        Attempt.run_bind_of_fault faults⟩
    · have unfit : ¬ (modulationFor reference output frequency depth).Fits := fun fits =>
        Nat.not_lt.mpr (Nat.le_trans Modulation.keptSlope_le fits.slope) tooWide
      have computed : (modulationFor reference output frequency depth).Computed :=
        { period, deviation := fun _ => deviation, step := fun _ kept => absurd kept (Nat.not_le.mpr tooWide) }
      exact .inr (.inl ⟨computed, unfit, reason, Attempt.run_bind_of_error refused⟩)
    · refine .inr (.inr ⟨rateFits, narrow, ?_, ?_⟩)
      · constructor
        · intro computed
          exact computed.step rateFits narrow
        · intro short
          exact { period, deviation := fun _ => deviation, step := fun _ _ => short }
      · refine (Attempt.run_bind_of_ok found).trans ?_
        rw [Attempt.run_bind_liftM accepts.smallest.rate_eq_achieved]
        rfl

/-- A derived solution for an accepted target holds the exact modulation rate and what the shift leaves of the slope. -/
theorem setting_eq_of_derived {solution : Solution} (accepts : Accepts reference target output)
    (asked_eq : asked = modulationFor reference output frequency depth)
    (derives : (solveSpreadDerived reference target frequency depth).run = .ok (.ok solution)) :
    0 < asked.rate ∧
      solution.words.setting = (Dividers.ofOutput reference output).setting asked.rate asked.keptSlope := by
  rcases accepts.solveSpreadDerived_cases asked_eq with
    ⟨_, _, faults⟩ | ⟨_, _, _, refused⟩ | ⟨rateFits, narrow, _, answered⟩
  · rw [faults] at derives
    cases derives
  · rw [refused] at derives
    cases derives
  · rw [answered] at derives
    cases derives
    exact ⟨rateFits.1, accepts.setting_modulated rateFits.2 narrow⟩

/-- The answer for an accepted target is the exact one if and only if nothing is lost. -/
theorem answeredBy_iff (accepts : Accepts reference target output)
    (asked_eq : asked = modulationFor reference output frequency depth) :
    asked.AnsweredBy (solveSpreadDerived reference target frequency depth).run ↔ asked.Computed := by
  rcases accepts.solveSpreadDerived_cases asked_eq with
    ⟨lost, fault, faults⟩ | ⟨computed, unfit, reason, refused⟩ | ⟨rateFits, narrow, computed_iff, answered⟩
  · rw [faults]
    exact iff_of_false (fun answers => nomatch answers.ends) lost
  · rw [refused]
    exact iff_of_true { ends := ⟨_, rfl⟩, solves_iff := iff_of_false nofun unfit, exact := nofun } computed
  · rw [computed_iff]
    constructor
    · intro answers
      exact Modulation.step_lt_of_slope_le (answers.solves_iff.mp ⟨_, answered⟩).slope
    · intro short
      have kept := Modulation.keptSlope_eq_iff.mpr short
      refine { ends := ⟨_, answered⟩, solves_iff := ?_, exact := fun solution derives => ?_ }
      · exact iff_of_true ⟨_, answered⟩ ⟨rateFits, kept ▸ narrow⟩
      · rw [(accepts.setting_eq_of_derived asked_eq derives).2]
        exact ⟨rfl, kept⟩

end Accepts

end FractionalSearch

/-- A derived solution other than the fallback is one for an accepted target. -/
theorem exists_accepts_of_derived {reference target frequency depth : Nat} {solution : Solution}
    (derives : (solveSpreadDerived reference target frequency depth).run = .ok (.ok solution))
    (genuine : solution.isFallback = false) : ∃ output, Accepts reference target output := by
  unfold solveSpreadDerived at derives
  rcases search_cases reference target with ⟨_, ends⟩ | ⟨ends, _⟩ | ⟨_, _, ends, _⟩
  · rw [Attempt.run_bind_of_error ends] at derives
    cases derives
  · rw [Attempt.run_bind_of_ok ends] at derives
    cases derives
    cases genuine
  · obtain ⟨output, accepts, _⟩ := search_eq_some_iff.mp ends
    exact ⟨output, accepts⟩

/-- A derived solution other than the fallback has the dividers for an accepted target, the exact modulation rate and
the slope of what the shift leaves, which is the exact slope if and only if the step has 40 bits. The solver answers
with the exact values, or refuses where they do not fit, if and only if nothing that decides about the answer is lost in
64 bits. Up to a depth of 100 % and a frequency of 63 bits nothing is. -/
theorem solveSpreadDerived_exact_iff (reference target frequency depth : Nat) :
    let derived := (solveSpreadDerived reference target frequency depth).run
    (∀ solution, derived = .ok (.ok solution) → solution.isFallback = false →
      ∃ output, Accepts reference target output) ∧
    ∀ output, Accepts reference target output →
      let asked := modulationFor reference output frequency depth
      (∀ solution, derived = .ok (.ok solution) →
        0 < asked.rate ∧
        solution.words.setting = (Dividers.ofOutput reference output).setting asked.rate asked.keptSlope ∧
        (solution.words.setting.slope = asked.slope ↔ asked.step < 2 ^ 40)) ∧
      (asked.AnsweredBy derived ↔ asked.Computed) ∧
      (depth ≤ 10_000 → frequency < 2 ^ 63 → asked.Computed) := by
  intro derived
  refine ⟨fun solution => exists_accepts_of_derived, fun output accepts => ?_⟩
  intro asked
  refine ⟨fun solution answered => ?_, accepts.answeredBy_iff rfl, fun shallow slow => ?_⟩
  · obtain ⟨positive, setting_eq⟩ := accepts.setting_eq_of_derived (show asked = _ from rfl) answered
    rw [setting_eq]
    exact ⟨positive, rfl, Modulation.keptSlope_eq_iff⟩
  · exact Modulation.computed_of_le accepts.smallest.milliFeedback_le shallow slow

/-- From 24 MHz, 266 MHz are modulated with 50 kHz and 1.94 % as asked for. -/
theorem solveSpreadDerived_exact_usual :
    let asked : Modulation := ⟨24_000_000, 33_250, 50_000, 194⟩
    let solution : Solution := ⟨⟨0x07701021, 0x40000030, 0x8AC3C9⟩, 266_000_000, false⟩
    Accepts 24_000_000 266_000_000 266_000_000 ∧ asked.Computed ∧
      (solveSpreadDerived 24_000_000 266_000_000 50_000 194).run = .ok (.ok solution) ∧
      solution.words.setting.spreadRate = asked.rate ∧ solution.words.setting.slope = asked.slope := by
  intro asked solution
  have answered : (solveSpreadDerived 24_000_000 266_000_000 50_000 194).run = .ok (.ok solution) := rfl
  obtain ⟨found, accepted⟩ := solveSpreadDerived_exact_iff 24_000_000 266_000_000 50_000 194
  obtain ⟨output, accepts⟩ := found solution answered rfl
  cases accepts.stands.eq_self (by decide)
  obtain ⟨_, exact_iff, computed⟩ := accepted _ accepts
  have computed := computed (by decide) (by decide)
  obtain ⟨spreadRate, slope⟩ := (exact_iff.mpr computed).exact solution answered
  exact ⟨accepts, computed, answered, spreadRate, slope⟩

/-- With a depth of 39 million % the slope has 48 bits, and what the shift leaves of it fits the field. -/
theorem solveSpreadDerived_wrapped :
    let asked : Modulation := ⟨24_000_000, 33_250, 50_000, 3_935_094_247⟩
    let solution : Solution := ⟨⟨0x07701021, 0x40000030, 0x28A1⟩, 266_000_000, false⟩
    (solveSpreadDerived 24_000_000 266_000_000 50_000 3_935_094_247).run = .ok (.ok solution) ∧
      solution.words.setting.slope = 0x28A1 ∧ asked.slope = 184_467_440_747_497 ∧ ¬ asked.Fits := by
  intro asked solution
  exact ⟨rfl, by decide, by decide, fun fits => absurd fits.slope (by decide)⟩

end ClockController
