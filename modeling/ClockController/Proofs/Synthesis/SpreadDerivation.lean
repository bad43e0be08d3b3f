import ClockController.Proofs.Synthesis.FractionalDomain
import ClockController.Proofs.Synthesis.Solved

/-!
# ClockController.Proofs.Synthesis.SpreadDerivation

The derived setting of spread-spectrum mode against that of fractional mode.

Both modes search for the same dividers. Spread-spectrum mode puts a modulation beside them, and refuses a target where
the slope of the modulation is too wide for its field.

## Main definitions

`FractionalSearch.Dividers.modulated`: the solution for dividers with a modulation beside them.
`Solution.Modulates`: a solution with the rate and the dividers of another one, and a modulation.

## Main results

`SpreadSpectrum.modulationRate_eq_ok_iff`, `SpreadSpectrum.slope_eq_ok_iff`: when a modulation fits its fields.
`FractionalSearch.Accepts.solveSpreadDerived_eq_ok_iff`: the derived solution for an accepted target.
`FractionalSearch.Accepts.solveSpreadSpectrum_eq_ok_iff`: the one with the modulation of the board.
`solveSpreadSpectrum_refines_fractional`: spread-spectrum mode as fractional mode with a modulation.
-/

namespace ClockController

/-! ### Modulation that fits -/

namespace SpreadSpectrum

theorem modulationRate_eq_ok_iff {reference modulation rate : Nat} (period : modulation * 2 < rateBound) :
    (modulationRate reference modulation).run = .ok (.ok rate) ↔
      reference / 2 / (modulation * 2) = rate + 1 ∧ 0 < rate ∧ rate ≤ maxRate := by
  rcases run_modulationRate reference period with ⟨reason, ends, refuses⟩ | ⟨found, ends, steps, positive, fits⟩
  · rw [ends]
    exact ⟨nofun, by omega⟩
  · rw [ends]
    constructor
    · intro same
      cases same
      exact ⟨steps, positive, fits⟩
    · rintro ⟨same, _⟩
      obtain rfl : found = rate := by omega
      rfl

/-- The shift by 24 bits keeps the lower 40 bits of a step. -/
theorem shifted_eq (step : Nat) : step <<< 24 % rateBound / 100 / 1000 = step % 2 ^ 40 * 2 ^ 24 / 100_000 := by
  have bound : rateBound = 2 ^ 40 * 2 ^ 24 := rfl
  rw [Nat.shiftLeft_eq, bound, Nat.mul_mod_mul_right, Nat.div_div_eq_div_mul]

/-- A step of less than 40 bits is shifted without loss, and its slope fits exactly if the step is below 100000. -/
theorem slope_eq_ok_iff {milliFeedback spread rate steepness : Nat} (deviation : milliFeedback * spread < rateBound)
    (positive : 0 < rate) (small : milliFeedback * spread / rate < 2 ^ 40) :
    (slope milliFeedback spread rate).run = .ok (.ok steepness) ↔
      milliFeedback * spread / rate < 100_000 ∧ steepness = milliFeedback * spread / rate * 2 ^ 24 / 100_000 := by
  have run := run_slope deviation positive
  rw [shifted_eq, Nat.mod_eq_of_lt small, maxSlope] at run
  rcases run with ⟨reason, ends, wide⟩ | ⟨found, ends, rfl, fits⟩
  · rw [ends]
    exact ⟨nofun, by omega⟩
  · rw [ends]
    constructor
    · intro same
      cases same
      omega
    · rintro ⟨_, rfl⟩
      rfl

end SpreadSpectrum

/-! ### Derived solutions -/

open FractionalSearch SpreadSpectrum

/-- The solution for dividers with a modulation beside them. -/
def FractionalSearch.Dividers.modulated (reference spreadRate slope : Nat) (dividers : Dividers) : Solution where
  words := (dividers.setting spreadRate slope).words
  rate := dividers.achieved reference
  isFallback := false

namespace FractionalSearch.Accepts

variable {reference target output : Nat} {solution : Solution}

/-- For an accepted target, the derived solution packs the dividers of fractional mode with a modulation that fits. -/
theorem solveSpreadDerived_eq_ok_iff {modulation spread : Nat} (accepts : Accepts reference target output) :
    (solveSpreadDerived reference target modulation spread).run = .ok (.ok solution) ↔
      ∃ spreadRate steepness, (modulationRate reference modulation).run = .ok (.ok spreadRate) ∧
        (slope (Dividers.ofOutput reference output).milliFeedback spread spreadRate).run = .ok (.ok steepness) ∧
        solution = (Dividers.ofOutput reference output).modulated reference spreadRate steepness := by
  have finds : (search reference target).run = .ok (.ok (some (.ofOutput reference output))) :=
    search_eq_some_iff.mpr ⟨output, accepts, rfl⟩
  rw [solveSpreadDerived, Attempt.run_bind_of_ok finds]
  dsimp only
  rw [Attempt.bind_eq_ok_iff]
  refine exists_congr fun spreadRate => ?_
  rw [Attempt.bind_eq_ok_iff, ← exists_and_left]
  refine exists_congr fun steepness => and_congr_right fun _ => and_congr_right fun _ => ?_
  rw [Attempt.run_bind_liftM accepts.smallest.rate_eq_achieved]
  exact ⟨fun ends => by cases ends; rfl, fun same => same ▸ rfl⟩

/-- The modulation of the board leaves a modulation rate for every reference that is accepted, and one that fits. -/
theorem spreadRate_bounds (accepts : Accepts reference target output) :
    49 ≤ reference / 2 / 100_000 - 1 ∧ reference / 2 / 100_000 - 1 ≤ 999 := by
  have fast := accepts.fast
  have slow := accepts.slow
  omega

theorem modulationRate_eq_ok_iff {rate : Nat} (accepts : Accepts reference target output) :
    (modulationRate reference defaultModulation).run = .ok (.ok rate) ↔ rate = reference / 2 / 100_000 - 1 := by
  obtain ⟨lower, upper⟩ := accepts.spreadRate_bounds
  rw [SpreadSpectrum.modulationRate_eq_ok_iff (by decide), defaultModulation, maxRate]
  omega

/-- With the modulation of the board an accepted target has a derived solution exactly if its slope fits. -/
theorem solveSpreadSpectrum_eq_ok_iff {spreadRate step : Nat} (accepts : Accepts reference target output)
    (spreadRate_eq : spreadRate = reference / 2 / 100_000 - 1)
    (step_eq : step = (Dividers.ofOutput reference output).milliFeedback * 194 / spreadRate) :
    (solveSpreadSpectrum true reference target).run = .ok (.ok solution) ↔
      step < 100_000 ∧
        solution = (Dividers.ofOutput reference output).modulated reference spreadRate (step * 2 ^ 24 / 100_000) := by
  have narrow : (Dividers.ofOutput reference output).milliFeedback * 194 ≤ 240_000 * 194 :=
    Nat.mul_le_mul_right 194 accepts.smallest.milliFeedback_le
  have positive : 0 < spreadRate := spreadRate_eq ▸ Nat.lt_of_lt_of_le (by decide) accepts.spreadRate_bounds.1
  have fits (steepness : Nat) :
      (slope (Dividers.ofOutput reference output).milliFeedback 194 spreadRate).run = .ok (.ok steepness) ↔
        step < 100_000 ∧ steepness = step * 2 ^ 24 / 100_000 := by
    subst step_eq
    -- No feedback divider is large enough for the shift to lose anything.
    refine slope_eq_ok_iff (Nat.lt_of_le_of_lt narrow (by decide)) positive ?_
    exact Nat.lt_of_le_of_lt (Nat.le_trans (Nat.div_le_self _ _) narrow) (by decide)
  rw [solveSpreadSpectrum, if_pos rfl, accepts.solveSpreadDerived_eq_ok_iff]
  simp only [accepts.modulationRate_eq_ok_iff, ← spreadRate_eq, exists_and_left, exists_eq_left, defaultSpread, fits]
  constructor
  · rintro ⟨_, ⟨small, rfl⟩, same⟩
    exact ⟨small, same⟩
  · rintro ⟨small, same⟩
    exact ⟨_, ⟨small, rfl⟩, same⟩

end FractionalSearch.Accepts

/-! ### Against fractional mode -/

/-- A solution with the rate and the dividers of another one, and a modulation. -/
structure Solution.Modulates (plain : Solution) (spreadRate slope : Nat) (modulated : Solution) : Prop where
  genuine : modulated.isFallback = false
  rate_eq : modulated.rate = plain.rate
  setting_eq : modulated.words.setting = { plain.words.setting with spreadRate, slope }

namespace FractionalSearch.Accepts

variable {reference target output : Nat}

theorem setting_modulated {spreadRate slope : Nat} (accepts : Accepts reference target output)
    (rateFits : spreadRate ≤ maxRate) (slopeFits : slope ≤ maxSlope) :
    ((Dividers.ofOutput reference output).modulated reference spreadRate slope).words.setting =
      (Dividers.ofOutput reference output).setting spreadRate slope :=
  Setting.words_setting (accepts.smallest.fits (Nat.lt_succ_of_le rateFits) (Nat.lt_succ_of_le slopeFits))

/-- A modulation that fits is packed beside the dividers, and neither cuts off the other. -/
theorem modulates {spreadRate slope : Nat} (accepts : Accepts reference target output)
    (rateFits : spreadRate ≤ maxRate) (slopeFits : slope ≤ maxSlope) :
    ((Dividers.ofOutput reference output).solution reference).Modulates spreadRate slope
      ((Dividers.ofOutput reference output).modulated reference spreadRate slope) where
  genuine := rfl
  rate_eq := rfl
  setting_eq := by
    rw [accepts.setting_modulated rateFits slopeFits, accepts.setting_solution]
    rfl

end FractionalSearch.Accepts

section Refused

variable {reference target modulation spread : Nat} {reason : Unreachable} {solution : Solution}

/-- What fractional mode refuses is refused for the same reason, before there is a modulation. -/
theorem solveSpreadDerived_of_refused (refused : (solveFractional reference target).run = .ok (.error reason)) :
    (solveSpreadDerived reference target modulation spread).run = .ok (.error reason) := by
  rcases search_cases reference target with ⟨_, ends⟩ | ⟨ends, _⟩ | ⟨_, _, ends, _, _, smallest⟩
  · rw [solveFractional, Attempt.run_bind_of_error ends] at refused
    cases refused
    exact Attempt.run_bind_of_error ends
  · rw [solveFractional, Attempt.run_bind_of_ok ends] at refused
    cases refused
  · rw [solveFractional, Attempt.run_bind_of_ok ends, Attempt.run_bind_liftM smallest.rate_eq_achieved] at refused
    cases refused

theorem solveSpreadDerived_of_fallback (solves : (solveFractional reference target).run = .ok (.ok solution))
    (isFallback : solution.isFallback = true) :
    solution = .fallback ∧
      (solveSpreadDerived reference target modulation spread).run = .ok (.ok .fallback) := by
  rcases solveFractional_eq_ok_iff.mp solves with ⟨inBand, high, rfl⟩ | ⟨_, _, rfl⟩
  · refine ⟨rfl, ?_⟩
    rw [solveSpreadDerived, Attempt.run_bind_of_ok (run_search_of_high inBand high)]
    rfl
  · cases isFallback

end Refused

/-- Derived spread-spectrum mode is fractional mode with a modulation: it always ends, refuses what fractional mode
refuses, and answers with the fallback where fractional mode does. Any other solution of fractional mode has a modulated
one exactly if its slope fits, and then with the same rate, the same dividers and the exact slope. -/
theorem solveSpreadSpectrum_refines_fractional (reference target : Nat) :
    let plain := (solveFractional reference target).run
    let derived := (solveSpreadSpectrum true reference target).run
    (∃ answer, derived = .ok answer) ∧
    (∀ reason, plain = .ok (.error reason) → derived = .ok (.error reason)) ∧
    (∀ solution, plain = .ok (.ok solution) → solution.isFallback = true →
      solution = .fallback ∧ derived = .ok (.ok .fallback)) ∧
    ∀ solution, plain = .ok (.ok solution) → solution.isFallback = false →
      ∃ output, StandsFor target output ∧
        let dividers := solution.words.setting
        let milliFeedback := output * dividers.output * dividers.input * 1000 / reference
        let spreadRate := reference / 2 / 100_000 - 1
        let step := milliFeedback * 194 / spreadRate
        49 ≤ spreadRate ∧ spreadRate ≤ 999 ∧
        ((∃ modulated, derived = .ok (.ok modulated)) ↔ step < 100_000) ∧
        ∀ modulated, derived = .ok (.ok modulated) →
          solution.Modulates spreadRate (step * 2 ^ 24 / 100_000) modulated := by
  intro plain derived
  refine ⟨?_, fun reason => solveSpreadDerived_of_refused, fun solution => solveSpreadDerived_of_fallback,
    fun solution solves genuine => ?_⟩
  · rcases solve_cases true .spreadSpectrum reference target with ⟨_, ends⟩ | ⟨_, ends, _⟩
    · exact ⟨_, ends⟩
    · exact ⟨_, ends⟩
  · obtain ⟨output, accepts, rfl⟩ := exists_accepts_of_genuine solves genuine
    refine ⟨output, accepts.stands, ?_⟩
    rw [accepts.setting_solution]
    intro dividers milliFeedback spreadRate step
    obtain ⟨slow, fast⟩ := accepts.spreadRate_bounds
    have derives (modulated : Solution) : derived = .ok (.ok modulated) ↔ step < 100_000 ∧
        modulated = (Dividers.ofOutput reference output).modulated reference spreadRate (step * 2 ^ 24 / 100_000) :=
      accepts.solveSpreadSpectrum_eq_ok_iff rfl rfl
    refine ⟨slow, fast, ?_, fun modulated answered => ?_⟩
    · constructor
      · rintro ⟨modulated, answered⟩
        exact ((derives modulated).mp answered).1
      · intro small
        exact ⟨_, (derives _).mpr ⟨small, rfl⟩⟩
    · obtain ⟨small, rfl⟩ := (derives modulated).mp answered
      have slopeFits : step * 2 ^ 24 / 100_000 ≤ maxSlope := by
        rw [maxSlope]
        omega
      exact accepts.modulates (Nat.le_trans fast (by decide)) slopeFits

/-- From 24 MHz, the slope for 1.47216 GHz just fits its field, and the one for 24 kHz more does not. -/
theorem solveSpreadSpectrum_refines_fractional_widest :
    let plain : Solution := ⟨⟨0x103D, 0x570A3D10, 0⟩, 1_472_160_000, false⟩
    let modulated : Solution := ⟨⟨0x0770103D, 0x570A3D10, 0xFFFF58⟩, 1_472_160_000, false⟩
    let beyond : Solution := ⟨⟨0x103D, 0x574BC710, 0⟩, 1_472_184_000, false⟩
    ((solveFractional 24_000_000 1_472_160_000).run = .ok (.ok plain) ∧
      (solveSpreadSpectrum true 24_000_000 1_472_160_000).run = .ok (.ok modulated) ∧
      plain.Modulates 119 (99_999 * 2 ^ 24 / 100_000) modulated) ∧
    (solveFractional 24_000_000 1_472_184_000).run = .ok (.ok beyond) ∧
      ¬ ∃ modulated, (solveSpreadSpectrum true 24_000_000 1_472_184_000).run = .ok (.ok modulated) := by
  intro plain modulated beyond
  constructor
  · have solves : (solveFractional 24_000_000 1_472_160_000).run = .ok (.ok plain) := rfl
    have answered : (solveSpreadSpectrum true 24_000_000 1_472_160_000).run = .ok (.ok modulated) := rfl
    obtain ⟨_, _, _, genuinely⟩ := solveSpreadSpectrum_refines_fractional 24_000_000 1_472_160_000
    obtain ⟨output, stands, _, _, _, modulates⟩ := genuinely plain solves rfl
    cases stands.eq_self (by decide)
    have step : 61_340 * 194 / 119 = 99_999 := by decide
    have milliFeedback : 1_472_160_000 * plain.words.setting.output * plain.words.setting.input * 1000 / 24_000_000 =
      61_340 := by decide
    have spreadRate : 24_000_000 / 2 / 100_000 - 1 = 119 := by decide
    have gives := modulates modulated answered
    rw [spreadRate, milliFeedback, step] at gives
    exact ⟨solves, answered, gives⟩
  · have solves : (solveFractional 24_000_000 1_472_184_000).run = .ok (.ok beyond) := rfl
    obtain ⟨_, _, _, genuinely⟩ := solveSpreadSpectrum_refines_fractional 24_000_000 1_472_184_000
    obtain ⟨output, stands, _, _, derives_iff, _⟩ := genuinely beyond solves rfl
    cases stands.eq_self (by decide)
    exact ⟨solves, fun derives => absurd (derives_iff.mp derives) (by decide)⟩

end ClockController
