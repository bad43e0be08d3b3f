import ClockController.Proofs.Synthesis.FractionalSearch
import ClockController.Proofs.Synthesis.IntegerSearch
import ClockController.Synthesis

/-!
# ClockController.Proofs.Synthesis.Solved

Where the solutions come from.

A solution is the fallback, one of the two known settings, or synthesised: packed from dividers that a search
found. Solving itself never ends in a fault.

## Main results

`Solved`: the origins of a solution for a mode.
`solve_cases`: solving gives a reason for no solution, or a solution of one of these origins.
`Solution.isSynthesised_words`: what is packed from dividers is neither the fallback nor a known setting.
-/

namespace ClockController

/-! ### Modulation -/

namespace SpreadSpectrum

/-- The modulation rate is one less than the steps that the reference makes in a quarter of a modulation period. -/
theorem run_modulationRate (reference : Nat) {modulation : Nat} (period : modulation * 2 < rateBound) :
    (∃ reason, (modulationRate reference modulation).run = .ok (.error reason) ∧
        ¬ (1 < reference / 2 / (modulation * 2) ∧ reference / 2 / (modulation * 2) ≤ maxRate + 1)) ∨
      ∃ rate, (modulationRate reference modulation).run = .ok (.ok rate) ∧
        reference / 2 / (modulation * 2) = rate + 1 ∧ 0 < rate ∧ rate ≤ maxRate := by
  unfold modulationRate
  split
  next none =>
    subst none
    refine .inl ⟨_, rfl, ?_⟩
    rw [Nat.zero_mul, Nat.div_zero]
    omega
  next present =>
    have positive : 0 < modulation * 2 := by omega
    dsimp only
    rw [Attempt.run_bind_liftM (Checked.mul_of_lt period), Attempt.run_bind_liftM (Checked.div_of_pos positive)]
    generalize reference / 2 / (modulation * 2) = steps
    split
    next fast => exact .inl ⟨_, rfl, by omega⟩
    next slow =>
      split
      next wide => exact .inl ⟨_, rfl, by omega⟩
      next narrow => exact .inr ⟨_, rfl, by omega, by omega, by omega⟩

/-- The slope is computed in 64 bits and compared with its field after that. -/
theorem run_slope {milliFeedback spread rate : Nat} (deviation : milliFeedback * spread < rateBound)
    (positive : 0 < rate) :
    (∃ reason, (slope milliFeedback spread rate).run = .ok (.error reason) ∧
        maxSlope < (milliFeedback * spread / rate) <<< 24 % rateBound / 100 / 1000) ∨
      ∃ steepness, (slope milliFeedback spread rate).run = .ok (.ok steepness) ∧
        (milliFeedback * spread / rate) <<< 24 % rateBound / 100 / 1000 = steepness ∧ steepness ≤ maxSlope := by
  unfold slope
  rw [Attempt.run_bind_liftM (Checked.mul_of_lt deviation),
    Attempt.run_bind_liftM (Checked.div_of_pos positive)]
  dsimp only
  split
  next wide => exact .inl ⟨_, rfl, wide⟩
  next narrow => exact .inr ⟨_, rfl, rfl, Nat.le_of_not_lt narrow⟩

end SpreadSpectrum

open SpreadSpectrum in
/-- The derived solution, if there is one, is the fallback or packs the dividers of fractional mode with a
modulation that fits. -/
theorem solveSpreadDerived_cases (reference target : Nat) {modulation spread : Nat}
    (period : modulation * 2 < rateBound) (deviation : 240_000 * spread < rateBound) :
    (∃ reason, (solveSpreadDerived reference target modulation spread).run = .ok (.error reason)) ∨
      (solveSpreadDerived reference target modulation spread).run = .ok (.ok .fallback) ∨
      ∃ dividers output rate spreadRate slope,
        (FractionalSearch.search reference target).run = .ok (.ok (some dividers)) ∧
        dividers.Serves reference output ∧ dividers.rate reference = .ok rate ∧
        (dividers.setting spreadRate slope).Fits ∧
        (solveSpreadDerived reference target modulation spread).run =
          .ok (.ok ⟨(dividers.setting spreadRate slope).words, rate, false⟩) := by
  unfold solveSpreadDerived
  rcases FractionalSearch.search_cases reference target with ⟨reason, ends⟩ | ⟨ends, _⟩ |
    ⟨dividers, output, ends, _, _, smallest⟩
  · exact .inl ⟨reason, Attempt.run_bind_of_error ends⟩
  · exact .inr (.inl (by rw [Attempt.run_bind_of_ok ends]; rfl))
  · have serves := smallest.toServes
    rw [Attempt.run_bind_of_ok ends]
    dsimp only
    rcases run_modulationRate reference period with ⟨reason, rateEnds, _⟩ |
      ⟨spreadRate, rateEnds, _, positive, rateFits⟩
    · exact .inl ⟨reason, Attempt.run_bind_of_error rateEnds⟩
    · rw [Attempt.run_bind_of_ok rateEnds]
      have product : dividers.milliFeedback * spread < rateBound :=
        Nat.lt_of_le_of_lt (Nat.mul_le_mul_right spread serves.milliFeedback_le) deviation
      rcases run_slope product positive with ⟨reason, slopeEnds, _⟩ | ⟨slope, slopeEnds, _, slopeFits⟩
      · exact .inl ⟨reason, Attempt.run_bind_of_error slopeEnds⟩
      · have fits : (dividers.setting spreadRate slope).Fits :=
          serves.fits (Nat.lt_succ_of_le rateFits) (Nat.lt_succ_of_le slopeFits)
        refine .inr (.inr ⟨dividers, output, _, spreadRate, slope, ends, serves, serves.rate_eq, fits, ?_⟩)
        rw [Attempt.run_bind_of_ok slopeEnds, Attempt.run_bind_liftM serves.rate_eq]
        rfl

/-! ### Origins -/

/-- Where a solution for a mode can come from. -/
inductive Solved (reference target : Nat) : Mode → Solution → Prop
  | fallback {mode : Mode} (programmable : mode ≠ .fixedRatio) : Solved reference target mode .fallback
  | slow : Solved reference target .spreadSpectrum SpreadSpectrum.slow
  | fast : Solved reference target .spreadSpectrum SpreadSpectrum.fast
  | integer {candidate : IntegerSearch.Candidate}
      (found : IntegerSearch.search reference target = .ok (some candidate))
      (sound : candidate.Sound reference target) :
      Solved reference target .integer (candidate.dividers.solution reference)
  | fractional {mode : Mode} {dividers : FractionalSearch.Dividers} {output rate spreadRate slope : Nat}
      (modes : mode = .fractional ∨ mode = .spreadSpectrum)
      (found : (FractionalSearch.search reference target).run = .ok (.ok (some dividers)))
      (serves : dividers.Serves reference output) (gives : dividers.rate reference = .ok rate)
      (fits : (dividers.setting spreadRate slope).Fits) :
      Solved reference target mode ⟨(dividers.setting spreadRate slope).words, rate, false⟩

theorem run_solve_integer (derivesSpread : Bool) {reference target : Nat} {solution : Solution}
    (ends : solveInteger reference target = .ok solution) :
    (solve derivesSpread .integer reference target).run = .ok (.ok solution) := by
  rw [solve, ExceptT.run_lift, ends]
  rfl

/-- Solving never ends in a fault, and a solution has one of the known origins. -/
theorem solve_cases (derivesSpread : Bool) (mode : Mode) (reference target : Nat) :
    (∃ reason, (solve derivesSpread mode reference target).run = .ok (.error reason)) ∨
      ∃ solution, (solve derivesSpread mode reference target).run = .ok (.ok solution) ∧
        Solved reference target mode solution := by
  cases mode with
  | integer =>
    right
    rcases solveInteger_cases reference target with ends | ⟨candidate, found, sound, ends⟩
    · exact ⟨_, run_solve_integer derivesSpread ends, .fallback nofun⟩
    · exact ⟨_, run_solve_integer derivesSpread ends, .integer found sound⟩
  | fractional =>
    rcases solveFractional_cases reference target with ⟨reason, ends⟩ | ends |
      ⟨dividers, output, rate, found, serves, gives, ends⟩
    · exact .inl ⟨reason, ends⟩
    · exact .inr ⟨_, ends, .fallback nofun⟩
    · exact .inr ⟨_, ends, .fractional (.inl rfl) found serves gives (serves.fits (by decide) (by decide))⟩
  | spreadSpectrum =>
    cases derivesSpread with
    | true =>
      have period : SpreadSpectrum.defaultModulation * 2 < rateBound := by decide
      have deviation : 240_000 * SpreadSpectrum.defaultSpread < rateBound := by decide
      rcases solveSpreadDerived_cases reference target period deviation with ⟨reason, ends⟩ | ends |
        ⟨dividers, output, rate, spreadRate, slope, found, serves, gives, fits, ends⟩
      · exact .inl ⟨reason, ends⟩
      · exact .inr ⟨_, ends, .fallback nofun⟩
      · exact .inr ⟨_, ends, .fractional (.inr rfl) found serves gives fits⟩
    | false =>
      right
      refine ⟨solveSpreadTable target, rfl, ?_⟩
      unfold solveSpreadTable
      split
      next => exact .slow
      next => exact .fast
  | fixedRatio => exact .inl ⟨_, rfl⟩

theorem solved_of_solve {derivesSpread : Bool} {mode : Mode} {reference target : Nat} {solution : Solution}
    (ends : (solve derivesSpread mode reference target).run = .ok (.ok solution)) :
    Solved reference target mode solution := by
  rcases solve_cases derivesSpread mode reference target with ⟨reason, refused⟩ | ⟨other, found, solved⟩
  · rw [refused] at ends
    cases ends
  · rw [found] at ends
    cases ends
    exact solved

namespace Solved

variable {reference target : Nat} {mode : Mode} {solution : Solution}

theorem programmable (solved : Solved reference target mode solution) : mode ≠ .fixedRatio := by
  cases solved with
  | fallback programmable => exact programmable
  | fractional modes => rcases modes with rfl | rfl <;> nofun
  | _ => nofun

/-- No solution is answered with a rate of zero. -/
theorem rate_pos (solved : Solved reference target mode solution) : 0 < solution.rate := by
  cases solved with
  | fallback => decide
  | slow => decide
  | fast => decide
  | integer _ sound => exact sound.admissible.rate_pos
  | fractional _ _ serves gives => exact serves.rate_pos gives

/-- A solution has no bit of the mode field beside those of its mode. -/
theorem bits_or_mode (solved : Solved reference target mode solution) :
    mode.bits ||| PllField.mode.read solution.words.ctl0 = mode.bits := by
  cases solved with
  | fallback => exact Nat.or_zero _
  | slow => decide
  | fast => decide
  | integer => exact (congrArg (Mode.integer.bits ||| ·) (Setting.mode_words _)).trans (Nat.or_zero _)
  | fractional => exact (congrArg (mode.bits ||| ·) (Setting.mode_words _)).trans (Nat.or_zero _)

end Solved

/-- A solution that is neither the fallback nor one of the known settings. -/
def Solution.IsSynthesised (solution : Solution) : Prop :=
  solution.isFallback = false ∧ solution ≠ SpreadSpectrum.slow ∧ solution ≠ SpreadSpectrum.fast

instance (solution : Solution) : Decidable solution.IsSynthesised :=
  inferInstanceAs (Decidable (_ ∧ _))

/-- The known settings carry their mode in their words; a packed setting does not. -/
theorem Solution.isSynthesised_words (setting : Setting) (rate : Nat) :
    Solution.IsSynthesised ⟨setting.words, rate, false⟩ := by
  have plain := setting.mode_words
  refine ⟨rfl, ?_, ?_⟩
  -- Equal solutions would have equal mode bits.
  all_goals
    intro same
    have bits := congrArg (fun solution => PllField.mode.read solution.words.ctl0) same
    dsimp only at bits
    rw [plain] at bits
    exact absurd bits (by decide)

end ClockController
