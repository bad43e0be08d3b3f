import ClockController.Proofs.Synthesis.Solved

/-!
# ClockController.Proofs.Synthesis.RoundTrip

Solving for a rate, merging the solution into programmed words and decoding the result.

## Main results

`ControlWords.rate_merge`: merged words stand for the rate of the solved ones, whatever was programmed before.
`merge_solve_round_trip`: merged words select the mode that was solved for, and those of a synthesised solution
hold the dividers that were found and decode to the rate of the solution.
-/

namespace ClockController

/-! ### Merged words -/

/-- Nothing that was programmed before leaks into the rate of merged words. -/
theorem ControlWords.rate_merge {mode : Mode} (programmable : mode ≠ .fixedRatio) (reference : Nat)
    (current solved : ControlWords) :
    (merge mode current solved).rate mode reference = solved.rate mode reference := by
  obtain ⟨input, feedback, output⟩ := dividers_merge mode current solved
  rw [rate_eq, rate_eq, input, output]
  cases mode with
  | fixedRatio => exact absurd rfl programmable
  | integer => simp only [integerRate, input, feedback, output]
  | fractional => simp only [fractionalRate, input, feedback, output, fraction_merge (.inl rfl)]
  | spreadSpectrum => simp only [fractionalRate, input, feedback, output, fraction_merge (.inr rfl)]

/-! ### Synthesised solutions -/

namespace IntegerSearch

theorem Dividers.Admissible.rate_solution {reference : Nat} {dividers : Dividers}
    (admissible : dividers.Admissible reference) :
    (dividers.solution reference).words.rate .integer reference = .ok (dividers.solution reference).rate := by
  have input := mem_inputDividers.mp admissible.input
  have output := mem_outputDividers.mp admissible.output
  have divider : dividers.output * dividers.input < rateBound :=
    Nat.lt_of_le_of_lt (Nat.mul_le_mul output.2 input.2) (by decide)
  have packed := Setting.words_setting admissible.fits
  have inputRead : 0 < dividers.setting.words.setting.input := by
    rw [packed]
    exact input.1
  have outputRead : 0 < dividers.setting.words.setting.output := by
    rw [packed]
    exact output.1
  rw [solution, ControlWords.rate_integer inputRead outputRead, packed]
  exact ControlWords.integerRate_eq admissible.reference_mul_lt divider input.1 output.1

end IntegerSearch

namespace FractionalSearch

/-- The words of dividers that serve decode to the rate of the dividers. -/
theorem Dividers.Serves.rate_words {reference output spreadRate slope : Nat} {dividers : Dividers}
    (serves : dividers.Serves reference output) (fits : (dividers.setting spreadRate slope).Fits)
    {mode : Mode} (modes : mode = .fractional ∨ mode = .spreadSpectrum) :
    (dividers.setting spreadRate slope).words.rate mode reference = dividers.rate reference := by
  have packed := Setting.words_setting fits
  have input : 0 < (dividers.setting spreadRate slope).words.setting.input := by
    rw [packed]
    exact serves.input_pos
  have outputDivider : 0 < (dividers.setting spreadRate slope).words.setting.output := by
    rw [packed]
    exact serves.output_pos
  rw [ControlWords.rate_fractional modes input outputDivider, packed]
  exact serves.fractionalRate_eq fits rfl rfl rfl rfl

end FractionalSearch

/-- The setting holds the dividers that the search of a mode finds, none of them cut off. -/
def Setting.HoldsFound (setting : Setting) (mode : Mode) (reference target : Nat) : Prop :=
  match mode with
  | .integer =>
    ∃ candidate, IntegerSearch.search reference target = .ok (some candidate) ∧
      setting.input = candidate.dividers.input ∧ setting.feedback = candidate.dividers.feedback ∧
      setting.output = candidate.dividers.output
  | .fractional | .spreadSpectrum =>
    ∃ dividers, (FractionalSearch.search reference target).run = .ok (.ok (some dividers)) ∧
      setting.input = dividers.input ∧ setting.feedback = dividers.feedback ∧
      setting.output = dividers.output ∧ setting.fraction = dividers.fraction
  | .fixedRatio => False

namespace Solved

variable {reference target : Nat} {mode : Mode} {solution : Solution}

theorem rate_words (solved : Solved reference target mode solution) (synthesised : solution.IsSynthesised) :
    solution.words.rate mode reference = .ok solution.rate := by
  cases solved with
  | fallback => exact absurd synthesised (by decide)
  | slow => exact absurd synthesised (by decide)
  | fast => exact absurd synthesised (by decide)
  | integer _ sound => exact sound.admissible.rate_solution
  | fractional modes _ serves gives fits => exact (serves.rate_words fits modes).trans gives

/-- The words of a synthesised solution, merged into any others, hold the dividers that were found. -/
theorem holdsFound_merge (solved : Solved reference target mode solution)
    (synthesised : solution.IsSynthesised) (current : ControlWords) :
    (ControlWords.merge mode current solution.words).setting.HoldsFound mode reference target := by
  cases solved with
  | fallback => exact absurd synthesised (by decide)
  | slow => exact absurd synthesised (by decide)
  | fast => exact absurd synthesised (by decide)
  | integer found sound =>
    obtain ⟨input, feedback, output⟩ := ControlWords.dividers_merge .integer current
      (IntegerSearch.Dividers.solution reference _).words
    refine ⟨_, found, ?_⟩
    rw [input, feedback, output, IntegerSearch.Dividers.solution, Setting.words_setting sound.admissible.fits]
    exact ⟨rfl, rfl, rfl⟩
  | @fractional mode dividers _ _ spreadRate slope modes found _ _ fits =>
    obtain ⟨input, feedback, output⟩ := ControlWords.dividers_merge mode current
      (dividers.setting spreadRate slope).words
    have fraction := ControlWords.fraction_merge modes current (dividers.setting spreadRate slope).words
    rw [Setting.words_setting fits] at input feedback output fraction
    rcases modes with rfl | rfl
    all_goals exact ⟨dividers, found, input, feedback, output, fraction⟩

end Solved

/-- Merged words select the mode that was solved for. If the solution is synthesised, they hold the dividers
that were found and decode to the rate of the solution exactly, whatever was programmed before. -/
theorem merge_solve_round_trip (derivesSpread : Bool) (mode : Mode) (reference target : Nat)
    (current : ControlWords) {solution : Solution}
    (solves : (solve derivesSpread mode reference target).run = .ok (.ok solution)) :
    Mode.ofCtl0 (ControlWords.merge mode current solution.words).ctl0 = mode ∧
      (solution.IsSynthesised →
        (ControlWords.merge mode current solution.words).rate mode reference = .ok solution.rate ∧
        (ControlWords.merge mode current solution.words).setting.HoldsFound mode reference target) := by
  have solved := solved_of_solve solves
  refine ⟨ControlWords.mode_merge solved.programmable current solved.bits_or_mode, fun synthesised => ⟨?_, ?_⟩⟩
  · rw [ControlWords.rate_merge solved.programmable]
    exact solved.rate_words synthesised
  · exact solved.holdsFound_merge synthesised current

theorem merge_solve_round_trip_over_ones :
    (solve false .fractional 24_000_000 123_456_789).run =
        .ok (.ok ⟨⟨0x1019, 0xB851EC50, 0⟩, 123_456_000, false⟩) ∧
      Solution.IsSynthesised ⟨⟨0x1019, 0xB851EC50, 0⟩, 123_456_000, false⟩ ∧
      (ControlWords.merge .fractional ⟨0xFFFFFFFF, 0xFFFFFFFF, 0xFFFFFFFF⟩
        ⟨0x1019, 0xB851EC50, 0⟩).rate .fractional 24_000_000 = .ok 123_456_000 := by
  have solves : (solve false .fractional 24_000_000 123_456_789).run =
      .ok (.ok ⟨⟨0x1019, 0xB851EC50, 0⟩, 123_456_000, false⟩) := rfl
  have synthesised : Solution.IsSynthesised ⟨⟨0x1019, 0xB851EC50, 0⟩, 123_456_000, false⟩ := by decide
  have trip := merge_solve_round_trip false .fractional 24_000_000 123_456_789
    ⟨0xFFFFFFFF, 0xFFFFFFFF, 0xFFFFFFFF⟩ solves
  exact ⟨solves, synthesised, (trip.2 synthesised).1⟩

end ClockController
