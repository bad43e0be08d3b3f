import ClockController.Proofs.DecodedRate
import ClockController.Proofs.Synthesis.ExhaustiveSearch

/-!
# ClockController.Proofs.Synthesis.IntegerSearch

The solution with whole dividers: the fallback, or the words of the first admissible dividers that are closest to
the target.

## Main results

`solveInteger_cases`: the solution is the fallback, or it packs the dividers found and has their rate.
`solveInteger_first_closest`: when the solution is the fallback, and which dividers it packs otherwise.
-/

namespace ClockController

namespace IntegerSearch

/-! ### Packing admissible dividers -/

def Dividers.setting (dividers : Dividers) : Setting where
  input := dividers.input
  feedback := dividers.feedback
  output := dividers.output

theorem Dividers.Admissible.fits {reference : Nat} {dividers : Dividers}
    (admissible : dividers.Admissible reference) : dividers.setting.Fits := by
  have input := mem_inputDividers.mp admissible.input
  have feedback := mem_feedbackDividers.mp admissible.feedback
  have output := mem_outputDividers.mp admissible.output
  exact
    { input := show dividers.input < 64 by omega
      feedback := show dividers.feedback < 2048 by omega
      output := show dividers.output < 8 by omega
      fraction := show 0 < 16_777_216 by decide
      spreadRate := show 0 < 2048 by decide
      slope := show 0 < 16_777_216 by decide }

theorem Dividers.Admissible.reference_mul_lt {reference : Nat} {dividers : Dividers}
    (admissible : dividers.Admissible reference) : reference * dividers.feedback < rateBound := by
  have input := mem_inputDividers.mp admissible.input
  have feedback := mem_feedbackDividers.mp admissible.feedback
  have detector : reference / dividers.input ≤ 40_000_000 := admissible.detector.2
  -- The band of the phase detector bounds the reference, whatever the input divider.
  have small : reference < 40_000_001 * 63 := calc
    reference < 40_000_001 * dividers.input :=
      (Nat.div_lt_iff_lt_mul (by omega)).mp (Nat.lt_succ_of_le detector)
    _ ≤ 40_000_001 * 63 := Nat.mul_le_mul_left _ input.2
  calc
    reference * dividers.feedback ≤ 40_000_001 * 63 * 2047 :=
      Nat.mul_le_mul (Nat.le_of_lt small) feedback.2
    _ < rateBound := by decide

end IntegerSearch

/-! ### Solutions -/

open IntegerSearch in
/-- The solution for admissible dividers. -/
def IntegerSearch.Dividers.solution (reference : Nat) (dividers : Dividers) : Solution where
  words := dividers.setting.words
  rate := reference * dividers.feedback / (dividers.output * dividers.input)
  isFallback := false

/-- The reference is so much faster than the phase detector that the rate is never zero. -/
theorem IntegerSearch.Dividers.Admissible.rate_pos {reference : Nat} {dividers : Dividers}
    (admissible : dividers.Admissible reference) : 0 < (dividers.solution reference).rate := by
  have input := mem_inputDividers.mp admissible.input
  have feedback := mem_feedbackDividers.mp admissible.feedback
  have output := mem_outputDividers.mp admissible.output
  have fast : 1_000_000 * dividers.input ≤ reference :=
    (Nat.le_div_iff_mul_le (Nat.lt_of_succ_le input.1)).mp admissible.detector.1
  refine Nat.div_pos ?_ (Nat.mul_pos output.1 input.1)
  calc
    dividers.output * dividers.input ≤ 7 * dividers.input := Nat.mul_le_mul_right _ output.2
    _ ≤ reference * 1 := by omega
    _ ≤ reference * dividers.feedback := Nat.mul_le_mul_left _ (by omega)

theorem solveInteger_of_none {reference target : Nat}
    (missed : IntegerSearch.search reference target = .ok none) :
    solveInteger reference target = .ok .fallback := by
  unfold solveInteger
  split
  next =>
    rw [missed]
    rfl
  next => rfl

/-- The solution packs the dividers that the search finds, without overflow. -/
theorem solveInteger_of_some {reference target : Nat} {candidate : IntegerSearch.Candidate}
    (inBand : target ∈ Band.output) (found : IntegerSearch.search reference target = .ok (some candidate))
    (admissible : candidate.dividers.Admissible reference) :
    solveInteger reference target = .ok (candidate.dividers.solution reference) := by
  have input := IntegerSearch.mem_inputDividers.mp admissible.input
  have output := IntegerSearch.mem_outputDividers.mp admissible.output
  have divider : candidate.dividers.output * candidate.dividers.input < rateBound := calc
    candidate.dividers.output * candidate.dividers.input ≤ 7 * 63 := Nat.mul_le_mul output.2 input.2
    _ < rateBound := by decide
  rw [solveInteger, if_pos inBand, found, Checked.ok_bind]
  dsimp only
  rw [Checked.mul_of_lt admissible.reference_mul_lt, Checked.ok_bind, Checked.mul_of_lt divider,
    Checked.ok_bind, Checked.div_of_pos (Nat.mul_pos output.1 input.1), Checked.ok_bind]
  rfl

/-- The solution with whole dividers always exists: it is the fallback, or it packs admissible dividers. -/
theorem solveInteger_cases (reference target : Nat) :
    solveInteger reference target = .ok .fallback ∨
      ∃ candidate, IntegerSearch.search reference target = .ok (some candidate) ∧
        candidate.Sound reference target ∧
        solveInteger reference target = .ok (candidate.dividers.solution reference) := by
  by_cases inBand : target ∈ Band.output
  · rcases IntegerSearch.search_cases reference target with ⟨missed, _⟩ | ⟨candidate, found, sound, _⟩
    · exact .inl (solveInteger_of_none missed)
    · exact .inr ⟨candidate, found, sound, solveInteger_of_some inBand found sound.admissible⟩
  · exact .inl (if_neg inBand)

/-! ### The fallback and the dividers found -/

section FirstClosest

open IntegerSearch

variable {reference target : Nat}

theorem solveInteger_of_unreachable
    (unreachable : target ∉ Band.output ∨ ¬ ∃ dividers : Dividers, dividers.Admissible reference) :
    solveInteger reference target = .ok .fallback := by
  rcases search_cases reference target with ⟨missed, _⟩ | ⟨_, _, sound, _⟩
  · exact solveInteger_of_none missed
  · rcases unreachable with outside | none
    · exact if_neg outside
    · exact absurd ⟨_, sound.admissible⟩ none

theorem solveInteger_of_reachable (inBand : target ∈ Band.output)
    (reachable : ∃ dividers : Dividers, dividers.Admissible reference) :
    ∃ dividers : Dividers, dividers.FirstClosest reference target ∧
      solveInteger reference target = .ok (dividers.solution reference) := by
  rcases search_cases reference target with ⟨_, none⟩ | ⟨candidate, found, sound, firstClosest⟩
  · exact absurd reachable none
  · exact ⟨candidate.dividers, firstClosest, solveInteger_of_some inBand found sound.admissible⟩

theorem solveInteger_of_firstClosest (inBand : target ∈ Band.output) {dividers : Dividers}
    (firstClosest : dividers.FirstClosest reference target) :
    solveInteger reference target = .ok (dividers.solution reference) := by
  obtain ⟨other, found, solves⟩ := solveInteger_of_reachable inBand ⟨dividers, firstClosest.admissible⟩
  rw [solves, found.unique firstClosest]

/-- A solution that is not the fallback packs the first of the closest dividers. -/
theorem exists_firstClosest {solution : Solution} (solves : solveInteger reference target = .ok solution)
    (genuine : solution.isFallback = false) :
    target ∈ Band.output ∧ ∃ dividers : Dividers, dividers.FirstClosest reference target ∧
      solution = dividers.solution reference := by
  rcases Classical.em (target ∈ Band.output ∧ ∃ dividers : Dividers, dividers.Admissible reference) with
    ⟨inBand, reachable⟩ | unreachable
  · obtain ⟨dividers, firstClosest, packs⟩ := solveInteger_of_reachable inBand reachable
    rw [solves] at packs
    exact ⟨inBand, dividers, firstClosest, Except.ok.inj packs⟩
  · rw [solveInteger_of_unreachable (not_and_or.mp unreachable)] at solves
    cases solves
    cases genuine

/-- The words of admissible dividers hold them and nothing else. -/
theorem IntegerSearch.Dividers.Admissible.toNat_words {dividers : Dividers}
    (admissible : dividers.Admissible reference) :
    dividers.setting.words.ctl0.toNat = dividers.input <<< 12 + dividers.feedback ∧
      dividers.setting.words.ctl1.toNat = dividers.output <<< 4 ∧ dividers.setting.words.ctl2 = 0 := by
  have fits := admissible.fits
  have input : (PllField.input.encode dividers.input).toNat = dividers.input <<< 12 :=
    Field.toNat_encode (by decide) fits.input
  have feedback : (PllField.feedback.encode dividers.feedback).toNat = dividers.feedback :=
    Field.toNat_encode (by decide) fits.feedback
  have output : (PllField.output.encode dividers.output).toNat = dividers.output <<< 4 :=
    Field.toNat_encode (by decide) fits.output
  have low : dividers.feedback < 2 ^ 12 := Nat.lt_trans fits.feedback (by decide)
  -- The fields that the dividers leave out hold zero.
  have ctl0 : dividers.setting.words.ctl0 =
      PllField.input.encode dividers.input ||| PllField.feedback.encode dividers.feedback := by
    simp [Setting.words, setting]
  have ctl1 : dividers.setting.words.ctl1 = PllField.output.encode dividers.output := by
    simp [Setting.words, setting]
  refine ⟨?_, ?_, Field.encode_zero _⟩
  · rw [ctl0, BitVec.toNat_or, input, feedback, ← Nat.shiftLeft_add_eq_or_of_lt low]
  · rw [ctl1, output]

/-- With whole dividers the solution is the fallback exactly if the target lies outside the output band, or the
reference is too slow or too fast for every input divider. Otherwise its words hold the first of the admissible
dividers that are closest to the target, and nothing else. -/
theorem solveInteger_first_closest (reference target : Nat) :
    (solveInteger reference target = .ok .fallback ↔
      target ∉ Band.output ∨ reference < 1_000_000 ∨ 2_520_000_062 < reference) ∧
    (reference < 1_000_000 ∨ 2_520_000_062 < reference ↔
      ∀ input ∈ inputDividers, reference / input ∉ Band.phaseDetector) ∧
    (solveInteger reference target = .ok .fallback ∨
      ∃ (solution : Solution) (dividers : Dividers), solveInteger reference target = .ok solution ∧
        solution.isFallback = false ∧ dividers.FirstClosest reference target ∧
        solution.words.ctl0.toNat = dividers.input <<< 12 + dividers.feedback ∧
        solution.words.ctl1.toNat = dividers.output <<< 4 ∧ solution.words.ctl2 = 0 ∧
        solution.rate = reference * dividers.feedback / (dividers.output * dividers.input)) := by
  have outside_iff : reference < 1_000_000 ∨ 2_520_000_062 < reference ↔
      ¬ (1_000_000 ≤ reference ∧ reference ≤ 2_520_000_062) := by omega
  refine ⟨?_, ?_, ?_⟩
  · rw [outside_iff, ← exists_admissible_iff]
    refine ⟨fun fallback => ?_, solveInteger_of_unreachable⟩
    by_contra reachable
    obtain ⟨inBand, reachable⟩ := not_or.mp reachable
    obtain ⟨dividers, _, solves⟩ :=
      solveInteger_of_reachable (not_not.mp inBand) (not_not.mp reachable)
    -- A solution that packs dividers is marked as one.
    rw [solves] at fallback
    cases congrArg Solution.isFallback (Except.ok.inj fallback)
  · rw [outside_iff, ← exists_detector_iff]
    exact ⟨fun none input visited detector => none ⟨input, visited, detector⟩,
      fun none ⟨input, visited, detector⟩ => none input visited detector⟩
  · rcases Classical.em (target ∈ Band.output ∧ ∃ dividers : Dividers, dividers.Admissible reference) with
      ⟨inBand, reachable⟩ | unreachable
    · obtain ⟨dividers, firstClosest, solves⟩ := solveInteger_of_reachable inBand reachable
      obtain ⟨ctl0, ctl1, ctl2⟩ := firstClosest.admissible.toNat_words
      exact .inr ⟨_, dividers, solves, rfl, firstClosest, ctl0, ctl1, ctl2, rfl⟩
    · exact .inl (solveInteger_of_unreachable (not_and_or.mp unreachable))

/-- Of the dividers that give 800 MHz exactly, those with the smallest input divider are found. -/
example : solveInteger 24_000_000 800_000_000 = .ok ⟨⟨0x1064, 0x30, 0⟩, 800_000_000, false⟩ := rfl

end FirstClosest

end ClockController
