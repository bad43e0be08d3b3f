import ClockController.Proofs.Synthesis.IntegerSearch
import Mathlib.Tactic.Ring

/-!
# ClockController.Proofs.Synthesis.AchievedRate

What it costs to round the input of the phase detector before the search ranks dividers by it.

The search ranks dividers by a rate that is rounded twice, and the solution is answered with the rate that they
achieve, which is rounded once. The two differ where the input divider does not divide the reference. The dividers
found are the closest ones by rank then, and not always by the rate that they achieve.

## Main definitions

`IntegerSearch.Dividers.achieved`: the rate that dividers achieve.
`IntegerSearch.Dividers.loss`: how far their rank stays below it.

## Main results

`IntegerSearch.Dividers.loss_mul_le`, `IntegerSearch.Dividers.loss_eq_zero`: how large the loss can be, and when
there is none.
`IntegerSearch.Dividers.Admissible.achieved_eq_of_near`: from a slow reference, rates that differ are farther apart
than what is lost.
`solveInteger_near_best`: the solution misses the target by no more than other dividers and both losses.
-/

namespace ClockController

namespace IntegerSearch

namespace Dividers

variable {reference target : Nat} {dividers : Dividers}

/-! ### Ranked and achieved rates -/

/-- The rate that dividers achieve. -/
def achieved (reference : Nat) (dividers : Dividers) : Nat :=
  reference * dividers.feedback / (dividers.output * dividers.input)

/-- How far the rank of dividers stays below the rate that they achieve. -/
def loss (reference : Nat) (dividers : Dividers) : Nat :=
  dividers.achieved reference - dividers.ranked reference

theorem ranked_le_achieved (input : 0 < dividers.input) (output : 0 < dividers.output) :
    dividers.ranked reference ≤ dividers.achieved reference := by
  have detector : dividers.detector reference * dividers.input ≤ reference := Nat.div_mul_le_self _ _
  have ranked : dividers.ranked reference * dividers.output ≤ dividers.oscillator reference :=
    Nat.div_mul_le_self _ _
  refine (Nat.le_div_iff_mul_le (Nat.mul_pos output input)).mpr ?_
  calc
    dividers.ranked reference * (dividers.output * dividers.input) =
        dividers.ranked reference * dividers.output * dividers.input := (Nat.mul_assoc _ _ _).symm
    _ ≤ dividers.detector reference * dividers.feedback * dividers.input := Nat.mul_le_mul_right _ ranked
    _ = dividers.detector reference * dividers.input * dividers.feedback := Nat.mul_right_comm _ _ _
    _ ≤ reference * dividers.feedback := Nat.mul_le_mul_right _ detector

theorem achieved_eq (input : 0 < dividers.input) (output : 0 < dividers.output) :
    dividers.achieved reference = dividers.ranked reference + dividers.loss reference :=
  (Nat.add_sub_cancel' (ranked_le_achieved input output)).symm

/-- Rounding the detector loses less than one feedback divider, which the output divider divides again. -/
theorem loss_mul_le (input : 0 < dividers.input) (feedback : 0 < dividers.feedback) (output : 0 < dividers.output) :
    dividers.loss reference * dividers.output + 2 ≤ dividers.feedback + dividers.output := by
  have rounded : reference < (dividers.detector reference + 1) * dividers.input :=
    (Nat.div_lt_iff_lt_mul input).mp (Nat.lt_succ_self _)
  have achieved : dividers.achieved reference * dividers.output <
      dividers.detector reference * dividers.feedback + dividers.feedback := by
    apply Nat.lt_of_mul_lt_mul_right (a := dividers.input)
    calc
      dividers.achieved reference * dividers.output * dividers.input =
          dividers.achieved reference * (dividers.output * dividers.input) := Nat.mul_assoc _ _ _
      _ ≤ reference * dividers.feedback := Nat.div_mul_le_self _ _
      _ < (dividers.detector reference + 1) * dividers.input * dividers.feedback :=
        Nat.mul_lt_mul_of_pos_right rounded feedback
      _ = (dividers.detector reference * dividers.feedback + dividers.feedback) * dividers.input := by
        rw [Nat.mul_right_comm, Nat.succ_mul]
  have ranked : dividers.detector reference * dividers.feedback <
      dividers.ranked reference * dividers.output + dividers.output := Nat.lt_div_mul_add output
  rw [achieved_eq input output, Nat.add_mul] at achieved
  omega

theorem loss_lt (input : 0 < dividers.input) (feedback : 0 < dividers.feedback) (output : 0 < dividers.output) :
    dividers.loss reference < dividers.feedback := by
  have lost : dividers.loss reference * dividers.output + 2 ≤ dividers.feedback + dividers.output :=
    loss_mul_le input feedback output
  rcases Nat.eq_zero_or_pos (dividers.loss reference) with none | some
  · omega
  · obtain ⟨rest, isSucc⟩ := Nat.exists_eq_succ_of_ne_zero (Nat.ne_of_gt output)
    have scaled : rest ≤ dividers.loss reference * rest := Nat.le_mul_of_pos_left rest some
    rw [isSucc, Nat.mul_succ] at lost
    omega

/-- Nothing is lost where the input divider divides the reference. -/
theorem loss_eq_zero (input : 0 < dividers.input) (divides : dividers.input ∣ reference) :
    dividers.loss reference = 0 := by
  have whole : dividers.detector reference * dividers.input = reference := Nat.div_mul_cancel divides
  have same : dividers.achieved reference = dividers.ranked reference := calc
    dividers.achieved reference =
        dividers.detector reference * dividers.feedback * dividers.input / (dividers.output * dividers.input) := by
      rw [Nat.mul_right_comm, whole, achieved]
    _ = dividers.ranked reference := Nat.mul_div_mul_right _ _ input
  exact Nat.sub_eq_zero_of_le (Nat.le_of_eq same)

end Dividers

theorem Dividers.Admissible.positive {reference : Nat} {dividers : Dividers}
    (admissible : dividers.Admissible reference) :
    0 < dividers.input ∧ 0 < dividers.feedback ∧ 0 < dividers.output := by
  have input := mem_inputDividers.mp admissible.input
  have feedback := mem_feedbackDividers.mp admissible.feedback
  have output := mem_outputDividers.mp admissible.output
  omega

/-- Two different quotients of a reference are apart by the reference over the product of their divisors. -/
theorem Dividers.apart_of_lt {reference : Nat} {dividers other : Dividers}
    (positive : 0 < dividers.output * dividers.input) (otherPositive : 0 < other.output * other.input)
    (lt : dividers.achieved reference < other.achieved reference) :
    dividers.achieved reference * (dividers.output * dividers.input * (other.output * other.input)) + reference <
      (other.achieved reference + 1) * (dividers.output * dividers.input * (other.output * other.input)) := by
  unfold achieved at lt ⊢
  generalize dividers.output * dividers.input = divisor at *
  generalize other.output * other.input = otherDivisor at *
  have low : reference * dividers.feedback / divisor * divisor ≤ reference * dividers.feedback :=
    Nat.div_mul_le_self _ _
  have high : reference * other.feedback < (reference * other.feedback / otherDivisor + 1) * otherDivisor :=
    (Nat.div_lt_iff_lt_mul otherPositive).mp (Nat.lt_succ_self _)
  -- The quotients themselves are in the order of what is left of them by rounding.
  have cross : dividers.feedback * otherDivisor < other.feedback * divisor := by
    by_contra behind
    refine absurd lt (Nat.not_lt.mpr ((Nat.le_div_iff_mul_le positive).mpr ?_))
    apply Nat.le_of_mul_le_mul_right _ otherPositive
    calc
      reference * other.feedback / otherDivisor * divisor * otherDivisor =
          reference * other.feedback / otherDivisor * otherDivisor * divisor := Nat.mul_right_comm _ _ _
      _ ≤ reference * other.feedback * divisor := Nat.mul_le_mul_right _ (Nat.div_mul_le_self _ _)
      _ = reference * (other.feedback * divisor) := Nat.mul_assoc _ _ _
      _ ≤ reference * (dividers.feedback * otherDivisor) := Nat.mul_le_mul_left _ (Nat.le_of_not_lt behind)
      _ = reference * dividers.feedback * otherDivisor := (Nat.mul_assoc _ _ _).symm
  calc
    reference * dividers.feedback / divisor * (divisor * otherDivisor) + reference =
        reference * dividers.feedback / divisor * divisor * otherDivisor + reference := by rw [Nat.mul_assoc]
    _ ≤ reference * dividers.feedback * otherDivisor + reference :=
      Nat.add_le_add_right (Nat.mul_le_mul_right _ low) _
    _ = reference * (dividers.feedback * otherDivisor + 1) := by rw [Nat.mul_add_one, Nat.mul_assoc]
    _ ≤ reference * (other.feedback * divisor) := Nat.mul_le_mul_left _ cross
    _ = reference * other.feedback * divisor := (Nat.mul_assoc _ _ _).symm
    _ < (reference * other.feedback / otherDivisor + 1) * otherDivisor * divisor :=
      Nat.mul_lt_mul_of_pos_right high positive
    _ = (reference * other.feedback / otherDivisor + 1) * (divisor * otherDivisor) := by
      rw [Nat.mul_assoc, Nat.mul_comm otherDivisor]

/-- Dividers that achieve too little more than others for different quotients achieve nothing more. -/
theorem Dividers.le_of_close {reference spread : Nat} {dividers other : Dividers}
    (admissible : dividers.Admissible reference) (others : other.Admissible reference)
    (close : (spread + 1) * (dividers.output * dividers.input * (other.output * other.input)) ≤ reference)
    (near : other.achieved reference ≤ dividers.achieved reference + spread) :
    other.achieved reference ≤ dividers.achieved reference := by
  by_contra more
  obtain ⟨input, _, output⟩ := admissible.positive
  obtain ⟨otherInput, _, otherOutput⟩ := others.positive
  have apart := apart_of_lt (Nat.mul_pos output input) (Nat.mul_pos otherOutput otherInput) (Nat.lt_of_not_le more)
  have spreads := Nat.mul_le_mul_right (dividers.output * dividers.input * (other.output * other.input))
    (show other.achieved reference + 1 ≤ dividers.achieved reference + (spread + 1) by omega)
  rw [Nat.add_mul (dividers.achieved reference)] at spreads
  omega

theorem Dividers.Admissible.loss_le {reference : Nat} {dividers : Dividers}
    (admissible : dividers.Admissible reference) : dividers.loss reference ≤ 2046 := by
  obtain ⟨input, feedback, output⟩ := admissible.positive
  have lost : dividers.loss reference < dividers.feedback := loss_lt input feedback output
  have small := (mem_feedbackDividers.mp admissible.feedback).2
  omega

/-- The input divider is at most the reference in MHz, and with a slow reference the feedback divider is small. -/
theorem Dividers.Admissible.reference_mul_le {reference : Nat} {dividers : Dividers}
    (admissible : dividers.Admissible reference) :
    dividers.input * 1_000_000 ≤ reference ∧ dividers.feedback * reference ≤ 2_400_002_400 * dividers.input := by
  obtain ⟨input, _, _⟩ := admissible.positive
  have slow : 1_000_000 ≤ dividers.detector reference := admissible.detector.1
  have bound : dividers.feedback * dividers.detector reference ≤ 2_400_000_000 :=
    Nat.mul_comm dividers.feedback _ ▸ admissible.oscillator.2
  have small : dividers.feedback * 1_000_000 ≤ 2_400_000_000 :=
    Nat.le_trans (Nat.mul_le_mul_left _ slow) bound
  have rounded : reference ≤ (dividers.detector reference + 1) * dividers.input :=
    Nat.le_of_lt ((Nat.div_lt_iff_lt_mul input).mp (Nat.lt_succ_self _))
  refine ⟨Nat.mul_comm dividers.input _ ▸ (Nat.le_div_iff_mul_le input).mp slow, ?_⟩
  calc
    dividers.feedback * reference ≤ dividers.feedback * ((dividers.detector reference + 1) * dividers.input) :=
      Nat.mul_le_mul_left _ rounded
    _ = (dividers.feedback * dividers.detector reference + dividers.feedback) * dividers.input := by
      rw [← Nat.mul_assoc, Nat.mul_add_one]
    _ ≤ 2_400_002_400 * dividers.input := Nat.mul_le_mul_right _ (by omega)

/-- For references of at most 29 MHz, what two dividers lose is less than what different quotients are apart by. -/
theorem Dividers.Admissible.losses_mul_le {reference : Nat} {dividers other : Dividers}
    (admissible : dividers.Admissible reference) (others : other.Admissible reference)
    (slow : reference ≤ 29_000_000) :
    (dividers.loss reference + other.loss reference + 1) *
      (dividers.output * dividers.input * (other.output * other.input)) ≤ reference := by
  have scaled {dividers other : Dividers} (admissible : dividers.Admissible reference)
      (others : other.Admissible reference) :
      dividers.loss reference * dividers.output * other.output ≤ (dividers.feedback + 5) * 7 := by
    obtain ⟨input, feedback, output⟩ := admissible.positive
    have lost : dividers.loss reference * dividers.output + 2 ≤ dividers.feedback + dividers.output :=
      loss_mul_le input feedback output
    have output_le := (mem_outputDividers.mp admissible.output).2
    exact Nat.mul_le_mul (by omega) (mem_outputDividers.mp others.output).2
  have outputs : dividers.output * other.output ≤ 7 * 7 :=
    Nat.mul_le_mul (mem_outputDividers.mp admissible.output).2 (mem_outputDividers.mp others.output).2
  obtain ⟨input_le, feedback_le⟩ := admissible.reference_mul_le
  obtain ⟨otherInput_le, otherFeedback_le⟩ := others.reference_mul_le
  have present : 0 < reference := by
    have input := admissible.positive.1
    omega
  have small : (7 * dividers.feedback + 7 * other.feedback + 119) * reference ≤ 1_000_000 * 1_000_000 := by
    rw [Nat.add_mul, Nat.add_mul, Nat.mul_assoc, Nat.mul_assoc]
    omega
  calc
    (dividers.loss reference + other.loss reference + 1) *
          (dividers.output * dividers.input * (other.output * other.input)) =
        (dividers.loss reference * dividers.output * other.output +
          other.loss reference * other.output * dividers.output + dividers.output * other.output) *
          (dividers.input * other.input) := by ring
    _ ≤ (7 * dividers.feedback + 7 * other.feedback + 119) * (dividers.input * other.input) := by
      have first := scaled admissible others
      have second := scaled others admissible
      exact Nat.mul_le_mul_right _ (by omega)
    _ ≤ reference := by
      apply Nat.le_of_mul_le_mul_right _ present
      calc
        (7 * dividers.feedback + 7 * other.feedback + 119) * (dividers.input * other.input) * reference =
            (7 * dividers.feedback + 7 * other.feedback + 119) * reference * (dividers.input * other.input) :=
          Nat.mul_right_comm _ _ _
        _ ≤ 1_000_000 * 1_000_000 * (dividers.input * other.input) := Nat.mul_le_mul_right _ small
        _ = dividers.input * 1_000_000 * (other.input * 1_000_000) := by ring
        _ ≤ reference * reference := Nat.mul_le_mul input_le otherInput_le

/-- For references of at most 29 MHz, dividers whose rates are no farther apart than both lose achieve the same rate. -/
theorem Dividers.Admissible.achieved_eq_of_near {reference : Nat} {dividers other : Dividers}
    (admissible : dividers.Admissible reference) (others : other.Admissible reference)
    (slow : reference ≤ 29_000_000)
    (near : distance (other.achieved reference) (dividers.achieved reference) ≤
      dividers.loss reference + other.loss reference) :
    other.achieved reference = dividers.achieved reference := by
  unfold distance at near
  apply Nat.le_antisymm
  · exact le_of_close admissible others (admissible.losses_mul_le others slow) (by omega)
  · exact le_of_close others admissible (others.losses_mul_le admissible slow) (by omega)

end IntegerSearch

/-! ### The solution against other dividers -/

open IntegerSearch

/-- No admissible dividers achieve a rate that is closer to the target than that of the solution by more than
rounding the detector loses for both. Where it loses nothing for either, none are closer at all. -/
theorem solveInteger_near_best {reference target : Nat} {solution : Solution}
    (solves : solveInteger reference target = .ok solution) (genuine : solution.isFallback = false) :
    ∃ chosen : Dividers, chosen.Admissible reference ∧ solution = chosen.solution reference ∧
      ∀ other : Dividers, other.Admissible reference →
        distance solution.rate target ≤
            distance (other.achieved reference) target + (chosen.loss reference + other.loss reference) ∧
          chosen.loss reference + other.loss reference ≤ 4092 ∧
          (chosen.input ∣ reference ∧ other.input ∣ reference →
            distance solution.rate target ≤ distance (other.achieved reference) target) := by
  obtain ⟨_, chosen, firstClosest, rfl⟩ := exists_firstClosest solves genuine
  refine ⟨chosen, firstClosest.admissible, rfl, fun other admissible => ?_⟩
  have near : distance (chosen.achieved reference) target ≤
      distance (other.achieved reference) target + (chosen.loss reference + other.loss reference) := by
    have ranked := firstClosest.distance_le admissible
    obtain ⟨input, _, output⟩ := firstClosest.admissible.positive
    obtain ⟨otherInput, _, otherOutput⟩ := admissible.positive
    rw [Dividers.achieved_eq input output, Dividers.achieved_eq otherInput otherOutput]
    unfold distance at ranked ⊢
    omega
  refine ⟨near, ?_, fun ⟨divides, otherDivides⟩ => ?_⟩
  · have lost := firstClosest.admissible.loss_le
    have otherLost := admissible.loss_le
    omega
  · rw [Dividers.loss_eq_zero firstClosest.admissible.positive.1 divides,
      Dividers.loss_eq_zero admissible.positive.1 otherDivides] at near
    exact near

theorem solveInteger_near_best_exact :
    let solution : Solution := ⟨⟨0x1064, 0x30, 0⟩, 800_000_000, false⟩
    solveInteger 24_000_000 800_000_000 = .ok solution ∧ solution.isFallback = false ∧
      ∀ other : Dividers, other.Admissible 24_000_000 →
        distance solution.rate 800_000_000 ≤ distance (other.achieved 24_000_000) 800_000_000 + 4092 := by
  intro solution
  have solves : solveInteger 24_000_000 800_000_000 = .ok solution := rfl
  obtain ⟨_, _, _, near⟩ := solveInteger_near_best solves rfl
  refine ⟨solves, rfl, fun other admissible => ?_⟩
  obtain ⟨le, small, _⟩ := near other admissible
  omega

/-- The dividers found for 329 MHz give 330 MHz by rank, and 8 Hz more in fact. Others give 328 MHz by rank, which is
as far away, and come closer by the 8 Hz that they give more. -/
theorem solveInteger_not_best :
    solveInteger 2_520_000_062 329_000_000 = .ok ⟨⟨0x3F021, 0x40, 0⟩, 330_000_008, false⟩ ∧
      Dividers.Admissible 2_520_000_062 ⟨63, 41, 5⟩ ∧
      distance (Dividers.achieved 2_520_000_062 ⟨63, 41, 5⟩) 329_000_000 < distance 330_000_008 329_000_000 :=
  ⟨by decide +kernel, by decide, by decide⟩

end ClockController
