import ClockController.Proofs.Synthesis.IntegerSearch

/-!
# ClockController.Proofs.Synthesis.NearbyDividers

Whole dividers that are close to a target.

For an input divider and an output divider, the ranks of two feedback dividers in a row are far apart. Only the two of
them between which the target lies can be close to it, so that a choice of dividers is found to be the first of the
closest by looking at these two for each pair.

## Main definitions

`IntegerSearch.nearbyChoices`: the choices between which a target lies.

## Main results

`IntegerSearch.Dividers.Admissible.mem_nearbyChoices`: admissible dividers that are close to the target are among them.
`IntegerSearch.Dividers.FirstClosest.of_nearby`: dividers that are preferred to these are the first of the closest.
-/

namespace ClockController

namespace IntegerSearch

/-- For each pair of input and output divider, the two feedback dividers between which a target lies. -/
def nearbyChoices (reference target : Nat) : List Dividers :=
  inputDividers.flatMap fun input =>
    outputDividers.flatMap fun output =>
      let feedback := target * output / (reference / input)
      [⟨input, feedback, output⟩, ⟨input, feedback + 1, output⟩]

namespace Dividers

variable {reference target : Nat} {dividers : Dividers}

instance (first second : Dividers) : Decidable (first.Precedes second) :=
  inferInstanceAs (Decidable (_ ∨ _ ∧ (_ ∨ _ ∧ _)))

instance (dividers other : Dividers) : Decidable (dividers.PreferredTo reference target other) :=
  inferInstanceAs (Decidable (_ ∨ _ ∧ (_ ∨ _)))

/-- One step of the feedback divider moves the rank by a seventh of the phase detector or more, so that a rank that is
closer than that has one of the two feedback dividers between which the target lies. -/
theorem Admissible.feedback_of_near (admissible : dividers.Admissible reference)
    (near : distance (dividers.ranked reference) target < 142_857) :
    dividers.feedback = target * dividers.output / dividers.detector reference ∨
      dividers.feedback = target * dividers.output / dividers.detector reference + 1 := by
  have slow : 1_000_000 ≤ dividers.detector reference := admissible.detector.1
  obtain ⟨positive, small⟩ := mem_outputDividers.mp admissible.output
  have rank_le : dividers.ranked reference * dividers.output ≤ dividers.feedback * dividers.detector reference :=
    Nat.mul_comm dividers.feedback _ ▸ Nat.div_mul_le_self _ _
  have lt_rank : dividers.feedback * dividers.detector reference <
      dividers.ranked reference * dividers.output + dividers.output :=
    Nat.mul_comm dividers.feedback _ ▸ Nat.lt_div_mul_add positive
  have lower_le : target * dividers.output / dividers.detector reference * dividers.detector reference ≤
      target * dividers.output := Nat.div_mul_le_self _ _
  have lt_upper : target * dividers.output <
      target * dividers.output / dividers.detector reference * dividers.detector reference +
        dividers.detector reference := Nat.lt_div_mul_add (by omega)
  have above : dividers.ranked reference * dividers.output ≤ (target + 142_856) * dividers.output := by
    unfold distance at near
    exact Nat.mul_le_mul_right _ (by omega)
  have below : target * dividers.output ≤ (dividers.ranked reference + 142_856) * dividers.output := by
    unfold distance at near
    exact Nat.mul_le_mul_right _ (by omega)
  rw [Nat.add_mul] at above below
  generalize target * dividers.output / dividers.detector reference = lower at *
  have not_less : ¬ dividers.feedback + 1 ≤ lower := fun less => by
    have stepped := Nat.mul_le_mul_right (dividers.detector reference) less
    rw [Nat.add_mul] at stepped
    omega
  have not_more : ¬ lower + 2 ≤ dividers.feedback := fun more => by
    have stepped := Nat.mul_le_mul_right (dividers.detector reference) more
    rw [Nat.add_mul] at stepped
    omega
  omega

theorem Admissible.mem_nearbyChoices (admissible : dividers.Admissible reference)
    (near : distance (dividers.ranked reference) target < 142_857) : dividers ∈ nearbyChoices reference target := by
  have rebuilt {feedback : Nat} (same : dividers.feedback = feedback) :
      dividers = ⟨dividers.input, feedback, dividers.output⟩ := by rw [← same]
  refine List.mem_flatMap.mpr ⟨_, admissible.input, List.mem_flatMap.mpr ⟨_, admissible.output, ?_⟩⟩
  rcases admissible.feedback_of_near near with lower | upper
  · exact List.mem_cons.mpr (.inl (rebuilt lower))
  · exact List.mem_cons_of_mem _ (List.mem_singleton.mpr (rebuilt upper))

/-- Dividers that are close to a target are the first of the closest if they are preferred to those between which the
target lies. All others are farther away. -/
theorem FirstClosest.of_nearby (admissible : dividers.Admissible reference)
    (near : distance (dividers.ranked reference) target < 142_857)
    (preferred : ∀ other ∈ nearbyChoices reference target, other.detector reference ∈ Band.phaseDetector →
      other.oscillator reference ∈ Band.oscillator → dividers.PreferredTo reference target other) :
    dividers.FirstClosest reference target := by
  refine ⟨admissible, fun other others => ?_⟩
  by_cases close : distance (other.ranked reference) target < 142_857
  · exact preferred other (others.mem_nearbyChoices close) others.detector others.oscillator
  · exact .inl (Nat.lt_of_lt_of_le near (Nat.le_of_not_lt close))

end Dividers

end IntegerSearch

end ClockController
