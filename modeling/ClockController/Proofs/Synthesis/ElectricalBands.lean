import ClockController.Proofs.Synthesis.AchievedRate
import ClockController.Proofs.Synthesis.Solved

/-!
# ClockController.Proofs.Synthesis.ElectricalBands

The rates at which oscillator and output run with a solution, against their bands.

With whole dividers the bands are tested for the rounded input of the phase detector, and the oscillator may run
above its band by what the rounding leaves out. With a fractional feedback divider they are tested for the rate that
was asked for, and the oscillator may run below its band by what the rounded divider leaves out. A reference that
divides 600 MHz hits the ends of the band exactly, and keeps everything inside.

## Main definitions

`Setting.oscillatorRate`: the rate of the oscillator for a setting.
`Setting.WholeBands`, `Setting.FractionalBands`: how far oscillator and output keep to their bands.

## Main results

`IntegerSearch.Dividers.Admissible.oscillator_le`, `FractionalSearch.Dividers.Serves.le_oscillator`: when the
oscillator keeps inside its band.
`solve_near_bands`: how far a solution can leave the bands.
-/

namespace ClockController

/-- The feedback divider of a setting in thousandths. -/
def Setting.milliFeedback (setting : Setting) : Nat :=
  1000 * setting.feedback + (setting.fraction * 1000 + 500) >>> 24

/-- The rate of the oscillator for a setting. The fraction counts in the fractional modes only. -/
def Setting.oscillatorRate (mode : Mode) (reference : Nat) (setting : Setting) : Nat :=
  match mode with
  | .integer | .fixedRatio => reference * setting.feedback / setting.input
  | .fractional | .spreadSpectrum => reference * setting.milliFeedback / (1000 * setting.input)

/-! ### Whole dividers -/

namespace IntegerSearch.Dividers

variable {reference : Nat} {dividers : Dividers}

theorem Admissible.detector_mul_le (admissible : dividers.Admissible reference) :
    dividers.detector reference * dividers.feedback ≤ reference * dividers.feedback / dividers.input := by
  refine (Nat.le_div_iff_mul_le admissible.positive.1).mpr ?_
  rw [Nat.mul_right_comm]
  exact Nat.mul_le_mul_right _ (Nat.div_mul_le_self _ _)

/-- The oscillator never runs below its band, and above it by less than the feedback divider. -/
theorem Admissible.oscillator_bounds (admissible : dividers.Admissible reference) :
    600_000_000 ≤ reference * dividers.feedback / dividers.input ∧
      reference * dividers.feedback / dividers.input < 2_400_000_000 + dividers.feedback := by
  obtain ⟨input, feedback, _⟩ := admissible.positive
  refine ⟨Nat.le_trans admissible.oscillator.1 admissible.detector_mul_le, ?_⟩
  have rounded : reference < (dividers.detector reference + 1) * dividers.input :=
    (Nat.div_lt_iff_lt_mul input).mp (Nat.lt_succ_self _)
  apply (Nat.div_lt_iff_lt_mul input).mpr
  calc
    reference * dividers.feedback < (dividers.detector reference + 1) * dividers.input * dividers.feedback :=
      Nat.mul_lt_mul_of_pos_right rounded feedback
    _ = (dividers.oscillator reference + dividers.feedback) * dividers.input := by
      rw [Nat.mul_right_comm, Nat.succ_mul, Dividers.oscillator]
    _ ≤ (2_400_000_000 + dividers.feedback) * dividers.input :=
      Nat.mul_le_mul_right _ (Nat.add_le_add_right admissible.oscillator.2 _)

/-- The oscillator keeps inside its band where the input divider divides the reference, and where the reference hits
the upper end of the band. -/
theorem Admissible.oscillator_le (admissible : dividers.Admissible reference)
    (hits : dividers.input ∣ reference ∨ reference ∣ 2_400_000_000 * dividers.input) :
    reference * dividers.feedback / dividers.input ≤ 2_400_000_000 := by
  have input := mem_inputDividers.mp admissible.input
  have feedback := mem_feedbackDividers.mp admissible.feedback
  have upper : dividers.detector reference * dividers.feedback ≤ 2_400_000_000 := admissible.oscillator.2
  rcases hits with divides | ⟨top, hits⟩
  · have whole : dividers.detector reference * dividers.input = reference := Nat.div_mul_cancel divides
    rw [← whole, Nat.mul_right_comm, Nat.mul_div_cancel _ input.1]
    exact upper
  · have within : dividers.feedback ≤ top := by
      by_contra beyond
      -- The next feedback divider is a whole reference above the end of the band, and the rounding far less.
      have next : reference * (top + 1) ≤ reference * dividers.feedback := Nat.mul_le_mul_left _ (by omega)
      have rounded : reference * dividers.feedback ≤
          (dividers.detector reference * dividers.input + dividers.input) * dividers.feedback :=
        Nat.mul_le_mul_right _ (Nat.le_of_lt (Nat.lt_div_mul_add input.1))
      have scaled := Nat.mul_le_mul_right dividers.input upper
      have small : dividers.input * dividers.feedback ≤ dividers.input * 2047 := Nat.mul_le_mul_left _ feedback.2
      have fast : 1_000_000 * dividers.input ≤ reference :=
        (Nat.le_div_iff_mul_le input.1).mp admissible.detector.1
      rw [Nat.add_mul, Nat.mul_right_comm] at rounded
      rw [Nat.mul_succ] at next
      omega
    have bound : reference * dividers.feedback ≤ 2_400_000_000 * dividers.input := by
      rw [hits]
      exact Nat.mul_le_mul_left reference within
    exact Nat.le_trans (Nat.div_le_div_right bound) (Nat.le_of_eq (Nat.mul_div_cancel _ input.1))

/-- The output never runs below its band, and above it only if the oscillator does and is not divided. -/
theorem Admissible.achieved_bounds (admissible : dividers.Admissible reference) :
    85_700_000 ≤ dividers.achieved reference ∧
      (dividers.achieved reference ≤ 2_400_000_000 ↔
        reference * dividers.feedback / dividers.input ≤ 2_400_000_000 ∨ 1 < dividers.output) := by
  obtain ⟨input, _, output⟩ := admissible.positive
  refine ⟨Nat.le_trans admissible.ranked.1 (ranked_le_achieved input output), ?_⟩
  have above := admissible.oscillator_bounds.2
  have small := (mem_feedbackDividers.mp admissible.feedback).2
  have divided : dividers.achieved reference =
      reference * dividers.feedback / dividers.input / dividers.output := by
    rw [achieved, Nat.div_div_eq_div_mul, Nat.mul_comm dividers.input]
  rw [divided]
  rcases Nat.eq_or_lt_of_le output with undivided | divides
  · rw [← undivided, Nat.div_one]
    omega
  · have halved : reference * dividers.feedback / dividers.input / dividers.output ≤
        reference * dividers.feedback / dividers.input / 2 := Nat.div_le_div_left divides (by decide)
    omega

end IntegerSearch.Dividers

/-! ### Fractional feedback dividers -/

namespace FractionalSearch.Dividers

variable {reference output : Nat} {dividers : Dividers}

theorem milliFeedback_setting (dividers : Dividers) (spreadRate slope : Nat) :
    (dividers.setting spreadRate slope).milliFeedback = dividers.milliFeedback := by
  have whole := Nat.div_add_mod dividers.milliFeedback 1000
  rw [Setting.milliFeedback, setting, thousandths_fraction]
  exact whole

/-- The oscillator never runs above its band, and below it by 40.001 kHz at most. -/
theorem Serves.oscillator_bounds (serves : dividers.Serves reference output) :
    599_959_999 ≤ reference * dividers.milliFeedback / (1000 * dividers.input) ∧
      reference * dividers.milliFeedback / (1000 * dividers.input) ≤ 2_400_000_000 := by
  have positive : 0 < 1000 * dividers.input := Nat.mul_pos (by decide) serves.input_pos
  have slow := serves.reference_lt
  have scaled := serves.le_scaled
  have below := serves.product_le
  have above := serves.lt_product
  have upper := Nat.mul_le_mul_right dividers.input serves.oscillator_le
  constructor
  · exact (Nat.le_div_iff_mul_le positive).mpr (by omega)
  · have bound : reference * dividers.milliFeedback < 2_400_000_001 * (1000 * dividers.input) := by omega
    exact Nat.le_of_lt_succ ((Nat.div_lt_iff_lt_mul positive).mpr bound)

/-- The oscillator keeps inside its band where the reference hits the lower end of the band. -/
theorem Serves.le_oscillator (serves : dividers.Serves reference output)
    (hits : reference ∣ 600_000_000_000 * dividers.input) :
    600_000_000 ≤ reference * dividers.milliFeedback / (1000 * dividers.input) := by
  have positive : 0 < 1000 * dividers.input := Nat.mul_pos (by decide) serves.input_pos
  obtain ⟨bottom, hits⟩ := hits
  have scaled := serves.le_scaled
  have above : bottom ≤ dividers.milliFeedback := by
    rw [serves.milliFeedback, Nat.le_div_iff_mul_le serves.reference_pos, Nat.mul_comm, ← hits]
    omega
  have product := Nat.mul_le_mul_left reference above
  exact (Nat.le_div_iff_mul_le positive).mpr (by omega)

/-- The output keeps inside its band. -/
theorem Serves.achieved_mem (serves : dividers.Serves reference output) :
    dividers.achieved reference ∈ Band.output := by
  have slow := serves.reference_lt
  have scaled := serves.le_scaled
  have above := serves.lt_product
  have upper := serves.oscillator_le
  have served : output * 1 ≤ output * dividers.output := Nat.mul_le_mul_left _ serves.output_pos
  have divider := Nat.mul_le_mul_right dividers.input serves.output_le
  have bound : 85_700_000 * (dividers.output * dividers.input * 1000) ≤ reference * dividers.milliFeedback := by
    omega
  constructor
  · exact (Nat.le_div_iff_mul_le serves.divider_pos).mpr bound
  · exact Nat.le_trans serves.achieved_le (show output ≤ 2_400_000_000 by omega)

end FractionalSearch.Dividers

/-! ### Solutions -/

/-- The bands that whole dividers keep: the oscillator may run above its band by less than the feedback divider, and
the output follows it there only if it is not divided. -/
structure Setting.WholeBands (setting : Setting) (reference rate : Nat) : Prop where
  oscillator_ge : 600_000_000 ≤ setting.oscillatorRate .integer reference
  oscillator_lt : setting.oscillatorRate .integer reference < 2_400_000_000 + setting.feedback
  oscillator_le : setting.input ∣ reference ∨ reference ∣ 2_400_000_000 * setting.input →
    setting.oscillatorRate .integer reference ≤ 2_400_000_000
  rate_ge : 85_700_000 ≤ rate
  rate_le_iff : rate ≤ 2_400_000_000 ↔
    setting.oscillatorRate .integer reference ≤ 2_400_000_000 ∨ 1 < setting.output

/-- The bands that a fractional feedback divider keeps: the oscillator may run below its band by 40.001 kHz. -/
structure Setting.FractionalBands (setting : Setting) (reference rate : Nat) : Prop where
  oscillator_near : 600_000_000 ≤ setting.oscillatorRate .fractional reference + 40_001
  oscillator_ge : reference ∣ 600_000_000_000 * setting.input →
    600_000_000 ≤ setting.oscillatorRate .fractional reference
  oscillator_le : setting.oscillatorRate .fractional reference ≤ 2_400_000_000
  rate_mem : rate ∈ Band.output

theorem IntegerSearch.Dividers.Admissible.wholeBands {reference : Nat} {dividers : IntegerSearch.Dividers}
    (admissible : dividers.Admissible reference) :
    (dividers.solution reference).words.setting.WholeBands reference (dividers.solution reference).rate := by
  rw [IntegerSearch.Dividers.solution, Setting.words_setting admissible.fits]
  exact
    { oscillator_ge := admissible.oscillator_bounds.1
      oscillator_lt := admissible.oscillator_bounds.2
      oscillator_le := admissible.oscillator_le
      rate_ge := admissible.achieved_bounds.1
      rate_le_iff := admissible.achieved_bounds.2 }

theorem FractionalSearch.Dividers.Serves.fractionalBands {reference output spreadRate slope : Nat}
    {dividers : FractionalSearch.Dividers} (serves : dividers.Serves reference output)
    (fits : (dividers.setting spreadRate slope).Fits) :
    (dividers.setting spreadRate slope).words.setting.FractionalBands reference (dividers.achieved reference) := by
  have same : (dividers.setting spreadRate slope).oscillatorRate .fractional reference =
      reference * dividers.milliFeedback / (1000 * dividers.input) := by
    rw [← dividers.milliFeedback_setting spreadRate slope]
    rfl
  have near := serves.oscillator_bounds.1
  rw [Setting.words_setting fits]
  exact
    { oscillator_near := by
        rw [same]
        omega
      oscillator_ge := fun hits => same ▸ serves.le_oscillator hits
      oscillator_le := same ▸ serves.oscillator_bounds.2
      rate_mem := serves.achieved_mem }

/-- A solution leaves the electrical bands by what rounding leaves out, and not at all if the reference divides
600 MHz. -/
theorem solve_near_bands {derivesSpread : Bool} {mode : Mode} (modes : mode = .integer ∨ mode = .fractional)
    {reference target : Nat} {solution : Solution}
    (solves : (solve derivesSpread mode reference target).run = .ok (.ok solution))
    (genuine : solution.isFallback = false) :
    (mode = .integer → solution.words.setting.WholeBands reference solution.rate) ∧
    (mode = .fractional → solution.words.setting.FractionalBands reference solution.rate) ∧
    (reference ∣ 600_000_000 →
      solution.words.setting.oscillatorRate mode reference ∈ Band.oscillator ∧ solution.rate ∈ Band.output) := by
  have solved := solved_of_solve solves
  rcases modes with rfl | rfl
  · cases solved with
    | fallback => cases genuine
    | integer _ sound =>
      have bands := sound.admissible.wholeBands
      refine ⟨fun _ => bands, nofun, fun divides => ?_⟩
      have below := bands.oscillator_le (.inr ?_)
      · exact ⟨⟨bands.oscillator_ge, below⟩, bands.rate_ge, bands.rate_le_iff.mpr (.inl below)⟩
      · exact Nat.dvd_trans divides (Nat.dvd_mul_right_of_dvd (by decide) _)
    | fractional modes => rcases modes with same | same <;> cases same
  · cases solved with
    | fallback => cases genuine
    | fractional _ _ serves gives fits =>
      rw [serves.rate_eq_achieved] at gives
      cases gives
      have bands := serves.fractionalBands fits
      refine ⟨nofun, fun _ => bands, fun divides => ?_⟩
      have above := bands.oscillator_ge ?_
      · exact ⟨⟨above, bands.oscillator_le⟩, bands.rate_mem⟩
      · exact Nat.dvd_trans divides (Nat.dvd_mul_right_of_dvd (by decide) _)

theorem solve_near_bands_audio :
    let solution : Solution := ⟨⟨0x1024, 0xDD2F1B10, 0⟩, 884_736_000, false⟩
    (solve false .fractional 24_000_000 884_736_000).run = .ok (.ok solution) ∧ solution.isFallback = false ∧
      24_000_000 ∣ 600_000_000 ∧ solution.words.setting.oscillatorRate .fractional 24_000_000 ∈ Band.oscillator ∧
      solution.rate ∈ Band.output := by
  intro solution
  have solves : (solve false .fractional 24_000_000 884_736_000).run = .ok (.ok solution) := rfl
  have divides : 24_000_000 ∣ 600_000_000 := by decide
  obtain ⟨_, _, inside⟩ := solve_near_bands (.inr rfl) solves rfl
  exact ⟨solves, rfl, divides, inside divides⟩

/-- With a reference that is 1 Hz faster than 24 MHz the search accepts an oscillator of 2.4 GHz by rank, which is
100 Hz too fast in fact, and so is the output. From 27 MHz the oscillator misses 600 MHz by 6 kHz. -/
theorem solve_leaves_bands :
    ((solve false .integer 24_000_001 2_400_000_000).run =
        .ok (.ok ⟨⟨0x20C8, 0x10, 0⟩, 2_400_000_100, false⟩) ∧
      Setting.oscillatorRate .integer 24_000_001 (ControlWords.setting ⟨0x20C8, 0x10, 0⟩) = 2_400_000_100 ∧
      2_400_000_100 ∉ Band.oscillator ∧ 2_400_000_100 ∉ Band.output) ∧
    ((solve false .fractional 27_000_000 600_000_000).run =
        .ok (.ok ⟨⟨0x1016, 0x38D4FE10, 0⟩, 599_994_000, false⟩) ∧
      Setting.oscillatorRate .fractional 27_000_000 (ControlWords.setting ⟨0x1016, 0x38D4FE10, 0⟩) = 599_994_000 ∧
      599_994_000 ∉ Band.oscillator) :=
  ⟨⟨by decide +kernel, rfl, by decide, by decide⟩, rfl, rfl, by decide⟩

end ClockController
