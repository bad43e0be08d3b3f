import ClockController.Pll.ControlWords
import ClockController.Proofs.FieldIndependence

/-!
# ClockController.Proofs.ProgrammedWords

What the control words of a loop say after a setting was packed into them or merged into others.

## Main results

`Setting.words_setting`: a setting whose numbers fit their fields is read back from its words.
`ControlWords.mode_merge`: merged words select the mode.
`ControlWords.dividers_merge`, `ControlWords.fraction_merge`: and they hold the dividers of the solved words.
-/

namespace ClockController

/-! ### Packing a setting -/

/-- Every number of a setting fits its field. -/
structure Setting.Fits (setting : Setting) : Prop where
  input : setting.input < 1 <<< PllField.input.width
  feedback : setting.feedback < 1 <<< PllField.feedback.width
  output : setting.output < 1 <<< PllField.output.width
  fraction : setting.fraction < 1 <<< PllField.fraction.width
  spreadRate : setting.spreadRate < 1 <<< PllField.spreadRate.width
  slope : setting.slope < 1 <<< PllField.slope.width

/-- A setting that fits is read back from its words. -/
theorem Setting.words_setting {setting : Setting} (fits : setting.Fits) :
    setting.words.setting = setting := by
  have input : PllField.input.read setting.words.ctl0 = setting.input := by
    simp (disch := decide) [Setting.words, Field.read_or, Field.read_encode_of_disjoint,
      Field.read_encode _ fits.input]
  have feedback : PllField.feedback.read setting.words.ctl0 = setting.feedback := by
    simp (disch := decide) [Setting.words, Field.read_or, Field.read_encode_of_disjoint,
      Field.read_encode _ fits.feedback]
  have output : PllField.output.read setting.words.ctl1 = setting.output := by
    simp (disch := decide) [Setting.words, Field.read_or, Field.read_encode_of_disjoint,
      Field.read_encode _ fits.output]
  have fraction : PllField.fraction.read setting.words.ctl1 = setting.fraction := by
    simp (disch := decide) [Setting.words, Field.read_or, Field.read_encode_of_disjoint,
      Field.read_encode _ fits.fraction]
  have spreadRate : PllField.spreadRate.read setting.words.ctl0 = setting.spreadRate := by
    simp (disch := decide) [Setting.words, Field.read_or, Field.read_encode_of_disjoint,
      Field.read_encode _ fits.spreadRate]
  have slope : PllField.slope.read setting.words.ctl2 = setting.slope :=
    Field.read_encode (by decide) fits.slope
  rw [ControlWords.setting, input, feedback, output, fraction, spreadRate, slope]

/-- A packed setting leaves the mode to be filled in. -/
theorem Setting.mode_words (setting : Setting) : PllField.mode.read setting.words.ctl0 = 0 := by
  simp (disch := decide) [Setting.words, Field.read_or, Field.read_encode_of_disjoint]

namespace ControlWords

/-! ### Merging -/

/-- Merged words select the mode, if the solved ones have no bit beside those of the mode. -/
theorem mode_merge {mode : Mode} (programmable : mode ≠ .fixedRatio) (current : ControlWords)
    {solved : ControlWords} (plain : mode.bits ||| PllField.mode.read solved.ctl0 = mode.bits) :
    Mode.ofCtl0 (merge mode current solved).ctl0 = mode := by
  have merged : PllField.mode.read (merge mode current solved).ctl0 = mode.bits := by
    -- The fields that are cleared and filled in afterwards lie beside the mode.
    have written := Field.read_write PllField.mode (by decide) mode.bits_lt current.ctl0
    rw [← plain, ← written]
    cases mode <;> simp (disch := decide) only [merge, Field.read_or, Field.read_clear_of_disjoint]
  rw [Mode.ofCtl0, merged]
  cases mode with
  | fixedRatio => exact absurd rfl programmable
  | _ => rfl

/-- Whatever the mode, the dividers are those of the solved words. -/
theorem dividers_merge (mode : Mode) (current solved : ControlWords) :
    (merge mode current solved).setting.input = solved.setting.input ∧
      (merge mode current solved).setting.feedback = solved.setting.feedback ∧
      (merge mode current solved).setting.output = solved.setting.output := by
  cases mode <;>
    simp (disch := decide) [merge, setting, Field.read_or, Field.read_clear_of_disjoint]

/-- Nothing is left of the fraction in the modes that have one. -/
theorem fraction_merge {mode : Mode} (modes : mode = .fractional ∨ mode = .spreadSpectrum)
    (current solved : ControlWords) :
    (merge mode current solved).setting.fraction = solved.setting.fraction := by
  rcases modes with rfl | rfl <;>
    simp (disch := decide) [merge, setting, Field.read_or, Field.read_clear_of_disjoint]

end ControlWords

end ClockController
