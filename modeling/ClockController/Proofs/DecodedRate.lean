import ClockController.Proofs.ProgrammedWords

/-!
# ClockController.Proofs.DecodedRate

The rate that control words stand for: when it exists, what it is, and what it depends on.

## Main results

`ControlWords.rate_eq`: the test for words that were never programmed changes no rate.
`ControlWords.integerRate_eq`, `ControlWords.fractionalRate_eq`: the rates in closed form.
`ControlWords.exists_rate`: below the largest reference, every content of the words has a rate.
`ControlWords.setting_write_powerDown`, `ControlWords.fixedRatioRate_write_powerDown`: powering a loop up or
down changes no rate.
-/

namespace ClockController

namespace ControlWords

/-! ### Words that were never programmed -/

theorem setting_fits (words : ControlWords) : words.setting.Fits where
  input := Field.read_lt _ _
  feedback := Field.read_lt _ _
  output := Field.read_lt _ _
  fraction := Field.read_lt _ _
  spreadRate := Field.read_lt _ _
  slope := Field.read_lt _ _

theorem ctl0_of_isUnprogrammed {words : ControlWords} (none : words.isUnprogrammed = true) :
    words.ctl0 = 0 := by
  simp only [isUnprogrammed, Bool.and_eq_true, beq_iff_eq] at none
  exact none.1.1

/-- Words that were never programmed stop a loop by their input divider already, whatever the mode. -/
theorem rate_eq (mode : Mode) (reference : Nat) (words : ControlWords) :
    words.rate mode reference =
      match mode with
      | .fixedRatio => fixedRatioRate reference words.ctl0
      | .integer =>
        if words.setting.input = 0 ∨ words.setting.output = 0 then .ok 0
        else integerRate reference words.setting
      | .fractional | .spreadSpectrum =>
        if words.setting.input = 0 ∨ words.setting.output = 0 then .ok 0
        else fractionalRate reference words.setting := by
  unfold rate
  split
  next none =>
    -- The input divider is zero then, which the other tests answer with zero too.
    have zero := ctl0_of_isUnprogrammed none
    have input : words.setting.input = 0 := by simp [setting, zero]
    cases mode with
    | fixedRatio =>
      simp [fixedRatioRate, zero, Field.isSet_eq_read]
    | _ => simp [input]
  next => rfl

theorem rate_integer {words : ControlWords} (input : 0 < words.setting.input)
    (output : 0 < words.setting.output) (reference : Nat) :
    words.rate .integer reference = integerRate reference words.setting := by
  rw [rate_eq]
  exact if_neg (by omega)

theorem rate_fractional {mode : Mode} (modes : mode = .fractional ∨ mode = .spreadSpectrum)
    {words : ControlWords} (input : 0 < words.setting.input) (output : 0 < words.setting.output)
    (reference : Nat) : words.rate mode reference = fractionalRate reference words.setting := by
  rw [rate_eq]
  rcases modes with rfl | rfl
  · exact if_neg (by omega)
  · exact if_neg (by omega)

theorem rate_congr {mode : Mode} (programmable : mode ≠ .fixedRatio) {x y : ControlWords}
    (same : x.setting = y.setting) (reference : Nat) : x.rate mode reference = y.rate mode reference := by
  rw [rate_eq, rate_eq, same]
  cases mode with
  | fixedRatio => exact absurd rfl programmable
  | _ => rfl

/-! ### Rates in closed form -/

theorem integerRate_eq {reference : Nat} {setting : Setting}
    (product : reference * setting.feedback < rateBound)
    (divider : setting.output * setting.input < rateBound)
    (input : 0 < setting.input) (output : 0 < setting.output) :
    integerRate reference setting =
      .ok (reference * setting.feedback / (setting.output * setting.input)) := by
  rw [integerRate, Checked.mul_of_lt product, Checked.ok_bind, Checked.mul_of_lt divider, Checked.ok_bind,
    Checked.div_of_pos (Nat.mul_pos output input)]

theorem thousandths_eq {fraction : Nat} (fits : fraction < 1 <<< PllField.fraction.width) :
    thousandths fraction = .ok ((fraction * 1000 + 500) >>> 24) := by
  have small : fraction < 16_777_216 := fits
  have bound : fraction * 1000 < rateBound := by
    rw [Checked.rateBound_eq]
    omega
  rw [thousandths, Checked.mul_of_lt bound, Checked.ok_bind]
  rfl

theorem thousandths_lt {fraction : Nat} (fits : fraction < 1 <<< PllField.fraction.width) :
    (fraction * 1000 + 500) >>> 24 < 1000 := by
  have small : fraction < 16_777_216 := fits
  rw [Nat.shiftRight_eq_div_pow]
  omega

/-- Only the product with the reference can leave the range of the rates. -/
theorem fractionalRate_eq_bind (reference : Nat) {setting : Setting} (fits : setting.Fits) :
    fractionalRate reference setting = (do
      let product ←
        Checked.mul reference (setting.feedback * 1000 + (setting.fraction * 1000 + 500) >>> 24)
      let undivided ← Checked.div (product / 1000) setting.output
      Checked.div undivided setting.input) := by
  have whole : setting.feedback * 1000 < rateBound := by
    have small : setting.feedback < 2048 := fits.feedback
    rw [Checked.rateBound_eq]
    omega
  rw [fractionalRate, thousandths_eq fits.fraction, Checked.ok_bind, Checked.mul_of_lt whole, Checked.ok_bind]

theorem fractionalRate_eq {reference : Nat} {setting : Setting} (fits : setting.Fits)
    (product : reference * (setting.feedback * 1000 + (setting.fraction * 1000 + 500) >>> 24) < rateBound)
    (input : 0 < setting.input) (output : 0 < setting.output) :
    fractionalRate reference setting =
      .ok (reference * (setting.feedback * 1000 + (setting.fraction * 1000 + 500) >>> 24) / 1000 /
        setting.output / setting.input) := by
  rw [fractionalRate_eq_bind reference fits, Checked.mul_of_lt product, Checked.ok_bind,
    Checked.div_of_pos output, Checked.ok_bind, Checked.div_of_pos input]

theorem integerRate_eq_ok_iff {reference : Nat} {setting : Setting} {rate : Nat}
    (divider : setting.output * setting.input < rateBound)
    (input : 0 < setting.input) (output : 0 < setting.output) :
    integerRate reference setting = .ok rate ↔
      reference * setting.feedback < rateBound ∧
        reference * setting.feedback / (setting.output * setting.input) = rate := by
  by_cases product : reference * setting.feedback < rateBound
  · rw [integerRate_eq product divider input output, Except.ok.injEq]
    exact (and_iff_right product).symm
  · rw [integerRate, Checked.mul, if_neg product]
    exact ⟨nofun, fun gives => absurd gives.1 product⟩

theorem fractionalRate_eq_ok_iff {reference : Nat} {setting : Setting} (fits : setting.Fits) {rate : Nat}
    (input : 0 < setting.input) (output : 0 < setting.output) :
    fractionalRate reference setting = .ok rate ↔
      reference * (setting.feedback * 1000 + (setting.fraction * 1000 + 500) >>> 24) < rateBound ∧
        reference * (setting.feedback * 1000 + (setting.fraction * 1000 + 500) >>> 24) / 1000 /
          setting.output / setting.input = rate := by
  by_cases product :
      reference * (setting.feedback * 1000 + (setting.fraction * 1000 + 500) >>> 24) < rateBound
  · rw [fractionalRate_eq fits product input output, Except.ok.injEq]
    exact (and_iff_right product).symm
  · rw [fractionalRate_eq_bind reference fits, Checked.mul, if_neg product]
    exact ⟨nofun, fun gives => absurd gives.1 product⟩

/-! ### Existence -/

/-- The largest feedback divider that can be programmed, in thousandths. -/
def maxMilliFeedback : Nat := 2_047_999

theorem milliFeedback_le {setting : Setting} (fits : setting.Fits) :
    setting.feedback * 1000 + (setting.fraction * 1000 + 500) >>> 24 ≤ maxMilliFeedback := by
  have whole : setting.feedback < 2048 := fits.feedback
  have fraction := thousandths_lt fits.fraction
  unfold maxMilliFeedback
  omega

theorem exists_fixedRatioRate {reference : Nat} (bound : reference * maxMilliFeedback < rateBound)
    (ctl0 : Word) : ∃ rate, fixedRatioRate reference ctl0 = .ok rate := by
  unfold fixedRatioRate
  split
  next => exact ⟨reference, rfl⟩
  next =>
    dsimp only
    split
    next => exact ⟨0, rfl⟩
    next running =>
      -- The field of a fixed-ratio loop is narrower, so that the bound is more than enough.
      have feedback : FixedPllField.feedback.read ctl0 < 256 := Field.read_lt _ ctl0
      have product : reference * FixedPllField.feedback.read ctl0 < rateBound :=
        Nat.lt_of_le_of_lt (Nat.mul_le_mul_left reference (by unfold maxMilliFeedback; omega)) bound
      have divider : 0 < FixedPllField.input.read ctl0 <<< FixedPllField.output.read ctl0 := by
        rw [Nat.shiftLeft_eq]
        exact Nat.mul_pos (Nat.pos_of_ne_zero running) (Nat.two_pow_pos _)
      rw [Checked.mul_of_lt product, Checked.ok_bind, Checked.div_of_pos divider]
      exact ⟨_, rfl⟩

theorem exists_integerRate {reference : Nat} (bound : reference * maxMilliFeedback < rateBound)
    {setting : Setting} (fits : setting.Fits) (input : 0 < setting.input) (output : 0 < setting.output) :
    ∃ rate, integerRate reference setting = .ok rate := by
  have product : reference * setting.feedback < rateBound :=
    Nat.lt_of_le_of_lt (Nat.mul_le_mul_left reference (by have := milliFeedback_le fits; omega)) bound
  have divider : setting.output * setting.input < rateBound := by
    have smallInput : setting.input < 64 := fits.input
    have smallOutput : setting.output < 8 := fits.output
    have small := Nat.mul_lt_mul'' smallOutput smallInput
    rw [Checked.rateBound_eq]
    omega
  exact ⟨_, integerRate_eq product divider input output⟩

theorem exists_fractionalRate {reference : Nat} (bound : reference * maxMilliFeedback < rateBound)
    {setting : Setting} (fits : setting.Fits) (input : 0 < setting.input) (output : 0 < setting.output) :
    ∃ rate, fractionalRate reference setting = .ok rate :=
  have product := Nat.lt_of_le_of_lt (Nat.mul_le_mul_left reference (milliFeedback_le fits)) bound
  ⟨_, fractionalRate_eq fits product input output⟩

/-- Whatever the words hold, they stand for a rate if the largest feedback divider does not overflow. -/
theorem exists_rate {reference : Nat} (bound : reference * maxMilliFeedback < rateBound) (mode : Mode)
    (words : ControlWords) : ∃ rate, words.rate mode reference = .ok rate := by
  have fits := words.setting_fits
  rw [rate_eq]
  cases mode with
  | fixedRatio => exact exists_fixedRatioRate bound words.ctl0
  | integer =>
    dsimp only
    split
    next => exact ⟨0, rfl⟩
    next running =>
      exact exists_integerRate bound fits (by omega) (by omega)
  | fractional | spreadSpectrum =>
    dsimp only
    split
    next => exact ⟨0, rfl⟩
    next running =>
      exact exists_fractionalRate bound fits (by omega) (by omega)

/-! ### Power -/

theorem setting_write_powerDown (words : ControlWords) (value : Nat) :
    { words with ctl1 := PllField.powerDown.write value words.ctl1 }.setting = words.setting := by
  simp (disch := decide) only [setting, Field.read_write_of_disjoint]

theorem fixedRatioRate_write_powerDown (reference : Nat) (ctl0 : Word) (value : Nat) :
    fixedRatioRate reference (FixedPllField.powerDown.write value ctl0) = fixedRatioRate reference ctl0 := by
  simp (disch := decide) only [fixedRatioRate, Field.isSet_eq_read, Field.read_write_of_disjoint]

end ControlWords

end ClockController
