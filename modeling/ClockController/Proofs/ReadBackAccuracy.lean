import ClockController.Proofs.DecodedRate
import Mathlib.Algebra.Order.Field.Rat
import Mathlib.Tactic.FieldSimp
import Mathlib.Tactic.Linarith
import Mathlib.Tactic.NormNum
import Mathlib.Tactic.Positivity
import Mathlib.Tactic.Ring

/-!
# ClockController.Proofs.ReadBackAccuracy

How far the rate that is read back from control words can be from the output of the loop.

The loop itself divides without rounding. The rate is computed from a feedback divider in whole thousandths and rounded
down, so that it lies below the output by less than 1 Hz and what a thousandth gives. It lies above the output by no
more than what half a unit of the fraction gives, because the thousandths are rounded up by that much.

## Main definitions

`Setting.exactRate`: the output of a loop with a fractional feedback divider.

## Main results

`Setting.rate_mul_le`, `Setting.exact_mul_lt`: both sides of the error, cleared of denominators.
`ControlWords.rate_near_exact`: the rate of any control words against the output of the loop.
-/

namespace ClockController

namespace Setting

/-- The output of a loop with a fractional feedback divider, without any rounding. -/
def exactRate (reference : Nat) (setting : Setting) : ℚ :=
  reference / setting.input * (setting.feedback + setting.fraction / 2 ^ 24) / setting.output

variable {reference rate : Nat} {setting : Setting}

theorem exactRate_eq (reference : Nat) (setting : Setting) :
    setting.exactRate reference =
      reference * (setting.feedback * 2 ^ 24 + setting.fraction) / (setting.input * setting.output * 2 ^ 24) := by
  rw [exactRate]
  field_simp

/-! ### The error in whole numbers -/

theorem thousandths_mul_le (fraction : Nat) : (fraction * 1000 + 500) >>> 24 * 2 ^ 24 ≤ fraction * 1000 + 500 := by
  rw [Nat.shiftRight_eq_div_pow]
  exact Nat.div_mul_le_self _ _

theorem lt_thousandths_mul (fraction : Nat) :
    fraction * 1000 + 500 < ((fraction * 1000 + 500) >>> 24 + 1) * 2 ^ 24 := by
  rw [Nat.shiftRight_eq_div_pow, Nat.succ_mul]
  exact Nat.lt_div_mul_add (by decide)

/-- Half a unit of the fraction is added before the thousandths are cut off. -/
theorem rate_mul_le
    (rounds : rate * (setting.input * setting.output * 1000) ≤
      reference * (setting.feedback * 1000 + (setting.fraction * 1000 + 500) >>> 24)) :
    rate * (setting.input * setting.output) * 2 ^ 25 ≤
      reference * (setting.feedback * 2 ^ 25 + 2 * setting.fraction + 1) := by
  refine Nat.le_of_mul_le_mul_right (c := 500) ?_ (by decide)
  calc
    rate * (setting.input * setting.output) * 2 ^ 25 * 500 =
        rate * (setting.input * setting.output * 1000) * 2 ^ 24 := by ring
    _ ≤ reference * (setting.feedback * 1000 + (setting.fraction * 1000 + 500) >>> 24) * 2 ^ 24 :=
      Nat.mul_le_mul_right _ rounds
    _ = reference * (setting.feedback * 1000 * 2 ^ 24 + (setting.fraction * 1000 + 500) >>> 24 * 2 ^ 24) := by ring
    _ ≤ reference * (setting.feedback * 1000 * 2 ^ 24 + (setting.fraction * 1000 + 500)) :=
      Nat.mul_le_mul_left _ (Nat.add_le_add_left (thousandths_mul_le _) _)
    _ = reference * (setting.feedback * 2 ^ 25 + 2 * setting.fraction + 1) * 500 := by ring

/-- Cutting off the thousandths loses less than one of them, and rounding the rate less than 1 Hz. -/
theorem exact_mul_lt
    (rounds : reference * (setting.feedback * 1000 + (setting.fraction * 1000 + 500) >>> 24) <
      (rate + 1) * (setting.input * setting.output * 1000)) :
    reference * (setting.feedback * 2 ^ 24 + setting.fraction) * 1000 <
      (rate + 1) * (setting.input * setting.output * 1000) * 2 ^ 24 + reference * 2 ^ 24 := by
  have cut : setting.fraction * 1000 ≤ ((setting.fraction * 1000 + 500) >>> 24 + 1) * 2 ^ 24 :=
    Nat.le_trans (Nat.le_add_right _ _) (Nat.le_of_lt (lt_thousandths_mul _))
  calc
    reference * (setting.feedback * 2 ^ 24 + setting.fraction) * 1000 =
        reference * (setting.feedback * 1000 * 2 ^ 24 + setting.fraction * 1000) := by ring
    _ ≤ reference *
        (setting.feedback * 1000 * 2 ^ 24 + ((setting.fraction * 1000 + 500) >>> 24 + 1) * 2 ^ 24) :=
      Nat.mul_le_mul_left _ (Nat.add_le_add_left cut _)
    _ = reference * (setting.feedback * 1000 + (setting.fraction * 1000 + 500) >>> 24) * 2 ^ 24 +
        reference * 2 ^ 24 := by ring
    _ < (rate + 1) * (setting.input * setting.output * 1000) * 2 ^ 24 + reference * 2 ^ 24 :=
      Nat.add_lt_add_right (Nat.mul_lt_mul_of_pos_right rounds (by decide)) _

/-! ### The error as a rational number -/

/-- A rate lies near the output of a loop: above it by no more than half a unit of the fraction gives, and below it by
less than 1 Hz and what a thousandth of the feedback divider gives. -/
structure NearExact (reference : Nat) (setting : Setting) (rate : Nat) : Prop where
  lt : setting.exactRate reference - reference / (1000 * setting.input * setting.output) - 1 < rate
  le : (rate : ℚ) ≤ setting.exactRate reference + reference / (2 ^ 25 * setting.input * setting.output)

theorem nearExact_of_rounds (input : 0 < setting.input) (output : 0 < setting.output)
    (low : rate * (setting.input * setting.output * 1000) ≤
      reference * (setting.feedback * 1000 + (setting.fraction * 1000 + 500) >>> 24))
    (high : reference * (setting.feedback * 1000 + (setting.fraction * 1000 + 500) >>> 24) <
      (rate + 1) * (setting.input * setting.output * 1000)) : setting.NearExact reference rate := by
  have input : (0 : ℚ) < setting.input := Nat.cast_pos.mpr input
  have output : (0 : ℚ) < setting.output := Nat.cast_pos.mpr output
  have below : (rate : ℚ) * (setting.input * setting.output) * 2 ^ 25 ≤
      reference * (setting.feedback * 2 ^ 25 + 2 * setting.fraction + 1) := by
    exact_mod_cast rate_mul_le low
  have above : (reference : ℚ) * (setting.feedback * 2 ^ 24 + setting.fraction) * 1000 <
      (rate + 1) * (setting.input * setting.output * 1000) * 2 ^ 24 + reference * 2 ^ 24 := by
    exact_mod_cast exact_mul_lt high
  constructor
  · have sum : setting.exactRate reference - reference / (1000 * setting.input * setting.output) - 1 =
        (reference * (setting.feedback * 2 ^ 24 + setting.fraction) * 1000 - reference * 2 ^ 24 -
          setting.input * setting.output * 1000 * 2 ^ 24) / (setting.input * setting.output * 1000 * 2 ^ 24) := by
      rw [exactRate_eq]
      field_simp
    rw [sum, div_lt_iff₀ (by positivity)]
    linarith
  · have sum : setting.exactRate reference + reference / (2 ^ 25 * setting.input * setting.output) =
        reference * (setting.feedback * 2 ^ 25 + 2 * setting.fraction + 1) /
          (setting.input * setting.output * 2 ^ 25) := by
      rw [exactRate_eq]
      field_simp
    rw [sum, le_div_iff₀ (by positivity)]
    linarith

end Setting

namespace ControlWords

/-- The rate of a running loop rounds down what its feedback divider in thousandths gives. -/
theorem exists_rate_rounds {reference : Nat} (bound : reference * maxMilliFeedback < rateBound) {mode : Mode}
    (modes : mode = .fractional ∨ mode = .spreadSpectrum) {words : ControlWords} (input : 0 < words.setting.input)
    (output : 0 < words.setting.output) :
    ∃ rate, words.rate mode reference = .ok rate ∧
      rate * (words.setting.input * words.setting.output * 1000) ≤
        reference * (words.setting.feedback * 1000 + (words.setting.fraction * 1000 + 500) >>> 24) ∧
      reference * (words.setting.feedback * 1000 + (words.setting.fraction * 1000 + 500) >>> 24) <
        (rate + 1) * (words.setting.input * words.setting.output * 1000) := by
  have fits := words.setting_fits
  have product := Nat.lt_of_le_of_lt (Nat.mul_le_mul_left reference (milliFeedback_le fits)) bound
  have positive : 0 < words.setting.input * words.setting.output * 1000 :=
    Nat.mul_pos (Nat.mul_pos input output) (by decide)
  have divider : 1000 * (words.setting.output * words.setting.input) =
      words.setting.input * words.setting.output * 1000 := by ring
  refine ⟨_, by rw [rate_fractional modes input output, fractionalRate_eq fits product input output], ?_⟩
  rw [Nat.div_div_eq_div_mul, Nat.div_div_eq_div_mul, divider, Nat.succ_mul]
  exact ⟨Nat.div_mul_le_self _ _, Nat.lt_div_mul_add positive⟩

/-- In the fractional modes any words are read back near the output of the loop. A loop with a zero divider stands still
in every mode but that of a fixed ratio. -/
theorem rate_near_exact (reference : Nat) (words : ControlWords) :
    (reference * 2_047_999 < rateBound → ∀ mode, mode = .fractional ∨ mode = .spreadSpectrum →
      0 < words.setting.input → 0 < words.setting.output →
        ∃ rate, words.rate mode reference = .ok rate ∧ words.setting.NearExact reference rate) ∧
    ∀ mode, mode ≠ .fixedRatio → words.setting.input = 0 ∨ words.setting.output = 0 →
      words.rate mode reference = .ok 0 := by
  constructor
  · intro bound mode modes input output
    obtain ⟨rate, decodes, low, high⟩ := exists_rate_rounds bound modes input output
    exact ⟨rate, decodes, Setting.nearExact_of_rounds input output low high⟩
  · intro mode programmable stopped
    rw [rate_eq]
    cases mode with
    | fixedRatio => exact absurd rfl programmable
    | integer | fractional | spreadSpectrum => exact if_pos stopped

/-- A fraction just below one thousandth is cut off whole, which is worth nearly 24 kHz with a crystal of 24 MHz. -/
theorem rate_near_exact_cut :
    let words : ControlWords := ⟨0x41064, 0x418810, 0⟩
    24_000_000 * 2_047_999 < rateBound ∧ 0 < words.setting.input ∧ 0 < words.setting.output ∧
      words.rate .fractional 24_000_000 = .ok 2_400_000_000 ∧
      words.setting.NearExact 24_000_000 2_400_000_000 ∧
      2_400_000_000 + 23_998 < words.setting.exactRate 24_000_000 := by
  intro words
  have holds : words.setting = ⟨1, 100, 1, 16_776, 0, 0⟩ := by decide
  have bound : 24_000_000 * 2_047_999 < rateBound := by decide
  have input : 0 < words.setting.input := by decide
  have output : 0 < words.setting.output := by decide
  have decodes : words.rate .fractional 24_000_000 = .ok 2_400_000_000 := by
    rw [rate_fractional (.inl rfl) input output, holds]
    rfl
  obtain ⟨rate, same, near⟩ := (rate_near_exact 24_000_000 words).1 bound .fractional (.inl rfl) input output
  rw [decodes] at same
  cases same
  refine ⟨bound, input, output, decodes, near, ?_⟩
  rw [Setting.exactRate, holds]
  norm_num

end ControlWords

end ClockController
