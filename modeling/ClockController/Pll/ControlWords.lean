import ClockController.Pll.Mode

/-!
# ClockController.Pll.ControlWords

The control words of a loop, the divider settings that they hold, and the output rate that they give.

A programmable loop with reference `Fref` produces

    Fref / M * (N + FRAC / 2 ^ 24) / P

where `M` is the input divider, `N` the feedback divider and `P` the output divider. A fixed-ratio loop
produces `Fref * N / (M * 2 ^ OUTDIV)`, or `Fref` itself in bypass.

## Main definitions

`Setting.words`, `ControlWords.setting`: divider settings to words and back.
`ControlWords.merge`: solved words put into programmed ones.
`ControlWords.rate`: the output rate of a loop.
-/

namespace ClockController

structure ControlWords where
  ctl0 : Word
  ctl1 : Word
  ctl2 : Word
deriving DecidableEq, Repr

/-- What the control words of a programmable loop say about its output, the mode apart. -/
structure Setting where
  input : Nat
  feedback : Nat
  output : Nat
  -- In units of `2 ^ -24`.
  fraction : Nat := 0
  spreadRate : Nat := 0
  slope : Nat := 0
deriving DecidableEq, Repr

/-- The words that hold a setting and nothing else. -/
def Setting.words (setting : Setting) : ControlWords where
  ctl0 :=
    PllField.spreadRate.encode setting.spreadRate ||| PllField.input.encode setting.input |||
      PllField.feedback.encode setting.feedback
  ctl1 := PllField.output.encode setting.output ||| PllField.fraction.encode setting.fraction
  ctl2 := PllField.slope.encode setting.slope

namespace ControlWords

def setting (words : ControlWords) : Setting where
  input := PllField.input.read words.ctl0
  feedback := PllField.feedback.read words.ctl0
  output := PllField.output.read words.ctl1
  fraction := PllField.fraction.read words.ctl1
  spreadRate := PllField.spreadRate.read words.ctl0
  slope := PllField.slope.read words.ctl2

/-- Whether nothing was ever programmed: all words are zero. -/
def isUnprogrammed (words : ControlWords) : Bool :=
  words.ctl0 == 0 && words.ctl1 == 0 && words.ctl2 == 0

/-! ### Programming a solution -/

/-- The words to program for solved ones in a mode. What does not belong to the mode stays as it is. -/
def merge (mode : Mode) (current solved : ControlWords) : ControlWords :=
  -- The mode and the dividers are replaced in every mode.
  let ctl0 := PllField.feedback.clear (PllField.input.clear (PllField.mode.write mode.bits current.ctl0))
  let ctl1 := PllField.output.clear current.ctl1
  match mode with
  | .integer | .fixedRatio => ⟨ctl0 ||| solved.ctl0, ctl1 ||| solved.ctl1, current.ctl2⟩
  | .fractional =>
    ⟨ctl0 ||| solved.ctl0, PllField.fraction.clear ctl1 ||| solved.ctl1, current.ctl2⟩
  -- The slope has the third word to itself.
  | .spreadSpectrum =>
    ⟨PllField.spreadRate.clear ctl0 ||| solved.ctl0, PllField.fraction.clear ctl1 ||| solved.ctl1,
      solved.ctl2⟩

/-! ### Reading a rate back -/

/-- The output of a fixed-ratio loop. A zero input divider gives zero. -/
def fixedRatioRate (reference : Nat) (ctl0 : Word) : Checked Nat :=
  if FixedPllField.bypass.isSet ctl0 then
    .ok reference
  else
    let input := FixedPllField.input.read ctl0
    if input = 0 then
      .ok 0
    else do
      let product ← Checked.mul reference (FixedPllField.feedback.read ctl0)
      Checked.div product (input <<< FixedPllField.output.read ctl0)

def integerRate (reference : Nat) (setting : Setting) : Checked Nat := do
  let product ← Checked.mul reference setting.feedback
  let divider ← Checked.mul setting.output setting.input
  Checked.div product divider

/-- The fractional part of the feedback divider in thousandths, rounded. -/
def thousandths (fraction : Nat) : Checked Nat := do
  let scaled ← Checked.mul fraction 1000
  return (scaled + 500) >>> 24

/-- The output for a feedback divider with a fractional part, which counts in thousandths. -/
def fractionalRate (reference : Nat) (setting : Setting) : Checked Nat := do
  let fraction ← thousandths setting.fraction
  let whole ← Checked.mul setting.feedback 1000
  let product ← Checked.mul reference (whole + fraction)
  -- The thousandths go first, so that the rate is rounded down three times over.
  let undivided ← Checked.div (product / 1000) setting.output
  Checked.div undivided setting.input

/-- The output of a loop in a mode. Words that were never programmed and zero dividers give zero. -/
def rate (mode : Mode) (reference : Nat) (words : ControlWords) : Checked Nat :=
  if words.isUnprogrammed then
    .ok 0
  else
    let setting := words.setting
    let isStopped := setting.input = 0 ∨ setting.output = 0
    match mode with
    | .fixedRatio => fixedRatioRate reference words.ctl0
    | .integer => if isStopped then .ok 0 else integerRate reference setting
    | .fractional | .spreadSpectrum => if isStopped then .ok 0 else fractionalRate reference setting

end ControlWords

end ClockController
