import ClockController.Synthesis.Fractional

/-!
# ClockController.Synthesis.SpreadSpectrum

Solving for a rate with a modulated output.

A spread-spectrum solution is either one of two settings that are known to work, or it is derived: the
dividers are those of fractional mode, and the modulation rate and slope follow from the modulation frequency
and depth.

## Main definitions

`solveSpreadTable`: the two known settings.
`solveSpreadDerived`: the derived setting.
-/

namespace ClockController

namespace SpreadSpectrum

/-- The modulation frequency in Hz. -/
def defaultModulation : Nat := 50_000

/-- The modulation depth in units of 0.01 %. -/
def defaultSpread : Nat := 194

def maxRate : Nat := 0x7FF

def maxSlope : Nat := 0xFFFFFF

/-- The known setting for 266 MHz. -/
def slow : Solution where
  words := ⟨0x07782085, 0x60, 0x58CF9⟩
  rate := 266_000_000
  isFallback := false

/-- The known setting for 533 MHz. -/
def fast : Solution where
  words := ⟨0x12b81016, 0x35532610, 0x9208⟩
  rate := 533_000_000
  isFallback := false

def modulationRate (reference modulation : Nat) : Attempt Nat := do
  if modulation = 0 then
    throw .noModulation
  let period ← Checked.mul modulation 2
  let steps ← Checked.div (reference / 2) period
  if steps ≤ 1 then
    throw .modulationTooFast
  else if maxRate < steps - 1 then
    throw (.spreadRateTooWide (steps - 1))
  else
    return steps - 1

/-- The slope for a feedback divider in thousandths, a depth and a modulation rate. -/
def slope (milliFeedback spread rate : Nat) : Attempt Nat := do
  let deviation ← Checked.mul milliFeedback spread
  let step ← Checked.div deviation rate
  -- The shift drops what leaves 64 bits; it is no fault.
  let slope := (step <<< 24) % rateBound / 100 / 1000
  if maxSlope < slope then
    throw (.slopeTooWide slope)
  else
    return slope

end SpreadSpectrum

/-- The known setting for a target: 266 MHz up to that rate, 533 MHz above. -/
def solveSpreadTable (target : Nat) : Solution :=
  if target ≤ SpreadSpectrum.slow.rate then SpreadSpectrum.slow else SpreadSpectrum.fast

/-- The setting derived from the dividers of fractional mode, for a modulation frequency in Hz and a depth in
units of 0.01 %. -/
def solveSpreadDerived (reference target modulation spread : Nat) : Attempt Solution := do
  match ← FractionalSearch.search reference target with
  | some dividers =>
    let spreadRate ← SpreadSpectrum.modulationRate reference modulation
    let slope ← SpreadSpectrum.slope dividers.milliFeedback spread spreadRate
    let rate ← dividers.rate reference
    let setting : Setting := {
      input := dividers.input
      feedback := dividers.feedback
      output := dividers.output
      fraction := dividers.fraction
      spreadRate
      slope }
    return ⟨setting.words, rate, false⟩
  | none => return .fallback

end ClockController
