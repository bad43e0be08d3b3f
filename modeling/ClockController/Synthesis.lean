import ClockController.Synthesis.Integer
import ClockController.Synthesis.SpreadSpectrum

/-!
# ClockController.Synthesis

Solving for a rate in the mode of a loop.

## Main definitions

`solveSpreadSpectrum`: spread-spectrum mode with the settings of the board.
`solve`: the solution in a mode.
-/

namespace ClockController

/-- The solution in spread-spectrum mode: derived where `derivesSpread` is set, and else one of the known
settings. -/
def solveSpreadSpectrum (derivesSpread : Bool) (reference target : Nat) : Attempt Solution :=
  if derivesSpread then
    solveSpreadDerived reference target SpreadSpectrum.defaultModulation SpreadSpectrum.defaultSpread
  else
    return solveSpreadTable target

/-- The solution in a mode. A fixed-ratio loop is never solved for. -/
def solve (derivesSpread : Bool) (mode : Mode) (reference target : Nat) : Attempt Solution :=
  match mode with
  | .integer => ExceptT.lift (solveInteger reference target)
  | .fractional => solveFractional reference target
  | .spreadSpectrum => solveSpreadSpectrum derivesSpread reference target
  | .fixedRatio => throw .fixedRatio

end ClockController
