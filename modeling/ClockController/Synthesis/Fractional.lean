import ClockController.Synthesis.Solution

/-!
# ClockController.Synthesis.Fractional

Solving for a rate with a fractional feedback divider.

The output and the input divider are the smallest usable ones. The feedback divider then follows in
thousandths, and its fractional part is rounded to units of `2 ^ -24`. A target below the output band is
first lifted into it by the smallest multiplier that does.

## Main definitions

`FractionalSearch.search`: the dividers for a target.
`solveFractional`: the solution that they make.
-/

namespace ClockController

namespace FractionalSearch

structure Dividers where
  input : Nat
  output : Nat
  milliFeedback : Nat
deriving DecidableEq, Repr

namespace Dividers

def feedback (dividers : Dividers) : Nat :=
  dividers.milliFeedback / 1000

/-- The fractional part of the feedback divider, rounded to units of `2 ^ -24`. -/
def fraction (dividers : Dividers) : Nat :=
  ((dividers.milliFeedback % 1000) <<< 24 + 500) / 1000

def rate (dividers : Dividers) (reference : Nat) : Checked Nat := do
  let product ← Checked.mul reference dividers.milliFeedback
  let undivided ← Checked.div product dividers.output
  let milliRate ← Checked.div undivided dividers.input
  return milliRate / 1000

end Dividers

/-- The multipliers that may lift a low target. -/
def multipliers : List Nat := List.range' 2 98

def outputDividers : List Nat := List.range' 1 7

def inputDividers : List Nat := List.range' 1 63

/-- A target below the output band, lifted above the lower end of the band. -/
def lift (target : Nat) : Attempt Nat := do
  let found ← multipliers.findM? (m := Checked) fun multiplier => do
    let lifted ← Checked.mul multiplier target
    return Band.output.low < lifted
  match found with
  | some multiplier => Checked.mul multiplier target
  | none => throw .targetTooLow

/-- The smallest output divider that brings the oscillator into its band. -/
def outputDivider (output : Nat) : Attempt Nat := do
  let found ← outputDividers.findM? (m := Checked) fun divider => do
    let oscillator ← Checked.mul divider output
    return decide (oscillator ∈ Band.oscillator)
  match found with
  | some divider => return divider
  | none => throw .noOutputDivider

/-- The smallest input divider that brings the phase detector into its band. -/
def inputDivider (reference : Nat) : Attempt Nat := do
  let found ← inputDividers.findM? (m := Checked) fun divider => do
    let detector ← Checked.div reference divider
    return decide (detector ∈ Band.fastPhaseDetector)
  match found with
  | some divider => return divider
  | none => throw .noInputDivider

def dividersFor (reference output : Nat) : Attempt Dividers := do
  let outputDivider ← outputDivider output
  let inputDivider ← inputDivider reference
  let oscillator ← Checked.mul output outputDivider
  let scaled ← Checked.mul oscillator inputDivider
  let milliScaled ← Checked.mul scaled 1000
  let milliFeedback ← Checked.div milliScaled reference
  return ⟨inputDivider, outputDivider, milliFeedback⟩

/-- The dividers for a target; none where the target is at the upper end of the output band or above it. -/
def search (reference target : Nat) : Attempt (Option Dividers) := do
  if reference ∈ Band.reference then
    if target < Band.output.low then
      -- The lifted target stands for the one that was asked for.
      return some (← dividersFor reference (← lift target))
    else if target < Band.output.high then
      return some (← dividersFor reference target)
    else
      return none
  else
    throw .referenceOutOfBand

end FractionalSearch

open FractionalSearch in
/-- The solution with a fractional feedback divider. Its rate is that of the lifted target. A target too high
for the output band is answered with the fallback. -/
def solveFractional (reference target : Nat) : Attempt Solution := do
  match ← search reference target with
  | some dividers =>
    let rate ← dividers.rate reference
    let setting : Setting := {
      input := dividers.input
      feedback := dividers.feedback
      output := dividers.output
      fraction := dividers.fraction }
    return ⟨setting.words, rate, false⟩
  | none => return .fallback

end ClockController
