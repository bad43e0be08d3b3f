import ClockController.Synthesis.Solution

/-!
# ClockController.Synthesis.Integer

Solving for a rate with whole dividers.

The search visits the input dividers, for each of them the feedback dividers, and for each pair the output
dividers, all in ascending order. It keeps the first candidate that is closest to the target and stops at an
exact one. For a pair of input and feedback divider the output only falls as its divider grows, so the pair
is left as soon as a candidate that is no improvement lies below the target.

## Main definitions

`IntegerSearch.search`: the dividers closest to a target.
`solveInteger`: the solution that they make.
-/

namespace ClockController

namespace IntegerSearch

structure Dividers where
  input : Nat
  feedback : Nat
  output : Nat
deriving DecidableEq, Repr

/-- A choice of dividers and the distance of its output from the target. -/
structure Candidate where
  dividers : Dividers
  distance : Nat
deriving DecidableEq, Repr

def inputDividers : List Nat := List.range' 1 63

def feedbackDividers : List Nat := List.range' 16 2032

def outputDividers : List Nat := List.range' 1 7

def distance (x y : Nat) : Nat :=
  (x - y) + (y - x)

/-- Whether the best candidate so far meets the target. -/
def isExact : Option Candidate → Bool
  | some candidate => candidate.distance == 0
  | none => false

/-- Whether a distance is below that of the best candidate so far. -/
def improves (distance : Nat) : Option Candidate → Bool
  | some candidate => distance < candidate.distance
  | none => true

/-- The best candidate after visiting values in order; an exact candidate ends the visit. -/
def sweep (visit : Nat → Option Candidate → Checked (Option Candidate)) :
    List Nat → Option Candidate → Checked (Option Candidate)
  | [], best => .ok best
  | value :: rest, best =>
    if isExact best then .ok best else do sweep visit rest (← visit value best)

/-- The best candidate after visiting output dividers in order, for an input divider, a feedback divider and
the oscillator rate that they give. -/
def visitOutputs (target input feedback oscillator : Nat) :
    List Nat → Option Candidate → Checked (Option Candidate)
  | [], best => .ok best
  | output :: rest, best => do
    let rate ← Checked.div oscillator output
    if rate ∈ Band.output then
      if improves (distance rate target) best then
        let best := some ⟨⟨input, feedback, output⟩, distance rate target⟩
        if isExact best then
          return best
        else
          visitOutputs target input feedback oscillator rest best
      -- Larger dividers would only lead further below the target.
      else if rate < target then
        return best
      else
        visitOutputs target input feedback oscillator rest best
    else
      visitOutputs target input feedback oscillator rest best

/-- The best candidate after visiting a feedback divider, for an input divider and the phase detector input
that it gives. -/
def visitFeedback (target input detector feedback : Nat) (best : Option Candidate) :
    Checked (Option Candidate) := do
  let oscillator ← Checked.mul detector feedback
  if oscillator ∈ Band.oscillator then
    visitOutputs target input feedback oscillator outputDividers best
  else
    return best

def visitInput (reference target input : Nat) (best : Option Candidate) :
    Checked (Option Candidate) := do
  let detector ← Checked.div reference input
  if detector ∈ Band.phaseDetector then
    sweep (visitFeedback target input detector) feedbackDividers best
  else
    return best

/-- The first candidate that is closest to the target; none where the reference is too slow or too fast for
every input divider. -/
def search (reference target : Nat) : Checked (Option Candidate) :=
  sweep (visitInput reference target) inputDividers none

end IntegerSearch

open IntegerSearch in
/-- The solution with whole dividers. A target outside the output band and a reference without candidates are
answered with the fallback. -/
def solveInteger (reference target : Nat) : Checked Solution := do
  if target ∈ Band.output then
    match ← search reference target with
    | some ⟨⟨input, feedback, output⟩, _⟩ =>
      let product ← Checked.mul reference feedback
      let divider ← Checked.mul output input
      let rate ← Checked.div product divider
      return ⟨({ input, feedback, output } : Setting).words, rate, false⟩
    | none => return .fallback
  else
    return .fallback

end ClockController
