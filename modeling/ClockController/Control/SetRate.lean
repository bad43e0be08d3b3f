import ClockController.Control.Probe
import ClockController.Plan

/-!
# ClockController.Control.SetRate

Moving a clock to a rate, and asking where it would move.

A request fails only for an unknown id. A loop that cannot reach the target answers zero and stays as it is; a
selector without a parent at the target answers the rate of its gate's root and stays as it is.

## Main definitions

`Board.roundRate`: the rate that a request would answer.
`Board.setRate`: the request itself.
-/

namespace ClockController

namespace Board

/-- The plan for a clock, with the report that goes with it. -/
def plan (board : Board) (id : ClockId) (target : Nat) : Action Plan := do
  let node ← Action.node id
  let state ← get
  let plan ← Plan.ofNode board state.cache state.registers node target
  if let .unreachable reason := plan then
    if let some message := reason.message? then
      Action.report message
  return plan

def roundRate (board : Board) (id : ClockId) (target : Nat) : Action Nat := do
  return (← board.plan id target).rate

/-- Programs a loop with a solution for its mode, and derives what depends on it. -/
def program (board : Board) (pll : Pll) (mode : Mode) (solution : Solution) : Action Unit := do
  if solution.isFallback then
    Action.report (.outOfRange pll solution.rate)
  let words := ControlWords.merge mode ((← get).registers.controlWords pll) solution.words
  Action.write (.pll pll .ctl0) words.ctl0
  Action.write (.pll pll .ctl1) words.ctl1
  if mode = .spreadSpectrum then
    Action.write (.pll pll .ctl2) words.ctl2
  Action.report (.programmed pll words solution.rate)
  -- The bus clocks may follow the loop, so that it has to be read back before them.
  let _ ← board.readBack pll
  board.refreshBus

/-- Selects a parent of a clock, and derives what depends on it. -/
def select (board : Board) (id : ClockId) (mux : Mux) (parent rate : Nat) : Action Unit := do
  let mask ← mux.field.checkedMask
  let value ← mux.field.checkedPlace parent
  Action.modifyBits mux.register mask value
  Action.report (.selected id parent rate)
  if id.isBusMux then
    board.refreshBus

/-- Carries out a plan. The rate answered is the one that was planned, not one that was read back. -/
def carryOut (board : Board) (id : ClockId) (target : Nat) : Plan → Action Nat
  | .unchanged rate => return rate
  | .unreachable _ => do
    Action.report (.unreachable id target)
    return 0
  | .noParent rate => do
    Action.report (.noParent id target)
    return rate
  | .program pll mode solution => do
    board.program pll mode solution
    return solution.rate
  | .select mux parent rate => do
    board.select id mux parent rate
    return rate

/-- Moves a clock as close to a target as the hardware allows. -/
def setRate (board : Board) (id : ClockId) (target : Nat) : Action Nat := do
  board.carryOut id target (← board.plan id target)

end Board

end ClockController
