import ClockController.Action
import ClockController.Rate

/-!
# ClockController.Control.Probe

Reading the hardware: finding out what runs when the controller starts, and the rates of clocks later.

## Main definitions

`Board.probe`: the first look at every loop and bus selector.
`Board.getRate`: the rate of a clock.
`Board.pllMode`: the cached mode of a loop.
`Board.resolveRoot`: the rate of a root.
-/

namespace ClockController

namespace Board

/-- Reads a loop back: its mode and rate go into the cache. Answers the rate. -/
def readBack (board : Board) (pll : Pll) : Action Nat := do
  let reading ← (← get).registers.reading board.oscillators.hxt pll
  modify fun state =>
    { state with cache := { state.cache with plls := state.cache.plls.set pll reading } }
  return reading.rate

def refreshBus (board : Board) : Action Unit := do
  let state ← get
  let rates ← state.cache.busRates board.oscillators state.registers
  modify fun state => { state with cache := { state.cache with bus := rates } }
  Action.report (.busClocks rates)

/-- Reads every loop and bus selector. Nothing is written: the controller starts from what was programmed
before. -/
def probe (board : Board) : Action Unit := do
  Pll.all.forM fun pll => do
    let rate ← board.readBack pll
    Action.report (.found pll ((← get).cache.plls.get pll).mode rate)
  board.refreshBus

/-- The cached mode of a loop. A clock that is no loop has none. -/
def pllMode (_ : Board) (id : ClockId) : Action Mode := do
  match ← Action.node id with
  | .pll pll => return ((← get).cache.plls.get pll).mode
  | _ => Action.refuse .invalid

def resolveRoot (board : Board) (root : Root) : Action Nat := do
  return (← get).cache.rootRate board.oscillators root

def nodeRate (board : Board) (node : Node) : Action Nat := do
  let state ← get
  match node with
  -- Asking for a loop refreshes its cached rate.
  | .pll pll => board.readBack pll
  | .gate gate => return state.cache.rootRate board.oscillators gate.root
  | .mux _ mux => state.cache.muxRate board.oscillators state.registers mux
  | .divider gate mux? divider =>
    let undivided ← match mux? with
      | some mux => state.cache.muxRate board.oscillators state.registers mux
      | none => pure (state.cache.rootRate board.oscillators gate.root)
    let ratio ← state.registers.dividerRatio divider
    Checked.div undivided ratio

def getRate (board : Board) (id : ClockId) : Action Nat := do
  let rate ← board.nodeRate (← Action.node id)
  if board.options.tracesRates then
    Action.report (.rateRead id rate)
  return rate

end Board

end ClockController
