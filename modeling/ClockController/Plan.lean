import ClockController.Rate
import ClockController.Synthesis

/-!
# ClockController.Plan

What a rate request would do to the hardware, found out without doing it.

## Main definitions

`Plan`: what there is to do.
`Plan.rate`: the rate that it answers.
`Plan.ofNode`: the plan for a clock.
-/

namespace ClockController

inductive Plan where
  -- Nothing: the clock runs at this rate.
  | unchanged (rate : Nat)
  -- Nothing: no setting of the loop reaches the target.
  | unreachable (reason : Unreachable)
  -- Nothing: no parent runs at the target. The rate is that of the root of the gate.
  | noParent (rate : Nat)
  | program (pll : Pll) (mode : Mode) (solution : Solution)
  | select (mux : Mux) (parent : Nat) (rate : Nat)
deriving DecidableEq, Repr

namespace Plan

def rate : Plan → Nat
  | .unchanged rate => rate
  -- Zero stands for no rate at all.
  | .unreachable _ => 0
  | .noParent rate => rate
  | .program _ _ solution => solution.rate
  | .select _ _ rate => rate

/-- The plan for a loop: a solution for its cached mode. -/
def ofPll (board : Board) (cache : Cache) (pll : Pll) (target : Nat) : Checked Plan :=
  let reading := cache.plls.get pll
  if pll.isFixedRatio then
    .ok (.unchanged reading.rate)
  else do
    let solved ← (solve board.options.derivesSpread reading.mode board.oscillators.hxt target).run
    match solved with
    | .ok solution => return .program pll reading.mode solution
    | .error reason => return .unreachable reason

/-- The first parent that runs at the target exactly. Reserved values are not picked. -/
def parent? (oscillators : Oscillators) (cache : Cache) (mux : Mux) (target : Nat) : Option Nat :=
  mux.parents.findIdx? fun root => root != .unspecified && cache.rootRate oscillators root == target

/-- The plan for a selector, which a divider may follow. -/
def ofMux (oscillators : Oscillators) (cache : Cache) (registers : RegisterBlock) (gate : Gate) (mux : Mux)
    (divider? : Option Divider) (target : Nat) : Checked Plan :=
  match parent? oscillators cache mux target with
  | some parent =>
    match divider? with
    | some divider => do
      let ratio ← registers.dividerRatio divider
      let rate ← Checked.div target ratio
      return .select mux parent rate
    | none => .ok (.select mux parent target)
  | none => .ok (.noParent (cache.rootRate oscillators gate.root))

def ofNode (board : Board) (cache : Cache) (registers : RegisterBlock) (node : Node) (target : Nat) :
    Checked Plan :=
  match node with
  | .pll pll => ofPll board cache pll target
  | .gate gate => .ok (.unchanged (cache.rootRate board.oscillators gate.root))
  | .mux gate mux => ofMux board.oscillators cache registers gate mux none target
  | .divider gate (some mux) divider =>
    ofMux board.oscillators cache registers gate mux (some divider) target
  | .divider gate none divider => do
    let ratio ← registers.dividerRatio divider
    let rate ← Checked.div (cache.rootRate board.oscillators gate.root) ratio
    return .unchanged rate

end Plan

end ClockController
