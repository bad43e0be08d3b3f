import ClockController.Access
import ClockController.Control.Peripheral

/-!
# ClockController.Request

The controller at work: requests, their answers, and sessions of requests one after the other.

## Main definitions

`Request`, `Answer`: what can be asked of the controller, and what it answers.
`Board.perform`: a request as an operation.
`Board.start`: the controller after its first look at a register block.
`Board.session`: requests one after the other, up to the first fault.
-/

namespace ClockController

inductive Request where
  | getRate (id : ClockId)
  | setRate (id : ClockId) (target : Nat)
  | roundRate (id : ClockId) (target : Nat)
  | enable (id : ClockId)
  | disable (id : ClockId)
  | isEnabled (id : ClockId)
  | pllMode (id : ClockId)
  | resolveRoot (root : Root)
  -- The rates of all roots.
  | allRoots
  -- The rates of all clocks.
  | allRates
  -- The ids of the clocks that are switched on.
  | enabledClocks
  | oscillators
  | peripheralId (clock : PeripheralClock)
  | peripheralRate (clock : PeripheralClock)
  | peripheralSetRate (clock : PeripheralClock) (target : Nat)
  | peripheralEnable (clock : PeripheralClock)
  | peripheralDisable (clock : PeripheralClock)
  | peripheralIsEnabled (clock : PeripheralClock)
  -- An access to the registers that the controller does not see.
  | foreign (access : Access)
deriving DecidableEq, Repr

inductive Answer where
  | done
  | rate (rate : Nat)
  | mode (mode : Mode)
  | flag (flag : Bool)
  | rates (rates : List Nat)
  | clock (id : ClockId)
  | clocks (ids : List ClockId)
  | oscillators (oscillators : Oscillators)
  | word (word : Word)
deriving DecidableEq, Repr

/-- Performs an access that the controller does not see: its cache and the journal of its writes stay as they
are. -/
def performForeign (access : Access) : Action Answer := do
  let block := (← get).registers
  if let some message := access.message? block then
    Action.report message
  modify fun state => { state with registers := access.apply block }
  match access.answer? block with
  | some word => return .word word
  | none => return .done

namespace Board

def perform (board : Board) : Request → Action Answer
  | .getRate id => return .rate (← board.getRate id)
  | .setRate id target => return .rate (← board.setRate id target)
  | .roundRate id target => return .rate (← board.roundRate id target)
  | .enable id => do
    id.enable
    return .done
  | .disable id => do
    id.disable
    return .done
  | .isEnabled id => return .flag (← id.isEnabled)
  | .pllMode id => return .mode (← board.pllMode id)
  | .resolveRoot root => return .rate (← board.resolveRoot root)
  | .allRoots => return .rates (← Root.all.mapM board.resolveRoot)
  | .allRates => return .rates (← (List.range ClockId.count).mapM board.getRate)
  | .enabledClocks => return .clocks (← (List.range ClockId.count).filterM ClockId.isEnabled)
  | .oscillators => return .oscillators board.oscillators
  | .peripheralId clock => return .clock clock.id
  | .peripheralRate clock => return .rate (← clock.rate board)
  | .peripheralSetRate clock target => return .rate (← clock.setRate board target)
  | .peripheralEnable clock => do
    clock.enable
    return .done
  | .peripheralDisable clock => do
    clock.disable
    return .done
  | .peripheralIsEnabled clock => return .flag (← clock.isEnabled)
  | .foreign access => performForeign access

end Board

/-! ### Sessions -/

/-- How an operation ended, and the state then. Its journal holds this operation alone. -/
structure Outcome (α : Type) where
  result : Except Failure α
  state : State

/-- Whether an operation ended in a fault, after which nothing more can be asked. -/
def Outcome.isFault {α : Type} (outcome : Outcome α) : Bool :=
  match outcome.result with
  | .error (.fault _) => true
  | _ => false

/-- Runs an operation on a state with an empty journal. -/
def Action.outcome {α : Type} (action : Action α) (state : State) : Outcome α :=
  let (result, state) := action.runOn { state with journal := {} }
  ⟨result, state⟩

namespace Board

def start (board : Board) (registers : RegisterBlock) : Outcome Unit :=
  board.probe.outcome { registers }

/-- The outcomes of requests one after the other, up to and with the first fault. -/
def session (board : Board) : List Request → State → List (Outcome Answer)
  | [], _ => []
  | request :: rest, state =>
    let outcome := (board.perform request).outcome state
    if outcome.isFault then [outcome] else outcome :: session board rest outcome.state

end Board

end ClockController
