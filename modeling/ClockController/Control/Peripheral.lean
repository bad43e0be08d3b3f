import ClockController.Control.Gating
import ClockController.Control.SetRate

/-!
# ClockController.Control.Peripheral

The handle through which a peripheral uses the one clock that it needs.

Switching never fails through the handle: a refusal becomes a report, and a clock that is not known counts as
switched off.

## Main definitions

`PeripheralClock`: the handle and its operations.
-/

namespace ClockController

structure PeripheralClock where
  id : ClockId
deriving DecidableEq, Repr

namespace PeripheralClock

def rate (board : Board) (clock : PeripheralClock) : Action Nat :=
  board.getRate clock.id

def setRate (board : Board) (clock : PeripheralClock) (target : Nat) : Action Nat :=
  board.setRate clock.id target

/-- Runs an operation; in place of a refusal it goes on with what the code asks for. -/
def onRefusal {α : Type} (action : Action α) (recover : ErrorCode → Action α) : Action α :=
  tryCatch action fun failure =>
    match failure with
    | .refused error => recover error
    | .fault fault => throw (.fault fault)

def enable (clock : PeripheralClock) : Action Unit :=
  onRefusal clock.id.enable fun error =>
    Action.report (.switchingFailed .enable clock.id error)

def disable (clock : PeripheralClock) : Action Unit :=
  onRefusal clock.id.disable fun error =>
    Action.report (.switchingFailed .disable clock.id error)

def isEnabled (clock : PeripheralClock) : Action Bool :=
  onRefusal clock.id.isEnabled fun _ => pure false

end PeripheralClock

end ClockController
