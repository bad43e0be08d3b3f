import ClockController.Action

/-!
# ClockController.Control.Gating

Switching clocks on and off.

A loop is switched by its power-down bit, every other clock by the enable bit of its gate. A gate without an
enable bit is always open.

## Main definitions

`ClockId.enable`, `ClockId.disable`, `ClockId.isEnabled`: the operations on a clock.
-/

namespace ClockController

/-! ### Loops -/

namespace Pll

def powerRegister (pll : Pll) : Register :=
  if pll.isFixedRatio then .pll pll .ctl0 else .pll pll .ctl1

def powerField (pll : Pll) : Field :=
  if pll.isFixedRatio then FixedPllField.powerDown else PllField.powerDown

def setPower (pll : Pll) (isOn : Bool) : Action Unit := do
  let word ← Action.read pll.powerRegister
  Action.write pll.powerRegister (pll.powerField.write (if isOn then 0 else 1) word)

def isPowered (pll : Pll) : Action Bool := do
  let word ← Action.read pll.powerRegister
  return !pll.powerField.isSet word

end Pll

/-! ### Clocks -/

namespace ClockId

/-- Routes an SD host to the system loop when its gate is enabled; does nothing for other clocks. -/
def routeSdHost (id : ClockId) : Action Unit := do
  if let some field := sdhSelector? id then
    let word ← Action.read .clksel0
    Action.write .clksel0 (field.write SelectField.sdhFromSysPll word)

def enable (id : ClockId) : Action Unit := do
  match ← Action.node id with
  | .pll pll => pll.setPower true
  | node =>
    if let some switch := node.switch? then
      Action.modifyBits switch.register 0 switch.mask
    routeSdHost id

def disable (id : ClockId) : Action Unit := do
  match ← Action.node id with
  | .pll pll =>
    -- Not an error: the request is reported and the loop left running.
    if pll.isAlwaysOn then
      Action.report (.alwaysOn pll)
    else
      pll.setPower false
  | node =>
    match node.switch? with
    | some switch => Action.modifyBits switch.register switch.mask 0
    | none => Action.refuse .noSupport

def isEnabled (id : ClockId) : Action Bool := do
  match ← Action.node id with
  | .pll pll => pll.isPowered
  | node =>
    match node.switch? with
    | some switch => return (← Action.read switch.register) &&& switch.mask != 0
    | none => return true

end ClockId

end ClockController
