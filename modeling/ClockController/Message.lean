import ClockController.Clock.Table
import ClockController.ErrorCode
import ClockController.Synthesis.Solution

/-!
# ClockController.Message

What the controller reports while it works, and how a report reads.

## Main definitions

`Message`: the reports.
`Message.level`, `Message.text`: their weight and their wording.
-/

namespace ClockController

/-- The weight of a report. -/
inductive Level where
  | warn
  | debug
  | trace
deriving DecidableEq, Repr

def Level.name : Level → String
  | .warn => "WARN"
  | .debug => "DEBUG"
  | .trace => "TRACE"

/-- A number in hexadecimal digits, filled with zeros from the left up to a least number of digits. -/
def hexadecimal (least number : Nat) : String :=
  "0x" ++ String.ofList ((Nat.toDigits 16 number).leftpad least '0')

inductive Switching where
  | enable
  | disable
deriving DecidableEq, Repr

def Switching.name : Switching → String
  | .enable => "enable"
  | .disable => "disable"

inductive Message where
  | droppedWrite (offset : Nat) (value : Word)
  -- A modulation rate is too wide for its field.
  | spreadRateTooWide (rate : Nat)
  -- A modulation slope is too wide for its field.
  | slopeTooWide (slope : Nat)
  | unknownClock (id : ClockId)
  -- A loop was found running in a mode.
  | found (pll : Pll) (mode : Mode) (rate : Nat)
  | busClocks (rates : BusRates)
  -- The default stands in for a target out of reach.
  | outOfRange (pll : Pll) (rate : Nat)
  | programmed (pll : Pll) (words : ControlWords) (rate : Nat)
  -- No setting of a loop reaches the target.
  | unreachable (id : ClockId) (target : Nat)
  -- No parent of a selector runs at the target.
  | noParent (id : ClockId) (target : Nat)
  | selected (id : ClockId) (parent : Nat) (rate : Nat)
  -- A loop that is always on was asked to stop.
  | alwaysOn (pll : Pll)
  | rateRead (id : ClockId) (rate : Nat)
  -- A clock could not be switched for a peripheral.
  | switchingFailed (switching : Switching) (id : ClockId) (error : ErrorCode)
deriving DecidableEq, Repr

namespace Message

/-- The weight of a report. -/
def level : Message → Level
  | .found .. | .busClocks .. | .programmed .. | .selected .. => .debug
  | .rateRead .. => .trace
  | _ => .warn

def hertz (rate : Nat) : String :=
  toString rate ++ " Hz"

def text : Message → String
  | .droppedWrite offset value =>
    "clk: dropped write of " ++ hexadecimal 1 value.toNat ++ " to offset " ++ hexadecimal 1 offset
  | .spreadRateTooWide rate => "pll: spread rate " ++ toString rate ++ " does not fit SSRATE"
  | .slopeTooWide slope => "pll: spread slope " ++ hexadecimal 1 slope ++ " does not fit SLOPE"
  | .unknownClock id => "clk: no clock with id " ++ toString id
  | .found pll mode rate => "clk: " ++ pll.id.label ++ " " ++ hertz rate ++ " (" ++ mode.name ++ ")"
  | .busClocks rates =>
    "clk: ca35 " ++ hertz rates.ca35 ++ ", sysclk0 " ++ hertz rates.sysclk0 ++ ", sysclk1 " ++
      hertz rates.sysclk1
  | .outOfRange pll rate =>
    "clk: " ++ pll.id.label ++ " target out of range, using " ++ hertz rate ++ " default"
  | .programmed pll words rate =>
    "clk: " ++ pll.id.label ++ " ctl0=" ++ hexadecimal 8 words.ctl0.toNat ++ " ctl1=" ++
      hexadecimal 8 words.ctl1.toNat ++ " ctl2=" ++ hexadecimal 8 words.ctl2.toNat ++ " -> " ++ hertz rate
  | .unreachable id target => "clk: " ++ id.label ++ " cannot be set to " ++ hertz target
  | .noParent id target => "clk: " ++ id.label ++ " has no parent at " ++ hertz target
  | .selected id parent rate =>
    "clk: " ++ id.label ++ " selects parent " ++ toString parent ++ " -> " ++ hertz rate
  | .alwaysOn pll => "clk: " ++ pll.id.label ++ " is always on"
  | .rateRead id rate => "clk: " ++ id.label ++ " = " ++ hertz rate
  | .switchingFailed switching id error =>
    "clk: " ++ switching.name ++ " " ++ id.label ++ " failed: " ++ error.name

end Message

/-- The report that goes with a reason for no solution: a field that is too narrow is worth one. -/
def Unreachable.message? : Unreachable → Option Message
  | .spreadRateTooWide rate => some (.spreadRateTooWide rate)
  | .slopeTooWide slope => some (.slopeTooWide slope)
  | _ => none

end ClockController
