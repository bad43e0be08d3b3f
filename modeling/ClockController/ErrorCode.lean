/-!
# ClockController.ErrorCode

The codes with which an operation on a clock is refused.

## Main definitions

`ErrorCode.code`: the number of a code.
`ErrorCode.name`: its name.
-/

namespace ClockController

inductive ErrorCode where
  | fail
  | busy
  -- The requested state is already set.
  | already
  -- The component is powered down.
  | off
  -- A reservation is required.
  | reserve
  | invalid
  -- A parameter is too large.
  | size
  | cancel
  | noMemory
  | noSupport
  | noDevice
  | uninstalled
  -- A transmission was not acknowledged.
  | noAck
deriving DecidableEq, Repr

namespace ErrorCode

def all : List ErrorCode :=
  [.fail, .busy, .already, .off, .reserve, .invalid, .size, .cancel, .noMemory, .noSupport, .noDevice,
    .uninstalled, .noAck]

def code : ErrorCode → Nat
  | .fail => 0
  | .busy => 1
  | .already => 2
  | .off => 3
  | .reserve => 4
  | .invalid => 5
  | .size => 6
  | .cancel => 7
  | .noMemory => 8
  | .noSupport => 9
  | .noDevice => 10
  | .uninstalled => 11
  | .noAck => 12

def name : ErrorCode → String
  | .fail => "FAIL"
  | .busy => "BUSY"
  | .already => "ALREADY"
  | .off => "OFF"
  | .reserve => "RESERVE"
  | .invalid => "INVAL"
  | .size => "SIZE"
  | .cancel => "CANCEL"
  | .noMemory => "NOMEM"
  | .noSupport => "NOSUPPORT"
  | .noDevice => "NODEVICE"
  | .uninstalled => "UNINSTALLED"
  | .noAck => "NOACK"

def ofName? (name : String) : Option ErrorCode :=
  all.find? (fun error => error.name == name)

end ErrorCode

end ClockController
