/-!
# ClockController.Board

What a board fixes for the clock controller: the rates that come from outside, and the options of the
controller.

## Main definitions

`Oscillators`: the rates of the clock inputs.
`Options`: what the controller does beyond the ordinary.
`Board`: both together.
-/

namespace ClockController

inductive Oscillator where
  -- The external high-speed crystal, the reference of every loop.
  | hxt
  -- The external 32 kHz crystal.
  | lxt
  -- The internal high-speed oscillator.
  | hirc
  -- The internal low-speed oscillator.
  | lirc
  | usbPhy0
  | usbPhy1
deriving DecidableEq, Repr

/-- The rates of the clock inputs in Hz. The defaults are those of the reference board. -/
structure Oscillators where
  hxt : Nat := 24_000_000
  lxt : Nat := 32_768
  hirc : Nat := 12_000_000
  lirc : Nat := 32_000
  usbPhy0 : Nat := 480_000_000
  usbPhy1 : Nat := 480_000_000
deriving DecidableEq, Repr

def Oscillators.rate (oscillators : Oscillators) : Oscillator → Nat
  | .hxt => oscillators.hxt
  | .lxt => oscillators.lxt
  | .hirc => oscillators.hirc
  | .lirc => oscillators.lirc
  | .usbPhy0 => oscillators.usbPhy0
  | .usbPhy1 => oscillators.usbPhy1

structure Options where
  -- Whether every rate that is asked for is traced in the log.
  tracesRates : Bool := false
  -- Whether spread-spectrum settings are derived from the modulation.
  derivesSpread : Bool := false
deriving DecidableEq, Repr

structure Board where
  oscillators : Oscillators := {}
  options : Options := {}
deriving DecidableEq, Repr

end ClockController
