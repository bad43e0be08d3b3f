import ClockController.Message
import ClockController.RegisterBlock

/-!
# ClockController.State

What the controller knows and does: the register block, the rates that it has cached, and the journal of its
work.

## Main definitions

`Reading`: mode and rate of a loop.
`Cache`: the readings of all loops and the rates of the bus clocks.
`Journal`: the register writes made and the reports given.
`State`: the block, the cache and the journal.
-/

namespace ClockController

/-- What is known of a loop: its mode and its rate in Hz. -/
structure Reading where
  mode : Mode
  rate : Nat
deriving DecidableEq, Repr

/-- The rates that the controller has read back or derived. -/
structure Cache where
  plls : PerPll Reading
  bus : BusRates
deriving DecidableEq, Repr

def Cache.empty : Cache where
  plls := .replicate ⟨.integer, 0⟩
  bus := ⟨0, 0, 0⟩

/-- The register writes and the reports of the controller, in order. -/
structure Journal where
  writes : List (Register × Word) := []
  log : List Message := []
deriving DecidableEq, Repr

structure State where
  registers : RegisterBlock
  cache : Cache := .empty
  journal : Journal := {}
deriving DecidableEq

end ClockController
