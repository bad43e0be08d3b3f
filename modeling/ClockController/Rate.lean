import ClockController.State

/-!
# ClockController.Rate

The rates of roots, selectors and dividers, from the cache and the registers.

## Main definitions

`Cache.rootRate`: the rate of a root.
`Cache.muxRate`: the rate of what a selector selects.
`Cache.busRates`: the rates of the bus clocks.
`RegisterBlock.reading`: the mode and rate of a loop.
-/

namespace ClockController

/-! ### From the cache -/

namespace Cache

def sourceRate (oscillators : Oscillators) (cache : Cache) : Source → Nat
  | .oscillator input => oscillators.rate input
  | .loop pll => (cache.plls.get pll).rate
  | .bus bus => cache.bus.get bus

/-- The rate of a root. Every root has one. -/
def rootRate (oscillators : Oscillators) (cache : Cache) (root : Root) : Nat :=
  cache.sourceRate oscillators root.source / root.divisor

def muxRate (oscillators : Oscillators) (cache : Cache) (registers : RegisterBlock) (mux : Mux) :
    Checked Nat := do
  let root ← mux.selected (registers.read mux.register)
  return cache.rootRate oscillators root

/-- The rates of the bus clocks, as their selectors say. -/
def busRates (oscillators : Oscillators) (cache : Cache) (registers : RegisterBlock) :
    Checked BusRates := do
  let ca35 ← cache.muxRate oscillators registers (Bus.mux .ca35)
  let sysclk0 ← cache.muxRate oscillators registers (Bus.mux .sysclk0)
  let sysclk1 ← cache.muxRate oscillators registers (Bus.mux .sysclk1)
  return ⟨ca35, sysclk0, sysclk1⟩

end Cache

/-! ### From the registers -/

namespace RegisterBlock

def dividerRatio (registers : RegisterBlock) (divider : Divider) : Checked Nat :=
  divider.ratio (registers.read divider.register)

def controlWords (registers : RegisterBlock) (pll : Pll) : ControlWords where
  ctl0 := registers.read (.pll pll .ctl0)
  ctl1 := registers.read (.pll pll .ctl1)
  ctl2 := registers.read (.pll pll .ctl2)

def pllMode (registers : RegisterBlock) (pll : Pll) : Mode :=
  if pll.isFixedRatio then .fixedRatio else .ofCtl0 (registers.controlWords pll).ctl0

def reading (reference : Nat) (registers : RegisterBlock) (pll : Pll) : Checked Reading := do
  let mode := registers.pllMode pll
  let rate ← (registers.controlWords pll).rate mode reference
  return ⟨mode, rate⟩

end RegisterBlock

end ClockController
