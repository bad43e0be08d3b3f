import ClockController.Pll.ControlWords

/-!
# ClockController.Synthesis.Solution

What solving for a rate needs and gives: the electrical bands, the solution, and the reasons for none.

| stage                  | band                 |
|------------------------|----------------------|
| reference / M          | 1 MHz to 40 MHz      |
| reference / M * N      | 600 MHz to 2.4 GHz   |
| output                 | 85.7 MHz to 2.4 GHz  |

## Main definitions

`Band`: a range of rates, both ends included.
`Solution`: the words that give a rate.
`Unreachable`: why a rate cannot be had.
`Attempt`: a solution, the reason for none, or a fault on the way.
-/

namespace ClockController

/-- A range of rates in Hz, both ends included. -/
structure Band where
  low : Nat
  high : Nat
deriving DecidableEq, Repr

namespace Band

instance : Membership Nat Band :=
  ⟨fun band rate => band.low ≤ rate ∧ rate ≤ band.high⟩

instance (rate : Nat) (band : Band) : Decidable (rate ∈ band) :=
  inferInstanceAs (Decidable (_ ∧ _))

theorem mem_iff {rate : Nat} {band : Band} : rate ∈ band ↔ band.low ≤ rate ∧ rate ≤ band.high :=
  Iff.rfl

/-- The references that the fractional modes accept. -/
def reference : Band := ⟨1_000_000, 200_000_000⟩

/-- The input of the phase detector. -/
def phaseDetector : Band := ⟨1_000_000, 40_000_000⟩

/-- The input of the phase detector in the fractional modes. -/
def fastPhaseDetector : Band := ⟨10_000_000, 40_000_000⟩

def oscillator : Band := ⟨600_000_000, 2_400_000_000⟩

def output : Band := ⟨85_700_000, 2_400_000_000⟩

end Band

structure Solution where
  -- The dividers only: mode and power down come with `ControlWords.merge`.
  words : ControlWords
  -- The rate that the words give, in Hz.
  rate : Nat
  -- Whether the target was out of reach and the default stands in.
  isFallback : Bool
deriving DecidableEq, Repr

/-- The default for targets out of reach: 1 GHz from a 24 MHz crystal. -/
def Solution.fallback : Solution where
  words := ⟨0x30FA, 0x20, 0⟩
  rate := 1_000_000_000
  isFallback := true

inductive Unreachable where
  -- A fixed-ratio loop is not solved for.
  | fixedRatio
  -- The reference lies outside its band.
  | referenceOutOfBand
  -- No multiplier lifts the target into the output band.
  | targetTooLow
  -- No output divider brings the oscillator into its band.
  | noOutputDivider
  -- No input divider brings the phase detector into its band.
  | noInputDivider
  -- Spread-spectrum operation without modulation.
  | noModulation
  -- The modulation leaves no modulation rate.
  | modulationTooFast
  -- The modulation rate does not fit its field.
  | spreadRateTooWide (rate : Nat)
  -- The modulation slope does not fit its field.
  | slopeTooWide (slope : Nat)
deriving DecidableEq, Repr

abbrev Attempt := ExceptT Unreachable Checked

end ClockController
