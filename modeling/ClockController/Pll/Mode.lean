import ClockController.Register.Layout

/-!
# ClockController.Pll.Mode

The operating modes of a loop and their encoding in its first control word.

## Main definitions

`Mode.ofCtl0`: the mode that a control word selects.
`Mode.bits`: the value that selects a mode.

## Main results

`Mode.bits_lt`: the value of a mode fits its field.
-/

namespace ClockController

inductive Mode where
  -- The feedback divider is a whole number.
  | integer
  -- The feedback divider has a fractional part.
  | fractional
  -- As `fractional`, with a modulated output.
  | spreadSpectrum
  -- The ratio is fixed: the loop is read back only.
  | fixedRatio
deriving DecidableEq, Repr

namespace Mode

def all : List Mode :=
  [.integer, .fractional, .spreadSpectrum, .fixedRatio]

def name : Mode → String
  | .integer => "Integer"
  | .fractional => "Fractional"
  | .spreadSpectrum => "SpreadSpectrum"
  | .fixedRatio => "FixedRatio"

def ofName? (name : String) : Option Mode :=
  all.find? (fun mode => mode.name == name)

/-- The mode that a first control word selects; 2 and 3 both select spread-spectrum operation. -/
def ofCtl0 (ctl0 : Word) : Mode :=
  match PllField.mode.read ctl0 with
  | 0 => .integer
  | 1 => .fractional
  | _ => .spreadSpectrum

/-- The value of the mode field for a mode. -/
def bits : Mode → Nat
  | .integer | .fixedRatio => 0
  | .fractional => 1
  | .spreadSpectrum => 2

theorem bits_lt (mode : Mode) : mode.bits < 1 <<< PllField.mode.width := by
  cases mode <;> decide

end Mode

end ClockController
