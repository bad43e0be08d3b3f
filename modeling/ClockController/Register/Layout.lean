import ClockController.Field

/-!
# ClockController.Register.Layout

The fields of the registers whose layout is fixed.

## Main definitions

`PllField`: the control words of the loops that can be programmed.
`FixedPllField`: the control word of the fixed-ratio loops.
`SelectField`: the selectors of the first clock selection register.
`Layout`: a register layout as named fields.
-/

namespace ClockController

/-! ### Loops that can be programmed -/

namespace PllField

-- The first control word.

def feedback : Field := ⟨0, 11⟩

def input : Field := ⟨12, 6⟩

def mode : Field := ⟨18, 2⟩

/-- Spread-spectrum modulation rate. -/
def spreadRate : Field := ⟨20, 11⟩

-- The second control word.

def powerDown : Field := ⟨0, 1⟩

def output : Field := ⟨4, 3⟩

/-- Fractional part of the feedback divider in units of `2 ^ -24`. -/
def fraction : Field := ⟨8, 24⟩

-- The third control word.

/-- Spread-spectrum slope. -/
def slope : Field := ⟨0, 24⟩

end PllField

/-! ### Fixed-ratio loops -/

namespace FixedPllField

def feedback : Field := ⟨0, 8⟩

def input : Field := ⟨8, 4⟩

/-- Output divider, as a power of two. -/
def output : Field := ⟨12, 2⟩

def powerDown : Field := ⟨16, 1⟩

/-- Bypass: the output follows the reference. -/
def bypass : Field := ⟨17, 1⟩

end FixedPllField

/-! ### Selectors -/

namespace SelectField

-- The bus clocks.

def ca35 : Field := ⟨0, 2⟩

def sysclk0 : Field := ⟨2, 1⟩

def sysclk1 : Field := ⟨4, 2⟩

-- The SD hosts and the display controller.

def sdh0 : Field := ⟨16, 2⟩

def sdh1 : Field := ⟨18, 2⟩

def dcu : Field := ⟨24, 1⟩

/-- The pixel clock of the display controller. -/
def dcup : Field := ⟨25, 1⟩

/-- The value that selects the system loop as the source of an SD host. -/
def sdhFromSysPll : Nat := 3

end SelectField

/-! ### Layouts by name -/

/-- A register layout: its fields by their names in the data sheet. -/
structure Layout where
  name : String
  fields : List (String × Field)
deriving DecidableEq, Repr

namespace Layout

def all : List Layout := [
  ⟨"PLL_CTL0",
    [("FBDIV", PllField.feedback), ("INDIV", PllField.input), ("MODE", PllField.mode),
      ("SSRATE", PllField.spreadRate)]⟩,
  ⟨"PLL_CTL1",
    [("PD", PllField.powerDown), ("OUTDIV", PllField.output), ("FRAC", PllField.fraction)]⟩,
  ⟨"PLL_CTL2", [("SLOPE", PllField.slope)]⟩,
  ⟨"SMIC_PLL_CTL0",
    [("FBDIV", FixedPllField.feedback), ("INDIV", FixedPllField.input),
      ("OUTDIV", FixedPllField.output), ("PD", FixedPllField.powerDown),
      ("BP", FixedPllField.bypass)]⟩,
  ⟨"CLKSEL0",
    [("CA35CKSEL", SelectField.ca35), ("SYSCK0SEL", SelectField.sysclk0),
      ("SYSCK1SEL", SelectField.sysclk1), ("SD0SEL", SelectField.sdh0),
      ("SD1SEL", SelectField.sdh1), ("DCUSEL", SelectField.dcu), ("DCUPSEL", SelectField.dcup)]⟩]

def find? (name : String) : Option Layout :=
  all.find? (fun layout => layout.name == name)

def field? (layout : Layout) (name : String) : Option Field :=
  layout.fields.lookup name

/-- The word after writing named fields one after the other; `none` where the layout lacks a name. -/
def writeAll? (layout : Layout) (changes : List (String × Nat)) (word : Word) : Option Word :=
  changes.foldlM (fun word (name, value) => (layout.field? name).map (·.write value word)) word

end Layout

end ClockController
