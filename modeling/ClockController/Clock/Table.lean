import ClockController.Clock
import ClockController.Register.Layout

/-!
# ClockController.Clock.Table

The clocks of the MA35D1, numbered as in its device-tree binding: the loops, the gates, the selectors and the
dividers. The gate of the second watchdog was added last and stands after the dividers.

## Main definitions

`clocks`: every clock, in the order of the ids.
`Clock.find?`: the clock that an id names.
`Bus.mux`: the selector that a bus clock follows.
`sdhSelector?`: the selector that is routed when an SD host is enabled.
-/

namespace ClockController

/-! ### Ids with a part of their own -/

namespace ClockId

def firstGate : ClockId := 6
def sdh0Gate : ClockId := 12
def sdh1Gate : ClockId := 13
def firstMux : ClockId := 49
def ca35Mux : ClockId := 49
def sysclk0Mux : ClockId := 50
def sysclk1Mux : ClockId := 51
def firstDivider : ClockId := 62

/-- The number of clocks; every id below it names one. -/
def count : Nat := 67

/-- Whether the id names the selector of a bus clock. -/
def isBusMux (id : ClockId) : Bool :=
  id == ca35Mux || id == sysclk0Mux || id == sysclk1Mux

end ClockId

/-! ### Selectors -/

namespace Mux

def ca35 : Mux := ⟨.clksel0, SelectField.ca35, [.hxt, .caPll, .ePll, .aPll]⟩
def sysclk0 : Mux := ⟨.clksel0, SelectField.sysclk0, [.ePllDiv2, .sysPll]⟩
def sysclk1 : Mux := ⟨.clksel0, SelectField.sysclk1, [.hxt, .sysPll, .aPll, .aPll]⟩
def sdh0 : Mux := ⟨.clksel0, SelectField.sdh0, [.sysPll, .aPll, .unspecified, .sysPll]⟩
def sdh1 : Mux := ⟨.clksel0, SelectField.sdh1, [.sysPll, .aPll, .unspecified, .sysPll]⟩
def dcu : Mux := ⟨.clksel0, SelectField.dcu, [.ePllDiv2, .sysPll]⟩
def dcup : Mux := ⟨.clksel0, SelectField.dcup, [.vPll, .aPll]⟩
def spi0 : Mux := ⟨.clksel4, ⟨0, 2⟩, [.pclk1, .aPll, .unspecified, .unspecified]⟩
def spi1 : Mux := ⟨.clksel4, ⟨2, 2⟩, [.pclk2, .aPll, .unspecified, .unspecified]⟩
def spi2 : Mux := ⟨.clksel4, ⟨4, 2⟩, [.pclk1, .aPll, .unspecified, .unspecified]⟩
def spi3 : Mux := ⟨.clksel4, ⟨6, 2⟩, [.pclk2, .aPll, .unspecified, .unspecified]⟩
def qspi0 : Mux := ⟨.clksel4, ⟨8, 2⟩, [.pclk0, .aPll, .unspecified, .unspecified]⟩
def qspi1 : Mux := ⟨.clksel4, ⟨10, 2⟩, [.pclk1, .aPll, .unspecified, .unspecified]⟩

end Mux

/-- The selector that a bus clock follows. -/
def Bus.mux : Bus → Mux
  | .ca35 => Mux.ca35
  | .sysclk0 => Mux.sysclk0
  | .sysclk1 => Mux.sysclk1

/-- The selector that is routed to the system loop when an SD host gate is enabled: the gate clocks the card
only from there. -/
def sdhSelector? (id : ClockId) : Option Field :=
  if id = ClockId.sdh0Gate then some SelectField.sdh0
  else if id = ClockId.sdh1Gate then some SelectField.sdh1
  else none

/-! ### Dividers -/

namespace Divider

def dcup : Divider := ⟨.clkdiv0, ⟨24, 2⟩, [2, 4, 6, 8]⟩
def emac0 : Divider := ⟨.clkdiv0, ⟨28, 2⟩, [2, 4, 6, 8]⟩
def emac1 : Divider := ⟨.clkdiv0, ⟨30, 2⟩, [2, 4, 6, 8]⟩
def aclk0 : Divider := ⟨.clkdiv0, ⟨26, 1⟩, [2, 4]⟩

end Divider

/-! ### The table -/

def Gate.switched (register : Register) (bit : Fin 32) (root : Root) : Gate :=
  ⟨some ⟨register, bit⟩, root⟩

/-- A gate that is always open. -/
def Gate.open (root : Root) : Gate :=
  ⟨none, root⟩

def Node.switched (register : Register) (bit : Fin 32) (root : Root) : Node :=
  .gate (.switched register bit root)

/-- Every clock, in the order of the ids. -/
def clocks : List Clock := [
  -- Loops
  ⟨"capll", .pll .ca⟩,
  ⟨"syspll", .pll .sys⟩,
  ⟨"ddrpll", .pll .ddr⟩,
  ⟨"apll", .pll .a⟩,
  ⟨"epll", .pll .e⟩,
  ⟨"vpll", .pll .v⟩,
  -- Oscillator gates
  ⟨"hxt_gate", .switched .pwrctl 0 .hxt⟩,
  ⟨"lxt_gate", .switched .pwrctl 1 .lxt⟩,
  ⟨"hirc_gate", .switched .pwrctl 2 .hirc⟩,
  ⟨"lirc_gate", .switched .pwrctl 3 .lirc⟩,
  -- System bus gates
  ⟨"ddr0_gate", .switched .sysclk0 5 .ddrPll⟩,
  ⟨"ddr6_gate", .switched .sysclk0 3 .ddrPll⟩,
  ⟨"sdh0_gate", .switched .sysclk0 16 .sysPll⟩,
  ⟨"sdh1_gate", .switched .sysclk0 17 .sysPll⟩,
  ⟨"nand_gate", .switched .sysclk0 18 .hclk0⟩,
  ⟨"usbh_gate", .switched .sysclk0 20 .usbPhy0⟩,
  ⟨"husbh0_gate", .switched .sysclk0 21 .usbPhy0⟩,
  ⟨"husbh1_gate", .switched .sysclk0 22 .usbPhy1⟩,
  ⟨"dcu_gate", .switched .sysclk0 26 .ePllDiv2⟩,
  ⟨"emac0_gate", .switched .sysclk0 27 .ePllDiv2⟩,
  ⟨"emac1_gate", .switched .sysclk0 28 .ePllDiv2⟩,
  -- Peripheral bus gates
  ⟨"rtc_gate", .switched .apbclk0 29 .lxt⟩,
  ⟨"ddr_gate", .switched .apbclk0 30 .ddrPll⟩,
  ⟨"i2c0_gate", .switched .apbclk1 0 .pclk0⟩,
  ⟨"i2c1_gate", .switched .apbclk1 1 .pclk1⟩,
  ⟨"i2c2_gate", .switched .apbclk1 2 .pclk2⟩,
  ⟨"i2c3_gate", .switched .apbclk1 3 .pclk0⟩,
  ⟨"i2c4_gate", .switched .apbclk1 4 .pclk1⟩,
  ⟨"i2c5_gate", .switched .apbclk1 5 .pclk2⟩,
  ⟨"qspi0_gate", .switched .apbclk1 6 .pclk0⟩,
  ⟨"qspi1_gate", .switched .apbclk1 7 .pclk1⟩,
  ⟨"spi0_gate", .switched .apbclk2 4 .pclk1⟩,
  ⟨"spi1_gate", .switched .apbclk2 5 .pclk2⟩,
  ⟨"spi2_gate", .switched .apbclk2 6 .pclk1⟩,
  ⟨"spi3_gate", .switched .apbclk2 7 .pclk2⟩,
  -- GPIO ports A to N
  ⟨"gpa_gate", .switched .sysclk1 16 .hclk0⟩,
  ⟨"gpb_gate", .switched .sysclk1 17 .hclk0⟩,
  ⟨"gpc_gate", .switched .sysclk1 18 .hclk0⟩,
  ⟨"gpd_gate", .switched .sysclk1 19 .hclk0⟩,
  ⟨"gpe_gate", .switched .sysclk1 20 .hclk0⟩,
  ⟨"gpf_gate", .switched .sysclk1 21 .hclk0⟩,
  ⟨"gpg_gate", .switched .sysclk1 22 .hclk0⟩,
  ⟨"gph_gate", .switched .sysclk1 23 .hclk0⟩,
  ⟨"gpi_gate", .switched .sysclk1 24 .hclk0⟩,
  ⟨"gpj_gate", .switched .sysclk1 25 .hclk0⟩,
  ⟨"gpk_gate", .switched .sysclk1 26 .hclk0⟩,
  ⟨"gpl_gate", .switched .sysclk1 27 .hclk0⟩,
  ⟨"gpm_gate", .switched .sysclk1 28 .hclk0⟩,
  ⟨"gpn_gate", .switched .sysclk1 29 .hclk0⟩,
  -- Selectors
  ⟨"ca35clk_mux", .mux (.switched .sysclk0 0 .ca35) .ca35⟩,
  ⟨"sysclk0_mux", .mux (.open .sysclk0) .sysclk0⟩,
  ⟨"sysclk1_mux", .mux (.open .sysclk1) .sysclk1⟩,
  ⟨"sdh0_mux", .mux (.switched .sysclk0 16 .sysPll) .sdh0⟩,
  ⟨"sdh1_mux", .mux (.switched .sysclk0 17 .sysPll) .sdh1⟩,
  ⟨"dcu_mux", .mux (.switched .sysclk0 26 .ePllDiv2) .dcu⟩,
  ⟨"dcup_mux", .mux (.switched .sysclk0 26 .vPll) .dcup⟩,
  ⟨"spi0_mux", .mux (.switched .apbclk2 4 .pclk1) .spi0⟩,
  ⟨"spi1_mux", .mux (.switched .apbclk2 5 .pclk2) .spi1⟩,
  ⟨"spi2_mux", .mux (.switched .apbclk2 6 .pclk1) .spi2⟩,
  ⟨"spi3_mux", .mux (.switched .apbclk2 7 .pclk2) .spi3⟩,
  ⟨"qspi0_mux", .mux (.switched .apbclk1 6 .pclk0) .qspi0⟩,
  ⟨"qspi1_mux", .mux (.switched .apbclk1 7 .pclk1) .qspi1⟩,
  -- Dividers
  ⟨"dcup_div", .divider (.switched .sysclk0 26 .vPll) (some .dcup) .dcup⟩,
  ⟨"emac0_div", .divider (.switched .sysclk0 27 .ePllDiv2) none .emac0⟩,
  ⟨"emac1_div", .divider (.switched .sysclk0 28 .ePllDiv2) none .emac1⟩,
  ⟨"aclk0_div", .divider (.open .ca35) none .aclk0⟩,
  -- Second watchdog
  ⟨"wdt1_gate", .switched .apbclk1 17 .pclk3⟩]

def Clock.find? (id : ClockId) : Option Clock :=
  clocks[id]?

/-- The name of the clock that an id names; a question mark where it names none. -/
def ClockId.label (id : ClockId) : String :=
  match Clock.find? id with
  | some clock => clock.name
  | none => "?"

def Pll.id (pll : Pll) : ClockId :=
  pll.index

theorem length_clocks : clocks.length = ClockId.count := rfl

/-- An id names a clock exactly if it is below the number of clocks. -/
theorem Clock.isSome_find?_iff (id : ClockId) : (Clock.find? id).isSome ↔ id < ClockId.count := by
  simp [Clock.find?, ← length_clocks]

end ClockController
