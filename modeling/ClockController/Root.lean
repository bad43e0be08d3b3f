import ClockController.Board
import ClockController.Pll

/-!
# ClockController.Root

What can feed a clock: an oscillator, a loop or a bus clock, as it is or divided by a constant.

## Main definitions

`Bus`: the clocks that follow a bus selector.
`Source`: an oscillator, a loop or a bus clock.
`Root`: everything that can feed a clock.
`Root.source`, `Root.divisor`: what a root comes from.
-/

namespace ClockController

/-- The processor clock and the two system bus clocks; each follows a selector of its own. -/
inductive Bus where
  | ca35
  | sysclk0
  | sysclk1
deriving DecidableEq, Repr

structure BusRates where
  ca35 : Nat
  sysclk0 : Nat
  sysclk1 : Nat
deriving DecidableEq, Repr

def BusRates.get (rates : BusRates) : Bus → Nat
  | .ca35 => rates.ca35
  | .sysclk0 => rates.sysclk0
  | .sysclk1 => rates.sysclk1

inductive Source where
  | oscillator (input : Oscillator)
  | loop (pll : Pll)
  | bus (bus : Bus)
deriving DecidableEq, Repr

/-- Everything that can feed a gate or a selector. -/
inductive Root where
  | hxt
  | lxt
  | hirc
  | lirc
  | caPll
  | sysPll
  | ddrPll
  | aPll
  | ePll
  | vPll
  | caPllDiv2
  | caPllDiv4
  | ePllDiv2
  | ePllDiv4
  | vPllDiv2
  | ca35
  | axi0Aclk
  | sysclk0
  | sysclk1
  | sysclk1Div2
  | hclk0
  | hclk1
  | hclk2
  | hclk3
  | pclk0
  | pclk1
  | pclk2
  | pclk3
  | pclk4
  | pclk3Div4096
  | pclk4Div4096
  | usbPhy0
  | usbPhy1
  -- A reserved selector value, which runs from the high-speed crystal.
  | unspecified
deriving DecidableEq, Repr

namespace Root

def all : List Root :=
  [.hxt, .lxt, .hirc, .lirc, .caPll, .sysPll, .ddrPll, .aPll, .ePll, .vPll, .caPllDiv2, .caPllDiv4,
    .ePllDiv2, .ePllDiv4, .vPllDiv2, .ca35, .axi0Aclk, .sysclk0, .sysclk1, .sysclk1Div2, .hclk0, .hclk1,
    .hclk2, .hclk3, .pclk0, .pclk1, .pclk2, .pclk3, .pclk4, .pclk3Div4096, .pclk4Div4096, .usbPhy0,
    .usbPhy1, .unspecified]

def name : Root → String
  | .hxt => "Hxt"
  | .lxt => "Lxt"
  | .hirc => "Hirc"
  | .lirc => "Lirc"
  | .caPll => "CaPll"
  | .sysPll => "SysPll"
  | .ddrPll => "DdrPll"
  | .aPll => "APll"
  | .ePll => "EPll"
  | .vPll => "VPll"
  | .caPllDiv2 => "CaPllDiv2"
  | .caPllDiv4 => "CaPllDiv4"
  | .ePllDiv2 => "EPllDiv2"
  | .ePllDiv4 => "EPllDiv4"
  | .vPllDiv2 => "VPllDiv2"
  | .ca35 => "Ca35"
  | .axi0Aclk => "Axi0Aclk"
  | .sysclk0 => "SysClk0"
  | .sysclk1 => "SysClk1"
  | .sysclk1Div2 => "SysClk1Div2"
  | .hclk0 => "Hclk0"
  | .hclk1 => "Hclk1"
  | .hclk2 => "Hclk2"
  | .hclk3 => "Hclk3"
  | .pclk0 => "Pclk0"
  | .pclk1 => "Pclk1"
  | .pclk2 => "Pclk2"
  | .pclk3 => "Pclk3"
  | .pclk4 => "Pclk4"
  | .pclk3Div4096 => "Pclk3Div4096"
  | .pclk4Div4096 => "Pclk4Div4096"
  | .usbPhy0 => "UsbPhy0"
  | .usbPhy1 => "UsbPhy1"
  | .unspecified => "Unspecified"

def ofName? (name : String) : Option Root :=
  all.find? (fun root => root.name == name)

def source : Root → Source
  | .hxt | .unspecified => .oscillator .hxt
  | .lxt => .oscillator .lxt
  | .hirc => .oscillator .hirc
  | .lirc => .oscillator .lirc
  | .usbPhy0 => .oscillator .usbPhy0
  | .usbPhy1 => .oscillator .usbPhy1
  | .caPll | .caPllDiv2 | .caPllDiv4 | .axi0Aclk => .loop .ca
  | .sysPll => .loop .sys
  | .ddrPll => .loop .ddr
  | .aPll => .loop .a
  | .ePll | .ePllDiv2 | .ePllDiv4 => .loop .e
  | .vPll | .vPllDiv2 => .loop .v
  | .ca35 => .bus .ca35
  | .sysclk0 => .bus .sysclk0
  | .sysclk1 | .sysclk1Div2 | .hclk0 | .hclk1 | .hclk2 | .hclk3 | .pclk0 | .pclk1 | .pclk2 | .pclk3
  | .pclk4 | .pclk3Div4096 | .pclk4Div4096 => .bus .sysclk1

/-- The constant by which a root divides what it comes from. -/
def divisor : Root → Nat
  | .caPllDiv2 | .axi0Aclk | .ePllDiv2 | .vPllDiv2 | .sysclk1Div2 | .hclk3 | .pclk3 | .pclk4 => 2
  | .caPllDiv4 | .ePllDiv4 => 4
  | .pclk3Div4096 | .pclk4Div4096 => 2 * 4096
  | _ => 1

theorem divisor_pos (root : Root) : 0 < root.divisor := by
  cases root <;> decide

theorem mem_all (root : Root) : root ∈ all := by
  cases root <;> decide

end Root

end ClockController
