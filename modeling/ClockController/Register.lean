import ClockController.Pll

/-!
# ClockController.Register

The registers of the clock controller and their byte offsets.

## Main definitions

`Register`: every mapped register.
`Register.offset`: where it lies in the block.
`Register.ofOffset?`, `Register.ofWriteOffset?`: the register that a read or a write at an offset reaches.

## Main results

`Register.ofOffset?_eq_some_iff`: a read at an offset reaches the register that lies there.
`Register.ofWriteOffset?_eq_some_iff`: so does a write, unless that register is read only.
-/

namespace ClockController

inductive ControlWord where
  | ctl0
  | ctl1
  | ctl2
deriving DecidableEq, Repr

/-- The byte offset of a control word from the first one of its loop. -/
def ControlWord.offset : ControlWord → Nat
  | .ctl0 => 0x0
  | .ctl1 => 0x4
  | .ctl2 => 0x8

/-- The control word at a byte offset from the first one of its loop. -/
def ControlWord.ofOffset? : Nat → Option ControlWord
  | 0x0 => some .ctl0
  | 0x4 => some .ctl1
  | 0x8 => some .ctl2
  | _ => none

theorem ControlWord.ofOffset?_eq_some_iff {offset : Nat} {word : ControlWord} :
    ofOffset? offset = some word ↔ word.offset = offset := by
  constructor
  · intro found
    unfold ofOffset? at found
    split at found
    all_goals cases found
    all_goals rfl
  · rintro rfl
    cases word <;> rfl

inductive Register where
  -- Oscillator power control and crystal enables.
  | pwrctl
  -- System bus clock enables.
  | sysclk0
  | sysclk1
  -- Peripheral bus clock enables.
  | apbclk0
  | apbclk1
  | apbclk2
  -- Clock source selection.
  | clksel0
  | clksel1
  | clksel2
  | clksel3
  | clksel4
  -- Clock dividers.
  | clkdiv0
  | clkdiv1
  | clkdiv2
  | clkdiv3
  | clkdiv4
  -- Clock output control.
  | clkoctl
  -- Oscillator and loop stable flags; read only.
  | status
  -- A control word of a loop.
  | pll (loop : Pll) (word : ControlWord)
  -- Clock frequency detector.
  | clkdctl
  | clkdsts
  | cdupb
  | cdlowb
  | ckfltrctl
deriving DecidableEq, Repr

namespace Register

/-- The offset of the control words of the first loop. -/
def pllBase : Nat := 0x60

/-- The distance between the control words of two neighbouring loops. -/
def pllStride : Nat := 0x10

/-- The first offset past the register block. -/
def blockEnd : Nat := 0xD4

/-- The byte offset of a register from the start of the block. -/
def offset : Register → Nat
  | .pwrctl => 0x00
  | .sysclk0 => 0x04
  | .sysclk1 => 0x08
  | .apbclk0 => 0x0C
  | .apbclk1 => 0x10
  | .apbclk2 => 0x14
  | .clksel0 => 0x18
  | .clksel1 => 0x1C
  | .clksel2 => 0x20
  | .clksel3 => 0x24
  | .clksel4 => 0x28
  | .clkdiv0 => 0x2C
  | .clkdiv1 => 0x30
  | .clkdiv2 => 0x34
  | .clkdiv3 => 0x38
  | .clkdiv4 => 0x3C
  | .clkoctl => 0x40
  | .status => 0x50
  | .pll loop word => pllBase + pllStride * loop.index + word.offset
  | .clkdctl => 0xC0
  | .clkdsts => 0xC4
  | .cdupb => 0xC8
  | .cdlowb => 0xCC
  | .ckfltrctl => 0xD0

/-- Every register, in the order of the offsets. -/
def all : List Register :=
  [.pwrctl, .sysclk0, .sysclk1, .apbclk0, .apbclk1, .apbclk2,
    .clksel0, .clksel1, .clksel2, .clksel3, .clksel4,
    .clkdiv0, .clkdiv1, .clkdiv2, .clkdiv3, .clkdiv4, .clkoctl, .status] ++
  Pll.all.flatMap (fun loop => [.pll loop .ctl0, .pll loop .ctl1, .pll loop .ctl2]) ++
  [.clkdctl, .clkdsts, .cdupb, .cdlowb, .ckfltrctl]

/-- Whether a write reaches the register. -/
def isWritable : Register → Bool
  | .status => false
  | _ => true

/-- The register that any access at an offset reaches. The first selection register and the read-only one are not
among them. -/
def ofPlainOffset? : Nat → Option Register
  | 0x00 => some .pwrctl
  | 0x04 => some .sysclk0
  | 0x08 => some .sysclk1
  | 0x0C => some .apbclk0
  | 0x10 => some .apbclk1
  | 0x14 => some .apbclk2
  | 0x1C => some .clksel1
  | 0x20 => some .clksel2
  | 0x24 => some .clksel3
  | 0x28 => some .clksel4
  | 0x2C => some .clkdiv0
  | 0x30 => some .clkdiv1
  | 0x34 => some .clkdiv2
  | 0x38 => some .clkdiv3
  | 0x3C => some .clkdiv4
  | 0x40 => some .clkoctl
  | 0xC0 => some .clkdctl
  | 0xC4 => some .clkdsts
  | 0xC8 => some .cdupb
  | 0xCC => some .cdlowb
  | 0xD0 => some .ckfltrctl
  | offset =>
    -- The window of the loops, up to the clock frequency detector.
    if pllBase ≤ offset ∧ offset < clkdctl.offset then do
      let loop ← Pll.all[(offset - pllBase) / pllStride]?
      let word ← ControlWord.ofOffset? ((offset - pllBase) % pllStride)
      return .pll loop word
    else none

/-- The register that a read at an offset reaches. -/
def ofOffset? : Nat → Option Register
  | 0x18 => some .clksel0
  | 0x50 => some .status
  | offset => ofPlainOffset? offset

/-- The register that a write at an offset reaches. -/
def ofWriteOffset? : Nat → Option Register
  | 0x18 => some .clksel0
  | offset => ofPlainOffset? offset

/-! ### Registers and offsets -/

theorem mem_all (register : Register) : register ∈ all := by
  cases register with
  | pll loop word => cases loop <;> cases word <;> decide
  | _ => decide

theorem offset_lt (register : Register) : register.offset < blockEnd := by
  cases register with
  | pll loop word => cases loop <;> cases word <;> decide
  | _ => decide

theorem offset_mod_four (register : Register) : register.offset % 4 = 0 := by
  cases register with
  | pll loop word => cases loop <;> cases word <;> decide
  | _ => decide

/-! ### Decoding -/

/-- An offset in the window of the loops is made of the place of a loop and the offset of one of its words. -/
theorem offset_pll_of_window {offset : Nat} (window : pllBase ≤ offset) {loop : Pll} {word : ControlWord}
    (place : Pll.all[(offset - pllBase) / pllStride]? = some loop)
    (rest : ControlWord.ofOffset? ((offset - pllBase) % pllStride) = some word) :
    (pll loop word).offset = offset := by
  have parts := Nat.div_add_mod (offset - pllBase) pllStride
  rw [← Pll.all_getElem?_eq_some_iff.mp place, ← ControlWord.ofOffset?_eq_some_iff.mp rest] at parts
  change pllBase + pllStride * loop.index + word.offset = offset
  omega

theorem ofPlainOffset?_eq_some_iff {offset : Nat} {register : Register} :
    ofPlainOffset? offset = some register ↔
      register.offset = offset ∧ register ≠ .clksel0 ∧ register ≠ .status := by
  constructor
  · intro found
    unfold ofPlainOffset? at found
    split at found
    case h_22 =>
      split at found
      next window =>
        obtain ⟨loop, place, found⟩ := Option.bind_eq_some_iff.mp found
        obtain ⟨word, rest, same⟩ := Option.bind_eq_some_iff.mp found
        cases same
        exact ⟨offset_pll_of_window window.1 place rest, nofun, nofun⟩
      next => cases found
    all_goals
      cases found
      exact ⟨rfl, nofun, nofun⟩
  · rintro ⟨rfl, select, status⟩
    cases register with
    | pll loop word => cases loop <;> cases word <;> rfl
    | clksel0 => exact absurd rfl select
    | status => exact absurd rfl status
    | _ => rfl

/-- A read at an offset reaches the register that lies there. -/
theorem ofOffset?_eq_some_iff {offset : Nat} {register : Register} :
    ofOffset? offset = some register ↔ register.offset = offset := by
  constructor
  · intro found
    unfold ofOffset? at found
    split at found
    next => cases found; rfl
    next => cases found; rfl
    next => exact (ofPlainOffset?_eq_some_iff.mp found).1
  · rintro rfl
    cases register with
    | pll loop word => cases loop <;> cases word <;> rfl
    | _ => rfl

/-- A write at an offset reaches the register that lies there, unless that one is read only. -/
theorem ofWriteOffset?_eq_some_iff {offset : Nat} {register : Register} :
    ofWriteOffset? offset = some register ↔ register.offset = offset ∧ register.isWritable = true := by
  constructor
  · intro found
    unfold ofWriteOffset? at found
    split at found
    next =>
      cases found
      exact ⟨rfl, rfl⟩
    next =>
      obtain ⟨lies, _, plain⟩ := ofPlainOffset?_eq_some_iff.mp found
      refine ⟨lies, ?_⟩
      cases register with
      | status => exact absurd rfl plain
      | _ => rfl
  · rintro ⟨rfl, writable⟩
    cases register with
    | pll loop word => cases loop <;> cases word <;> rfl
    | status => cases writable
    | _ => rfl

theorem offset_injective {x y : Register} (same : x.offset = y.offset) : x = y := by
  have found := ofOffset?_eq_some_iff.mpr same
  rw [ofOffset?_eq_some_iff.mpr rfl] at found
  exact (Option.some.inj found).symm

end Register

end ClockController
