import ClockController.Checked
import ClockController.Register

/-!
# ClockController.RegisterBlock

The words behind the registers, and access to them by byte offset.

Access by offset reaches mapped registers only: at any other offset a read gives zero and a write is
dropped, and so is a write to the read-only status register.

## Main results

`RegisterBlock.read_write`: reading after a write.
-/

namespace ClockController

structure RegisterBlock where
  words : Vector Word 53
deriving DecidableEq

/-- The place of a register among the words of the block. -/
def Register.slot (register : Register) : Fin 53 :=
  ⟨register.offset / 4, by have := register.offset_lt; simp only [Register.blockEnd] at this; omega⟩

theorem Register.slot_injective {x y : Register} (same : x.slot = y.slot) : x = y := by
  have := congrArg Fin.val same
  simp only [slot] at this
  have := x.offset_mod_four
  have := y.offset_mod_four
  exact offset_injective (by omega)

namespace RegisterBlock

def zero : RegisterBlock :=
  ⟨Vector.replicate 53 0⟩

def read (block : RegisterBlock) (register : Register) : Word :=
  block.words[register.slot]

def write (block : RegisterBlock) (register : Register) (value : Word) : RegisterBlock :=
  ⟨block.words.set register.slot value register.slot.isLt⟩

/-! ### Access by byte offset -/

/-- The word read at a byte offset; zero where no register is mapped. -/
def readAt (block : RegisterBlock) (offset : Nat) : Word :=
  match Register.ofOffset? offset with
  | some register => block.read register
  | none => 0

/-- The block after a write to a byte offset; unchanged where the write reaches no register. -/
def writeAt (block : RegisterBlock) (offset : Nat) (value : Word) : RegisterBlock :=
  match Register.ofWriteOffset? offset with
  | some register => block.write register value
  | none => block

/-- What has to be written at `offset` to clear the bits of `clear` and then set those of `set`. -/
def modified (block : RegisterBlock) (offset : Nat) (clear set : Word) : Word :=
  (block.readAt offset &&& ~~~clear) ||| set

/-! ### Raw words -/

/-- The block with a raw word stored at a byte offset, mapped or not. -/
def store (block : RegisterBlock) (offset : Nat) (value : Word) : RegisterBlock :=
  if h : offset / 4 < 53 then ⟨block.words.set (offset / 4) value h⟩ else block

/-- The zero block with raw words stored in it, one after the other. -/
def ofWords (stores : List (Nat × Word)) : RegisterBlock :=
  stores.foldl (fun block (offset, value) => block.store offset value) zero

/-- The byte offsets and contents of all words, mapped or not, in ascending order. -/
def contents (block : RegisterBlock) : List (Nat × Word) :=
  block.words.toList.mapIdx (fun slot word => (4 * slot, word))

/-! ### Reading after a write -/

theorem read_write (block : RegisterBlock) (written : Register) (value : Word) (register : Register) :
    (block.write written value).read register =
      if register = written then value else block.read register := by
  simp only [read, write, Fin.getElem_fin, Vector.getElem_set]
  by_cases same : register = written
  · simp [same]
  · have : written.slot.val ≠ register.slot.val := fun h =>
      same (Register.slot_injective (Fin.ext h)).symm
    simp [same, this]

end RegisterBlock

end ClockController
