import ClockController.Checked

/-!
# ClockController.Field

Bit fields of register words: where a field lies, how it is read and how it is replaced.

A field of a fixed register layout is read and written as it stands (`Field.read`, `Field.write`). A field
whose position is data, as in a selector or a divider, goes through the checked forms, which refuse a
position or a width outside the word.

## Main results

`getLsbD_mask`: the bits of a field's mask are the bits of its range.
`read_write`: a field reads the value written last.
`getLsbD_write_of_not_mem`: a write changes no bit outside the field.
`checkedRead_eq`, `checkedMask_eq`: for a range inside the word the checked forms agree with the plain ones.
-/

namespace ClockController

structure Field where
  -- Number of the lowest bit.
  shift : Nat
  -- Number of bits.
  width : Nat
deriving DecidableEq, Repr

/-- The word with the lowest `width` bits set. -/
def lowMask (width : Nat) : Word :=
  BitVec.ofNat 32 (1 <<< width - 1)

/-- The word with the lowest `width` bits set, for a width below that of a word. -/
def checkedLowMask (width : Nat) : Checked Word :=
  if width < 32 then .ok (lowMask width) else .error .shiftLeft

namespace Field

/-- The word with the bits of the field set. -/
def mask (field : Field) : Word :=
  lowMask field.width <<< field.shift

def read (field : Field) (word : Word) : Nat :=
  ((word >>> field.shift) &&& lowMask field.width).toNat

/-- A number moved into the field; bits above the width are dropped. -/
def encode (field : Field) (value : Nat) : Word :=
  (BitVec.ofNat 32 value &&& lowMask field.width) <<< field.shift

/-- The word with the field cleared and every other bit kept. -/
def clear (field : Field) (word : Word) : Word :=
  word &&& ~~~field.mask

/-- The word with the field replaced and every other bit kept. -/
def write (field : Field) (value : Nat) (word : Word) : Word :=
  field.clear word ||| field.encode value

def isSet (field : Field) (word : Word) : Bool :=
  word &&& field.mask != 0

/-- The number that a word holds in the field. A position outside the word is noticed before a width outside
it. -/
def checkedRead (field : Field) (word : Word) : Checked Nat := do
  let shifted ← Checked.shiftRight word field.shift
  let low ← checkedLowMask field.width
  return (shifted &&& low).toNat

/-- The word with the bits of the field set. A width outside the word is noticed before a position outside
it. -/
def checkedMask (field : Field) : Checked Word := do
  let low ← checkedLowMask field.width
  Checked.shiftLeft low field.shift

def checkedPlace (field : Field) (value : Nat) : Checked Word :=
  Checked.shiftLeft (BitVec.ofNat 32 value) field.shift

/-! ### The bits of a field -/

theorem getLsbD_lowMask (width i : Nat) :
    (lowMask width).getLsbD i = (decide (i < 32) && decide (i < width)) := by
  simp [lowMask, BitVec.getLsbD_ofNat, Nat.one_shiftLeft, Nat.testBit_two_pow_sub_one]

theorem getLsbD_mask (field : Field) (i : Nat) :
    field.mask.getLsbD i =
      (decide (i < 32) && decide (field.shift ≤ i) && decide (i < field.shift + field.width)) := by
  rw [mask, BitVec.getLsbD_shiftLeft, getLsbD_lowMask]
  grind

theorem getLsbD_encode (field : Field) (value i : Nat) :
    (field.encode value).getLsbD i =
      (decide (i < 32) && decide (field.shift ≤ i) && decide (i < field.shift + field.width) &&
        value.testBit (i - field.shift)) := by
  rw [encode, BitVec.getLsbD_shiftLeft, BitVec.getLsbD_and, BitVec.getLsbD_ofNat, getLsbD_lowMask]
  grind

theorem getLsbD_clear (field : Field) (word : Word) (i : Nat) :
    (field.clear word).getLsbD i = (word.getLsbD i && !field.mask.getLsbD i) := by
  rw [clear, BitVec.getLsbD_and, BitVec.getLsbD_not]
  have outside : 32 ≤ i → word.getLsbD i = false := BitVec.getLsbD_of_ge word i
  grind

theorem testBit_read (field : Field) (word : Word) (i : Nat) :
    (field.read word).testBit i = (decide (i < field.width) && word.getLsbD (field.shift + i)) := by
  rw [read, BitVec.testBit_toNat, BitVec.getLsbD_and, BitVec.getLsbD_ushiftRight, getLsbD_lowMask]
  have outside : 32 ≤ field.shift + i → word.getLsbD (field.shift + i) = false :=
    BitVec.getLsbD_of_ge word _
  grind

/-! ### Reading and writing -/

theorem read_lt (field : Field) (word : Word) : field.read word < 1 <<< field.width := by
  rw [Nat.one_shiftLeft]
  apply Nat.lt_pow_two_of_testBit
  intro i above
  rw [testBit_read]
  grind

/-- A field inside the word reads the value written last, if the value fits. -/
theorem read_write (field : Field) (inside : field.shift + field.width ≤ 32) {value : Nat}
    (fits : value < 1 <<< field.width) (word : Word) :
    field.read (field.write value word) = value := by
  rw [Nat.one_shiftLeft] at fits
  apply Nat.eq_of_testBit_eq
  intro i
  have above : field.width ≤ i → value.testBit i = false := fun h =>
    Nat.testBit_lt_two_pow (Nat.lt_of_lt_of_le fits (Nat.pow_le_pow_right (by decide) h))
  rw [testBit_read, write, BitVec.getLsbD_or, getLsbD_clear, getLsbD_mask, getLsbD_encode,
    Nat.add_sub_cancel_left]
  grind

theorem getLsbD_write_of_not_mem (field : Field) (value : Nat) (word : Word) {i : Nat}
    (outside : field.mask.getLsbD i = false) :
    (field.write value word).getLsbD i = word.getLsbD i := by
  rw [getLsbD_mask] at outside
  rw [write, BitVec.getLsbD_or, getLsbD_clear, getLsbD_mask, getLsbD_encode]
  have beyond : 32 ≤ i → word.getLsbD i = false := BitVec.getLsbD_of_ge word i
  grind

/-! ### The checked forms inside the word -/

theorem checkedRead_eq {field : Field} (position : field.shift < 32) (size : field.width < 32)
    (word : Word) : field.checkedRead word = .ok (field.read word) := by
  simp [checkedRead, Checked.shiftRight_of_lt position, checkedLowMask, size, read, pure, Except.pure]

theorem checkedMask_eq {field : Field} (position : field.shift < 32) (size : field.width < 32) :
    field.checkedMask = .ok field.mask := by
  simp [checkedMask, checkedLowMask, size, Checked.shiftLeft_of_lt position, mask]

theorem checkedPlace_eq {field : Field} (position : field.shift < 32) (value : Nat) :
    field.checkedPlace value = .ok (BitVec.ofNat 32 value <<< field.shift) :=
  Checked.shiftLeft_of_lt position

end Field

end ClockController
