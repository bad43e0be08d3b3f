import ClockController.Field

/-!
# ClockController.Proofs.FieldIndependence

Fields of one word without a common bit do not disturb each other.

## Main results

`Field.read_or`: a field of combined words is the combination of what the words hold in it.
`Field.read_clear_of_disjoint`, `Field.read_write_of_disjoint`: clearing or writing a field leaves the fields
beside it as they are.
`Field.read_encode`, `Field.read_encode_of_disjoint`: a number moved into a field is read there, and nowhere
else.
`Field.write_write`, `Field.write_comm_of_disjoint`: of two writes of a field the last one counts, and writes of
fields beside each other can be swapped.
-/

namespace ClockController

namespace Field

/-- Two ranges without a common bit. -/
def Disjoint (x y : Field) : Prop :=
  x.shift + x.width ≤ y.shift ∨ y.shift + y.width ≤ x.shift

instance (x y : Field) : Decidable (Disjoint x y) :=
  inferInstanceAs (Decidable (_ ∨ _))

theorem Disjoint.symm {x y : Field} (disjoint : Disjoint x y) : Disjoint y x :=
  Or.symm disjoint

/-! ### Reading combined words -/

@[simp]
theorem read_zero (field : Field) : field.read 0#32 = 0 := by
  simp [read]

theorem read_or (field : Field) (left right : Word) :
    field.read (left ||| right) = field.read left ||| field.read right := by
  apply Nat.eq_of_testBit_eq
  intro i
  rw [Nat.testBit_or, testBit_read, testBit_read, testBit_read, BitVec.getLsbD_or, Bool.and_or_distrib_left]

/-- A field is set exactly if it holds a number other than zero. -/
theorem isSet_eq_read (field : Field) (word : Word) : field.isSet word = (field.read word != 0) := by
  -- Bit `i` of what is read is bit `shift + i` of the word; both sides range over the same bits.
  have zero_iff : word &&& field.mask = 0 ↔ field.read word = 0 := by
    constructor
    · intro none
      apply Nat.eq_of_testBit_eq
      intro i
      have bit := congrArg (fun bits => bits.getLsbD (field.shift + i)) none
      simp only [BitVec.getLsbD_and, getLsbD_mask, BitVec.ofNat_eq_ofNat, BitVec.getLsbD_zero] at bit
      have outside : 32 ≤ field.shift + i → word.getLsbD (field.shift + i) = false :=
        BitVec.getLsbD_of_ge word _
      rw [testBit_read, Nat.zero_testBit]
      grind
    · intro none
      apply BitVec.eq_of_getLsbD_eq
      intro i _
      have bit := congrArg (fun number => number.testBit (i - field.shift)) none
      simp only [testBit_read, Nat.zero_testBit] at bit
      simp only [BitVec.getLsbD_and, getLsbD_mask, BitVec.ofNat_eq_ofNat, BitVec.getLsbD_zero]
      grind
  rw [isSet, Bool.eq_iff_iff, bne_iff_ne, bne_iff_ne, ne_eq, ne_eq, zero_iff]

/-! ### Clearing and encoding -/

@[simp]
theorem read_clear (field : Field) (word : Word) : field.read (field.clear word) = 0 := by
  apply Nat.eq_of_testBit_eq
  intro i
  rw [testBit_read, getLsbD_clear, getLsbD_mask, Nat.zero_testBit]
  by_cases inside : field.shift + i < 32
  · by_cases low : i < field.width
    · simp [inside, low]
    · simp [low]
  · simp [BitVec.getLsbD_of_ge word _ (Nat.le_of_not_lt inside)]

theorem read_clear_of_disjoint {field other : Field} (disjoint : Disjoint field other) (word : Word) :
    field.read (other.clear word) = field.read word := by
  unfold Disjoint at disjoint
  apply Nat.eq_of_testBit_eq
  intro i
  rw [testBit_read, testBit_read, getLsbD_clear, getLsbD_mask]
  grind

/-- A number that fits a field inside the word is read there after it was moved into the field. -/
theorem read_encode {field : Field} (inside : field.shift + field.width ≤ 32) {value : Nat}
    (fits : value < 1 <<< field.width) : field.read (field.encode value) = value := by
  have written := read_write field inside fits 0
  rwa [write, read_or, read_clear, Nat.zero_or] at written

theorem read_encode_of_disjoint {field other : Field} (disjoint : Disjoint field other) (value : Nat) :
    field.read (other.encode value) = 0 := by
  unfold Disjoint at disjoint
  apply Nat.eq_of_testBit_eq
  intro i
  rw [testBit_read, getLsbD_encode, Nat.zero_testBit]
  grind

@[simp]
theorem encode_zero (field : Field) : field.encode 0 = 0#32 := by
  simp [encode]

/-- A number that fits needs no cutting off when it is moved into a field. -/
theorem shiftLeft_eq_encode {field : Field} {value : Nat} (fits : value < 1 <<< field.width) :
    BitVec.ofNat 32 value <<< field.shift = field.encode value := by
  rw [Nat.one_shiftLeft] at fits
  apply BitVec.eq_of_getLsbD_eq
  intro i _
  have above : field.width ≤ i - field.shift → value.testBit (i - field.shift) = false := fun h =>
    Nat.testBit_lt_two_pow (Nat.lt_of_lt_of_le fits (Nat.pow_le_pow_right (by decide) h))
  rw [getLsbD_encode, BitVec.getLsbD_shiftLeft, BitVec.getLsbD_ofNat]
  grind

/-- A number moved into a field counts in units of the lowest bit of the field. -/
theorem toNat_encode {field : Field} (inside : field.shift + field.width ≤ 32) {value : Nat}
    (fits : value < 1 <<< field.width) : (field.encode value).toNat = value <<< field.shift := by
  have word : value <<< field.shift < 2 ^ 32 := by
    rw [Nat.one_shiftLeft] at fits
    rw [Nat.shiftLeft_eq]
    calc
      value * 2 ^ field.shift < 2 ^ field.width * 2 ^ field.shift :=
        Nat.mul_lt_mul_of_pos_right fits (Nat.two_pow_pos _)
      _ = 2 ^ (field.shift + field.width) := by rw [Nat.mul_comm, Nat.pow_add]
      _ ≤ 2 ^ 32 := Nat.pow_le_pow_right (by decide) inside
  have number : value < 2 ^ 32 := Nat.lt_of_le_of_lt Nat.le_shiftLeft word
  rw [← shiftLeft_eq_encode fits, BitVec.toNat_shiftLeft, BitVec.toNat_ofNat, Nat.mod_eq_of_lt number,
    Nat.mod_eq_of_lt word]

theorem read_write_of_disjoint {field other : Field} (disjoint : Disjoint field other) (value : Nat)
    (word : Word) : field.read (other.write value word) = field.read word := by
  rw [write, read_or, read_clear_of_disjoint disjoint, read_encode_of_disjoint disjoint, Nat.or_zero]

/-! ### Writing twice -/

/-- Of two writes of a field the last one counts. -/
theorem write_write (field : Field) (first second : Nat) (word : Word) :
    field.write second (field.write first word) = field.write second word := by
  apply BitVec.eq_of_getLsbD_eq
  intro bit _
  rw [write, write, write, BitVec.getLsbD_or, BitVec.getLsbD_or, getLsbD_clear, getLsbD_clear, BitVec.getLsbD_or,
    getLsbD_clear, getLsbD_encode, getLsbD_encode, getLsbD_mask]
  grind

/-- Writes of two fields without a common bit can be swapped. -/
theorem write_comm_of_disjoint {field other : Field} (disjoint : Disjoint field other) (first second : Nat)
    (word : Word) : other.write second (field.write first word) = field.write first (other.write second word) := by
  unfold Disjoint at disjoint
  apply BitVec.eq_of_getLsbD_eq
  intro bit _
  simp only [write, BitVec.getLsbD_or, getLsbD_clear, getLsbD_encode, getLsbD_mask]
  grind

end Field

end ClockController
