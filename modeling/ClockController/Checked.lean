/-!
# ClockController.Checked

Arithmetic that refuses a result outside its width.

Rates are natural numbers of 64 bits and register words have 32 bits. A step that would leave these
ranges has no result: it ends in a `Fault`, and so does everything that depends on it.

## Main definitions

`Fault`: the ways in which a step can fail.
`Checked.mul`, `Checked.div`: products and quotients of rates.
`Checked.shiftLeft`, `Checked.shiftRight`: shifts of register words.

## Main results

`Checked.mul_eq_ok_iff`, `Checked.div_eq_ok_iff`: when a product or a quotient exists, and what it is then.
`Checked.bind_eq_ok_iff`: when steps one after the other have a result.
-/

namespace ClockController

/-- A 32-bit register word. -/
abbrev Word := BitVec 32

/-- The bound of the rates: they have 64 bits. -/
def rateBound : Nat := 1 <<< 64

inductive Fault where
  -- A product reaches the bound of the rates.
  | multiply
  -- A word is shifted left by its width or more.
  | shiftLeft
  -- A word is shifted right by its width or more.
  | shiftRight
  -- A quotient has divisor zero.
  | divideByZero
deriving DecidableEq, Repr

def Fault.message : Fault → String
  | .multiply => "attempt to multiply with overflow"
  | .shiftLeft => "attempt to shift left with overflow"
  | .shiftRight => "attempt to shift right with overflow"
  | .divideByZero => "attempt to divide by zero"

/-- A value, or the fault that prevented it. -/
abbrev Checked := Except Fault

namespace Checked

/-- The product of two rates, which has to stay below their bound. -/
def mul (a b : Nat) : Checked Nat :=
  if a * b < rateBound then .ok (a * b) else .error .multiply

/-- The quotient of two rates, rounded down. -/
def div (a b : Nat) : Checked Nat :=
  if b = 0 then .error .divideByZero else .ok (a / b)

/-- A word shifted left by less than its width; bits that leave the word are lost. -/
def shiftLeft (word : Word) (count : Nat) : Checked Word :=
  if count < 32 then .ok (word <<< count) else .error .shiftLeft

def shiftRight (word : Word) (count : Nat) : Checked Word :=
  if count < 32 then .ok (word >>> count) else .error .shiftRight

/-! ### When a step has a result -/

theorem rateBound_eq : rateBound = 18_446_744_073_709_551_616 := rfl

theorem mul_of_lt {a b : Nat} (h : a * b < rateBound) : mul a b = .ok (a * b) :=
  if_pos h

theorem mul_of_le {a b : Nat} (h : rateBound ≤ a * b) : mul a b = .error .multiply :=
  if_neg (Nat.not_lt.mpr h)

theorem mul_eq_ok_iff {a b c : Nat} : mul a b = .ok c ↔ a * b < rateBound ∧ a * b = c := by
  unfold mul
  split
  next fits => exact ⟨fun h => ⟨fits, Except.ok.inj h⟩, fun h => congrArg Except.ok h.2⟩
  next exceeds => exact ⟨nofun, fun h => absurd h.1 exceeds⟩

theorem div_of_pos {a b : Nat} (h : 0 < b) : div a b = .ok (a / b) :=
  if_neg (Nat.pos_iff_ne_zero.mp h)

theorem div_eq_ok_iff {a b c : Nat} : div a b = .ok c ↔ 0 < b ∧ a / b = c := by
  unfold div
  split
  next zero => exact ⟨nofun, fun h => absurd zero (Nat.ne_of_gt h.1)⟩
  next nonzero =>
    exact ⟨fun h => ⟨Nat.pos_of_ne_zero nonzero, Except.ok.inj h⟩, fun h => congrArg Except.ok h.2⟩

theorem shiftLeft_of_lt {word : Word} {count : Nat} (h : count < 32) :
    shiftLeft word count = .ok (word <<< count) :=
  if_pos h

theorem shiftRight_of_lt {word : Word} {count : Nat} (h : count < 32) :
    shiftRight word count = .ok (word >>> count) :=
  if_pos h

@[simp]
theorem ok_bind {α β : Type} (a : α) (next : α → Checked β) :
    ((Except.ok a : Checked α) >>= next) = next a :=
  rfl

@[simp]
theorem error_bind {α β : Type} (fault : Fault) (next : α → Checked β) :
    ((Except.error fault : Checked α) >>= next) = .error fault :=
  rfl

/-- Steps one after the other have a result exactly if each of them has one. -/
theorem bind_eq_ok_iff {α β : Type} {first : Checked α} {next : α → Checked β} {result : β} :
    first >>= next = .ok result ↔ ∃ value, first = .ok value ∧ next value = .ok result := by
  cases first with
  | ok value => exact ⟨fun ends => ⟨value, rfl, ends⟩, fun ⟨_, same, ends⟩ => Except.ok.inj same ▸ ends⟩
  | error fault => exact ⟨nofun, nofun⟩

end Checked

end ClockController
