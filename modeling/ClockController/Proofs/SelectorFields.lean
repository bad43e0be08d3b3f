import ClockController.Proofs.ClockTable

/-!
# ClockController.Proofs.SelectorFields

Selectors and dividers as fields of one register word, wherever they lie in it.

A selector is moved by clearing its bits and setting those of the new number. That replaces the field of the selector,
so that the laws of fields carry over to the checked operations on selectors and dividers.

## Main definitions

`Mux.moveTo`: a register word with the selector moved.
`Mux.Moved`: how a word with the selector moved differs from the word before.

## Main results

`Mux.moveTo_eq`: moving a selector replaces its field.
`Mux.moveTo_independent`: a selector inside its register can be moved to every number that fits, and nothing beside it
changes.
-/

namespace ClockController

namespace Mux

/-- A register word with the selector moved to a number: the bits of the selector are cleared, and then those of the
number are set. -/
def moveTo (mux : Mux) (index : Nat) (word : Word) : Checked Word := do
  let mask ← mux.field.checkedMask
  let value ← mux.field.checkedPlace index
  return (word &&& ~~~mask) ||| value

/-! ### Inside a register -/

variable {mux : Mux} {index : Nat}

/-- Moving a selector replaces its field. -/
theorem moveTo_eq (inside : mux.field.Inside) (fits : index < 1 <<< mux.field.width) (word : Word) :
    mux.moveTo index word = .ok (mux.field.write index word) := by
  rw [moveTo, inside.checkedMask_eq, Checked.ok_bind, Field.checkedPlace_eq inside.shift_lt, Checked.ok_bind,
    Field.shiftLeft_eq_encode fits]
  rfl

theorem selector_eq (inside : mux.field.Inside) (word : Word) : mux.selector word = .ok (mux.field.read word) :=
  inside.checkedRead_eq word

/-- How a word with the selector moved to a number differs from the word before: the selector reads the number, and
all else is as it was. -/
structure Moved (mux : Mux) (index : Nat) (word moved : Word) : Prop where
  reads : mux.selector moved = .ok index
  outside : ∃ mask, mux.field.checkedMask = .ok mask ∧
    ∀ bit, mask.getLsbD bit = false → moved.getLsbD bit = word.getLsbD bit
  selectors : ∀ other : Mux, other.field.Inside → mux.field.Disjoint other.field →
    ∃ selected, other.selector word = .ok selected ∧ other.selector moved = .ok selected
  ratios : ∀ divider : Divider, divider.field.Inside → mux.field.Disjoint divider.field →
    ∃ ratio, divider.ratio word = .ok ratio ∧ divider.ratio moved = .ok ratio
  again : mux.moveTo index moved = .ok moved
  -- Moved the other way round, the selectors end in the same word.
  swaps : ∀ (other : Mux) (number : Nat), other.field.Inside → number < 1 <<< other.field.width →
    mux.field.Disjoint other.field →
      ∃ both, other.moveTo number moved = .ok both ∧ other.moveTo number word >>= mux.moveTo index = .ok both

/-- Replacing the field of a selector leaves the fields beside it, and those beside it can be replaced before. -/
theorem moved_write (inside : mux.field.Inside) (fits : index < 1 <<< mux.field.width) (word : Word) :
    mux.Moved index word (mux.field.write index word) := by
  constructor
  case reads =>
    rw [selector_eq inside, Field.read_write mux.field inside.2.2 fits]
  case outside =>
    exact ⟨_, inside.checkedMask_eq, fun _ => mux.field.getLsbD_write_of_not_mem index word⟩
  case selectors =>
    intro other within disjoint
    refine ⟨_, selector_eq within word, ?_⟩
    rw [selector_eq within, Field.read_write_of_disjoint disjoint.symm]
  case ratios =>
    intro divider within disjoint
    refine ⟨_, Divider.ratio_eq within word, ?_⟩
    rw [Divider.ratio_eq within, Field.read_write_of_disjoint disjoint.symm]
  case again =>
    rw [moveTo_eq inside fits, Field.write_write]
  case swaps =>
    intro other number within otherFits disjoint
    refine ⟨_, moveTo_eq within otherFits _, ?_⟩
    rw [moveTo_eq within otherFits, Checked.ok_bind, moveTo_eq inside fits,
      Field.write_comm_of_disjoint disjoint]

/-- A selector inside its register can be moved to every number that fits. It reads that number then, no bit outside
of it changes, and so no other selector and no divider beside it does. Moving it there again changes nothing, and
selectors beside each other can be moved in any order. -/
theorem moveTo_independent (mux : Mux) (inside : mux.field.Inside) (word : Word) (index : Nat)
    (fits : index < 1 <<< mux.field.width) :
    ∃ moved, mux.moveTo index word = .ok moved ∧ mux.Moved index word moved :=
  ⟨_, moveTo_eq inside fits word, moved_write inside fits word⟩

/-- A selector at the upper end of a register in which every bit is set, beside a divider. -/
theorem moveTo_independent_upper :
    let mux : Mux := ⟨.clkdiv0, ⟨30, 2⟩, [.hxt, .aPll, .ePll, .vPll]⟩
    mux.field.Inside ∧ 1 < 1 <<< mux.field.width ∧
      Divider.emac0.field.Inside ∧ mux.field.Disjoint Divider.emac0.field ∧
      mux.moveTo 1 0xFFFFFFFF = .ok 0x7FFFFFFF ∧ mux.Moved 1 0xFFFFFFFF 0x7FFFFFFF ∧
      Divider.emac0.ratio 0x7FFFFFFF = .ok 8 := by
  intro mux
  have inside : mux.field.Inside := by decide
  have fits : 1 < 1 <<< mux.field.width := by decide
  have within : Divider.emac0.field.Inside := by decide
  have disjoint : mux.field.Disjoint Divider.emac0.field := by decide
  obtain ⟨moved, moves, differs⟩ := moveTo_independent mux inside 0xFFFFFFFF 1 fits
  have written : mux.moveTo 1 0xFFFFFFFF = .ok 0x7FFFFFFF :=
    (moveTo_eq inside fits _).trans (congrArg Except.ok (by decide))
  obtain rfl : moved = 0x7FFFFFFF := Except.ok.inj (moves.symm.trans written)
  obtain ⟨ratio, before, after⟩ := differs.ratios Divider.emac0 within disjoint
  have eighth : ratio = 8 := Except.ok.inj (before.symm.trans rfl)
  exact ⟨inside, fits, within, disjoint, moves, differs, eighth ▸ after⟩

end Mux

end ClockController
