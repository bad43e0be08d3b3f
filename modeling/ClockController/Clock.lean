import ClockController.Field
import ClockController.Register
import ClockController.Root

/-!
# ClockController.Clock

What a clock is made of.

A clock is a loop, or it is at most two levels deep: a selector picks one of a few roots, a divider divides
it, and a gate switches the result on and off. A clock without a selector is fed by the root of its gate.

## Main definitions

`Switch`, `Gate`, `Mux`, `Divider`: the parts.
`Node`: how they are put together.
`Clock`: a named node.
-/

namespace ClockController

/-- The number by which a clock is addressed. Any number may be asked for; few name a clock. -/
abbrev ClockId := Nat

structure Switch where
  register : Register
  bit : Fin 32
deriving DecidableEq, Repr

def Switch.mask (switch : Switch) : Word :=
  BitVec.twoPow 32 switch.bit

/-- A gate and the root that feeds it when no selector is in front. -/
structure Gate where
  -- Missing where the clock cannot be switched off.
  switch? : Option Switch
  root : Root
deriving DecidableEq, Repr

/-- A selector field and the roots that it chooses from, in the order of its values. -/
structure Mux where
  register : Register
  field : Field
  parents : List Root
deriving DecidableEq, Repr

namespace Mux

def selector (mux : Mux) (word : Word) : Checked Nat :=
  mux.field.checkedRead word

/-- The root selected in a register word. A value without a root is a reserved one. -/
def selected (mux : Mux) (word : Word) : Checked Root := do
  let selector ← mux.selector word
  return mux.parents[selector]?.getD .unspecified

end Mux

/-- A divider field and the ratio that each of its values stands for. -/
structure Divider where
  register : Register
  field : Field
  table : List Nat
deriving DecidableEq, Repr

namespace Divider

/-- The ratio of a divider value. A value without a ratio divides by one. -/
def ratioOf (table : List Nat) (value : Nat) : Nat :=
  match table[value]? with
  | some ratio => if ratio = 0 then 1 else ratio
  | none => 1

def ratio (divider : Divider) (word : Word) : Checked Nat := do
  let value ← divider.field.checkedRead word
  return ratioOf divider.table value

theorem ratioOf_pos (table : List Nat) (value : Nat) : 0 < ratioOf table value := by
  unfold ratioOf
  split
  next ratio _ =>
    split
    next => exact Nat.one_pos
    next nonzero => exact Nat.pos_of_ne_zero nonzero
  next => exact Nat.one_pos

end Divider

inductive Node where
  | pll (loop : Pll)
  | gate (gate : Gate)
  | mux (gate : Gate) (mux : Mux)
  -- Dividers are read only. What is divided is the selection, or else the root of the gate.
  | divider (gate : Gate) (mux? : Option Mux) (divider : Divider)
deriving DecidableEq, Repr

/-- The gate of a node; a loop has none. -/
def Node.gate? : Node → Option Gate
  | .pll _ => none
  | .gate g | .mux g _ | .divider g _ _ => some g

def Node.switch? (node : Node) : Option Switch :=
  node.gate?.bind Gate.switch?

structure Clock where
  name : String
  node : Node
deriving DecidableEq, Repr

end ClockController
