import ClockController.Message
import ClockController.RegisterBlock

/-!
# ClockController.Access

Single accesses to the register block by byte offset.

## Main definitions

`Access`: a read, a write, or a modification of some bits.
`Access.apply`, `Access.answer?`, `Access.message?`: the block afterwards, the word read, and the report of a
dropped write.
-/

namespace ClockController

inductive Access where
  | read (offset : Nat)
  | write (offset : Nat) (value : Word)
  -- The bits of `clear` are cleared, and then those of `set` are set.
  | modify (offset : Nat) (clear set : Word)
deriving DecidableEq, Repr

namespace Access

/-- The offset and the value that an access writes. -/
def written? (block : RegisterBlock) : Access → Option (Nat × Word)
  | .read _ => none
  | .write offset value => some (offset, value)
  | .modify offset clear set => some (offset, block.modified offset clear set)

def apply (block : RegisterBlock) (access : Access) : RegisterBlock :=
  match access.written? block with
  | some (offset, value) => block.writeAt offset value
  | none => block

def answer? (block : RegisterBlock) : Access → Option Word
  | .read offset => some (block.readAt offset)
  | .write .. | .modify .. => none

/-- The report of a write that reaches no register. -/
def message? (block : RegisterBlock) (access : Access) : Option Message :=
  match access.written? block with
  | some (offset, value) =>
    if (Register.ofWriteOffset? offset).isSome then none else some (.droppedWrite offset value)
  | none => none

end Access

end ClockController
