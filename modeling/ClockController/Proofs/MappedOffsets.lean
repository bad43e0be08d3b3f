import ClockController.Access

/-!
# ClockController.Proofs.MappedOffsets

Access by byte offset as a store of words.

The block is a run of raw words, and an offset is any number: also one between two words, in a gap between the
registers, or past the end of the block.

## Proof strategy

Reads and writes decode their offset to a register, and decoding is the inverse of the offset of a register. So
what an access reaches is the raw word at its own offset, and what is left are the offsets that decode to none.

## Main definitions

`RegisterBlock.word?`: the raw word at a byte offset.
`RegisterBlock.Writable`: the offsets that a write reaches, by their numbers.

## Main results

`RegisterBlock.writable_iff`: a write at an offset reaches a register exactly if the offset is one of them.
`RegisterBlock.word?_writeAt`, `RegisterBlock.word?_of_readable`: what is written, and what is read.
`RegisterBlock.stores_words`: reads, writes and modifications at all offsets.
-/

namespace ClockController

namespace RegisterBlock

variable {block other : RegisterBlock} {offset place : Nat} {value : Word}

/-- The raw word at a byte offset, whether a register lies there or not. -/
def word? (block : RegisterBlock) (offset : Nat) : Option Word :=
  if offset % 4 = 0 then block.words[offset / 4]? else none

/-- The offsets of words that can be written: those up to the clock output control, the three control words of
each of the six loops, and those of the clock frequency detector. -/
def Writable (offset : Nat) : Prop :=
  (offset ≤ 0x40 ∧ offset % 4 = 0) ∨
  (∃ loop < 6, ∃ word ∈ [0x0, 0x4, 0x8], offset = 0x60 + 0x10 * loop + word) ∨
  (0xC0 ≤ offset ∧ offset ≤ 0xD0 ∧ offset % 4 = 0)

instance (offset : Nat) : Decidable (Writable offset) :=
  inferInstanceAs (Decidable (_ ∨ _ ∨ _))

/-! ### Decoded offsets -/

theorem Writable.lt_blockEnd (writable : Writable offset) : offset < Register.blockEnd := by
  rcases writable with ⟨_, _⟩ | ⟨loop, _, word, member, rfl⟩ | ⟨_, _, _⟩
  all_goals simp only [Register.blockEnd]
  · omega
  · have : word ≤ 0x8 := by
      have all : ∀ word ∈ [0x0, 0x4, 0x8], word ≤ 0x8 := by decide
      exact all word member
    omega
  · omega

/-- A write at an offset reaches a register exactly if the offset is that of a word that can be written. -/
theorem writable_iff : Writable offset ↔ ∃ register, Register.ofWriteOffset? offset = some register := by
  constructor
  · intro writable
    have all : ∀ offset < Register.blockEnd, Writable offset → (Register.ofWriteOffset? offset).isSome := by
      decide +kernel
    exact Option.isSome_iff_exists.mp (all offset writable.lt_blockEnd writable)
  · rintro ⟨register, reaches⟩
    obtain ⟨rfl, writable⟩ := Register.ofWriteOffset?_eq_some_iff.mp reaches
    cases register with
    | pll loop word =>
      exact .inr (.inl ⟨loop.index, loop.index_lt, word.offset, by cases word <;> decide, rfl⟩)
    | status => cases writable
    | _ => decide

/-- A read reaches one register more, which is read only. -/
theorem readable_iff :
    Writable offset ∨ offset = Register.status.offset ↔ ∃ register, Register.ofOffset? offset = some register := by
  simp only [writable_iff, Register.ofWriteOffset?_eq_some_iff, Register.ofOffset?_eq_some_iff]
  constructor
  · rintro (⟨register, lies, _⟩ | rfl)
    · exact ⟨register, lies⟩
    · exact ⟨.status, rfl⟩
  · rintro ⟨register, rfl⟩
    cases register with
    | status => exact .inr rfl
    | _ => exact .inl ⟨_, rfl, rfl⟩

/-! ### Raw words -/

theorem word?_offset (block : RegisterBlock) (register : Register) :
    block.word? register.offset = some (block.read register) := by
  rw [word?, if_pos register.offset_mod_four]
  exact Vector.getElem?_eq_getElem register.slot.isLt

/-- Writing a register replaces the raw word at its offset and no other one. -/
theorem word?_write (block : RegisterBlock) (register : Register) (value : Word) (place : Nat) :
    (block.write register value).word? place = if place = register.offset then some value else block.word? place := by
  have aligned := register.offset_mod_four
  have slot : register.slot.val = register.offset / 4 := rfl
  unfold word? write
  by_cases words : place % 4 = 0
  · -- Two offsets of words are the same exactly if the words are.
    have same : register.slot.val = place / 4 ↔ place = register.offset := by omega
    rw [if_pos words, if_pos words, Vector.getElem?_set]
    simp only [same]
  · have apart : place ≠ register.offset := by
      rintro rfl
      exact words aligned
    rw [if_neg words, if_neg words, if_neg apart]

theorem word?_writeAt (block : RegisterBlock) (offset : Nat) (value : Word) (place : Nat) :
    (block.writeAt offset value).word? place =
      if Writable offset ∧ place = offset then some value else block.word? place := by
  unfold writeAt
  split
  next register reaches =>
    have writable := writable_iff.mpr ⟨register, reaches⟩
    rw [word?_write, (Register.ofWriteOffset?_eq_some_iff.mp reaches).1]
    simp only [writable, true_and]
  next none =>
    have dropped : ¬ Writable offset := by
      intro writable
      obtain ⟨register, reaches⟩ := writable_iff.mp writable
      rw [none] at reaches
      cases reaches
    simp only [dropped, false_and, if_false]

/-! ### Reading -/

theorem word?_of_readable (block : RegisterBlock) (readable : Writable offset ∨ offset = Register.status.offset) :
    block.word? offset = some (block.readAt offset) := by
  obtain ⟨register, reaches⟩ := readable_iff.mp readable
  rw [readAt, reaches, ← Register.ofOffset?_eq_some_iff.mp reaches]
  exact block.word?_offset register

theorem readAt_of_not_readable (block : RegisterBlock)
    (gap : ¬ (Writable offset ∨ offset = Register.status.offset)) : block.readAt offset = 0 := by
  unfold readAt
  split
  next register reaches => exact absurd (readable_iff.mpr ⟨register, reaches⟩) gap
  next => rfl

/-- What is read at an offset depends on the raw word there alone. -/
theorem readAt_congr (same : block.word? offset = other.word? offset) :
    block.readAt offset = other.readAt offset := by
  by_cases readable : Writable offset ∨ offset = Register.status.offset
  · rw [block.word?_of_readable readable, other.word?_of_readable readable] at same
    exact Option.some.inj same
  · rw [block.readAt_of_not_readable readable, other.readAt_of_not_readable readable]

theorem readAt_writeAt (block : RegisterBlock) (offset : Nat) (value : Word) (place : Nat) :
    (block.writeAt offset value).readAt place =
      if Writable offset ∧ place = offset then value else block.readAt place := by
  have words := block.word?_writeAt offset value place
  split
  next reaches =>
    obtain ⟨writable, rfl⟩ := reaches
    rw [if_pos ⟨writable, rfl⟩, word?_of_readable _ (.inl writable)] at words
    exact Option.some.inj words
  next misses =>
    rw [if_neg misses] at words
    exact readAt_congr words

/-! ### All offsets -/

/-- Access by offset is a store of words. At every offset, a write replaces the raw word there if it is one that can
be written, and no other word; otherwise nothing changes. A read gives the raw word there, also that of the
status register, and zero where nothing can be read. So a read after a write gives what was written at the same
offset, and what was there at any other; and a modification clears and sets bits of the word at its offset. -/
theorem stores_words (block : RegisterBlock) (offset place : Nat) (value clear set : Word) :
    (block.writeAt offset value).word? place =
      (if Writable offset ∧ place = offset then some value else block.word? place) ∧
    (if Writable offset ∨ offset = 0x50 then block.word? offset = some (block.readAt offset)
      else block.readAt offset = 0) ∧
    (block.writeAt offset value).readAt place =
      (if Writable offset ∧ place = offset then value else block.readAt place) ∧
    ((Access.modify offset clear set).apply block).word? place =
      (if Writable offset ∧ place = offset then some ((block.readAt offset &&& ~~~clear) ||| set)
        else block.word? place) := by
  refine ⟨block.word?_writeAt offset value place, ?_, block.readAt_writeAt offset value place,
    block.word?_writeAt offset (block.modified offset clear set) place⟩
  split
  next readable => exact block.word?_of_readable readable
  next gap => exact block.readAt_of_not_readable gap

/-- The offsets by their numbers are those of the registers in their order. -/
example : (List.range 0x100).filter (fun offset => Writable offset) =
    (Register.all.filter Register.isWritable).map Register.offset := by decide +kernel

end RegisterBlock

end ClockController
