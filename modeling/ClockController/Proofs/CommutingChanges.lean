import ClockController.Proofs.GatingIndependence
import Mathlib.Logic.Function.Conjugate

/-!
# ClockController.Proofs.CommutingChanges

Changes of the registers that can be swapped with programming a loop.

## Proof strategy

Programming a loop changes its control words one after the other, each by itself. So what can be swapped with
the change of each word can be swapped with programming the loop. Two changes of single words can be swapped if
the words are different, or if they can be swapped in the word that they have in common; that is needed for the
power-down bit of the loop itself, which belongs to no mode.

## Main definitions

`RegisterBlock.update`: a change of one word.
`RegisterBlock.reprogrammed`: programming a loop, as a change of the registers.
`RegisterBlock.KeepsBuses`: a change that no bus selector sees.

## Main results

`Field.commute_write_clear`, `Field.commute_write_or`: a field and what lies beside it.
`RegisterBlock.commute_reprogrammed`: what can be swapped with the words of a loop can be swapped with programming it.
`RegisterBlock.commute_reprogrammed_reprogrammed`: programming another loop can.
`RegisterBlock.commute_reprogrammed_enabled`, `RegisterBlock.commute_reprogrammed_disabled`: switching any clock can.
-/

namespace ClockController

/-! ### Words -/

namespace Field

variable {field other : Field}

/-- Writing a field can be swapped with clearing one beside it. -/
theorem commute_write_clear (disjoint : Disjoint field other) (value : Nat) :
    Function.Commute (field.write value) other.clear := by
  unfold Disjoint at disjoint
  intro word
  apply BitVec.eq_of_getLsbD_eq
  intro bit _
  simp only [write, BitVec.getLsbD_or, getLsbD_clear, getLsbD_mask, getLsbD_encode]
  grind

/-- Writing a field can be swapped with setting bits that lie in fields beside it. -/
theorem commute_write_or {fields : List Field} {bits : Word} (inside : AgreeOutside fields 0 bits)
    (apart : ∀ other ∈ fields, Disjoint field other) (value : Nat) :
    Function.Commute (field.write value) (· ||| bits) := by
  intro word
  apply BitVec.eq_of_getLsbD_eq
  intro bit _
  have unset : field.mask.getLsbD bit = true → bits.getLsbD bit = false := by
    intro covers
    refine (inside bit fun other member => ?_).trans BitVec.getLsbD_zero
    have disjoint := apart other member
    unfold Disjoint at disjoint
    rw [getLsbD_mask] at covers ⊢
    grind
  simp only [write, BitVec.getLsbD_or, getLsbD_clear, getLsbD_encode]
  rw [getLsbD_mask] at unset ⊢
  grind

end Field

namespace ControlWords

/-- What merging makes of a single word. -/
def mergedWord (mode : Mode) (solved : ControlWords) (word : ControlWord) (current : Word) : Word :=
  (merge mode ⟨current, current, current⟩ solved).get word

/-- Merging treats every word by itself. -/
theorem get_merge (mode : Mode) (current solved : ControlWords) (word : ControlWord) :
    (merge mode current solved).get word = mergedWord mode solved word (current.get word) := by
  cases word <;> cases mode <;> rfl

/-- Merging a solution can be swapped with writing the power-down bit. -/
theorem commute_mergedWord_powerDown {mode : Mode} {solved : ControlWords} (inside : solved.InsideFields mode)
    (value : Nat) :
    Function.Commute (mergedWord mode solved .ctl1) (PllField.powerDown.write value) := by
  have sets := Field.commute_write_or (inside .ctl1) (fun _ member => Mode.powerDown_disjoint mode member) value
  have output := Field.commute_write_clear (by decide : Field.Disjoint PllField.powerDown PllField.output) value
  have fraction := Field.commute_write_clear (by decide : Field.Disjoint PllField.powerDown PllField.fraction) value
  symm
  cases mode with
  | integer | fixedRatio => exact sets.comp_right output
  | fractional | spreadSpectrum => exact sets.comp_right (fraction.comp_right output)

end ControlWords

/-! ### Registers -/

namespace RegisterBlock

theorem write_comm {x y : Register} (distinct : x ≠ y) (registers : RegisterBlock) (first second : Word) :
    (registers.write x first).write y second = (registers.write y second).write x first := by
  have slots : x.slot.val ≠ y.slot.val := fun same => distinct (Register.slot_injective (Fin.ext same))
  exact congrArg mk (Vector.set_comm _ _ slots)

/-- Of two writes of a register the last one counts. -/
theorem write_write (registers : RegisterBlock) (register : Register) (first second : Word) :
    (registers.write register first).write register second = registers.write register second :=
  congrArg mk (Vector.set_set _ _)

/-- The registers with the word of one of them changed. -/
def update (register : Register) (change : Word → Word) (registers : RegisterBlock) : RegisterBlock :=
  registers.write register (change (registers.read register))

/-- Changes of two words can be swapped, and so can changes of one word if they can be swapped there. -/
theorem commute_update {x y : Register} {first second : Word → Word}
    (commute : x = y → Function.Commute first second) :
    Function.Commute (update x first) (update y second) := by
  intro registers
  by_cases same : x = y
  · subst same
    simp only [update, read_write, if_true, write_write]
    rw [commute rfl]
  · simp only [update, read_write, if_neg same, if_neg (Ne.symm same)]
    exact write_comm (Ne.symm same) registers _ _

/-- The registers after a loop was programmed with solved words, which are merged into its own. -/
def reprogrammed (pll : Pll) (mode : Mode) (solved : ControlWords) (registers : RegisterBlock) : RegisterBlock :=
  registers.programmed pll mode (.merge mode (registers.controlWords pll) solved)

variable {pll : Pll} {mode : Mode} {solved : ControlWords}

/-- Programming a loop changes its words one after the other. -/
theorem reprogrammed_eq (pll : Pll) (mode : Mode) (solved : ControlWords) :
    let merged (word : ControlWord) := update (.pll pll word) (ControlWords.mergedWord mode solved word)
    reprogrammed pll mode solved =
      if mode = .spreadSpectrum then merged .ctl2 ∘ merged .ctl1 ∘ merged .ctl0 else merged .ctl1 ∘ merged .ctl0 := by
  intro merged
  have word (registers : RegisterBlock) := ControlWords.get_merge mode (registers.controlWords pll) solved
  funext registers
  have first := word registers .ctl0
  have second := word registers .ctl1
  have third := word registers .ctl2
  simp only [ControlWords.get, controlWords] at first second third
  unfold reprogrammed programmed
  split
  next =>
    simp only [merged, Function.comp, update, read_write, reduceCtorEq, if_false, Register.pll.injEq, and_false,
      ← first, ← second, ← third]
    rfl
  next =>
    simp only [merged, Function.comp, update, read_write, reduceCtorEq, if_false, Register.pll.injEq, and_false,
      ← first, ← second]
    rfl

/-- What can be swapped with changing the words of a loop can be swapped with programming it. -/
theorem commute_reprogrammed {other : RegisterBlock → RegisterBlock}
    (commute : ∀ word, Function.Commute (update (.pll pll word) (ControlWords.mergedWord mode solved word)) other) :
    Function.Commute (reprogrammed pll mode solved) other := by
  rw [reprogrammed_eq]
  split
  next => exact (commute .ctl2).comp_left ((commute .ctl1).comp_left (commute .ctl0))
  next => exact (commute .ctl1).comp_left (commute .ctl0)

/-- Every loop has words of its own. -/
theorem commute_reprogrammed_reprogrammed {other : Pll} (distinct : other ≠ pll) (otherMode : Mode)
    (otherSolved : ControlWords) :
    Function.Commute (reprogrammed pll mode solved) (reprogrammed other otherMode otherSolved) := by
  refine commute_reprogrammed fun word => (commute_reprogrammed fun otherWord => ?_).symm
  refine commute_update fun same => ?_
  cases same
  exact absurd rfl distinct

theorem commute_reprogrammed_update {register : Register} (plain : register.isControlWord = false)
    (change : Word → Word) : Function.Commute (reprogrammed pll mode solved) (update register change) := by
  refine commute_reprogrammed fun word => commute_update fun same => ?_
  rw [← same] at plain
  cases plain

/-- Also for the loop itself: the power-down bit belongs to no mode. -/
theorem commute_reprogrammed_powered (programmable : pll.isFixedRatio = false) (inside : solved.InsideFields mode)
    (other : Pll) (isOn : Bool) :
    Function.Commute (reprogrammed pll mode solved) (powered · other isOn) := by
  have power : (powered · other isOn) =
      update other.powerRegister (other.powerField.write (if isOn then 0 else 1)) := rfl
  rw [power]
  refine commute_reprogrammed fun word => commute_update fun same => ?_
  unfold Pll.powerRegister at same
  split at same
  next fixed =>
    cases same
    rw [programmable] at fixed
    cases fixed
  next =>
    cases same
    rw [Pll.powerField, programmable, if_neg Bool.false_ne_true]
    exact ControlWords.commute_mergedWord_powerDown inside _

theorem commute_reprogrammed_switched {id : ClockId} {clock : Clock} (found : Clock.find? id = some clock)
    {switch? : Option Switch} (has : clock.node.switch? = switch?) (clear set : Switch → Word) :
    Function.Commute (reprogrammed pll mode solved) (switched · clear set switch?) := by
  cases switch? with
  | some switch =>
    exact commute_reprogrammed_update (Clock.switch_register found has).1 fun word =>
      (word &&& ~~~clear switch) ||| set switch
  | none => exact Function.Commute.id_right

theorem commute_reprogrammed_routed (id : ClockId) :
    Function.Commute (reprogrammed pll mode solved) (routed · id) := by
  unfold routed
  cases sdhSelector? id with
  | some field => exact commute_reprogrammed_update rfl _
  | none => exact Function.Commute.id_right

theorem commute_reprogrammed_enabled {id : ClockId} {clock : Clock} (found : Clock.find? id = some clock)
    (programmable : pll.isFixedRatio = false) (inside : solved.InsideFields mode) :
    Function.Commute (reprogrammed pll mode solved) (enabled · id clock.node) := by
  have gated {switch? : Option Switch} (has : clock.node.switch? = switch?) :
      Function.Commute (reprogrammed pll mode solved)
        (fun registers => (registers.switched (fun _ => 0) Switch.mask switch?).routed id) :=
    (commute_reprogrammed_routed id).comp_right (commute_reprogrammed_switched found has _ _)
  cases built : clock.node with
  | pll other => exact commute_reprogrammed_powered programmable inside other true
  | _ => exact gated (by rw [built])

theorem commute_reprogrammed_disabled {id : ClockId} {clock : Clock} (found : Clock.find? id = some clock)
    (programmable : pll.isFixedRatio = false) (inside : solved.InsideFields mode) :
    Function.Commute (reprogrammed pll mode solved) (disabled · clock.node) := by
  have gated {switch? : Option Switch} (has : clock.node.switch? = switch?) :
      Function.Commute (reprogrammed pll mode solved) (switched · Switch.mask (fun _ => 0) switch?) :=
    commute_reprogrammed_switched found has _ _
  cases built : clock.node with
  | pll other =>
    simp only [disabled]
    cases other.isAlwaysOn with
    | true => exact Function.Commute.id_right
    | false => exact commute_reprogrammed_powered programmable inside other false
  | _ => exact gated (by rw [built])

end RegisterBlock

/-! ### Bus selectors -/

theorem Bus.place_apart_of_role {place : RegisterField} (role : place.register.role ≠ .select) (bus : Bus) :
    bus.mux.place.Apart place := by
  have selects : bus.mux.register.role = .select := by cases bus <;> rfl
  exact RegisterField.apart_of_role fun same => role (same.symm.trans selects)

namespace RegisterBlock

/-- The bus selectors read the same after a change of the registers. -/
def KeepsBuses (change : RegisterBlock → RegisterBlock) : Prop :=
  ∀ (registers : RegisterBlock) (bus : Bus),
    bus.mux.field.read ((change registers).read .clksel0) = bus.mux.field.read (registers.read .clksel0)

theorem keepsBuses_of_agreeOutside {change : RegisterBlock → RegisterBlock} {fields : List RegisterField}
    (agree : ∀ registers, AgreeOutside fields registers (change registers))
    (apart : ∀ written ∈ fields, ∀ bus : Bus, bus.mux.place.Apart written) : KeepsBuses change := by
  intro registers bus
  have register : bus.mux.register = .clksel0 := by cases bus <;> rfl
  have same := (agree registers).read_eq fun written member => apart written member bus
  rw [RegisterField.read, RegisterField.read, Mux.place, register] at same
  exact same

theorem keepsBuses_reprogrammed (pll : Pll) (mode : Mode) (solved : ControlWords) :
    KeepsBuses (reprogrammed pll mode solved) := by
  intro registers bus
  have other (word : ControlWord) : Register.clksel0 ≠ .pll pll word := nofun
  rw [reprogrammed, read_programmed_of_ne other]

variable {id : ClockId} {clock : Clock}

theorem keepsBuses_enabled (found : Clock.find? id = some clock) : KeepsBuses (enabled · id clock.node) := by
  refine keepsBuses_of_agreeOutside (fun registers => agreeOutside_enabled registers id clock.node) ?_
  intro written member bus
  rcases Node.mem_enableFields member with switches | ⟨field, routes, rfl⟩
  · exact Bus.place_apart_of_role (Node.role_switchPlace? found switches).1 bus
  · exact .inr (sdhSelector_disjoint routes bus)

theorem keepsBuses_disabled (found : Clock.find? id = some clock) : KeepsBuses (disabled · clock.node) := by
  refine keepsBuses_of_agreeOutside (fun registers => agreeOutside_disabled registers clock.node) ?_
  intro written member bus
  exact Bus.place_apart_of_role (Node.role_switchPlace? found (Node.mem_disableFields member)).1 bus

end RegisterBlock

end ClockController
