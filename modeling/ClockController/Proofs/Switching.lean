import ClockController.Proofs.GatingIndependence

/-!
# ClockController.Proofs.Switching

Switching clocks on and off, and asking whether they are on.

## Proof strategy

A clock is switched by one bit, which means on while it is clear or while it is set. The bits of two clocks are
the same or apart. So a write of the bit decides the answer for every clock that it switches, and leaves the
answer for every other one as it is.

## Main definitions

`Control`: the bit that switches a clock, and what it holds while the clock is on.
`Node.control?`, `ClockId.control?`: that of a clock.

## Main results

`Clock.control_same_or_apart`: two clocks share their switch, or the switches have no bit in common.
`RegisterBlock.isOn_enabled`, `RegisterBlock.isOn_disabled`: which clocks are on after one was switched.
`ClockId.switching_agrees`: what is answered after a clock was switched.
-/

namespace ClockController

open ClockController.Action

/-! ### Switches -/

/-- The bit that switches a clock, and what it holds while the clock is on. -/
structure Control where
  place : RegisterField
  onValue : Nat
deriving DecidableEq, Repr

def Control.isOn (control : Control) (registers : RegisterBlock) : Bool :=
  control.place.read registers == control.onValue

/-- A loop runs while its power-down bit is clear, a gate is open while its enable bit is set. -/
def Node.control? : Node → Option Control
  | .pll loop => some ⟨loop.powerPlace, 0⟩
  | node => node.switch?.map fun switch => ⟨switch.place, 1⟩

def ClockId.control? (id : ClockId) : Option Control :=
  (Clock.find? id).bind fun clock => clock.node.control?

theorem ClockId.control?_of_find? {id : ClockId} {clock : Clock} (found : Clock.find? id = some clock) :
    id.control? = clock.node.control? := by
  rw [control?, found]
  rfl

theorem Node.control?_cases {node : Node} {control : Control} (has : node.control? = some control) :
    (∃ loop, node = .pll loop ∧ control = ⟨loop.powerPlace, 0⟩) ∨
      ∃ switch, node.switch? = some switch ∧ control = ⟨switch.place, 1⟩ := by
  cases node with
  | pll loop => exact .inl ⟨loop, rfl, (Option.some.inj has).symm⟩
  | _ =>
    obtain ⟨switch, hasSwitch, rfl⟩ := Option.map_eq_some_iff.mp has
    exact .inr ⟨switch, hasSwitch, rfl⟩

theorem Node.switchPlace?_eq (node : Node) : node.switchPlace? = node.control?.map Control.place := by
  have gated (switch? : Option Switch) : switch?.map Switch.place =
      (switch?.map fun switch => Control.mk switch.place 1).map Control.place := by
    rw [Option.map_map]
    rfl
  cases node with
  | pll loop => rfl
  | _ => exact gated _

theorem Switch.same_or_apart (x y : Switch) : x = y ∨ x.place.Apart y.place := by
  by_cases register : x.register = y.register
  · by_cases bit : x.bit = y.bit
    · left
      cases x
      cases y
      cases register
      cases bit
      rfl
    · have distinct : x.bit.val ≠ y.bit.val := fun same => bit (Fin.ext same)
      have disjoint : x.bit.val + 1 ≤ y.bit.val ∨ y.bit.val + 1 ≤ x.bit.val := by omega
      exact .inr (.inr disjoint)
  · exact .inr (.inl register)

theorem Pll.power_same_or_apart (x y : Pll) : x = y ∨ x.powerPlace.Apart y.powerPlace := by
  cases x <;> cases y <;> decide

theorem Pll.powerPlace_injective {x y : Pll} (same : x.powerPlace = y.powerPlace) : x = y := by
  revert same
  cases x <;> cases y <;> decide

/-- Two clocks share their switch, or the switches have no bit in common. -/
theorem Clock.control_same_or_apart {id other : ClockId} {clock passing : Clock} (found : find? id = some clock)
    (foundOther : find? other = some passing) {control another : Control}
    (has : clock.node.control? = some control) (hasOther : passing.node.control? = some another) :
    control = another ∨ control.place.Apart another.place := by
  rcases Node.control?_cases has with ⟨loop, _, rfl⟩ | ⟨switch, hasSwitch, rfl⟩
  all_goals rcases Node.control?_cases hasOther with ⟨second, _, rfl⟩ | ⟨another, hasAnother, rfl⟩
  · exact (loop.power_same_or_apart second).imp_left fun same => by rw [same]
  · refine .inr (RegisterField.apart_of_role ?_)
    rw [Pll.powerPlace, Pll.role_powerRegister, Switch.place, role_switch foundOther hasAnother]
    decide
  · refine .inr (RegisterField.apart_of_role ?_)
    rw [Pll.powerPlace, Pll.role_powerRegister, Switch.place, role_switch found hasSwitch]
    decide
  · exact (switch.same_or_apart another).imp_left fun same => by rw [same]

/-- The switches of two clocks that share none have no bit in common. -/
theorem Clock.switchPlace_apart {id other : ClockId} {clock passing : Clock} (found : find? id = some clock)
    (foundOther : find? other = some passing) (apart : passing.node.control? ≠ clock.node.control?)
    {place another : RegisterField} (has : passing.node.switchPlace? = some place)
    (hasOther : clock.node.switchPlace? = some another) : place.Apart another := by
  rw [Node.switchPlace?_eq, Option.map_eq_some_iff] at has hasOther
  obtain ⟨control, controls, rfl⟩ := has
  obtain ⟨own, controlsOwn, rfl⟩ := hasOther
  refine (control_same_or_apart foundOther found controls controlsOwn).resolve_left fun same => apart ?_
  rw [controls, controlsOwn, same]

/-! ### Clocks that are on -/

namespace Switch

theorem set_eq_write (switch : Switch) (word : Word) :
    (word &&& ~~~(0 : Word)) ||| switch.mask = switch.place.field.write 1 word := by
  have encodes : switch.place.field.encode 1 = switch.place.field.mask := by
    have bit : BitVec.ofNat 32 1 &&& lowMask 1 = lowMask 1 := by decide
    rw [Field.encode, Field.mask, Switch.place, bit]
  rw [switch.mask_eq, Field.write, Field.clear, encodes]
  apply BitVec.eq_of_getLsbD_eq
  intro bit _
  simp only [BitVec.getLsbD_or, BitVec.getLsbD_and, BitVec.getLsbD_not, BitVec.ofNat_eq_ofNat,
    BitVec.getLsbD_zero]
  grind

theorem clear_eq_write (switch : Switch) (word : Word) :
    (word &&& ~~~switch.mask) ||| 0 = switch.place.field.write 0 word := by
  have encodes : switch.place.field.encode 0 = 0 := by simp [Field.encode]
  rw [switch.mask_eq, Field.write, Field.clear, encodes]

end Switch

namespace RegisterBlock

variable {id other : ClockId} {clock passing : Clock}

theorem isOn_eq_all (registers : RegisterBlock) (node : Node) :
    registers.isOn node = node.control?.all fun control => control.isOn registers := by
  have gated (switch? : Option Switch) : registers.isOpen switch? =
      (switch?.map fun switch => Control.mk switch.place 1).all fun control => control.isOn registers := by
    cases switch? with
    | none => rfl
    | some switch =>
      have bit : switch.place.read registers < 2 := Field.read_lt _ _
      change (switch.place.read registers != 0) = (switch.place.read registers == 1)
      rw [Bool.eq_iff_iff, bne_iff_ne, beq_iff_eq]
      omega
  cases node with
  | pll loop => rfl
  | _ => exact gated _

/-- A field that was written holds what was written. -/
theorem read_write_place (registers : RegisterBlock) (place : RegisterField)
    (inside : place.field.shift + place.field.width ≤ 32) {value : Nat} (fits : value < 1 <<< place.field.width) :
    place.read (registers.write place.register (place.field.write value (registers.read place.register))) =
      value := by
  rw [RegisterField.read, read_write, if_pos rfl, Field.read_write _ inside fits]

theorem read_powered (registers : RegisterBlock) (pll : Pll) (isOn : Bool) :
    pll.powerPlace.read (registers.powered pll isOn) = if isOn then 0 else 1 := by
  have inside : pll.powerPlace.field.shift + pll.powerPlace.field.width ≤ 32 := by cases pll <;> decide
  refine registers.read_write_place pll.powerPlace inside ?_
  cases pll <;> cases isOn <;> decide

theorem read_switched (registers : RegisterBlock) (switch : Switch) :
    switch.place.read (registers.switched (fun _ => 0) Switch.mask (some switch)) = 1 ∧
      switch.place.read (registers.switched Switch.mask (fun _ => 0) (some switch)) = 0 := by
  have inside : switch.place.field.shift + switch.place.field.width ≤ 32 := switch.bit.isLt
  rw [switched, switched, switch.set_eq_write, switch.clear_eq_write]
  exact ⟨registers.read_write_place switch.place inside Nat.one_lt_two,
    registers.read_write_place switch.place inside Nat.zero_lt_two⟩

/-- What a clock holds that was switched on itself. -/
theorem isOn_enabled_self (found : Clock.find? id = some clock) (registers : RegisterBlock) :
    (registers.enabled id clock.node).isOn clock.node = true := by
  have gated {switch? : Option Switch} (has : clock.node.switch? = switch?) :
      ((registers.switched (fun _ => 0) Switch.mask switch?).routed id).isOpen switch? = true := by
    cases switch? with
    | none => rfl
    | some switch =>
      -- Routing comes afterwards, and writes a selection register.
      let opened := registers.switched (fun _ => 0) Switch.mask (some switch)
      have kept : switch.place.read (opened.routed id) = switch.place.read opened := by
        refine (agreeOutside_routed opened id).read_eq fun written member => ?_
        obtain ⟨field, _, rfl⟩ := List.mem_map.mp member
        refine RegisterField.apart_of_role ?_
        rw [Switch.place, Clock.role_switch found has]
        intro same
        cases same
      rw [isOpen, kept, (registers.read_switched switch).1]
      rfl
  cases built : clock.node with
  | pll pll => exact congrArg (· == 0) (registers.read_powered pll true)
  | _ => exact gated (by rw [built])

theorem isOn_disabled_self {node : Node} (switches : ∃ control, node.control? = some control)
    (stops : ∀ pll, node = .pll pll → pll.isAlwaysOn = false) (registers : RegisterBlock) :
    (registers.disabled node).isOn node = false := by
  obtain ⟨control, has⟩ := switches
  have gated {switch? : Option Switch} (has : switch?.map (Control.mk ·.place 1) = some control) :
      (registers.switched Switch.mask (fun _ => 0) switch?).isOpen switch? = false := by
    obtain ⟨switch, rfl, _⟩ := Option.map_eq_some_iff.mp has
    rw [isOpen, (registers.read_switched switch).2]
    rfl
  cases node with
  | pll pll =>
    rw [disabled, stops pll rfl, if_neg Bool.false_ne_true]
    exact congrArg (· == 0) (registers.read_powered pll false)
  | _ => exact gated has

/-- Which clocks are on after one was switched on: those that share its switch, and those that were on. -/
theorem isOn_enabled (found : Clock.find? id = some clock) (foundOther : Clock.find? other = some passing)
    (registers : RegisterBlock) :
    (registers.enabled id clock.node).isOn passing.node =
      if passing.node.control? = clock.node.control? then true else registers.isOn passing.node := by
  split
  next same => rw [isOn_eq_all, same, ← isOn_eq_all, isOn_enabled_self found]
  next apart =>
    refine isOn_congr fun place has =>
      (registers.agreeOutside_enabled id clock.node).read_eq fun written member => ?_
    rcases Node.mem_enableFields member with switches | ⟨field, _, rfl⟩
    · exact Clock.switchPlace_apart found foundOther apart has switches
    · exact RegisterField.apart_of_role (Node.role_switchPlace? foundOther has).1

/-- Switching a clock off leaves the clocks as they are that do not share its switch. -/
theorem isOn_disabled (found : Clock.find? id = some clock) (foundOther : Clock.find? other = some passing)
    (apart : passing.node.control? ≠ clock.node.control?) (registers : RegisterBlock) :
    (registers.disabled clock.node).isOn passing.node = registers.isOn passing.node := by
  refine isOn_congr fun place has =>
    (registers.agreeOutside_disabled clock.node).read_eq fun written member => ?_
  exact Clock.switchPlace_apart found foundOther apart has (Node.mem_disableFields member)

end RegisterBlock

/-! ### Answers -/

theorem Node.disableResult_eq (node : Node) :
    node.disableResult = if node.control? = none then .error (.refused .noSupport) else .ok () := by
  have gated (switch? : Option Switch) :
      (if switch?.isSome then .ok () else .error (.refused .noSupport) : Except Failure Unit) =
        if (switch?.map fun switch => Control.mk switch.place 1) = none then .error (.refused .noSupport)
        else .ok () := by
    cases switch? <;> rfl
  cases node with
  | pll loop => rfl
  | _ => exact gated _

namespace ClockId

variable {id other : ClockId} {clock passing : Clock}

/-- A clock without a switch counts as on. -/
theorem result_isEnabled_of_control?_none (found : Clock.find? id = some clock)
    (fixed : clock.node.control? = none) (state : State) : ((isEnabled id).outcome state).result = .ok true := by
  rw [result_isEnabled found, RegisterBlock.isOn_eq_all, fixed]
  rfl

theorem result_isEnabled_enable (found : Clock.find? id = some clock)
    (foundOther : Clock.find? other = some passing) (state : State) :
    ((isEnabled other).outcome ((enable id).outcome state).state).result =
      .ok (if passing.node.control? = clock.node.control? then true else state.registers.isOn passing.node) := by
  obtain ⟨_, registers, _⟩ := (leads_enable found state.registers state.cache).outcome
  rw [result_isEnabled foundOther, registers, RegisterBlock.isOn_enabled found foundOther]

theorem result_isEnabled_disable (found : Clock.find? id = some clock)
    (foundOther : Clock.find? other = some passing) (apart : passing.node.control? ≠ clock.node.control?)
    (state : State) :
    ((isEnabled other).outcome ((disable id).outcome state).state).result =
      .ok (state.registers.isOn passing.node) := by
  obtain ⟨_, registers, _⟩ := (leads_disable found state.registers state.cache).outcome
  rw [result_isEnabled foundOther, registers, RegisterBlock.isOn_disabled found foundOther apart]

/-- Switching off a loop that is never powered down changes nothing and is reported. -/
theorem outcome_disable_of_alwaysOn (found : Clock.find? id = some clock) {pll : Pll}
    (isPll : clock.node = .pll pll) (always : pll.isAlwaysOn = true) (state : State) :
    (disable id).outcome state = ⟨.ok (), { state with journal := { log := [.alwaysOn pll] } }⟩ := by
  rw [Action.outcome, disable, runOn_bind, runOn_node_of_find? found, isPll]
  dsimp only
  rw [if_pos always, runOn_report]
  rfl

/-- From any state, a clock is on after it was switched on, and off after it was switched off, if it can be. What
is answered for other clocks changes exactly with those that share its switch. -/
theorem switching_agrees (known : id < ClockId.count) (state : State) :
    let enabled := (enable id).outcome state
    let disabled := (disable id).outcome state
    (enabled.result = .ok () ∧ ((isEnabled id).outcome enabled.state).result = .ok true) ∧
    -- Only a clock without a switch refuses to be switched off, and it is always on.
    disabled.result = (if id.control? = none then .error (.refused .noSupport) else .ok ()) ∧
    (id.control? = none → ∀ any, ((isEnabled id).outcome any).result = .ok true) ∧
    -- The processor and memory loops are left as they are.
    (disabled.result = .ok () → (∀ pll, id = Pll.id pll → pll.isAlwaysOn = false) →
      ((isEnabled id).outcome disabled.state).result = .ok false) ∧
    (∀ pll, id = Pll.id pll → pll.isAlwaysOn = true →
      disabled.state = { state with journal := { log := [.alwaysOn pll] } }) ∧
    (∀ other : ClockId, other.control? ≠ id.control? ∨ ClockId.count ≤ other →
      ((isEnabled other).outcome enabled.state).result = ((isEnabled other).outcome state).result ∧
      ((isEnabled other).outcome disabled.state).result = ((isEnabled other).outcome state).result) ∧
    ∀ other : ClockId, other < ClockId.count → other.control? = id.control? →
      ∀ any, ((isEnabled other).outcome any).result = ((isEnabled id).outcome any).result := by
  intro enabled disabled
  obtain ⟨clock, found⟩ := Option.isSome_iff_exists.mp ((Clock.isSome_find?_iff id).mpr known)
  have enables := (leads_enable found state.registers state.cache).outcome
  have disables := (leads_disable found state.registers state.cache).outcome
  rw [control?_of_find? found]
  refine ⟨⟨enables.1, ?_⟩, disables.1.trans clock.node.disableResult_eq,
    fun fixed => result_isEnabled_of_control?_none found fixed, fun ends stops => ?_, fun pll same always => ?_,
    fun other apart => ?_, fun other knownOther shares any => ?_⟩
  · rw [result_isEnabled_enable found found, if_pos rfl]
  · rw [disables.1, Node.disableResult_eq] at ends
    have switches : ∃ control, clock.node.control? = some control := by
      refine Option.ne_none_iff_exists'.mp fun fixed => ?_
      rw [if_pos fixed] at ends
      cases ends
    rw [result_isEnabled found, disables.2.1, RegisterBlock.isOn_disabled_self switches]
    exact fun pll isPll => stops pll (Clock.id_of_pll found isPll)
  · obtain ⟨loop, foundLoop, isPll⟩ := pll.find?_id
    rw [← same, found] at foundLoop
    cases foundLoop
    exact congrArg Outcome.state (outcome_disable_of_alwaysOn found isPll always state)
  · cases foundOther : Clock.find? other with
    | none =>
      have unknown (any : State) := result_isEnabled_of_none foundOther any
      exact ⟨(unknown _).trans (unknown _).symm, (unknown _).trans (unknown _).symm⟩
    | some passing =>
      have apart := apart.resolve_right (Nat.not_le_of_lt (Clock.lt_count_of_find? foundOther))
      rw [control?_of_find? foundOther] at apart
      rw [result_isEnabled_enable found foundOther, if_neg apart, result_isEnabled_disable found foundOther apart,
        result_isEnabled foundOther]
      exact ⟨rfl, rfl⟩
  · obtain ⟨passing, foundOther⟩ := Option.isSome_iff_exists.mp ((Clock.isSome_find?_iff other).mpr knownOther)
    rw [control?_of_find? foundOther] at shares
    rw [result_isEnabled found, result_isEnabled foundOther, RegisterBlock.isOn_eq_all, shares,
      ← RegisterBlock.isOn_eq_all]

/-- The gate of the display controller shares its switch with the divider behind it, not with the gate next to
it. -/
theorem switching_agrees_display :
    let state := (Board.start {} .zero).state
    (18 : ClockId) < ClockId.count ∧
      ((isEnabled 62).outcome ((enable 18).outcome state).state).result = .ok true ∧
      ((isEnabled 19).outcome ((enable 18).outcome state).state).result = .ok false := by
  have known : (18 : ClockId) < ClockId.count := by decide
  obtain ⟨on, _, _, _, _, apart, shares⟩ := switching_agrees known (Board.start {} .zero).state
  exact ⟨known, (shares 62 (by decide) rfl _).trans on.2, (apart 19 (.inl (by decide))).1.trans rfl⟩

end ClockId

end ClockController
