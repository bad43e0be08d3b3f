import ClockController.Proofs.StateRelation
import ClockController.Proofs.WrittenFields

/-!
# ClockController.Proofs.Footprint

The bits of the register block that a request may change.

## Proof strategy

Requests that only ask write nothing. Of the others it is known in closed form what they leave in the registers,
also where they are refused or end in a fault, and that differs from what was there inside the footprint only.

## Main definitions

`Request.footprint`: the fields of the registers that a request may change.

## Main results

`Board.changesOnly_setRate`, `ClockId.changesOnly_enable`, `ClockId.changesOnly_disable`: the operations that move
something.
`Board.bits_outside_footprint`: starting changes no bit, and a request none outside its footprint.
-/

namespace ClockController

open ClockController.Action

/-! ### Footprints -/

def Mux.place (mux : Mux) : RegisterField :=
  ⟨mux.register, mux.field⟩

def Switch.place (switch : Switch) : RegisterField :=
  ⟨switch.register, ⟨switch.bit, 1⟩⟩

def Pll.powerPlace (pll : Pll) : RegisterField :=
  ⟨pll.powerRegister, pll.powerField⟩

namespace Node

/-- The fields that a rate request may change: those of the cached mode of a loop, or the selector. -/
def rateFields (cache : Cache) : Node → List RegisterField
  | .pll loop => if loop.isFixedRatio then [] else loop.fields (cache.plls.get loop).mode
  | node => node.mux?.toList.map Mux.place

/-- The power-down bit of a loop; the enable bit of a gate, and the selector of an SD host. -/
def enableFields (id : ClockId) : Node → List RegisterField
  | .pll loop => [loop.powerPlace]
  | node => node.switch?.toList.map Switch.place ++ (sdhSelector? id).toList.map (⟨.clksel0, ·⟩)

def disableFields : Node → List RegisterField
  | .pll loop => if loop.isAlwaysOn then [] else [loop.powerPlace]
  | node => node.switch?.toList.map Switch.place

theorem rateFields_of_mux {node : Node} {mux : Mux} (has : node.mux? = some mux) (cache : Cache) :
    node.rateFields cache = [mux.place] := by
  have selects : node.rateFields cache = node.mux?.toList.map Mux.place := by
    cases node with
    | pll loop => cases has
    | _ => rfl
  rw [selects, has]
  rfl

/-- What a rate request may change are fields of a loop that can be programmed, or it is the selector. -/
theorem mem_rateFields {node : Node} {cache : Cache} {place : RegisterField}
    (member : place ∈ node.rateFields cache) :
    (∃ loop word, node = .pll loop ∧ loop.isFixedRatio = false ∧ place.register = .pll loop word ∧
        place.field ∈ (cache.plls.get loop).mode.fields word) ∨
      ∃ mux, node.mux? = some mux ∧ place = mux.place := by
  cases node with
  | pll loop =>
    left
    simp only [rateFields] at member
    split at member
    next => cases member
    next programmable =>
      obtain ⟨word, _, fields⟩ := List.mem_flatMap.mp member
      obtain ⟨field, belongs, rfl⟩ := List.mem_map.mp fields
      exact ⟨loop, word, rfl, Bool.eq_false_iff.mpr programmable, rfl, belongs⟩
  | _ =>
    right
    obtain ⟨mux, has, rfl⟩ := List.mem_map.mp member
    exact ⟨mux, Option.mem_toList.mp has, rfl⟩

/-- A rate request reaches control words and selectors. -/
theorem role_rateFields {id : ClockId} {clock : Clock} (found : Clock.find? id = some clock) {cache : Cache}
    {place : RegisterField} (member : place ∈ clock.node.rateFields cache) :
    place.register.role = .control ∨ place.register.role = .select := by
  rcases mem_rateFields member with ⟨loop, word, _, _, register, _⟩ | ⟨mux, has, rfl⟩
  · rw [register]
    exact .inl rfl
  · exact .inr (Clock.role_mux found has)

end Node

/-- What the fields are for the node of a clock. An unknown id has none. -/
def ClockId.fields (id : ClockId) (ofNode : Node → List RegisterField) : List RegisterField :=
  match Clock.find? id with
  | some clock => ofNode clock.node
  | none => []

/-- The fields of the registers that a request of the controller may change. -/
def Request.footprint (cache : Cache) : Request → List RegisterField
  | .setRate id _ => id.fields (Node.rateFields cache)
  | .peripheralSetRate clock _ => clock.id.fields (Node.rateFields cache)
  | .enable id => id.fields (Node.enableFields id)
  | .peripheralEnable clock => clock.id.fields (Node.enableFields clock.id)
  | .disable id => id.fields Node.disableFields
  | .peripheralDisable clock => clock.id.fields Node.disableFields
  | _ => []

/-! ### Switches -/

theorem Switch.mask_eq (switch : Switch) : switch.mask = switch.place.field.mask := by
  apply BitVec.eq_of_getLsbD_eq
  intro i _
  rw [Switch.mask, Switch.place, BitVec.getLsbD_twoPow, Field.getLsbD_mask]
  grind

namespace RegisterBlock

theorem agreeOutside_switched (registers : RegisterBlock) {clear set : Switch → Word}
    (clears : ∀ switch, clear switch = 0 ∨ clear switch = switch.mask)
    (sets : ∀ switch, set switch = 0 ∨ set switch = switch.mask) (switch? : Option Switch) :
    AgreeOutside (switch?.toList.map Switch.place) registers (registers.switched clear set switch?) := by
  cases switch? with
  | none => exact .refl _ _
  | some switch =>
    have member : switch.place.field ∈ fieldsIn switch.register [switch.place] := mem_fieldsIn.mpr (.head _)
    have inside (bits : Word) (known : bits = 0 ∨ bits = switch.mask) :
        Field.AgreeOutside (fieldsIn switch.register [switch.place]) 0 bits := by
      rcases known with rfl | rfl
      · exact .refl _ _
      · rw [switch.mask_eq]
        exact Field.agreeOutside_mask member
    exact .write registers
      (((Field.AgreeOutside.refl _ _).andNot (inside _ (clears switch))).or (inside _ (sets switch)))

theorem agreeOutside_powered (registers : RegisterBlock) (pll : Pll) (isOn : Bool) :
    AgreeOutside [pll.powerPlace] registers (registers.powered pll isOn) :=
  agreeOutside_write_field registers _ _ _

theorem agreeOutside_routed (registers : RegisterBlock) (id : ClockId) :
    AgreeOutside ((sdhSelector? id).toList.map (⟨.clksel0, ·⟩)) registers (registers.routed id) := by
  unfold routed
  cases sdhSelector? id with
  | some field => exact agreeOutside_write_field registers _ _ _
  | none => exact .refl _ _

theorem agreeOutside_enabled (registers : RegisterBlock) (id : ClockId) (node : Node) :
    AgreeOutside (node.enableFields id) registers (registers.enabled id node) := by
  have gated (switch? : Option Switch) : AgreeOutside
      (switch?.toList.map Switch.place ++ (sdhSelector? id).toList.map (⟨.clksel0, ·⟩)) registers
      ((registers.switched (fun _ => 0) Switch.mask switch?).routed id) := by
    have switches := registers.agreeOutside_switched (fun _ => .inl rfl) (fun _ => .inr rfl) switch?
    exact (switches.mono (List.subset_append_left _ _)).trans
      ((agreeOutside_routed _ id).mono (List.subset_append_right _ _))
  cases node with
  | pll pll => exact agreeOutside_powered registers pll true
  | _ => exact gated _

theorem agreeOutside_disabled (registers : RegisterBlock) (node : Node) :
    AgreeOutside node.disableFields registers (registers.disabled node) := by
  have gated (switch? : Option Switch) : AgreeOutside (switch?.toList.map Switch.place) registers
      (registers.switched Switch.mask (fun _ => 0) switch?) :=
    registers.agreeOutside_switched (fun _ => .inr rfl) (fun _ => .inl rfl) switch?
  cases node with
  | pll pll =>
    simp only [disabled, Node.disableFields]
    split
    next => exact .refl _ _
    next => exact agreeOutside_powered registers pll false
  | _ => exact gated _

end RegisterBlock

/-! ### Operations -/

namespace Action

variable {α β : Type} {state : State} {fields : List RegisterField}

/-- On the way from a state the operation changes bits of the fields only, however it ends. -/
def ChangesOnly (fields : List RegisterField) (action : Action α) (state : State) : Prop :=
  RegisterBlock.AgreeOutside fields state.registers (action.runOn state).2.registers

theorem Leads.changesOnly {action : Action α} {result : Except Failure α} {after : RegisterBlock × Cache}
    (leads : action.Leads (state.registers, state.cache) result after)
    (agree : RegisterBlock.AgreeOutside fields state.registers after.1) : action.ChangesOnly fields state := by
  unfold ChangesOnly
  rw [leads.leaves.1]
  exact agree

theorem Along.changesOnly {action : Action α} (silent : action.Silent) : action.ChangesOnly fields state := by
  unfold ChangesOnly
  rw [(silent state).1]
  exact .refl _ _

theorem ChangesOnly.bind_silent {action : Action α} {next : α → Action β}
    (changes : action.ChangesOnly fields state) (silent : ∀ value, (next value).Silent) :
    (action >>= next).ChangesOnly fields state := by
  unfold ChangesOnly at changes ⊢
  rw [runOn_bind]
  rcases run : action.runOn state with ⟨result, after⟩
  rw [run] at changes
  cases result with
  | ok value =>
    dsimp only
    rw [(silent value after).1]
    exact changes
  | error failure => exact changes

theorem ChangesOnly.onRefusal {action : Action α} (changes : action.ChangesOnly fields state)
    {recover : ErrorCode → Action α} (silent : ∀ error, (recover error).Silent) :
    (PeripheralClock.onRefusal action recover).ChangesOnly fields state := by
  unfold ChangesOnly at changes ⊢
  rw [PeripheralClock.onRefusal, runOn_tryCatch]
  rcases run : action.runOn state with ⟨result, after⟩
  rw [run] at changes
  cases result with
  | ok value => exact changes
  | error failure =>
    cases failure with
    | refused error =>
      dsimp only
      rw [(silent error after).1]
      exact changes
    | fault fault => exact changes

end Action

namespace Board

theorem changesOnly_setRate (board : Board) (state : State) (id : ClockId) (target : Nat) :
    (board.setRate id target).ChangesOnly (id.fields (Node.rateFields state.cache)) state := by
  have programs {clock : Clock} {pll : Pll} {mode : Mode} {solution : Solution}
      (plans : Plan.ofNode board state.cache state.registers clock.node target =
        .ok (.program pll mode solution)) :
      RegisterBlock.AgreeOutside (clock.node.rateFields state.cache) state.registers
        (state.registers.programmed pll mode
          (.merge mode (state.registers.controlWords pll) solution.words)) := by
    obtain ⟨isPll, programmable, rfl, solves⟩ := Plan.ofNode_program plans
    rw [isPll, Node.rateFields, if_neg (Bool.eq_false_iff.mp programmable)]
    exact state.registers.agreeOutside_programmed pll
      ((state.registers.controlWords pll).agreeOutside_merge _ (solution_inside_fields solves))
  obtain ⟨result, after, step, leads⟩ := board.exists_rateStep id target state.registers state.cache
  refine leads.changesOnly ?_
  cases step with
  | unknown | idle => exact .refl _ _
  | fault found plans =>
    rw [ClockId.fields, found]
    exact programs plans
  | program found plans =>
    rw [ClockId.fields, found]
    exact programs plans
  | select found plans =>
    rw [ClockId.fields, found]
    dsimp only
    rw [Node.rateFields_of_mux (Plan.ofNode_select plans).1]
    exact state.registers.agreeOutside_write_field _ _ _

end Board

namespace ClockId

theorem changesOnly_enable (id : ClockId) (state : State) :
    (enable id).ChangesOnly (id.fields (Node.enableFields id)) state := by
  unfold ClockId.fields
  cases found : Clock.find? id with
  | none => exact (leads_enable_of_none found).changesOnly (.refl _ _)
  | some clock => exact (leads_enable found _ _).changesOnly (state.registers.agreeOutside_enabled id clock.node)

theorem changesOnly_disable (id : ClockId) (state : State) :
    (disable id).ChangesOnly (id.fields Node.disableFields) state := by
  unfold ClockId.fields
  cases found : Clock.find? id with
  | none => exact (leads_disable_of_none found).changesOnly (.refl _ _)
  | some clock =>
    have leads := leads_disable found state.registers state.cache
    exact leads.changesOnly (state.registers.agreeOutside_disabled clock.node)

end ClockId

/-! ### Requests -/

theorem Board.changesOnly_footprint (board : Board) (state : State) {request : Request}
    (own : request.isForeign = false) : (board.perform request).ChangesOnly (request.footprint state.cache) state := by
  by_cases reads : request.isReading = true
  · exact (board.silent_reading reads).changesOnly
  have silent {α : Type} (answer : α → Answer) (value : α) : (pure (answer value) : Action Answer).Silent :=
    along_pure StateRelation.chains_silent _
  have reported (message : ErrorCode → Message) (error : ErrorCode) : (report (message error)).Silent :=
    along_report StateRelation.chains_silent _
  cases request with
  | setRate id target => exact (board.changesOnly_setRate state id target).bind_silent (silent _)
  | enable id => exact (id.changesOnly_enable state).bind_silent (silent fun _ => .done)
  | disable id => exact (id.changesOnly_disable state).bind_silent (silent fun _ => .done)
  | peripheralSetRate clock target =>
    exact (board.changesOnly_setRate state clock.id target).bind_silent (silent _)
  | peripheralEnable clock =>
    exact ((clock.id.changesOnly_enable state).onRefusal (reported _)).bind_silent (silent fun _ => .done)
  | peripheralDisable clock =>
    exact ((clock.id.changesOnly_disable state).onRefusal (reported _)).bind_silent (silent fun _ => .done)
  | foreign access => cases own
  | _ => exact absurd rfl reads

/-- Starting changes no bit of the register block. From every state, whatever its cache says of the registers, a
request of the controller changes no bit outside its footprint, also when it is refused or ends in a fault. -/
theorem Board.bits_outside_footprint (board : Board) (registers : RegisterBlock) (state : State)
    {request : Request} (own : request.isForeign = false) :
    (board.start registers).state.registers = registers ∧
      ∀ (slot : Fin 53) (bit : Nat), (∀ place ∈ request.footprint state.cache, ¬ place.Covers slot bit) →
        ((board.perform request).outcome state).state.registers.bit slot bit = state.registers.bit slot bit :=
  ⟨(board.silent_probe { registers }).1, board.changesOnly_footprint { state with journal := {} } own⟩

def RegisterBlock.ones : RegisterBlock :=
  ⟨.replicate 53 0xFFFFFFFF⟩

/-- The known setting for 533 MHz, programmed over ones, leaves the power-down bit and a reserved bit of the
first word as they are. -/
theorem Board.bits_outside_footprint_spread :
    let asked := (Board.perform {} (.setRate 4 533_000_000)).outcome (Board.start {} .ones).state
    (Request.setRate 4 533_000_000).isForeign = false ∧
      asked.state.registers.controlWords .e = ⟨0x92B81816, 0x3553269F, 0x9208⟩ ∧
      asked.state.registers.bit (Register.pll .e .ctl1).slot 0 = true ∧
      asked.state.registers.bit (Register.pll .e .ctl0).slot 11 = true := by
  have kept := (Board.bits_outside_footprint {} .ones (Board.start {} .ones).state
    (rfl : (Request.setRate 4 533_000_000).isForeign = false)).2
  have power := kept (Register.pll .e .ctl1).slot 0 (by decide +kernel)
  have reserved := kept (Register.pll .e .ctl0).slot 11 (by decide +kernel)
  exact ⟨rfl, by decide +kernel, power.trans (by decide +kernel), reserved.trans (by decide +kernel)⟩

end ClockController
