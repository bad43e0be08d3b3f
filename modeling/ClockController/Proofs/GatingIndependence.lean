import ClockController.Proofs.ActivePath

/-!
# ClockController.Proofs.GatingIndependence

Switching clocks on and off and moving their rates do not interfere.

## Proof strategy

What is written to switch a clock shares no bit with a divider, with a selector or with what the reading of a
loop depends on; the one exception is the selector of an SD host, which is routed when the gate of the host is
enabled. What is written to move a rate shares no bit with the power-down bit of a loop or the enable bit of a
gate.

## Main definitions

`Node.switchPlace?`: the bit that switches a clock.
`RegisterBlock.isOn`: whether a clock is switched on, from the registers.
`ClockId.routes?`: the clock whose selector is routed when a gate is enabled.

## Main results

`ClockId.leads_isEnabled`: what is answered when asked whether a clock is switched on.
`Board.isOn_setRate`, `Board.isEnabled_setRate`: a rate request switches no clock on or off.
`Board.getRate_disable`, `Board.getRate_enable`: switching a clock leaves the rates as they are.
`Board.gating_independent`: both directions, and the exception.
-/

namespace ClockController

open ClockController.Action

/-! ### Whether a clock is switched on -/

/-- The bit that switches a clock: the power-down bit of a loop, or the enable bit of a gate. -/
def Node.switchPlace? : Node → Option RegisterField
  | .pll loop => some loop.powerPlace
  | node => node.switch?.map Switch.place

namespace RegisterBlock

/-- Whether a gate is open. One without an enable bit always is. -/
def isOpen (registers : RegisterBlock) : Option Switch → Bool
  | some switch => switch.place.read registers != 0
  | none => true

/-- Whether a clock is switched on. -/
def isOn (registers : RegisterBlock) : Node → Bool
  | .pll loop => loop.powerPlace.read registers == 0
  | node => registers.isOpen node.switch?

theorem isOn_congr {before after : RegisterBlock} {node : Node}
    (same : ∀ place, node.switchPlace? = some place → place.read after = place.read before) :
    after.isOn node = before.isOn node := by
  have gated {switch? : Option Switch}
      (same : ∀ place, switch?.map Switch.place = some place → place.read after = place.read before) :
      after.isOpen switch? = before.isOpen switch? := by
    cases switch? with
    | some switch => exact congrArg (· != 0) (same _ rfl)
    | none => rfl
  cases node with
  | pll loop => exact congrArg (· == 0) (same _ rfl)
  | _ => exact gated same

end RegisterBlock

theorem ClockId.leads_isEnabled {id : ClockId} {clock : Clock} (found : Clock.find? id = some clock)
    (registers : RegisterBlock) (cache : Cache) :
    (isEnabled id).Leads (registers, cache) (.ok (registers.isOn clock.node)) (registers, cache) := by
  refine (leads_node found).bind ?_
  have gated (switch? : Option Switch) :
      (match switch? with
        | some switch => do return (← Action.read switch.register) &&& switch.mask != 0
        | none => return true : Action Bool).Leads (registers, cache) (.ok (registers.isOpen switch?))
        (registers, cache) := by
    cases switch? with
    | some switch =>
      have set : (registers.read switch.register &&& switch.mask != 0) = registers.isOpen (some switch) := by
        rw [switch.mask_eq]
        exact Field.isSet_eq_read _ _
      rw [← set]
      exact (leads_read _).bind (leads_pure _)
    | none => exact leads_pure true
  cases clock.node with
  | pll loop =>
    have clear : (!loop.powerField.isSet (registers.read loop.powerRegister)) = registers.isOn (.pll loop) := by
      rw [Field.isSet_eq_read, bne, Bool.not_not]
      rfl
    rw [← clear]
    exact (leads_read _).bind (leads_pure _)
  | _ => exact gated _

theorem ClockId.result_isEnabled {id : ClockId} {clock : Clock} (found : Clock.find? id = some clock)
    (state : State) : ((isEnabled id).outcome state).result = .ok (state.registers.isOn clock.node) :=
  (leads_isEnabled found state.registers state.cache).outcome.1

theorem ClockId.result_isEnabled_of_none {id : ClockId} (unknown : Clock.find? id = none) (state : State) :
    ((isEnabled id).outcome state).result = .error (.refused .noDevice) := by
  rw [Action.outcome, isEnabled, runOn_bind, runOn_node_of_none unknown]

/-! ### Rate requests -/

theorem Pll.role_powerRegister (pll : Pll) : pll.powerRegister.role = .control := by
  unfold powerRegister
  split <;> rfl

theorem Node.switchPlace?_cases {node : Node} {place : RegisterField} (has : node.switchPlace? = some place) :
    (∃ loop, node = .pll loop ∧ place = loop.powerPlace) ∨
      ∃ switch, node.switch? = some switch ∧ place = switch.place := by
  cases node with
  | pll loop => exact .inl ⟨loop, rfl, (Option.some.inj has).symm⟩
  | _ =>
    obtain ⟨switch, hasSwitch, rfl⟩ := Option.map_eq_some_iff.mp has
    exact .inr ⟨switch, hasSwitch, rfl⟩

/-- The power-down bit of a loop that can be programmed belongs to no mode. -/
theorem Mode.powerDown_disjoint (mode : Mode) {field : Field} (member : field ∈ mode.fields .ctl1) :
    Field.Disjoint PllField.powerDown field := by
  have all : ∀ field ∈ mode.fields .ctl1, Field.Disjoint PllField.powerDown field := by
    cases mode <;> decide
  exact all field member

/-- What a rate request may change is apart from every bit that switches a clock. -/
theorem Node.switchPlace?_apart {id other : ClockId} {clock switched : Clock} {cache : Cache}
    (found : Clock.find? id = some clock) (foundOther : Clock.find? other = some switched)
    {place written : RegisterField} (has : switched.node.switchPlace? = some place)
    (member : written ∈ clock.node.rateFields cache) : place.Apart written := by
  rcases switchPlace?_cases has with ⟨loop, _, rfl⟩ | ⟨switch, hasSwitch, rfl⟩
  · rcases mem_rateFields member with ⟨programmed, word, _, programmable, register, belongs⟩ |
      ⟨mux, hasMux, rfl⟩
    · by_cases same : loop.powerRegister = .pll programmed word
      · -- The bit lies in the second word of the loop itself, beside the fields of every mode.
        right
        unfold Pll.powerRegister at same
        split at same
        next fixed =>
          cases same
          rw [programmable] at fixed
          cases fixed
        next =>
          cases same
          rw [Pll.powerPlace, Pll.powerField, programmable, if_neg Bool.false_ne_true]
          exact Mode.powerDown_disjoint _ belongs
      · left
        rw [register]
        exact same
    · refine RegisterField.apart_of_role ?_
      rw [Pll.powerPlace, Pll.role_powerRegister, Mux.place, Clock.role_mux found hasMux]
      decide
  · refine RegisterField.apart_of_role ?_
    rcases role_rateFields found member with written | written
    all_goals
      rw [Switch.place, Clock.role_switch foundOther hasSwitch, written]
      decide

namespace Board

/-- A rate request switches no clock on or off, however it ends. -/
theorem isOn_setRate (board : Board) (state : State) (id : ClockId) (target : Nat) {other : ClockId}
    {switched : Clock} (foundOther : Clock.find? other = some switched) :
    ((board.setRate id target).runOn state).2.registers.isOn switched.node =
      state.registers.isOn switched.node := by
  refine RegisterBlock.isOn_congr fun place has =>
    (board.changesOnly_setRate state id target).read_eq fun written member => ?_
  unfold ClockId.fields at member
  split at member
  next clock found => exact Node.switchPlace?_apart found foundOther has member
  next => cases member

/-- From any state, the answer stays the same for every id. -/
theorem isEnabled_setRate (board : Board) (state : State) (id other : ClockId) (target : Nat) :
    ((ClockId.isEnabled other).outcome ((board.setRate id target).outcome state).state).result =
      ((ClockId.isEnabled other).outcome state).result := by
  cases foundOther : Clock.find? other with
  | none => rw [ClockId.result_isEnabled_of_none foundOther, ClockId.result_isEnabled_of_none foundOther]
  | some switched =>
    have same : ((board.setRate id target).outcome state).state.registers.isOn switched.node =
        state.registers.isOn switched.node :=
      board.isOn_setRate { state with journal := {} } id target foundOther
    rw [ClockId.result_isEnabled foundOther, ClockId.result_isEnabled foundOther, same]

end Board

/-! ### Readings of loops -/

namespace RegisterBlock

variable {id : ClockId} {clock : Clock} {reference : Nat}

theorem reading_switched (found : Clock.find? id = some clock) {switch? : Option Switch}
    (has : clock.node.switch? = switch?) (registers : RegisterBlock) (clear set : Switch → Word) (pll : Pll) :
    (registers.switched clear set switch?).reading reference pll = registers.reading reference pll := by
  cases switch? with
  | some switch => exact reading_write_of_isControlWord (Clock.switch_register found has).1 registers _ reference pll
  | none => rfl

theorem reading_routed (registers : RegisterBlock) (id : ClockId) (pll : Pll) :
    (registers.routed id).reading reference pll = registers.reading reference pll := by
  unfold routed
  split
  next => exact reading_write_of_isControlWord rfl registers _ reference pll
  next => rfl

/-- Switching a clock on changes no reading of a loop, not even of the clock itself. -/
theorem reading_enabled (found : Clock.find? id = some clock) (registers : RegisterBlock) (pll : Pll) :
    (registers.enabled id clock.node).reading reference pll = registers.reading reference pll := by
  have gated {switch? : Option Switch} (has : clock.node.switch? = switch?) :
      ((registers.switched (fun _ => 0) Switch.mask switch?).routed id).reading reference pll =
        registers.reading reference pll :=
    (reading_routed _ id pll).trans (reading_switched found has registers _ _ pll)
  cases built : clock.node with
  | pll loop => exact registers.reading_write_power loop _ reference pll
  | _ => exact gated (by rw [built])

theorem reading_disabled (found : Clock.find? id = some clock) (registers : RegisterBlock) (pll : Pll) :
    (registers.disabled clock.node).reading reference pll = registers.reading reference pll := by
  have gated {switch? : Option Switch} (has : clock.node.switch? = switch?) :
      (registers.switched Switch.mask (fun _ => 0) switch?).reading reference pll =
        registers.reading reference pll :=
    reading_switched found has registers _ _ pll
  cases built : clock.node with
  | pll loop =>
    rw [disabled]
    split
    next => rfl
    next => exact registers.reading_write_power loop _ reference pll
  | _ => exact gated (by rw [built])

end RegisterBlock

/-! ### Written bits -/

namespace ClockId

def sdh0Mux : ClockId := 52
def sdh1Mux : ClockId := 53

/-- The selector clock of an SD host, which is routed when the gate of the host is enabled. -/
def routes? (id : ClockId) : Option ClockId :=
  if id = sdh0Gate then some sdh0Mux
  else if id = sdh1Gate then some sdh1Mux
  else none

end ClockId

namespace Node

variable {id : ClockId} {clock : Clock} {place : RegisterField}

/-- Switching a clock off writes the bit that switches it. -/
theorem mem_disableFields {node : Node} (member : place ∈ node.disableFields) : node.switchPlace? = some place := by
  cases node with
  | pll loop =>
    rw [disableFields] at member
    split at member
    next => cases member
    next => exact congrArg some (List.mem_singleton.mp member).symm
  | _ =>
    obtain ⟨switch, has, rfl⟩ := List.mem_map.mp member
    exact Option.map_eq_some_iff.mpr ⟨switch, Option.mem_toList.mp has, rfl⟩

/-- So does switching it on, and beside that it routes an SD host. -/
theorem mem_enableFields {node : Node} (member : place ∈ node.enableFields id) :
    node.switchPlace? = some place ∨ ∃ field, sdhSelector? id = some field ∧ place = ⟨.clksel0, field⟩ := by
  cases node with
  | pll loop => exact .inl (congrArg some (List.mem_singleton.mp member).symm)
  | _ =>
    rcases List.mem_append.mp member with switched | routed
    · obtain ⟨switch, has, rfl⟩ := List.mem_map.mp switched
      exact .inl (Option.map_eq_some_iff.mpr ⟨switch, Option.mem_toList.mp has, rfl⟩)
    · obtain ⟨field, has, rfl⟩ := List.mem_map.mp routed
      exact .inr ⟨field, Option.mem_toList.mp has, rfl⟩

/-- The bit that switches a clock lies neither in a selection register nor among the dividers. -/
theorem role_switchPlace? (found : Clock.find? id = some clock) (has : clock.node.switchPlace? = some place) :
    place.register.role ≠ .select ∧ place.register.role ≠ .divide := by
  rcases switchPlace?_cases has with ⟨loop, _, rfl⟩ | ⟨switch, hasSwitch, rfl⟩
  · rw [Pll.powerPlace, Pll.role_powerRegister]
    decide
  · rw [Switch.place, Clock.role_switch found hasSwitch]
    decide

theorem mux_of_stage? {node : Node} (own : node.stage? = some (.selector place)) :
    ∃ mux, node.mux? = some mux ∧ place = mux.place := by
  have selects (mux? : Option Mux) (own : mux?.map (Stage.selector ·.place) = some (.selector place)) :
      ∃ mux, mux? = some mux ∧ place = mux.place := by
    obtain ⟨mux, has, same⟩ := Option.map_eq_some_iff.mp own
    exact ⟨mux, has, (Stage.selector.inj same).symm⟩
  cases node with
  | pll loop => cases own
  | _ => exact selects _ own

end Node

/-- Routing an SD host is apart from every selector but that of the host. -/
theorem Clock.mux_apart_routed {id other : ClockId} {field : Field} (routes : sdhSelector? id = some field)
    {clock : Clock} (found : find? other = some clock) {mux : Mux} (has : clock.node.mux? = some mux)
    (apart : id.routes? ≠ some other) : mux.place.Apart ⟨.clksel0, field⟩ := by
  have all : ∀ host ∈ [ClockId.sdh0Gate, ClockId.sdh1Gate], ∀ other ∈ List.range ClockId.count,
      ∀ clock ∈ find? other, ∀ mux ∈ clock.node.mux?, ClockId.routes? host ≠ some other →
        ∀ field ∈ sdhSelector? host, mux.place.Apart ⟨.clksel0, field⟩ := by
    decide
  have known := List.mem_range.mpr (lt_count_of_find? found)
  have host : id ∈ [ClockId.sdh0Gate, ClockId.sdh1Gate] := by
    rcases sdhSelector?_cases routes with ⟨rfl, _⟩ | ⟨rfl, _⟩ <;> decide
  exact all id host other known clock found mux has apart field routes

/-! ### Switching -/

namespace Board

variable {board : Board} {before after : State} {fields : List RegisterField}

/-- What the answer for a clock needs, if the cache stays as it is: the readings of the loops, the selector of the
clock and its divider. -/
theorem getRate_of_agree (cache : after.cache = before.cache)
    (agree : RegisterBlock.AgreeOutside fields before.registers after.registers)
    (readings : ∀ pll, after.registers.reading board.oscillators.hxt pll =
      before.registers.reading board.oscillators.hxt pll)
    (roles : ∀ written ∈ fields, written.register.role ≠ .divide) {id : ClockId}
    (apart : ∀ clock mux, Clock.find? id = some clock → clock.node.mux? = some mux →
      ∀ written ∈ fields, mux.place.Apart written) :
    ((board.getRate id).outcome after).result = ((board.getRate id).outcome before).result := by
  cases found : Clock.find? id with
  | none => rw [board.result_getRate_of_none found, board.result_getRate_of_none found]
  | some clock =>
    have kept (stage : Stage) (own : clock.node.stage? = some stage) :
        stage.Kept board before.registers after.registers := by
      cases stage with
      | loop pll => exact readings pll
      | selector place =>
        obtain ⟨mux, has, rfl⟩ := Node.mux_of_stage? own
        exact agree.read_eq (apart clock mux found has)
    have divides (divider : Divider) (has : clock.node.divider? = some divider) :=
      Clock.divider_kept agree roles found has
    rw [board.result_getRate found, board.result_getRate found, cache, nodeRate?_of_kept before.cache kept divides]

theorem pllMode_of_cache (board : Board) (cache : after.cache = before.cache) (id : ClockId) :
    ((board.pllMode id).outcome after).result = ((board.pllMode id).outcome before).result := by
  rw [board.result_pllMode, board.result_pllMode, cache]

variable {state : State} {id : ClockId} {clock : Clock}

/-- From any state, switching a clock off leaves the rates as they are. -/
theorem getRate_disable (found : Clock.find? id = some clock) (other : ClockId) :
    ((board.getRate other).outcome ((ClockId.disable id).outcome state).state).result =
      ((board.getRate other).outcome state).result := by
  have leads := ClockId.leads_disable found state.registers state.cache
  obtain ⟨_, registers, cache⟩ := leads.outcome
  have agree := id.changesOnly_disable { state with journal := {} }
  rw [ClockId.fields, found] at agree
  have roles (written : RegisterField) (member : written ∈ clock.node.disableFields) :=
    Node.role_switchPlace? found (Node.mem_disableFields member)
  refine getRate_of_agree cache agree (fun pll => ?_) (fun written member => (roles written member).2)
    fun passing mux foundOther has written member => RegisterField.apart_of_role ?_
  · rw [registers]
    exact RegisterBlock.reading_disabled found state.registers pll
  · rw [Mux.place, Clock.role_mux foundOther has]
    exact (roles written member).1.symm

/-- From any state, switching a clock on leaves the rates as they are, but for the selector that is routed. -/
theorem getRate_enable (found : Clock.find? id = some clock) {other : ClockId} (apart : id.routes? ≠ some other) :
    ((board.getRate other).outcome ((ClockId.enable id).outcome state).state).result =
      ((board.getRate other).outcome state).result := by
  have leads := ClockId.leads_enable found state.registers state.cache
  obtain ⟨_, registers, cache⟩ := leads.outcome
  have agree := id.changesOnly_enable { state with journal := {} }
  rw [ClockId.fields, found] at agree
  refine getRate_of_agree cache agree (fun pll => ?_) (fun written member => ?_)
    fun passing mux foundOther has written member => ?_
  · rw [registers]
    exact RegisterBlock.reading_enabled found state.registers pll
  · rcases Node.mem_enableFields member with switches | ⟨field, _, rfl⟩
    · exact (Node.role_switchPlace? found switches).2
    · intro role
      cases role
  · rcases Node.mem_enableFields member with switches | ⟨field, routes, rfl⟩
    · refine RegisterField.apart_of_role ?_
      rw [Mux.place, Clock.role_mux foundOther has]
      exact (Node.role_switchPlace? found switches).1.symm
    · exact Clock.mux_apart_routed routes foundOther has apart

/-- The selector that is routed, and the gate that routes it. -/
theorem routes?_cases {other : ClockId} (routes : id.routes? = some other) :
    ∃ clock gate mux routed opened, Clock.find? other = some clock ∧ clock.node = .mux gate mux ∧
      mux.register = .clksel0 ∧ sdhSelector? id = some mux.field ∧
      mux.parents[SelectField.sdhFromSysPll]? = some .sysPll ∧
      Clock.find? id = some routed ∧ routed.node = .gate opened := by
  unfold ClockId.routes? at routes
  split at routes
  next same =>
    cases routes
    subst same
    exact ⟨_, _, _, _, _, rfl, rfl, rfl, rfl, rfl, rfl, rfl⟩
  next =>
    split at routes
    next same =>
      cases routes
      subst same
      exact ⟨_, _, _, _, _, rfl, rfl, rfl, rfl, rfl, rfl, rfl⟩
    next => cases routes

/-- Switching on the gate of an SD host makes its selector run at the rate of the system loop. -/
theorem Coherent.getRate_routed (coherent : board.Coherent state.registers state.cache) {other : ClockId}
    (routes : id.routes? = some other) :
    ((board.getRate other).outcome ((ClockId.enable id).outcome state).state).result =
      ((board.getRate Pll.sys.id).outcome ((ClockId.enable id).outcome state).state).result := by
  obtain ⟨clock, gate, mux, routed, opened, foundOther, built, place, selector, parent, found, gated⟩ :=
    routes?_cases routes
  have foundSys : Clock.find? Pll.sys.id = some ⟨"syspll", .pll .sys⟩ := rfl
  obtain ⟨_, registers, cache⟩ := (ClockId.leads_enable found state.registers state.cache).outcome
  have has : clock.node.mux? = some mux := by
    rw [built]
    rfl
  have inside := Clock.mux_inside foundOther has
  have fits := Clock.parent_fits foundOther has (List.getElem?_eq_some_iff.mp parent).1
  -- The gate is opened first, and then the selector is written.
  have opens : ((ClockId.enable id).outcome state).state.registers =
      (state.registers.switched (fun _ => 0) Switch.mask opened.switch?).routed id := by
    rw [registers, gated]
    rfl
  have selects : mux.selected (((ClockId.enable id).outcome state).state.registers.read mux.register) =
      .ok .sysPll := by
    rw [opens, RegisterBlock.routed, selector, place]
    dsimp only
    rw [RegisterBlock.read_write, if_pos rfl, Mux.selected_eq inside, Field.read_write mux.field inside.2.2 fits,
      parent]
    rfl
  have loop : ((ClockId.enable id).outcome state).state.registers.reading board.oscillators.hxt .sys =
      .ok (state.cache.plls.get .sys) := by
    rw [registers]
    exact (RegisterBlock.reading_enabled found state.registers .sys).trans (coherent.loops .sys)
  have undivided : state.cache.rootRate board.oscillators .sysPll = (state.cache.plls.get .sys).rate :=
    Nat.div_one _
  rw [board.result_getRate foundOther, board.result_getRate foundSys, built, cache, nodeRate?, nodeRate?, loop,
    Cache.muxRate_eq _ _ _ selects, undivided]
  rfl

end Board

/-! ### Sessions -/

/-- All through a session in which nobody else writes the registers, switching a clock on or off leaves every rate
and every mode as it is, but that switching on the gate of an SD host makes its selector run at the rate of the
system loop. A rate request switches no clock on or off. -/
theorem Board.gating_independent (board : Board) (registers : RegisterBlock) (requests : List Request)
    (starts : (board.start registers).result = .ok ()) (own : ∀ request ∈ requests, request.isForeign = false)
    {state : State} (member : state ∈ board.states requests (board.start registers).state) (id other : ClockId) :
    let disabled := ((ClockId.disable id).outcome state).state
    let enabled := ((ClockId.enable id).outcome state).state
    (((board.getRate other).outcome disabled).result = ((board.getRate other).outcome state).result ∧
      ((board.pllMode other).outcome disabled).result = ((board.pllMode other).outcome state).result) ∧
    (((board.getRate other).outcome enabled).result =
        (if id.routes? = some other then ((board.getRate Pll.sys.id).outcome enabled).result
          else ((board.getRate other).outcome state).result) ∧
      ((board.pllMode other).outcome enabled).result = ((board.pllMode other).outcome state).result) ∧
    ∀ target, ((ClockId.isEnabled other).outcome ((board.setRate id target).outcome state).state).result =
      ((ClockId.isEnabled other).outcome state).result := by
  intro disabled enabled
  have coherent := coherent_of_mem_states starts own member
  refine ⟨?_, ?_, board.isEnabled_setRate state id other⟩
  · cases found : Clock.find? id with
    | none =>
      have refused : (ClockId.disable id).Leads (state.registers, state.cache) _ _ :=
        ClockId.leads_disable_of_none found
      obtain ⟨_, registers, cache⟩ := refused.outcome
      exact ⟨by rw [Action.outcome_congr _ registers cache], board.pllMode_of_cache cache other⟩
    | some clock =>
      have leads := ClockId.leads_disable found state.registers state.cache
      exact ⟨getRate_disable found other, board.pllMode_of_cache leads.outcome.2.2 other⟩
  · cases found : Clock.find? id with
    | none =>
      have refused : (ClockId.enable id).Leads (state.registers, state.cache) _ _ := ClockId.leads_enable_of_none found
      obtain ⟨_, registers, cache⟩ := refused.outcome
      have apart : id.routes? ≠ some other := by
        intro routes
        obtain ⟨_, _, _, _, _, _, _, _, _, _, known, _⟩ := routes?_cases routes
        rw [found] at known
        cases known
      rw [if_neg apart]
      exact ⟨by rw [Action.outcome_congr _ registers cache], board.pllMode_of_cache cache other⟩
    | some clock =>
      have leads := ClockId.leads_enable found state.registers state.cache
      refine ⟨?_, board.pllMode_of_cache leads.outcome.2.2 other⟩
      split
      next routes => exact coherent.getRate_routed routes
      next apart => exact getRate_enable found apart

/-- Registers in which the system loop runs at 552 MHz and an SD host follows a loop that was never programmed. -/
def RegisterBlock.hosting : RegisterBlock :=
  (RegisterBlock.zero.write (.pll .sys .ctl0) 0x117).write .clksel0 0x10000

theorem Board.gating_independent_host :
    let state := (Board.start {} .hosting).state
    ((Board.getRate {} 52).outcome state).result = .ok 0 ∧
      ((Board.getRate {} 52).outcome ((ClockId.enable 12).outcome state).state).result = .ok 552_000_000 ∧
      ((Board.getRate {} 52).outcome ((ClockId.disable 12).outcome state).state).result = .ok 0 := by
  have switching := Board.gating_independent {} .hosting [] rfl nofun (.head _) 12
  have stopped : ((Board.getRate {} 52).outcome (Board.start {} .hosting).state).result = .ok 0 := rfl
  have loop : ((Board.getRate {} 1).outcome (Board.start {} .hosting).state).result = .ok 552_000_000 := rfl
  exact ⟨stopped, (switching 52).2.1.1.trans ((switching 1).2.1.1.trans loop), (switching 52).1.1.trans stopped⟩

end ClockController
