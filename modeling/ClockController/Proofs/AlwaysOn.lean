import ClockController.Proofs.Switching

/-!
# ClockController.Proofs.AlwaysOn

The processor and memory loops are never powered down.

## Proof strategy

That a loop runs once it ran is a relation between the states before and after an operation. A rate request
writes beside every power-down bit, switching on can only power a loop up, and switching off either leaves the
loop itself as it is or writes the switch of another clock.

## Main definitions

`StateRelation.staysOn`: a clock that was on is on.

## Main results

`Board.along_staysOn`: every request of the controller leaves a loop on that is never powered down.
`Board.always_on`: the two loops are on all through a session.
-/

namespace ClockController

open ClockController.Action

/-- A clock that was on before is on afterwards. -/
def StateRelation.staysOn (node : Node) : StateRelation :=
  fun before after => before.registers.isOn node = true → after.registers.isOn node = true

namespace StateRelation

theorem chains_staysOn (node : Node) : (staysOn node).Chains where
  refl _ on := on
  trans first second on := second (first on)
  report _ _ on := on

end StateRelation

/-! ### Operations -/

open StateRelation

theorem Board.along_staysOn_setRate (board : Board) (id : ClockId) (target : Nat) {other : ClockId}
    {passing : Clock} (foundOther : Clock.find? other = some passing) :
    (board.setRate id target).Along (staysOn passing.node) := by
  intro state on
  rw [board.isOn_setRate state id target foundOther]
  exact on

theorem ClockId.along_staysOn_enable (id : ClockId) {other : ClockId} {passing : Clock}
    (foundOther : Clock.find? other = some passing) : (enable id).Along (staysOn passing.node) := by
  intro state on
  obtain ⟨_, _, leads, rfl | ⟨clock, found, rfl⟩⟩ := exists_leads_enable id state.registers state.cache
  · rw [leads.leaves.1]
    exact on
  · rw [leads.leaves.1, RegisterBlock.isOn_enabled found foundOther]
    split
    next => rfl
    next => exact on

/-- The switch of a loop switches nothing else. -/
theorem Node.eq_pll_of_control? {node : Node} {pll : Pll} (same : node.control? = (Node.pll pll).control?) :
    node = .pll pll := by
  rcases control?_cases same with ⟨loop, rfl, control⟩ | ⟨switch, _, control⟩
  · rw [Pll.powerPlace_injective (congrArg Control.place control)]
  · cases congrArg Control.onValue control

theorem ClockId.along_staysOn_disable (id : ClockId) {pll : Pll} (always : pll.isAlwaysOn = true) :
    (disable id).Along (staysOn (.pll pll)) := by
  intro state on
  obtain ⟨_, _, leads, rfl | ⟨clock, found, rfl⟩⟩ := exists_leads_disable id state.registers state.cache
  · rw [leads.leaves.1]
    exact on
  · rw [leads.leaves.1]
    by_cases same : clock.node.control? = (Node.pll pll).control?
    · -- The loop itself is asked to stop, which is reported and not done.
      rw [Node.eq_pll_of_control? same, RegisterBlock.disabled, if_pos always]
      exact on
    · obtain ⟨loop, foundLoop, isPll⟩ := pll.find?_id
      rw [← isPll] at same on ⊢
      rw [RegisterBlock.isOn_disabled found foundLoop (Ne.symm same)]
      exact on

/-! ### Sessions -/

theorem Board.along_staysOn (board : Board) {pll : Pll} (always : pll.isAlwaysOn = true) {request : Request}
    (own : request.isForeign = false) : (board.perform request).Along (staysOn (.pll pll)) := by
  obtain ⟨loop, foundLoop, isPll⟩ := pll.find?_id
  refine along_own (chains_staysOn _) (fun other state on => ?_) (fun id target => ?_) (fun id => ?_)
    (fun id => id.along_staysOn_disable always) own
  · rw [(board.silent_readBack other state).1]
    exact on
  · rw [← isPll]
    exact board.along_staysOn_setRate id target foundLoop
  · rw [← isPll]
    exact id.along_staysOn_enable foundLoop

theorem Board.result_isEnabled_always (board : Board) {registers : RegisterBlock} {requests : List Request}
    (own : ∀ request ∈ requests, request.isForeign = false) {pll : Pll} (always : pll.isAlwaysOn = true)
    (powered : pll.powerPlace.read registers = 0) {state : State}
    (member : state ∈ (board.start registers).state ::
      (board.session requests (board.start registers).state).map Outcome.state) :
    ((ClockId.isEnabled pll.id).outcome state).result = .ok true := by
  obtain ⟨loop, found, isPll⟩ := pll.find?_id
  rw [ClockId.result_isEnabled found, isPll]
  refine congrArg Except.ok ?_
  have started : (board.start registers).state.registers.isOn (.pll pll) = true := by
    have same : (board.start registers).state.registers = registers := (board.silent_probe { registers }).1
    rw [same]
    exact beq_iff_eq.mpr powered
  rcases List.mem_cons.mp member with rfl | later
  · exact started
  · obtain ⟨outcome, answered, rfl⟩ := List.mem_map.mp later
    have along (request : Request) (asked : request ∈ requests) := board.along_staysOn always (own request asked)
    exact session_along (chains_staysOn _) (fun _ on => on) along answered started

/-- The processor and memory loops are never powered down: if their power-down bits are clear at the start, the
two are on after every request of the controller, also after one that was refused or ended in a fault. -/
theorem Board.always_on (board : Board) (registers : RegisterBlock) (requests : List Request)
    (own : ∀ request ∈ requests, request.isForeign = false)
    (processor : FixedPllField.powerDown.read (registers.read (.pll .ca .ctl0)) = 0)
    (memory : PllField.powerDown.read (registers.read (.pll .ddr .ctl1)) = 0) :
    ∀ state ∈ (board.start registers).state ::
        (board.session requests (board.start registers).state).map Outcome.state,
      ((ClockId.isEnabled Pll.ca.id).outcome state).result = .ok true ∧
        ((ClockId.isEnabled Pll.ddr.id).outcome state).result = .ok true := by
  intro state member
  have first : Pll.ca.powerPlace = ⟨.pll .ca .ctl0, FixedPllField.powerDown⟩ := rfl
  have second : Pll.ddr.powerPlace = ⟨.pll .ddr .ctl1, PllField.powerDown⟩ := rfl
  have powered : Pll.ca.powerPlace.read registers = 0 ∧ Pll.ddr.powerPlace.read registers = 0 := by
    rw [first, second]
    exact ⟨processor, memory⟩
  exact ⟨board.result_isEnabled_always own rfl powered.1 member,
    board.result_isEnabled_always own rfl powered.2 member⟩

/-- Programming the memory loop and asking both loops to stop leaves them on. -/
theorem Board.always_on_asked_to_stop :
    ∃ state ∈ (Board.session {} [.disable 0, .setRate 2 0, .peripheralDisable ⟨2⟩]
        (Board.start {} .zero).state).map Outcome.state,
      state.registers.controlWords .ddr = ⟨0x30FA, 0x20, 0⟩ ∧ state.journal.log = [.alwaysOn .ddr] ∧
        ((ClockId.isEnabled 0).outcome state).result = .ok true ∧
        ((ClockId.isEnabled 2).outcome state).result = .ok true := by
  have own : ∀ request ∈ [Request.disable 0, .setRate 2 0, .peripheralDisable ⟨2⟩], request.isForeign = false := by
    decide
  refine ⟨_, .tail _ (.tail _ (.head _)), rfl, rfl, ?_⟩
  exact Board.always_on {} .zero _ own rfl rfl _ (.tail _ (.tail _ (.tail _ (.head _))))

end ClockController
