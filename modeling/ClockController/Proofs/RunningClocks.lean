import ClockController.Proofs.Selection

/-!
# ClockController.Proofs.RunningClocks

Clocks that run, and rate requests for clocks with a selector.

A rate request moves a selector only to a parent that runs at the target, so that a parent that reads 0 Hz is not taken
for a rate above zero. The clock goes on running then, unless a divider behind the selector leaves less than one whole
Hz.

## Main definitions

`RegisterBlock.ratioBehind`: the ratio of the divider behind the selector of a clock.

## Main results

`Board.Switches.taken`, `Board.Switches.running`: what a request that selects a parent or leaves everything does.
`Board.setRate_keeps_running`: all through a session a clock with a selector that runs goes on running.
`Board.setRate_stops`: a request for 0 Hz, and one that a divider rounds down to nothing.
-/

namespace ClockController

/-- The ratio of the divider behind the selector of a clock. Without a divider it is one. -/
def RegisterBlock.ratioBehind (registers : RegisterBlock) : Node → Checked Nat
  | .divider _ _ divider => registers.dividerRatio divider
  | _ => .ok 1

namespace Board

variable {board : Board} {state : State} {id : ClockId} {clock : Clock} {mux : Mux} {target : Nat}

/-- With or without a divider a clock with a selector is switched. -/
theorem Coherent.exists_switches (coherent : board.Coherent state.registers state.cache)
    (found : Clock.find? id = some clock) (has : clock.node.mux? = some mux) (target : Nat) :
    ∃ ratio, state.registers.ratioBehind clock.node = .ok ratio ∧ 0 < ratio ∧
      board.Switches state id mux target (target / ratio) := by
  cases built : clock.node with
  | pll pll => simp [built, Node.mux?] at has
  | gate gate => simp [built, Node.mux?] at has
  | mux gate own =>
    obtain rfl : own = mux := by simpa [built, Node.mux?] using has
    refine ⟨1, rfl, Nat.one_pos, ?_⟩
    rw [Nat.div_one]
    exact coherent.switches_mux found built
  | divider gate own divider =>
    obtain rfl : own = some mux := by simpa [built, Node.mux?] using has
    obtain ⟨ratio, reads, positive⟩ := Clock.exists_ratio found built state.registers
    exact ⟨ratio, reads, positive, coherent.switches_divider found built reads positive⟩

namespace Switches

variable {rate : Nat}

/-- A selector that moves is moved to a parent at the target. -/
theorem taken (switches : board.Switches state id mux target rate)
    (moved : ((board.setRate id target).outcome state).state.registers ≠ state.registers) :
    board.Offers state mux target (mux.place.read ((board.setRate id target).outcome state).state.registers) := by
  by_cases offered : ∃ parent, board.Offers state mux target parent
  · obtain ⟨parent, selects⟩ := switches.selects offered
    rw [selects.reads]
    exact selects.offers
  · exact absurd (switches.leaves (not_exists.mp offered)).registers moved

/-- A clock that runs goes on running if nothing is selected, or if a rate above zero is. -/
theorem running (switches : board.Switches state id mux target rate) {before : Nat}
    (runs : ((board.getRate id).outcome state).result = .ok before) (positive : 0 < before)
    (leads : 0 < rate ∨ ∀ parent, ¬ board.Offers state mux target parent) :
    ∃ after, ((board.getRate id).outcome ((board.setRate id target).outcome state).state).result = .ok after ∧
      0 < after := by
  by_cases offered : ∃ parent, board.Offers state mux target parent
  · obtain ⟨parent, selects⟩ := switches.selects offered
    exact ⟨rate, selects.runs, leads.resolve_right (not_forall_not.mpr offered)⟩
  · have leaves := switches.leaves (not_exists.mp offered)
    exact ⟨before, leaves.runs.trans runs, positive⟩

end Switches

end Board

/-- All through a session in which nobody else writes the registers, a rate request for a clock with a selector moves
the selector only to a parent that runs at the target, and leaves everything as it is without one. A request that finds
a parent makes the clock run at the target, or at the target divided in whole Hz. A clock that runs goes on running if
the target is at least the ratio, or if no parent runs at it. -/
theorem Board.setRate_keeps_running (board : Board) (registers : RegisterBlock) (requests : List Request)
    (starts : (board.start registers).result = .ok ()) (own : ∀ request ∈ requests, request.isForeign = false)
    {state : State} (member : state ∈ board.states requests (board.start registers).state) {id : ClockId}
    {clock : Clock} (found : Clock.find? id = some clock) {mux : Mux} (has : clock.node.mux? = some mux)
    (target : Nat) :
    let rateIn (state : State) := ((board.getRate id).outcome state).result
    let after := ((board.setRate id target).outcome state).state
    ∃ ratio, state.registers.ratioBehind clock.node = .ok ratio ∧ 0 < ratio ∧
      (after.registers ≠ state.registers → board.Offers state mux target (mux.place.read after.registers)) ∧
      ((∀ parent, ¬ board.Offers state mux target parent) →
        after.registers = state.registers ∧ rateIn after = rateIn state) ∧
      ((∃ parent, board.Offers state mux target parent) → rateIn after = .ok (target / ratio)) ∧
      ∀ before, rateIn state = .ok before → 0 < before →
        (ratio ≤ target ∨ ∀ parent, ¬ board.Offers state mux target parent) →
        ∃ rate, rateIn after = .ok rate ∧ 0 < rate := by
  have coherent := coherent_of_mem_states starts own member
  obtain ⟨ratio, reads, positive, switches⟩ := coherent.exists_switches found has target
  intro rateIn after
  refine ⟨ratio, reads, positive, switches.taken, fun none => ?_, fun offered => ?_, fun _ runs running leads => ?_⟩
  · have leaves := switches.leaves none
    exact ⟨leaves.registers, leaves.runs⟩
  · obtain ⟨_, selects⟩ := switches.selects offered
    exact selects.runs
  · exact switches.running runs running (leads.imp_left fun reached => Nat.div_pos reached positive)

/-- The processor goes on running when it is switched from the crystal to the only loop that runs. The other two loops
that it could run from read 0 Hz and are not taken. -/
theorem Board.setRate_keeps_running_processor :
    let state := ((Board.perform {} (.setRate 3 0)).outcome (Board.start {} .zero).state).state
    let after := ((Board.setRate {} 49 1_000_000_000).outcome state).state
    state ∈ Board.states {} [.setRate 3 0] (Board.start {} .zero).state ∧
      ((Board.getRate {} 49).outcome state).result = .ok 24_000_000 ∧
      Board.Offers {} state .ca35 0 1 ∧ Board.Offers {} state .ca35 0 2 ∧
      Board.Offers {} state .ca35 1_000_000_000 (Mux.ca35.place.read after.registers) ∧
      ∃ rate, ((Board.getRate {} 49).outcome after).result = .ok rate ∧ 0 < rate := by
  intro state after
  have own : ∀ request ∈ [Request.setRate 3 0], request.isForeign = false := by decide
  have member : state ∈ Board.states {} [.setRate 3 0] (Board.start {} .zero).state := .tail _ (.head _)
  have fromCrystal : ((Board.getRate {} 49).outcome state).result = .ok 24_000_000 := by decide +kernel
  have moved : after.registers ≠ state.registers := by decide +kernel
  have stopped (root : Root) (reads : state.cache.rootRate {} root = 0) :
      ((Board.resolveRoot {} root).outcome state).result = .ok 0 := congrArg Except.ok reads
  obtain ⟨ratio, reads, _, taken, _, _, running⟩ :=
    Board.setRate_keeps_running {} .zero [.setRate 3 0] rfl own member (rfl : Clock.find? 49 = some _) rfl
      1_000_000_000
  cases reads
  exact ⟨member, fromCrystal, ⟨.caPll, rfl, nofun, stopped _ (by decide +kernel)⟩,
    ⟨.ePll, rfl, nofun, stopped _ (by decide +kernel)⟩, taken moved,
    running 24_000_000 fromCrystal (by decide) (.inl (by decide))⟩

/-- Without a loop that runs, the processor runs from the crystal until it is asked for 0 Hz. From a crystal of 1 MHz,
the pixel clock runs until it is asked for the 2 Hz of a loop, of which a fourth is less than one whole Hz. -/
theorem Board.setRate_stops :
    let plain := Board.start {} .zero
    let slow : Board := { oscillators := { hxt := 1_000_000 } }
    let divided := slow.start
      (.ofWords [(0x2C, 0x1000000), (0x90, 0x7F000), (0x94, 0x418970), (0xB0, 0x30FA), (0xB4, 0x20)])
    (plain.result = .ok () ∧
      ((Board.getRate {} 49).outcome plain.state).result = .ok 24_000_000 ∧
      ((Board.getRate {} 49).outcome ((Board.setRate {} 49 0).outcome plain.state).state).result = .ok 0) ∧
    divided.result = .ok () ∧
      ((slow.getRate 62).outcome divided.state).result = .ok 10_416_666 ∧
      ((slow.getRate 62).outcome ((slow.setRate 62 2).outcome divided.state).state).result = .ok 0 := by
  decide +kernel

end ClockController
