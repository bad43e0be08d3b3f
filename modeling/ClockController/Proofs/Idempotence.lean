import ClockController.Proofs.AnsweredRate
import ClockController.Proofs.WrittenFields

/-!
# ClockController.Proofs.Idempotence

A rate request that is made again changes nothing.

## Proof strategy

What the first request left leads to the same plan: a programmed loop reads back the mode that was solved for, and
a selection moves none of the parents. Carrying the plan out again writes what is there already, because merging
a solution into words that hold it gives these words, and then everything that is derived is derived from the
same registers.

## Main results

`ControlWords.merge_merge`: merging a solution twice is merging it once.
`Board.leads_setRate_of_programmed`: a loop that holds a solution is left as it is where that is planned again.
`Board.RateStep.leads_again`: where a rate request led, it leads back to.
`Board.setRate_idempotent`: from any state the second of two equal requests answers what the first one did.
-/

namespace ClockController

open ClockController.Action

/-! ### Writing what is there -/

/-- Merging a solution into words that hold it changes nothing. -/
theorem ControlWords.merge_merge (mode : Mode) (current solved : ControlWords) :
    merge mode (merge mode current solved) solved = merge mode current solved := by
  refine ext_get fun word => ?_
  cases word with
  | ctl0 =>
    -- What is cleared is filled in again, and the rest is kept twice.
    apply BitVec.eq_of_getLsbD_eq
    intro bit _
    cases mode <;> simp only [get, merge, Field.write, BitVec.getLsbD_or, Field.getLsbD_clear] <;> grind
  | ctl1 =>
    apply BitVec.eq_of_getLsbD_eq
    intro bit _
    cases mode <;> simp only [get, merge, BitVec.getLsbD_or, Field.getLsbD_clear] <;> grind
  | ctl2 => cases mode <;> rfl

namespace RegisterBlock

theorem write_read (registers : RegisterBlock) (register : Register) :
    registers.write register (registers.read register) = registers :=
  congrArg RegisterBlock.mk (Vector.set_getElem_self _)

/-- Programming a loop with the words that it holds changes nothing. -/
theorem programmed_controlWords (registers : RegisterBlock) (pll : Pll) (mode : Mode) :
    registers.programmed pll mode (registers.controlWords pll) = registers := by
  have first : registers.write (.pll pll .ctl0) (registers.controlWords pll).ctl0 = registers :=
    registers.write_read _
  have second : registers.write (.pll pll .ctl1) (registers.controlWords pll).ctl1 = registers :=
    registers.write_read _
  have third : registers.write (.pll pll .ctl2) (registers.controlWords pll).ctl2 = registers :=
    registers.write_read _
  rw [programmed, first, second, third]
  exact ite_self _

/-- Writing a field that was written changes nothing, if it gets the same value. -/
theorem write_field_write_field (registers : RegisterBlock) (register : Register) (field : Field) (value : Nat) :
    let written := registers.write register (field.write value (registers.read register))
    written.write register (field.write value (written.read register)) = written := by
  intro written
  have reads : written.read register = field.write value (registers.read register) := by
    rw [read_write, if_pos rfl]
  have same : field.write value (written.read register) = written.read register := by
    rw [reads, Field.write_write]
  rw [same, write_read]

/-- Programming a loop with a solution that was programmed changes nothing. -/
theorem programmed_programmed (registers : RegisterBlock) (pll : Pll) (mode : Mode) (solved : ControlWords) :
    let programmed := registers.programmed pll mode (.merge mode (registers.controlWords pll) solved)
    programmed.programmed pll mode (.merge mode (programmed.controlWords pll) solved) = programmed := by
  intro programmed
  have holds : programmed.controlWords pll = .merge mode (registers.controlWords pll) solved :=
    registers.controlWords_programmed pll fun plain => ControlWords.ctl2_merge plain _ _
  have same : ControlWords.merge mode (programmed.controlWords pll) solved = programmed.controlWords pll := by
    rw [holds, ControlWords.merge_merge]
  rw [same, programmed_controlWords]

/-- Selecting a parent leaves the divider behind the selector as it is. -/
theorem dividerRatio_write_mux {id : ClockId} {clock : Clock} (found : Clock.find? id = some clock) {mux : Mux}
    (has : clock.node.mux? = some mux) {divider : Divider} (divides : clock.node.divider? = some divider)
    (registers : RegisterBlock) (value : Word) :
    (registers.write mux.register value).dividerRatio divider = registers.dividerRatio divider := by
  have other : divider.register ≠ mux.register := fun same => by
    have roles := congrArg Register.role same
    rw [Clock.role_divider found divides, Clock.role_mux found has] at roles
    cases roles
  rw [dividerRatio, read_write, if_neg other]
  rfl

end RegisterBlock

/-! ### The request again -/

namespace Board

variable {board : Board} {id : ClockId} {target : Nat} {registers : RegisterBlock} {cache : Cache}
  {result : Except Failure Nat} {after : RegisterBlock × Cache}

/-- A loop that was programmed with a solution is left as it is where the same solution is planned for it again. -/
theorem leads_setRate_of_programmed {clock : Clock} (found : Clock.find? id = some clock) {pll : Pll} {mode : Mode}
    {solution : Solution} {reading : Reading} {bus : BusRates}
    (reads : (registers.programmed pll mode
      (.merge mode (registers.controlWords pll) solution.words)).reading board.oscillators.hxt pll = .ok reading)
    (derives : Cache.busRates board.oscillators ⟨cache.plls.set pll reading, cache.bus⟩
      (registers.programmed pll mode (.merge mode (registers.controlWords pll) solution.words)) = .ok bus)
    (plans : Plan.ofNode board ⟨cache.plls.set pll reading, bus⟩
      (registers.programmed pll mode (.merge mode (registers.controlWords pll) solution.words)) clock.node target =
        .ok (.program pll mode solution)) :
    let programmed := registers.programmed pll mode (.merge mode (registers.controlWords pll) solution.words)
    let after : RegisterBlock × Cache := (programmed, ⟨cache.plls.set pll reading, bus⟩)
    (board.setRate id target).Leads after (.ok solution.rate) after := by
  rcases leads_setRate_of_program found plans with ⟨fault, faults, _⟩ |
    ⟨second, rates, readsAgain, derivesAgain, leadsAgain⟩
  · rw [RegisterBlock.programmed_programmed, reads] at faults
    cases faults
  · rw [RegisterBlock.programmed_programmed] at readsAgain derivesAgain leadsAgain
    rw [reads] at readsAgain
    cases readsAgain
    rw [PerPll.set_set] at derivesAgain leadsAgain
    rw [Cache.busRates_stale _ _ _ cache.bus, derives] at derivesAgain
    cases derivesAgain
    exact leadsAgain

/-- Where a rate request led, it leads back to with the same result, if it did not end in a fault. -/
theorem RateStep.leads_again (step : board.RateStep id target registers cache result after)
    (runs : ∀ fault, result ≠ .error (.fault fault)) : (board.setRate id target).Leads after result after := by
  cases step with
  | unknown unknown => exact leads_setRate_of_none unknown target
  | idle found plans idle => exact leads_setRate_of_idle found plans idle
  | fault => exact absurd rfl (runs _)
  | @program clock pll mode solution reading bus found plans reads derives =>
    obtain ⟨_, programmable, cached, solves⟩ := Plan.ofNode_program plans
    -- The loop reads back the mode that was solved for, so that the second plan is the first one.
    have mode_eq := ((solved_of_solve solves).decodes_of_programmed programmable reads).1
    have kept : ((cache.plls.set pll reading).get pll).mode = (cache.plls.get pll).mode := by
      rw [PerPll.get_set, if_pos rfl, mode_eq, cached]
    exact leads_setRate_of_programmed found reads derives (Plan.ofNode_program_congr kept plans)
  | @select clock mux parent rate bus found plans derives =>
    obtain ⟨has, _⟩ := Plan.ofNode_select plans
    have again := Plan.ofNode_select_congr (fun root member => Cache.rootRate_selected found has derives member)
      (fun divider divides => registers.dividerRatio_write_mux found has divides
        (mux.field.write parent (registers.read mux.register))) plans
    obtain ⟨second, derivesAgain, leadsAgain⟩ := leads_setRate_of_select found again
    rw [RegisterBlock.write_field_write_field] at derivesAgain leadsAgain
    have same : second = bus := by
      cases isBus : id.isBusMux with
      | true =>
        rw [isBus, if_pos rfl] at derives derivesAgain
        rw [Cache.busRates_stale _ _ _ cache.bus, derives] at derivesAgain
        exact (Except.ok.inj derivesAgain).symm
      | false =>
        rw [isBus, if_neg Bool.false_ne_true] at derivesAgain
        exact derivesAgain
    subst same
    exact leadsAgain

/-- From any state, also one whose cache does not say what the registers say: if a rate request does not end in a
fault, the same request right after it answers the same, and leaves the registers and the cache as they are. -/
theorem setRate_idempotent (board : Board) (state : State) (id : ClockId) (target : Nat)
    (ends : ((board.setRate id target).outcome state).isFault = false) :
    let first := (board.setRate id target).outcome state
    let second := (board.setRate id target).outcome first.state
    second.result = first.result ∧ second.state.registers = first.state.registers ∧
      second.state.cache = first.state.cache := by
  intro first second
  obtain ⟨result, after, step, leads⟩ := board.exists_rateStep id target state.registers state.cache
  obtain ⟨answers, registers, cache⟩ := leads.outcome
  have runs (fault : Fault) : result ≠ .error (.fault fault) := by
    rintro rfl
    rw [Outcome.isFault, answers] at ends
    cases ends
  have leadsBack : (board.setRate id target).Leads (first.state.registers, first.state.cache) result after := by
    rw [registers, cache]
    exact step.leads_again runs
  obtain ⟨answersAgain, registersAgain, cacheAgain⟩ := leadsBack.outcome
  exact ⟨answersAgain.trans answers.symm, registersAgain.trans registers.symm, cacheAgain.trans cache.symm⟩

/-- A loop whose mode was changed behind the back of the controller is programmed in the cached mode twice. -/
theorem setRate_idempotent_stale :
    let state := ((Board.perform {} (.foreign (.write 0xA0 0x80000))).outcome (Board.start {} .zero).state).state
    let first := (Board.setRate {} 4 0).outcome state
    let second := (Board.setRate {} 4 0).outcome first.state
    state.registers.pllMode .e = .spreadSpectrum ∧ (state.cache.plls.get .e).mode = .integer ∧
      first.isFault = false ∧ second.result = first.result ∧
      second.state.registers.controlWords .e = ⟨0x30FA, 0x20, 0⟩ := by
  intro state first second
  have ends : first.isFault = false := by decide +kernel
  have words : first.state.registers.controlWords .e = ⟨0x30FA, 0x20, 0⟩ := by decide +kernel
  obtain ⟨answers, registers, _⟩ := Board.setRate_idempotent {} state 4 0 ends
  exact ⟨by decide +kernel, by decide +kernel, ends, answers, (congrArg (·.controlWords .e) registers).trans words⟩

end Board

end ClockController
