import ClockController.Proofs.Coherence

/-!
# ClockController.Proofs.FaultFreedom

When the controller works without faults.

The one product that register contents can drive out of range is that of the reference and the feedback divider
of a loop. If the largest feedback divider fits, nothing that is asked or written ends in a fault; if it does
not, the controller can fail to start.

## Main results

`Board.effectsKeep_running`: below the bound no effect ends in a fault.
`Board.fault_free_up_to_bound`: the bound, and that it is sharp.
-/

namespace ClockController

open ClockController.Action

def Property.any : Property :=
  fun _ _ => True

/-! ### Below the bound -/

theorem RegisterBlock.exists_reading {reference : Nat}
    (bound : reference * ControlWords.maxMilliFeedback < rateBound) (registers : RegisterBlock) (pll : Pll) :
    ∃ reading, registers.reading reference pll = .ok reading := by
  obtain ⟨rate, decodes⟩ := ControlWords.exists_rate bound (registers.pllMode pll) (registers.controlWords pll)
  exact ⟨⟨registers.pllMode pll, rate⟩, by rw [reading, decodes, Checked.ok_bind]; rfl⟩

theorem keeps_performForeign (access : Access) : (performForeign access).Keeps Property.any False := by
  have modifies (change : State → State) : (modify change : Action Unit).Keeps Property.any False :=
    fun _ _ => trivial
  refine keeps_get.bind fun state => ?_
  dsimp only
  cases access.message? state.registers with
  | none =>
    refine (modifies _).bind fun _ => ?_
    cases access.answer? state.registers <;> exact keeps_pure _
  | some message =>
    refine (keeps_report message).bind fun _ => (modifies _).bind fun _ => ?_
    cases access.answer? state.registers <;> exact keeps_pure _

namespace Board

variable {board : Board}

/-- Below the bound no effect ends in a fault. -/
theorem effectsKeep_running (bound : board.oscillators.hxt * ControlWords.maxMilliFeedback < rateBound) :
    board.EffectsKeep Property.any False where
  readBack pll := by
    intro state _
    obtain ⟨reading, reads⟩ := state.registers.exists_reading bound pll
    exact (leads_readBack reads).keepsFrom trivial
  program pll mode solution := by
    -- Only reading back can fail, and below the bound the programmed words have a rate too.
    intro state _
    rcases board.leads_program state.registers state.cache pll mode solution with ⟨fault, faults, _⟩ |
      ⟨_, _, _, _, leads⟩
    · obtain ⟨reading, reads⟩ := RegisterBlock.exists_reading bound _ pll
      rw [reads] at faults
      cases faults
    · exact leads.keepsFrom trivial
  select found has inRange rate := by
    intro state _
    obtain ⟨_, _, leads⟩ := board.leads_select state.registers state.cache found has inRange rate
    exact leads.keepsFrom trivial
  setPower pll isOn := fun state _ => (pll.leads_setPower isOn state.registers state.cache).keepsFrom trivial
  switch _ _ _ _ := fun _ _ => (leads_modifyBits _ _ _).keepsFrom trivial
  routeSdHost id := fun state _ => (ClockId.leads_routeSdHost id state.registers state.cache).keepsFrom trivial

theorem keeps_any (bound : board.oscillators.hxt * ControlWords.maxMilliFeedback < rateBound)
    (request : Request) : (board.perform request).Keeps Property.any False := by
  cases own : request.isForeign with
  | false => exact keeps_own (effectsKeep_running bound) own
  | true =>
    cases request with
    | foreign access => exact keeps_performForeign access
    | _ => cases own

end Board

/-! ### At the bound -/

/-- Registers that set the memory loop to the largest feedback divider, and no other loop. -/
def RegisterBlock.fastest : RegisterBlock :=
  (RegisterBlock.zero.write (.pll .ddr .ctl0) 0x000417FF).write (.pll .ddr .ctl1) 0xFFFFFF10

/-- A loop that was never programmed has rate zero. -/
theorem RegisterBlock.reading_of_isUnprogrammed {registers : RegisterBlock} {pll : Pll}
    (none : (registers.controlWords pll).isUnprogrammed = true) (reference : Nat) :
    registers.reading reference pll = .ok ⟨registers.pllMode pll, 0⟩ := by
  rw [reading, ControlWords.rate, if_pos none]
  rfl

theorem RegisterBlock.reading_fastest {reference : Nat}
    (exceeds : rateBound ≤ reference * ControlWords.maxMilliFeedback) {pll : Pll} {fault : Fault} :
    fastest.reading reference pll = .error fault ↔ pll = .ddr ∧ fault = .multiply := by
  have stuck : fastest.reading reference .ddr = .error .multiply := by
    have words : fastest.controlWords .ddr = ⟨0x000417FF, 0xFFFFFF10, 0⟩ := rfl
    have rate : (fastest.controlWords .ddr).rate .fractional reference = .error .multiply := by
      rw [words, ControlWords.rate_fractional (by decide) (by decide) (by decide),
        ControlWords.fractionalRate_eq_bind _ (ControlWords.setting_fits _)]
      -- The divider is 2047 and 999 thousandths, the largest there is.
      change Checked.mul reference ControlWords.maxMilliFeedback >>= _ = _
      rw [Checked.mul, if_neg (Nat.not_lt.mpr exceeds)]
      rfl
    change (fastest.controlWords .ddr).rate .fractional reference >>= _ = _
    rw [rate]
    rfl
  constructor
  · intro faults
    cases pll with
    | ddr =>
      rw [stuck] at faults
      cases faults
      exact ⟨rfl, rfl⟩
    -- The other loops were never programmed.
    | _ =>
      rw [reading_of_isUnprogrammed rfl] at faults
      cases faults
  · rintro ⟨rfl, rfl⟩
    exact stuck

/-- Below the bound neither the start nor anything that is asked or written afterwards ends in a fault. From the
bound on the controller fails to start on some registers. -/
theorem Board.fault_free_up_to_bound (board : Board) :
    (board.oscillators.hxt * 2_047_999 < rateBound → ∀ (registers : RegisterBlock) (requests : List Request),
      (board.start registers).result = .ok () ∧
        ∀ outcome ∈ board.session requests (board.start registers).state, outcome.isFault = false) ∧
    (rateBound ≤ board.oscillators.hxt * 2_047_999 → ∃ registers : RegisterBlock,
      (board.start registers).result = .error (.fault .multiply)) := by
  constructor
  · intro bound registers requests
    refine ⟨?_, fun outcome member => ?_⟩
    · rcases board.start_cases registers with ⟨pll, fault, faults, _⟩ | ⟨starts, _⟩
      · obtain ⟨reading, reads⟩ := registers.exists_reading bound pll
        rw [reads] at faults
        cases faults
      · exact starts
    · exact Bool.eq_false_iff.mpr
        (session_keeps (fun request _ => keeps_any bound request) trivial member).1
  · intro exceeds
    refine ⟨.fastest, ?_⟩
    rcases board.start_cases .fastest with ⟨pll, fault, faults, ends⟩ | ⟨_, _, coherent⟩
    · obtain ⟨_, rfl⟩ := (RegisterBlock.reading_fastest exceeds).mp faults
      exact ends
    · have stuck := (RegisterBlock.reading_fastest exceeds).mpr ⟨rfl, rfl⟩
      rw [coherent.loops] at stuck
      cases stuck

theorem Board.fault_free_up_to_crystal :
    (Board.start ⟨{ hxt := 9_007_203_652_789 }, {}⟩ .fastest).result = .ok () ∧
      (∀ outcome ∈ Board.session ⟨{ hxt := 9_007_203_652_789 }, {}⟩ [.setRate 2 0, .foreign (.write 0x88 0)]
        (Board.start ⟨{ hxt := 9_007_203_652_789 }, {}⟩ .fastest).state, outcome.isFault = false) ∧
      ∃ registers, (Board.start ⟨{ hxt := 9_007_203_652_790 }, {}⟩ registers).result =
        .error (.fault .multiply) := by
  have below := (Board.fault_free_up_to_bound ⟨{ hxt := 9_007_203_652_789 }, {}⟩).1 (by decide) .fastest
    [.setRate 2 0, .foreign (.write 0x88 0)]
  have above := (Board.fault_free_up_to_bound ⟨{ hxt := 9_007_203_652_790 }, {}⟩).2 (by decide)
  exact ⟨below.1, below.2, above⟩

end ClockController
