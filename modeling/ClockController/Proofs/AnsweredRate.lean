import ClockController.Proofs.Coherence
import ClockController.Proofs.Synthesis.RoundTrip
import ClockController.Proofs.UncachedRate

/-!
# ClockController.Proofs.AnsweredRate

The rate that a request answers for a loop, and the rate at which the loop runs afterwards.

A synthesised solution gives the rate that it is answered with. The fallback and the known setting for 266 MHz
were worked out for a crystal of 24 MHz, and the known setting for 533 MHz gives 532.992 MHz there.

## Main results

`Solved.rate_words_iff`: when the words of a solution decode to its rate.
`Solved.decoded_pos`: they never decode to zero.
`Board.getRate_setRate_iff`: when a loop runs at the rate that was answered.
-/

namespace ClockController

open ClockController.Action

/-! ### Solutions that are not synthesised -/

/-- What the fallback decodes to. The fractional modes count in thousandths, so that they overflow earlier. -/
theorem Solution.rate_fallback_eq_ok_iff {mode : Mode} (programmable : mode ≠ .fixedRatio) {reference rate : Nat} :
    Solution.fallback.words.rate mode reference = .ok rate ↔
      reference * (if mode = .integer then 250 else 250_000) < rateBound ∧ reference * 250 / 6 = rate := by
  have fits := Solution.fallback.words.setting_fits
  cases mode with
  | fixedRatio => exact absurd rfl programmable
  | integer =>
    rw [ControlWords.rate_integer (by decide) (by decide),
      ControlWords.integerRate_eq_ok_iff (by decide) (by decide) (by decide)]
    rfl
  | fractional | spreadSpectrum =>
    rw [ControlWords.rate_fractional (by decide) (by decide) (by decide),
      ControlWords.fractionalRate_eq_ok_iff fits (by decide) (by decide)]
    change reference * 250_000 < _ ∧ reference * 250_000 / 1000 / 2 / 3 = rate ↔
      reference * 250_000 < _ ∧ reference * 250 / 6 = rate
    omega

theorem Solution.rate_fallback_iff {mode : Mode} (programmable : mode ≠ .fixedRatio) {reference : Nat} :
    Solution.fallback.words.rate mode reference = .ok Solution.fallback.rate ↔ reference = 24_000_000 := by
  rw [rate_fallback_eq_ok_iff programmable, Checked.rateBound_eq]
  change _ ∧ reference * 250 / 6 = 1_000_000_000 ↔ _
  split <;> omega

namespace SpreadSpectrum

theorem rate_slow_eq_ok_iff {reference rate : Nat} :
    slow.words.rate .spreadSpectrum reference = .ok rate ↔
      reference * 133_000 < rateBound ∧ reference * 133 / 12 = rate := by
  rw [ControlWords.rate_fractional (by decide) (by decide) (by decide),
    ControlWords.fractionalRate_eq_ok_iff slow.words.setting_fits (by decide) (by decide)]
  change reference * 133_000 < _ ∧ reference * 133_000 / 1000 / 6 / 2 = rate ↔ _
  omega

theorem rate_fast_eq_ok_iff {reference rate : Nat} :
    fast.words.rate .spreadSpectrum reference = .ok rate ↔
      reference * 22_208 < rateBound ∧ reference * 22_208 / 1000 = rate := by
  rw [ControlWords.rate_fractional (by decide) (by decide) (by decide),
    ControlWords.fractionalRate_eq_ok_iff fast.words.setting_fits (by decide) (by decide)]
  change reference * 22_208 < _ ∧ reference * 22_208 / 1000 / 1 / 1 = rate ↔ _
  rw [Nat.div_one, Nat.div_one]

theorem rate_slow_iff {reference : Nat} :
    slow.words.rate .spreadSpectrum reference = .ok slow.rate ↔ reference = 24_000_000 := by
  rw [rate_slow_eq_ok_iff, Checked.rateBound_eq]
  change _ ∧ _ = 266_000_000 ↔ _
  omega

/-- No reference gives the rate with which the known setting for 533 MHz is answered. -/
theorem rate_fast_ne (reference : Nat) : fast.words.rate .spreadSpectrum reference ≠ .ok fast.rate := by
  rw [ne_eq, rate_fast_eq_ok_iff]
  -- The feedback divider is 22.208, and none of its multiples lies between 533 MHz and the next Hz.
  change ¬(_ ∧ _ = 533_000_000)
  omega

end SpreadSpectrum

/-- No solution decodes to zero, whatever the crystal. -/
theorem Solved.decoded_pos {reference target : Nat} {mode : Mode} {solution : Solution}
    (solved : Solved reference target mode solution) (crystal : 0 < reference) {rate : Nat}
    (decodes : solution.words.rate mode reference = .ok rate) : 0 < rate := by
  cases solved with
  | fallback programmable =>
    have gives := ((Solution.rate_fallback_eq_ok_iff programmable).mp decodes).2
    omega
  | slow =>
    have gives := (SpreadSpectrum.rate_slow_eq_ok_iff.mp decodes).2
    omega
  | fast =>
    have gives := (SpreadSpectrum.rate_fast_eq_ok_iff.mp decodes).2
    omega
  | integer _ sound =>
    rw [sound.admissible.rate_solution] at decodes
    cases decodes
    exact sound.admissible.rate_pos
  | fractional modes _ serves _ fits =>
    rw [serves.rate_words fits modes] at decodes
    exact serves.rate_pos decodes

/-- The words of a solution decode to its rate if they are synthesised. Of the others only the known setting for
533 MHz never does; the rest needs a crystal of 24 MHz. -/
theorem Solved.rate_words_iff {reference target : Nat} {mode : Mode} {solution : Solution}
    (solved : Solved reference target mode solution) :
    solution.words.rate mode reference = .ok solution.rate ↔
      solution.IsSynthesised ∨ solution ≠ SpreadSpectrum.fast ∧ reference = 24_000_000 := by
  by_cases synthesised : solution.IsSynthesised
  · exact iff_of_true (solved.rate_words synthesised) (.inl synthesised)
  · rw [or_iff_right synthesised]
    cases solved with
    | fallback programmable =>
      rw [Solution.rate_fallback_iff programmable]
      exact (and_iff_right (by decide)).symm
    | slow =>
      rw [SpreadSpectrum.rate_slow_iff]
      exact (and_iff_right (by decide)).symm
    | fast => exact iff_of_false (SpreadSpectrum.rate_fast_ne reference) (fun parts => parts.1 rfl)
    | integer => exact absurd (Solution.isSynthesised_words _ _) synthesised
    | fractional => exact absurd (Solution.isSynthesised_words _ _) synthesised

/-! ### Programmed loops -/

theorem ControlWords.ctl2_merge {mode : Mode} (plain : mode ≠ .spreadSpectrum) (current solved : ControlWords) :
    (merge mode current solved).ctl2 = current.ctl2 := by
  cases mode with
  | spreadSpectrum => exact absurd rfl plain
  | _ => rfl

/-- A loop that was programmed with a solution reads back its mode and what its words decode to. -/
theorem Solved.reading_programmed {reference target : Nat} {mode : Mode} {solution : Solution}
    (solved : Solved reference target mode solution) (registers : RegisterBlock) {pll : Pll}
    (programmable : pll.isFixedRatio = false) :
    (registers.programmed pll mode
      (ControlWords.merge mode (registers.controlWords pll) solution.words)).reading reference pll =
      (do let rate ← solution.words.rate mode reference; return ⟨mode, rate⟩) := by
  have holds : (registers.programmed pll mode (ControlWords.merge mode (registers.controlWords pll)
      solution.words)).controlWords pll = ControlWords.merge mode (registers.controlWords pll) solution.words :=
    registers.controlWords_programmed pll fun plain => ControlWords.ctl2_merge plain _ _
  have selects := ControlWords.mode_merge solved.programmable (registers.controlWords pll) solved.bits_or_mode
  rw [RegisterBlock.reading, RegisterBlock.pllMode, holds, programmable, if_neg Bool.false_ne_true, selects,
    ControlWords.rate_merge solved.programmable]

/-- What such a loop reads back: the mode that was solved for, and the rate that the words decode to. -/
theorem Solved.decodes_of_programmed {reference target : Nat} {mode : Mode} {solution : Solution}
    (solved : Solved reference target mode solution) {registers : RegisterBlock} {pll : Pll}
    (programmable : pll.isFixedRatio = false) {reading : Reading}
    (reads : (registers.programmed pll mode
      (ControlWords.merge mode (registers.controlWords pll) solution.words)).reading reference pll = .ok reading) :
    reading.mode = mode ∧ solution.words.rate mode reference = .ok reading.rate := by
  rw [solved.reading_programmed registers programmable] at reads
  obtain ⟨rate, decodes, same⟩ := Checked.bind_eq_ok_iff.mp reads
  cases same
  exact ⟨rfl, decodes⟩

namespace Board.Coherent

variable {board : Board} {state : State}

/-- The rate that is answered for a loop is the cached one. -/
theorem result_getRate_pll (coherent : board.Coherent state.registers state.cache) (pll : Pll) :
    ((board.getRate pll.id).outcome state).result = .ok (state.cache.plls.get pll).rate := by
  obtain ⟨clock, found, isPll⟩ := pll.find?_id
  obtain ⟨rate, leads, runs_iff⟩ := coherent.leads_getRate found
  rw [isPll] at runs_iff
  rw [leads.outcome.1, (runs_iff _).mp (coherent.pll_runs_iff.mpr rfl)]

/-- After an operation that leaves a coherent cache, the rate of a loop is the one in that cache. -/
theorem getRate_pll {α : Type} {action : Action α} {result : Except Failure α} {after : RegisterBlock × Cache}
    (coherent : board.Coherent after.1 after.2)
    (leads : action.Leads (state.registers, state.cache) result after) (pll : Pll) :
    ((board.getRate pll.id).outcome (action.outcome state).state).result = .ok (after.2.plls.get pll).rate := by
  obtain ⟨_, registers, cache⟩ := leads.outcome
  rw [← registers, ← cache] at coherent
  rw [coherent.result_getRate_pll, cache]

/-- How a request for a loop ends: with the cached rate of a fixed-ratio loop, without a solution, with a fault,
or with a programmed loop, whose words decode to the rate that is read back. -/
theorem setRate_pll_cases (coherent : board.Coherent state.registers state.cache) (pll : Pll) (target : Nat) :
    (pll.isFixedRatio = true ∧ (board.setRate pll.id target).Leads (state.registers, state.cache)
      (.ok (state.cache.plls.get pll).rate) (state.registers, state.cache)) ∨
    (board.setRate pll.id target).Leads (state.registers, state.cache) (.ok 0) (state.registers, state.cache) ∨
    (∃ fault after, (board.setRate pll.id target).Leads (state.registers, state.cache)
      (.error (.fault fault)) after) ∨
    (pll.isFixedRatio = false ∧ ∃ solution reading registers bus,
      (solve board.options.derivesSpread (state.cache.plls.get pll).mode board.oscillators.hxt target).run =
        .ok (.ok solution) ∧
      solution.words.rate (state.cache.plls.get pll).mode board.oscillators.hxt = .ok reading.rate ∧
      board.Coherent registers ⟨state.cache.plls.set pll reading, bus⟩ ∧
      (board.setRate pll.id target).Leads (state.registers, state.cache) (.ok solution.rate)
        (registers, ⟨state.cache.plls.set pll reading, bus⟩)) := by
  obtain ⟨clock, found, isPll⟩ := pll.find?_id
  obtain ⟨plan, plans⟩ := Plan.exists_ofPll board state.cache pll target
  have planned : Plan.ofNode board state.cache state.registers clock.node target = .ok plan := by
    rw [isPll]
    exact plans
  rcases Plan.ofPll_cases plans with ⟨fixed, rfl⟩ | ⟨_, reason, rfl⟩ | ⟨programmable, solution, solves, rfl⟩
  · exact .inl ⟨fixed, leads_setRate_of_idle found planned rfl⟩
  · exact .inr (.inl (leads_setRate_of_idle found planned rfl))
  · rcases leads_setRate_of_program found planned with ⟨fault, _, leads⟩ |
      ⟨reading, bus, reads, derives, leads⟩
    · exact .inr (.inr (.inl ⟨fault, _, leads⟩))
    · have decodes := ((solved_of_solve solves).decodes_of_programmed programmable reads).2
      exact .inr (.inr (.inr ⟨programmable, solution, _, _, bus, solves, decodes,
        coherent.programmed reads derives, leads⟩))

end Board.Coherent

/-! ### Sessions -/

/-- After a request for a loop was answered with a rate, the loop runs at that rate exactly if it has a fixed
ratio, or the solution was synthesised, or it is not the known setting for 533 MHz and the crystal has 24 MHz. -/
theorem Board.getRate_setRate_iff (board : Board) (registers : RegisterBlock) (requests : List Request)
    (starts : (board.start registers).result = .ok ()) (own : ∀ request ∈ requests, request.isForeign = false)
    {state : State} (member : state ∈ board.states requests (board.start registers).state) (pll : Pll)
    {target rate : Nat} (answers : ((board.setRate pll.id target).outcome state).result = .ok rate)
    (positive : 0 < rate) :
    ((board.getRate pll.id).outcome ((board.setRate pll.id target).outcome state).state).result = .ok rate ↔
      pll.isFixedRatio = true ∨
      ∃ solution,
        (solve board.options.derivesSpread (state.cache.plls.get pll).mode board.oscillators.hxt target).run =
          .ok (.ok solution) ∧
        (solution.IsSynthesised ∨ solution ≠ SpreadSpectrum.fast ∧ board.oscillators.hxt = 24_000_000) := by
  have coherent := coherent_of_mem_states starts own member
  rcases coherent.setRate_pll_cases pll target with ⟨fixed, leads⟩ | leads | ⟨fault, after, leads⟩ |
    ⟨programmable, solution, reading, programmed, bus, solves, decodes, after, leads⟩
  · rw [leads.outcome.1] at answers
    cases answers
    exact iff_of_true (coherent.getRate_pll leads pll) (.inl fixed)
  · -- No solution is answered with zero, and a fault with nothing.
    rw [leads.outcome.1] at answers
    cases answers
    exact absurd positive (Nat.lt_irrefl 0)
  · rw [leads.outcome.1] at answers
    cases answers
  · rw [leads.outcome.1] at answers
    cases answers
    -- The loop runs at what the words of the solution decode to.
    have decodes_iff := (solved_of_solve solves).rate_words_iff
    rw [decodes, Except.ok.injEq] at decodes_iff
    rw [after.getRate_pll leads pll, PerPll.get_set, if_pos rfl, Except.ok.injEq, decodes_iff]
    constructor
    · exact fun right => .inr ⟨solution, solves, right⟩
    · rintro (fixed | ⟨other, solved, right⟩)
      · rw [programmable] at fixed
        cases fixed
      · rw [solves] at solved
        cases solved
        exact right

theorem Board.getRate_setRate_fallback :
    ((Board.setRate {} 3 0).outcome (Board.start {} .zero).state).result = .ok 1_000_000_000 ∧
      ((Board.getRate {} 3).outcome ((Board.setRate {} 3 0).outcome (Board.start {} .zero).state).state).result =
        .ok 1_000_000_000 := by
  have answers : ((Board.setRate {} 3 0).outcome (Board.start {} .zero).state).result = .ok 1_000_000_000 := rfl
  have iff := Board.getRate_setRate_iff {} .zero [] rfl nofun (.head _) .a answers (by decide)
  exact ⟨answers, iff.mpr (.inr ⟨.fallback, rfl, .inr ⟨by decide, rfl⟩⟩)⟩

/-- The known setting for 533 MHz is answered with that rate and runs at 532.992 MHz. -/
theorem Board.getRate_setRate_spread :
    let registers := ((RegisterBlock.zero.write (.pll .e .ctl0) 0x07782085).write (.pll .e .ctl1) 0x60).write
      (.pll .e .ctl2) 0x58CF9
    let asked := (Board.setRate {} 4 533_000_000).outcome (Board.start {} registers).state
    (Board.start {} registers).result = .ok () ∧ asked.result = .ok 533_000_000 ∧
      ((Board.getRate {} 4).outcome asked.state).result = .ok 532_992_000 :=
  ⟨rfl, rfl, rfl⟩

end ClockController
