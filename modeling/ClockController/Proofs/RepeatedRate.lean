import ClockController.Proofs.Idempotence
import ClockController.Proofs.PlannedRate
import ClockController.Proofs.Synthesis.ElectricalBands
import ClockController.Proofs.Synthesis.FractionalDomain
import ClockController.Proofs.Synthesis.NearbyDividers

/-!
# ClockController.Proofs.RepeatedRate

Asking again for a rate that was answered.

A rate that its dividers give without any rounding is answered with the same dividers again. A rate that was rounded
need not be: with a fractional feedback divider it comes out one thousandth of the divider lower, and a rate just
above the lower end of the output band is refused, because the oscillator no longer reaches its band. With whole
dividers a slow reference leaves too much room between two rates for another one to come out, and a fast one does not.

## Main definitions

`FractionalSearch.Dividers.repeated`: the dividers for the rate that dividers achieve.
`IntegerSearch.Dividers.Recurs`, `FractionalSearch.Dividers.Recurs`: what solving for that rate gives.

## Main results

`IntegerSearch.Dividers.FirstClosest.recurs`, `FractionalSearch.Accepts.recurs`: solving for the rate of a solution.
`FractionalSearch.Dividers.Smallest.repeated`: the dividers for the rate that was achieved.
`Board.setRate_again`: a loop that was programmed with a solution is left alone where it is found again.
`solve_answered_rate`: solving for the rate of a solution, and asking a loop for it.
-/

namespace ClockController

/-! ### Whole dividers -/

namespace IntegerSearch.Dividers

variable {reference target : Nat} {dividers other : Dividers}

/-- What solving for the rate of whole dividers gives. -/
structure Recurs (reference : Nat) (dividers : Dividers) (again : Checked (Except Unreachable Solution)) : Prop where
  lossless : dividers.input ∣ reference → dividers.loss reference = 0
  same : dividers.loss reference = 0 → again = .ok (.ok (dividers.solution reference))
  near : dividers.achieved reference ≤ 2_400_000_000 →
    ∃ other : Dividers, other.FirstClosest reference (dividers.achieved reference) ∧
      again = .ok (.ok (other.solution reference)) ∧
      distance (other.achieved reference) (dividers.achieved reference) ≤
        dividers.loss reference + other.loss reference ∧
      (reference ≤ 29_000_000 → other.achieved reference = dividers.achieved reference)
  high : 2_400_000_000 < dividers.achieved reference → again = .ok (.ok .fallback)
  inside : reference ∣ 600_000_000 → dividers.achieved reference ≤ 2_400_000_000

/-- The dividers for the rate that dividers achieve are as close to it as both of them lose. -/
theorem FirstClosest.distance_achieved_le (firstClosest : other.FirstClosest reference (dividers.achieved reference))
    (admissible : dividers.Admissible reference) :
    distance (other.achieved reference) (dividers.achieved reference) ≤
      dividers.loss reference + other.loss reference := by
  obtain ⟨input, _, output⟩ := admissible.positive
  obtain ⟨otherInput, _, otherOutput⟩ := firstClosest.admissible.positive
  have achieved : dividers.achieved reference = dividers.ranked reference + dividers.loss reference :=
    achieved_eq input output
  have otherAchieved : other.achieved reference = other.ranked reference + other.loss reference :=
    achieved_eq otherInput otherOutput
  have closest := firstClosest.distance_le admissible
  unfold distance at closest ⊢
  omega

theorem FirstClosest.recurs (firstClosest : dividers.FirstClosest reference target) (derivesSpread : Bool) :
    dividers.Recurs reference (solve derivesSpread .integer reference (dividers.achieved reference)).run := by
  have admissible := firstClosest.admissible
  obtain ⟨input, _, output⟩ := admissible.positive
  have achieved : dividers.achieved reference = dividers.ranked reference + dividers.loss reference :=
    achieved_eq input output
  refine ⟨loss_eq_zero input, fun lossless => ?_, fun low => ?_, fun high => ?_, fun divides => ?_⟩
  · rw [lossless, Nat.add_zero] at achieved
    rw [achieved]
    exact run_solve_integer derivesSpread (solveInteger_of_firstClosest admissible.ranked firstClosest.at_ranked)
  · have inBand : dividers.achieved reference ∈ Band.output := ⟨admissible.achieved_bounds.1, low⟩
    obtain ⟨other, again, solves⟩ := solveInteger_of_reachable inBand ⟨dividers, admissible⟩
    have near := again.distance_achieved_le admissible
    exact ⟨other, again, run_solve_integer derivesSpread solves, near,
      fun slow => admissible.achieved_eq_of_near again.admissible slow near⟩
  · have outside : dividers.achieved reference ∉ Band.output := fun inBand => Nat.not_lt.mpr inBand.2 high
    exact run_solve_integer derivesSpread (solveInteger_of_unreachable (.inl outside))
  · have multiple : reference ∣ 2_400_000_000 * dividers.input :=
      Nat.dvd_trans divides (Nat.dvd_mul_right_of_dvd (by decide) _)
    exact admissible.achieved_bounds.2.mpr (.inl (admissible.oscillator_le (.inr multiple)))

end IntegerSearch.Dividers

/-! ### Fractional feedback dividers -/

namespace FractionalSearch.Dividers

variable {reference output : Nat} {dividers : Dividers}

/-- The output divider for the rate that dividers achieve: the same one, or the next one where the oscillator would
no longer reach its band. -/
def repeatedOutput (reference : Nat) (dividers : Dividers) : Nat :=
  if 600_000_000 ≤ dividers.output * dividers.achieved reference then dividers.output else dividers.output + 1

/-- The dividers for the rate that dividers achieve. -/
def repeated (reference : Nat) (dividers : Dividers) : Dividers where
  input := dividers.input
  output := dividers.repeatedOutput reference
  milliFeedback :=
    dividers.achieved reference * dividers.repeatedOutput reference * dividers.input * 1000 / reference

theorem Smallest.repeatedOutput (smallest : dividers.Smallest reference output)
    (reaches : 600_000_000 ≤ 7 * dividers.achieved reference) :
    dividers.repeatedOutput reference * dividers.achieved reference ∈ Band.oscillator ∧
      (0 < dividers.repeatedOutput reference ∧ dividers.repeatedOutput reference ≤ 7) ∧
      ∀ smaller, 0 < smaller → smaller < dividers.repeatedOutput reference →
        smaller * dividers.achieved reference < 600_000_000 := by
  have shrinks (divider : Nat) : divider * dividers.achieved reference ≤ divider * output :=
    Nat.mul_le_mul_left divider smallest.achieved_le
  unfold Dividers.repeatedOutput
  split
  next kept =>
    refine ⟨⟨kept, Nat.le_trans (shrinks _) smallest.oscillator.2⟩, ⟨smallest.output_pos, smallest.output_le⟩, ?_⟩
    exact fun smaller present lt => Nat.lt_of_le_of_lt (shrinks smaller) (smallest.output_smallest smaller present lt)
  next slow =>
    have slow : dividers.output * dividers.achieved reference < 600_000_000 := Nat.lt_of_not_ge slow
    have low : 85_700_000 ≤ dividers.achieved reference := smallest.achieved_mem.1
    have reached : 600_000_000 ≤ dividers.output * output := smallest.oscillator.1
    -- Rounding costs the oscillator far less than the next output divider gives it.
    have lost : dividers.output * output ≤
        dividers.output * dividers.achieved reference + dividers.output * 40_001 := by
      rw [← Nat.mul_add]
      exact Nat.mul_le_mul_left _ smallest.le_achieved
    have most := smallest.output_le
    have once : 1 * dividers.achieved reference ≤ dividers.output * dividers.achieved reference :=
      Nat.mul_le_mul_right _ smallest.output_pos
    have notLast : dividers.output ≠ 7 := fun last => by
      rw [last] at slow
      omega
    refine ⟨⟨?_, ?_⟩, ⟨Nat.succ_pos _, by omega⟩, fun smaller _ lt => ?_⟩
    · show 600_000_000 ≤ (dividers.output + 1) * dividers.achieved reference
      rw [Nat.succ_mul]
      omega
    · show (dividers.output + 1) * dividers.achieved reference ≤ 2_400_000_000
      rw [Nat.succ_mul]
      omega
    · exact Nat.lt_of_le_of_lt (Nat.mul_le_mul_right _ (Nat.le_of_lt_succ lt)) slow

theorem Smallest.repeated (smallest : dividers.Smallest reference output)
    (reaches : 600_000_000 ≤ 7 * dividers.achieved reference) :
    (dividers.repeated reference).Smallest reference (dividers.achieved reference) := by
  obtain ⟨oscillator, ⟨output_pos, output_le⟩, output_smallest⟩ := smallest.repeatedOutput reaches
  exact { smallest with output_pos, output_le, oscillator, output_smallest, milliFeedback := rfl }

/-- Where the oscillator still reaches its band, only the feedback divider can change: it stays the same if the rate
was not rounded, and falls by one thousandth if it was. -/
theorem Serves.repeated_eq (serves : dividers.Serves reference output)
    (reaches : 600_000_000 ≤ dividers.output * dividers.achieved reference) :
    dividers.repeated reference =
      if dividers.output * dividers.input * 1000 ∣ reference * dividers.milliFeedback then dividers
      else { dividers with milliFeedback := dividers.milliFeedback - 1 } := by
  have kept : dividers.repeatedOutput reference = dividers.output := if_pos reaches
  have scaled : dividers.achieved reference * (dividers.output * dividers.input * 1000) =
      reference * dividers.milliFeedback -
        reference * dividers.milliFeedback % (dividers.output * dividers.input * 1000) := by
    rw [achieved, Nat.div_mul_self_eq_mod_sub_self]
  rw [Dividers.repeated, kept, mul_divider, scaled]
  split
  next whole => rw [Nat.mod_eq_zero_of_dvd whole, Nat.sub_zero, Nat.mul_div_cancel_left _ serves.reference_pos]
  next rounded =>
    have lost : 0 < reference * dividers.milliFeedback % (dividers.output * dividers.input * 1000) :=
      Nat.pos_of_ne_zero fun none => rounded (Nat.dvd_of_mod_eq_zero none)
    have small := Nat.mod_lt (reference * dividers.milliFeedback) serves.divider_pos
    have fits := serves.divider_le
    have positive : reference * 1 ≤ reference * dividers.milliFeedback :=
      Nat.mul_le_mul_left _ serves.milliFeedback_pos
    generalize reference * dividers.milliFeedback % (dividers.output * dividers.input * 1000) = remainder at *
    obtain ⟨less, rfl⟩ := Nat.exists_eq_succ_of_ne_zero (Nat.ne_of_gt lost)
    rw [Nat.mul_sub_div less _ _ (by omega), Nat.div_eq_of_lt (by omega)]

/-- One thousandth of the feedback divider is worth at least 1 Hz. -/
theorem Serves.lowered_lt (serves : dividers.Serves reference output) :
    achieved reference { dividers with milliFeedback := dividers.milliFeedback - 1 } < dividers.achieved reference := by
  have fits := serves.divider_le
  calc
    reference * (dividers.milliFeedback - 1) / (dividers.output * dividers.input * 1000) ≤
        (reference * dividers.milliFeedback - dividers.output * dividers.input * 1000 * 1) /
          (dividers.output * dividers.input * 1000) := by
      apply Nat.div_le_div_right
      rw [Nat.mul_sub]
      omega
    _ = dividers.achieved reference - 1 := Nat.sub_mul_div _ _ _
    _ < dividers.achieved reference := Nat.sub_one_lt_of_lt serves.achieved_pos

/-- What solving for the rate of dividers with a fractional feedback divider gives. -/
structure Recurs (reference : Nat) (dividers : Dividers) (again : Checked (Except Unreachable Solution)) : Prop where
  refused_iff : again = .ok (.error .noOutputDivider) ↔ 7 * dividers.achieved reference < 600_000_000
  answered : 600_000_000 ≤ 7 * dividers.achieved reference →
    again = .ok (.ok ((dividers.repeated reference).solution reference)) ∧
      (dividers.repeated reference).achieved reference ≤ dividers.achieved reference ∧
      dividers.achieved reference ≤ (dividers.repeated reference).achieved reference + 40_001 ∧
      ((dividers.repeated reference).achieved reference = dividers.achieved reference ↔
        reference ∣ dividers.achieved reference * dividers.repeatedOutput reference * dividers.input * 1000)
  same : 600_000_000 ≤ dividers.output * dividers.achieved reference →
    dividers.output * dividers.input * 1000 ∣ reference * dividers.milliFeedback →
      again = .ok (.ok (dividers.solution reference))
  lowered : 600_000_000 ≤ dividers.output * dividers.achieved reference →
    ¬ dividers.output * dividers.input * 1000 ∣ reference * dividers.milliFeedback →
      let lower : Dividers := { dividers with milliFeedback := dividers.milliFeedback - 1 }
      again = .ok (.ok (lower.solution reference)) ∧ lower.achieved reference < dividers.achieved reference

theorem Smallest.recurs (smallest : dividers.Smallest reference output) (inBand : reference ∈ Band.reference)
    (below : output < 2_400_000_000) (derivesSpread : Bool) :
    dividers.Recurs reference (solve derivesSpread .fractional reference (dividers.achieved reference)).run := by
  have low : 85_700_000 ≤ dividers.achieved reference := smallest.achieved_mem.1
  have high : dividers.achieved reference < 2_400_000_000 := Nat.lt_of_le_of_lt smallest.achieved_le below
  have answers (reaches : 600_000_000 ≤ 7 * dividers.achieved reference) :
      (solveFractional reference (dividers.achieved reference)).run =
        .ok (.ok ((dividers.repeated reference).solution reference)) :=
    (smallest.repeated reaches).run_solveFractional inBand high (aims_self low)
  have undivided (reaches : 600_000_000 ≤ dividers.output * dividers.achieved reference) :
      600_000_000 ≤ 7 * dividers.achieved reference :=
    Nat.le_trans reaches (Nat.mul_le_mul_right _ smallest.output_le)
  refine ⟨⟨fun refused => ?_, run_solveFractional_of_slow inBand low⟩, fun reaches => ?_, fun reaches whole => ?_,
    fun reaches rounded => ?_⟩
  · refine Nat.lt_of_not_ge fun reaches => ?_
    have answered := answers reaches
    rw [show (solveFractional reference (dividers.achieved reference)).run = _ from refused] at answered
    cases answered
  · have serves := (smallest.repeated reaches).toServes
    exact ⟨answers reaches, serves.achieved_le, serves.le_achieved, serves.achieved_eq_iff⟩
  · have again := answers (undivided reaches)
    rwa [smallest.repeated_eq reaches, if_pos whole] at again
  · have again := answers (undivided reaches)
    rw [smallest.repeated_eq reaches, if_neg rounded] at again
    exact ⟨again, smallest.lowered_lt⟩

end FractionalSearch.Dividers

theorem FractionalSearch.Accepts.recurs {reference target output : Nat} (accepts : Accepts reference target output)
    (derivesSpread : Bool) :
    (Dividers.ofOutput reference output).Recurs reference
      (solve derivesSpread .fractional reference ((Dividers.ofOutput reference output).achieved reference)).run :=
  accepts.smallest.recurs accepts.inBand accepts.output_lt derivesSpread

/-! ### Asking a loop again -/

namespace Board

variable {board : Board} {state : State} {pll : Pll} {target other : Nat} {solution : Solution}

/-- Rounding answers the rate of the solution for the cached mode. -/
theorem roundRate_of_ok (programmable : pll.isFixedRatio = false)
    (solves : (solve board.options.derivesSpread (state.cache.plls.get pll).mode board.oscillators.hxt target).run =
      .ok (.ok solution)) :
    ((board.roundRate pll.id target).outcome state).result = .ok solution.rate := by
  obtain ⟨clock, found, isPll⟩ := pll.find?_id
  exact (leads_roundRate found (Plan.ofNode_of_ok isPll programmable solves)).outcome.1

theorem roundRate_of_error (programmable : pll.isFixedRatio = false) {reason : Unreachable}
    (fails : (solve board.options.derivesSpread (state.cache.plls.get pll).mode board.oscillators.hxt target).run =
      .ok (.error reason)) :
    ((board.roundRate pll.id target).outcome state).result = .ok 0 := by
  obtain ⟨clock, found, isPll⟩ := pll.find?_id
  exact (leads_roundRate found (Plan.ofNode_of_error isPll programmable fails)).outcome.1

/-- A loop that was programmed with a solution is left alone where the same solution is found for another target. -/
theorem setRate_again (programmable : pll.isFixedRatio = false)
    (solves : (solve board.options.derivesSpread (state.cache.plls.get pll).mode board.oscillators.hxt target).run =
      .ok (.ok solution))
    (again : (solve board.options.derivesSpread (state.cache.plls.get pll).mode board.oscillators.hxt other).run =
      .ok (.ok solution))
    (ends : ((board.setRate pll.id target).outcome state).isFault = false) :
    let first := (board.setRate pll.id target).outcome state
    let second := (board.setRate pll.id other).outcome first.state
    second.result = first.result ∧ second.state.registers = first.state.registers ∧
      second.state.cache = first.state.cache := by
  intro first second
  obtain ⟨clock, found, isPll⟩ := pll.find?_id
  have plans : Plan.ofNode board state.cache state.registers clock.node target =
      .ok (.program pll (state.cache.plls.get pll).mode solution) :=
    Plan.ofNode_of_ok isPll programmable solves
  rcases leads_setRate_of_program found plans with ⟨fault, _, leads⟩ | ⟨reading, bus, reads, derives, leads⟩
  · rw [Outcome.isFault, leads.outcome.1] at ends
    cases ends
  · -- The loop reads back the mode that was solved for, so that the other target is solved for in it, too.
    have mode_eq := ((solved_of_solve solves).decodes_of_programmed programmable reads).1
    have kept : ((state.cache.plls.set pll reading).get pll).mode = (state.cache.plls.get pll).mode := by
      rw [PerPll.get_set, if_pos rfl, mode_eq]
    have replans {registers : RegisterBlock} : Plan.ofNode board ⟨state.cache.plls.set pll reading, bus⟩ registers
        clock.node other = .ok (.program pll (state.cache.plls.get pll).mode solution) := by
      rw [← kept] at again ⊢
      exact Plan.ofNode_of_ok isPll programmable again
    obtain ⟨after, leads, returns⟩ : ∃ after,
        (board.setRate pll.id target).Leads (state.registers, state.cache) (.ok solution.rate) after ∧
        (board.setRate pll.id other).Leads after (.ok solution.rate) after :=
      ⟨_, leads, leads_setRate_of_programmed found reads derives replans⟩
    obtain ⟨answers, registers, cache⟩ := leads.outcome
    have leadsBack : (board.setRate pll.id other).Leads (first.state.registers, first.state.cache)
        (.ok solution.rate) after := by
      rw [registers, cache]
      exact returns
    obtain ⟨answersAgain, registersAgain, cacheAgain⟩ := leadsBack.outcome
    exact ⟨answersAgain.trans answers.symm, registersAgain.trans registers.symm, cacheAgain.trans cache.symm⟩

/-- Rounding the rate of a solution answers that rate exactly if solving for it gives a solution with that rate. -/
theorem roundRate_again_iff (programmable : pll.isFixedRatio = false) (positive : 0 < solution.rate) :
    ((board.roundRate pll.id solution.rate).outcome state).result = .ok solution.rate ↔
      ∃ again : Solution, (solve board.options.derivesSpread (state.cache.plls.get pll).mode board.oscillators.hxt
        solution.rate).run = .ok (.ok again) ∧ again.rate = solution.rate := by
  rcases solve_cases board.options.derivesSpread (state.cache.plls.get pll).mode board.oscillators.hxt
    solution.rate with ⟨reason, fails⟩ | ⟨again, solves, _⟩
  · rw [roundRate_of_error programmable fails, fails]
    constructor
    · intro zero
      rw [← Except.ok.inj zero] at positive
      exact absurd positive (Nat.lt_irrefl 0)
    · rintro ⟨_, found, _⟩
      cases found
  · rw [roundRate_of_ok programmable solves, solves]
    constructor
    · exact fun same => ⟨again, rfl, Except.ok.inj same⟩
    · rintro ⟨_, found, same⟩
      cases found
      rw [same]

end Board

/-- In integer mode, the rate of a solution gives the same solution again if nothing is lost to the rounded input of
the phase detector. Otherwise it gives the first of the closest dividers for it, with a rate as near as both solutions
lose, and with the same rate if the reference has at most 29 MHz. A rate above the output band gives the fallback;
from a reference that divides 600 MHz there is none. In fractional mode, the rate gives the same solution again if it
was not rounded, and one that is a thousandth of the feedback divider lower if it was; it is refused where no output
divider lifts it to the band of the oscillator. A loop answers the rate again exactly if a solution with that rate is
found, and is left alone where the same solution is. -/
theorem solve_answered_rate {derivesSpread : Bool} {mode : Mode} (modes : mode = .integer ∨ mode = .fractional)
    {reference target : Nat} {solution : Solution}
    (solves : (solve derivesSpread mode reference target).run = .ok (.ok solution))
    (genuine : solution.isFallback = false) :
    let again := (solve derivesSpread mode reference solution.rate).run
    (mode = .integer → ∃ dividers : IntegerSearch.Dividers, dividers.FirstClosest reference target ∧
      solution = dividers.solution reference ∧ dividers.Recurs reference again) ∧
    (mode = .fractional → ∃ output, FractionalSearch.Accepts reference target output ∧
      let dividers := FractionalSearch.Dividers.ofOutput reference output
      solution = dividers.solution reference ∧ dividers.Recurs reference again) ∧
    ∀ (board : Board) (state : State) (pll : Pll), board.options.derivesSpread = derivesSpread →
      board.oscillators.hxt = reference → pll.isFixedRatio = false → (state.cache.plls.get pll).mode = mode →
      let first := (board.setRate pll.id target).outcome state
      let second := (board.setRate pll.id solution.rate).outcome first.state
      ((board.roundRate pll.id target).outcome state).result = .ok solution.rate ∧
      (((board.roundRate pll.id solution.rate).outcome state).result = .ok solution.rate ↔
        ∃ other : Solution, again = .ok (.ok other) ∧ other.rate = solution.rate) ∧
      (again = .ok (.ok solution) → first.isFault = false →
        second.result = first.result ∧ second.state.registers = first.state.registers ∧
          second.state.cache = first.state.cache) := by
  intro again
  refine ⟨?_, ?_, ?_⟩
  · rintro rfl
    have ends : solveInteger reference target = .ok solution := by
      rcases solveInteger_cases reference target with ends | ⟨_, _, _, ends⟩
      all_goals
        rw [run_solve_integer derivesSpread ends] at solves
        cases solves
        exact ends
    obtain ⟨_, dividers, firstClosest, rfl⟩ := exists_firstClosest ends genuine
    exact ⟨dividers, firstClosest, rfl, firstClosest.recurs derivesSpread⟩
  · rintro rfl
    obtain ⟨output, accepts, rfl⟩ := exists_accepts_of_genuine solves genuine
    exact ⟨output, accepts, rfl, accepts.recurs derivesSpread⟩
  · rintro board state pll rfl rfl programmable rfl
    have positive := (solved_of_solve solves).rate_pos
    exact ⟨Board.roundRate_of_ok programmable solves, Board.roundRate_again_iff programmable positive,
      fun found ends => Board.setRate_again programmable solves found ends⟩

/-- A low target is answered with twice its rate, which the loop answers again when it is asked for. Of the whole
dividers, those for 1.8437 GHz lose some of their rate, and it is still answered again. -/
theorem solve_answered_rate_lifted :
    let state := (Board.start {} (RegisterBlock.zero.write (.pll .a .ctl0) 0x40000)).state
    let solution : Solution := ⟨⟨0x1019, 0x60, 0⟩, 100_000_000, false⟩
    let whole : Solution := ⟨⟨0x1151A, 0x10, 0⟩, 1_843_764_705, false⟩
    let first := (Board.setRate {} (Pll.id .a) 50_000_000).outcome state
    let second := (Board.setRate {} (Pll.id .a) solution.rate).outcome first.state
    ((solve false .fractional 24_000_000 50_000_000).run = .ok (.ok solution) ∧ solution.isFallback = false ∧
      (state.cache.plls.get .a).mode = .fractional ∧
      (solve false .fractional 24_000_000 solution.rate).run = .ok (.ok solution) ∧ first.isFault = false ∧
      ((Board.roundRate {} (Pll.id .a) solution.rate).outcome state).result = .ok solution.rate ∧
      second.result = first.result) ∧
    (solve false .integer 24_000_000 1_843_700_000).run = .ok (.ok whole) ∧
      ∃ again : Solution, (solve false .integer 24_000_000 whole.rate).run = .ok (.ok again) ∧
        again.rate = whole.rate := by
  intro state solution whole first second
  constructor
  · have solves : (solve false .fractional 24_000_000 50_000_000).run = .ok (.ok solution) := rfl
    have again : (solve false .fractional 24_000_000 solution.rate).run = .ok (.ok solution) := by
      show (solve false .fractional 24_000_000 100_000_000).run = _
      rfl
    have mode : (state.cache.plls.get .a).mode = .fractional := by decide +kernel
    have ends : first.isFault = false := by decide +kernel
    obtain ⟨_, _, asked⟩ := solve_answered_rate (.inr rfl) solves rfl
    obtain ⟨_, rounds_iff, unmoved⟩ := asked {} state .a rfl rfl rfl mode
    exact ⟨solves, rfl, mode, again, ends, rounds_iff.mpr ⟨solution, again, rfl⟩, (unmoved again ends).1⟩
  · have closest : IntegerSearch.Dividers.FirstClosest 24_000_000 1_843_700_000 ⟨17, 1306, 1⟩ :=
      .of_nearby (by decide +kernel) (by decide) (by decide +kernel)
    have solves : (solve false .integer 24_000_000 1_843_700_000).run = .ok (.ok whole) :=
      run_solve_integer false (solveInteger_of_firstClosest (by decide) closest)
    obtain ⟨packs, _, _⟩ := solve_answered_rate (.inl rfl) solves rfl
    obtain ⟨dividers, found, _, recurs⟩ := packs rfl
    cases found.unique closest
    obtain ⟨_, _, again, _, steady⟩ := recurs.near (by decide)
    exact ⟨solves, _, again, steady (by decide)⟩

/-- In fractional mode, the lowest rate that an output divider of seven can serve is rounded down to one that it cannot,
and the rate of a lifted target is rounded down again when it is asked for. In integer mode, what has 2.4 GHz by rank
runs above the output band, and from 62.002107 MHz a rate is answered to which other dividers are closer by rank than
those that achieve it. -/
theorem solve_leaves_answered_rate :
    ((solve false .fractional 24_000_000 85_714_286).run = .ok (.ok ⟨⟨0x1019, 0x70, 0⟩, 85_714_285, false⟩) ∧
      (solve false .fractional 24_000_000 85_714_285).run = .ok (.error .noOutputDivider)) ∧
    ((solve false .fractional 24_000_000 1_000_000).run =
        .ok (.ok ⟨⟨0x1019, 0x153F7D70, 0⟩, 85_998_857, false⟩) ∧
      (solve false .fractional 24_000_000 85_998_857).run =
        .ok (.ok ⟨⟨0x1019, 0x14FDF470, 0⟩, 85_995_428, false⟩)) ∧
    ((solve false .integer 24_000_001 2_400_000_000).run = .ok (.ok ⟨⟨0x20C8, 0x10, 0⟩, 2_400_000_100, false⟩) ∧
      (solve false .integer 24_000_001 2_400_000_100).run = .ok (.ok .fallback)) ∧
    ((solve false .integer 62_002_107 205_173_050).run = .ok (.ok ⟨⟨0x3D585, 0x70, 0⟩, 205_173_248, false⟩) ∧
      (solve false .integer 62_002_107 205_173_248).run =
        .ok (.ok ⟨⟨0x3E4CF, 0x60, 0⟩, 205_173_639, false⟩)) := by
  have fast : IntegerSearch.Dividers.FirstClosest 24_000_001 2_400_000_000 ⟨2, 200, 1⟩ :=
    .of_nearby (by decide +kernel) (by decide) (by decide +kernel)
  have first : IntegerSearch.Dividers.FirstClosest 62_002_107 205_173_050 ⟨61, 1413, 7⟩ :=
    .of_nearby (by decide +kernel) (by decide) (by decide +kernel)
  have second : IntegerSearch.Dividers.FirstClosest 62_002_107 205_173_248 ⟨62, 1231, 6⟩ :=
    .of_nearby (by decide +kernel) (by decide) (by decide +kernel)
  refine ⟨⟨rfl, rfl⟩, ⟨rfl, rfl⟩, ⟨?_, rfl⟩, ?_, ?_⟩
  · exact run_solve_integer false (solveInteger_of_firstClosest (by decide) fast)
  · exact run_solve_integer false (solveInteger_of_firstClosest (by decide) first)
  · exact run_solve_integer false (solveInteger_of_firstClosest (by decide) second)

end ClockController
