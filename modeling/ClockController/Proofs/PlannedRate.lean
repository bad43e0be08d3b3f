import ClockController.Proofs.Selection

/-!
# ClockController.Proofs.PlannedRate

Asking where a rate request would lead.

## Proof strategy

Rounding a rate and moving to it plan in the same way, and a plan holds the rate that is answered. What that rate
is follows from the kind of the clock: its node, and what it finds in the cache and the registers. That is said
once without plans, and compared with the plan case by case.

## Main definitions

`Board.Answers`: the rate that is answered for a clock of the tree.

## Main results

`Board.leads_roundRate`: rounding answers the rate of the plan.
`Board.answers_iff`: that rate is the one answered for the clock.
`Board.roundRate_predicts`: rounding moves nothing, and answers what the request itself answers.
-/

namespace ClockController

open ClockController.Action

namespace Board

variable {board : Board} {state : State} {id : ClockId} {clock : Clock} {target rate : Nat}

/-! ### Answered rates -/

/-- The rate that a rate request answers for a node. -/
inductive Answers (board : Board) (state : State) (target : Nat) : Node → Nat → Prop
  -- A loop of fixed ratio stays at its cached rate.
  | fixed {pll : Pll} (fixed : pll.isFixedRatio = true) :
      Answers board state target (.pll pll) (state.cache.plls.get pll).rate
  | solved {pll : Pll} {solution : Solution} (programmable : pll.isFixedRatio = false)
      (solves : (solve board.options.derivesSpread (state.cache.plls.get pll).mode board.oscillators.hxt target).run =
        .ok (.ok solution)) :
      Answers board state target (.pll pll) solution.rate
  -- Zero stands for no rate at all.
  | unreachable {pll : Pll} {reason : Unreachable} (programmable : pll.isFixedRatio = false)
      (fails : (solve board.options.derivesSpread (state.cache.plls.get pll).mode board.oscillators.hxt target).run =
        .ok (.error reason)) :
      Answers board state target (.pll pll) 0
  | gate {gate : Gate} {rate : Nat} (runs : ((board.resolveRoot gate.root).outcome state).result = .ok rate) :
      Answers board state target (.gate gate) rate
  | divided {gate : Gate} {divider : Divider} {rate ratio : Nat}
      (runs : ((board.resolveRoot gate.root).outcome state).result = .ok rate)
      (reads : state.registers.dividerRatio divider = .ok ratio) :
      Answers board state target (.divider gate none divider) (rate / ratio)
  -- No parent runs at the target, and the root of the gate is answered without its divider.
  | missed {node : Node} {gate : Gate} {mux : Mux} {rate : Nat} (gated : node.gate? = some gate)
      (has : node.mux? = some mux) (misses : ∀ parent, ¬ board.Offers state mux target parent)
      (runs : ((board.resolveRoot gate.root).outcome state).result = .ok rate) :
      Answers board state target node rate
  | selected {gate : Gate} {mux : Mux} {parent : Nat} (offers : board.Offers state mux target parent) :
      Answers board state target (.mux gate mux) target
  | selectedDivided {gate : Gate} {mux : Mux} {divider : Divider} {parent ratio : Nat}
      (offers : board.Offers state mux target parent) (reads : state.registers.dividerRatio divider = .ok ratio) :
      Answers board state target (.divider gate (some mux) divider) (target / ratio)

/-- Every clock of the table has an answer. -/
theorem exists_answers (board : Board) (state : State) (found : Clock.find? id = some clock) (target : Nat) :
    ∃ rate, board.Answers state target clock.node rate := by
  cases built : clock.node with
  | pll pll =>
    cases fixed : pll.isFixedRatio with
    | true => exact ⟨_, .fixed fixed⟩
    | false =>
      rcases solve_cases board.options.derivesSpread (state.cache.plls.get pll).mode board.oscillators.hxt target with
        ⟨reason, fails⟩ | ⟨solution, solves, _⟩
      · exact ⟨_, .unreachable fixed fails⟩
      · exact ⟨_, .solved fixed solves⟩
  | gate gate => exact ⟨_, .gate rfl⟩
  | mux gate mux =>
    by_cases offered : ∃ parent, board.Offers state mux target parent
    · obtain ⟨parent, offers⟩ := offered
      exact ⟨_, .selected offers⟩
    · exact ⟨_, .missed rfl rfl (not_exists.mp offered) rfl⟩
  | divider gate mux? divider =>
    obtain ⟨ratio, reads, _⟩ := Clock.exists_ratio found built state.registers
    cases mux? with
    | none => exact ⟨_, .divided rfl reads⟩
    | some mux =>
      by_cases offered : ∃ parent, board.Offers state mux target parent
      · obtain ⟨parent, offers⟩ := offered
        exact ⟨_, .selectedDivided offers reads⟩
      · exact ⟨_, .missed rfl rfl (not_exists.mp offered) rfl⟩

/-- What is answered for a clock of the table is the rate of a plan for it. -/
theorem Answers.exists_plan (found : Clock.find? id = some clock)
    (answers : board.Answers state target clock.node rate) :
    ∃ plan, Plan.ofNode board state.cache state.registers clock.node target = .ok plan ∧ plan.rate = rate := by
  have inside (divider : Divider) := @Clock.divider_inside id clock found divider
  generalize clock.node = node at answers inside ⊢
  cases answers with
  | fixed fixed => exact ⟨_, Plan.ofPll_of_isFixedRatio fixed, rfl⟩
  | solved programmable solves => exact ⟨_, Plan.ofPll_of_ok programmable solves, rfl⟩
  | unreachable programmable fails => exact ⟨_, Plan.ofPll_of_error programmable fails, rfl⟩
  | gate runs => exact ⟨_, rfl, Except.ok.inj runs⟩
  | @divided gate divider rate ratio runs reads =>
    have positive := RegisterBlock.ratio_pos (inside divider rfl) reads
    refine ⟨.unchanged (rate / ratio), ?_, rfl⟩
    cases runs
    rw [Plan.ofNode, reads, Checked.ok_bind, Checked.div_of_pos positive]
    rfl
  | @missed _ gate mux rate gated has misses runs =>
    refine ⟨.noParent rate, ?_, rfl⟩
    cases runs
    have missed := Plan.parent?_eq_none_iff.mpr misses
    exact Plan.ofNode_of_parent?_eq_none gated has missed
  | @selected gate mux parent offers =>
    obtain ⟨first, planned⟩ := Plan.exists_parent? offers
    exact ⟨.select mux first target, Plan.ofMux_of_parent? state.registers gate planned, rfl⟩
  | @selectedDivided gate mux divider parent ratio offers reads =>
    obtain ⟨first, planned⟩ := Plan.exists_parent? offers
    have positive := RegisterBlock.ratio_pos (inside divider rfl) reads
    exact ⟨.select mux first (target / ratio), Plan.ofMux_of_parent?_divided gate planned reads positive, rfl⟩

/-- The rate of the plan for a clock is the one that is answered for it, and no other is. -/
theorem answers_iff (found : Clock.find? id = some clock) {plan : Plan}
    (plans : Plan.ofNode board state.cache state.registers clock.node target = .ok plan) :
    board.Answers state target clock.node rate ↔ rate = plan.rate := by
  have unique {other : Nat} (answers : board.Answers state target clock.node other) : plan.rate = other := by
    obtain ⟨planned, samePlans, gives⟩ := answers.exists_plan found
    rw [plans] at samePlans
    cases samePlans
    exact gives
  constructor
  · exact fun answers => (unique answers).symm
  · rintro rfl
    obtain ⟨other, answers⟩ := board.exists_answers state found target
    rw [unique answers]
    exact answers

/-! ### Rounding -/

theorem leads_roundRate (found : Clock.find? id = some clock) {registers : RegisterBlock} {cache : Cache} {plan : Plan}
    (plans : Plan.ofNode board cache registers clock.node target = .ok plan) :
    (board.roundRate id target).Leads (registers, cache) (.ok plan.rate) (registers, cache) :=
  (leads_plan found plans).bind (leads_pure _)

theorem leads_roundRate_of_none {registers : RegisterBlock} {cache : Cache} (unknown : Clock.find? id = none)
    (target : Nat) :
    (board.roundRate id target).Leads (registers, cache) (.error (.refused .noDevice)) (registers, cache) :=
  (leads_node_of_none unknown).bind_of_error.bind_of_error

theorem unmoved_roundRate (board : Board) (state : State) (id : ClockId) (target : Nat) :
    ((board.roundRate id target).outcome state).Unmoved state := by
  have plans : (board.plan id target).Along .unmoved := along_plan StateRelation.chains_unmoved id target
  have rounds : (board.roundRate id target).Along .unmoved :=
    plans.bind StateRelation.chains_unmoved fun _ => along_pure StateRelation.chains_unmoved _
  exact Outcome.unmoved_of_runOn (rounds _)

/-- From any state, rounding a rate writes no register and leaves the cache as it is. Unless the request itself ends
in a fault, it ends just as rounding does: it is refused for an unknown id, and answers the one rate that there
is for any other clock. -/
theorem roundRate_predicts (board : Board) (state : State) (id : ClockId) (target : Nat) :
    let rounded := (board.roundRate id target).outcome state
    let moved := (board.setRate id target).outcome state
    rounded.Unmoved state ∧ (moved.isFault = false → rounded.result = moved.result) ∧
      match Clock.find? id with
      | none => rounded.result = .error (.refused .noDevice)
      | some clock => ∃ rate, rounded.result = .ok rate ∧
          ∀ other, board.Answers state target clock.node other ↔ other = rate := by
  intro rounded moved
  refine ⟨board.unmoved_roundRate state id target, fun ends => ?_, ?_⟩
  · obtain ⟨result, after, step, leads⟩ := board.exists_rateStep id target state.registers state.cache
    have moves : moved.result = result := leads.outcome.1
    rw [moves]
    cases step with
    | unknown unknown => exact (leads_roundRate_of_none unknown target).outcome.1
    | idle found plans => exact (leads_roundRate found plans).outcome.1
    | fault =>
      rw [Outcome.isFault, moves] at ends
      cases ends
    | program found plans => exact (leads_roundRate found plans).outcome.1
    | select found plans => exact (leads_roundRate found plans).outcome.1
  · cases found : Clock.find? id with
    | none => exact (leads_roundRate_of_none found target).outcome.1
    | some clock =>
      obtain ⟨plan, plans⟩ := Plan.exists_ofNode board state.cache state.registers found target
      exact ⟨plan.rate, (leads_roundRate found plans).outcome.1, fun _ => answers_iff found plans⟩

/-- The pixel clock could follow a loop that was programmed before, and would run at half of its rate. -/
theorem roundRate_predicts_pixel :
    let state := ((Board.setRate {} 3 0).outcome (Board.start {} .zero).state).state
    let rounded := (Board.roundRate {} 62 1_000_000_000).outcome state
    let moved := (Board.setRate {} 62 1_000_000_000).outcome state
    moved.isFault = false ∧ rounded.result = moved.result ∧ moved.result = .ok 500_000_000 ∧
      rounded.state.registers = state.registers := by
  intro state rounded moved
  have predicts := roundRate_predicts {} state 62 1_000_000_000
  have ends : moved.isFault = false := by decide +kernel
  have answers : ((Board.setRate {} 62 1_000_000_000).outcome
      ((Board.setRate {} 3 0).outcome (Board.start {} .zero).state).state).result = .ok 500_000_000 := rfl
  exact ⟨ends, predicts.2.1 ends, answers, predicts.1.registers⟩

end Board

end ClockController
