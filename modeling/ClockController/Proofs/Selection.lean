import ClockController.Proofs.ActivePath
import ClockController.Proofs.SelectorFields

/-!
# ClockController.Proofs.Selection

Rate requests for clocks that are no programmable loops.

## Proof strategy

A plan names the first parent whose cached rate is the target, and carrying it out is one write of a field. The
cache is coherent before and after, so that the parent runs at the target afterwards as well: the selector of a
bus clock does not choose between roots that follow a bus clock, and any other selector leaves the bus clocks
alone.

## Main definitions

`Action.Writes`: the words that an operation writes.
`Board.Offers`: a parent of a selector runs at a rate.
`Board.Selects`, `Board.Leaves`: how a rate request goes that moves a selector, and one that moves nothing.

## Main results

`Plan.parent?_eq_some_iff`, `Plan.parent?_eq_none_iff`: the parent that is planned for.
`Board.writes_select`, `Board.writes_setRate_of_idle`, `Board.writes_setRate_of_select`: what is written.
`Board.setRate_selection`: all through a session a rate request selects the first parent at the target.
-/

namespace ClockController

open ClockController.Action

/-! ### Written words -/

namespace Action

variable {α β : Type} {state after : State} {first second : List (Register × Word)}

/-- On the way from a state the operation writes these words, in this order, and no others. -/
def Writes (written : List (Register × Word)) (action : Action α) (state : State) : Prop :=
  (action.runOn state).2.journal.writes = state.journal.writes ++ written

theorem Along.writes {action : Action α} (silent : action.Silent) (state : State) : action.Writes [] state := by
  rw [Writes, (silent state).2, List.append_nil]

theorem Writes.bind {action : Action α} {next : α → Action β} {value : α} (writes : action.Writes first state)
    (runs : action.runOn state = (.ok value, after)) (rest : (next value).Writes second after) :
    (action >>= next).Writes (first ++ second) state := by
  unfold Writes at writes rest ⊢
  rw [runs] at writes
  rw [runOn_bind, runs]
  dsimp only at writes ⊢
  rw [rest, writes, List.append_assoc]

theorem Writes.bind_silent {action : Action α} {next : α → Action β} (writes : action.Writes first state)
    (silent : ∀ value, (next value).Silent) : (action >>= next).Writes first state := by
  unfold Writes at writes ⊢
  rw [runOn_bind]
  rcases run : action.runOn state with ⟨result, after⟩
  rw [run] at writes
  cases result with
  | ok value => exact (silent value after).2.trans writes
  | error failure => exact writes

theorem writes_modifyBits (register : Register) (clear set : Word) (state : State) :
    (modifyBits register clear set).Writes
      [(register, (state.registers.read register &&& ~~~clear) ||| set)] state := by
  rw [Writes, runOn_modifyBits]
  rfl

theorem writes_liftM_bind {checked : Checked α} {value : α} (exists_ : checked = .ok value)
    {next : α → Action β} (writes : (next value).Writes first state) :
    (liftM checked >>= next : Action β).Writes first state := by
  have runs : (liftM checked : Action α).runOn state = (.ok value, state) := by
    rw [runOn_liftM, exists_]
    rfl
  exact ((along_liftM StateRelation.chains_silent checked).writes state).bind runs writes

end Action

namespace Board

variable {board : Board} {state : State} {id : ClockId} {clock : Clock} {target : Nat}

/-- Planning writes nothing, so that a rate request writes what carrying out the plan writes. -/
theorem writes_setRate (found : Clock.find? id = some clock) {plan : Plan}
    (plans : Plan.ofNode board state.cache state.registers clock.node target = .ok plan)
    {written : List (Register × Word)}
    (carries : ∀ journal, (board.carryOut id target plan).Writes written { state with journal := journal }) :
    (board.setRate id target).Writes written state := by
  obtain ⟨reported, runs⟩ := leads_plan found plans state.journal
  exact ((board.silent_plan id target).writes state).bind runs (carries reported)

theorem writes_setRate_of_idle (found : Clock.find? id = some clock) {plan : Plan}
    (plans : Plan.ofNode board state.cache state.registers clock.node target = .ok plan)
    (idle : plan.isIdle = true) : (board.setRate id target).Writes [] state := by
  have reported (message : Message) (rate : Nat) : (do report message; return rate : Action Nat).Silent :=
    (along_report StateRelation.chains_silent message).bind StateRelation.chains_silent fun _ =>
      along_pure StateRelation.chains_silent rate
  have nothing : (board.carryOut id target plan).Silent := by
    cases plan with
    | unchanged rate => exact along_pure StateRelation.chains_silent rate
    | unreachable reason => exact reported _ 0
    | noParent rate => exact reported _ rate
    | program pll mode solution => cases idle
    | select mux parent rate => cases idle
  exact writes_setRate found plans fun _ => nothing.writes _

/-- Selecting a parent is one write, in which the selector is moved. -/
theorem writes_select {mux : Mux} {parent rate : Nat} {moved : Word}
    (moves : mux.moveTo parent (state.registers.read mux.register) = .ok moved) :
    (board.select id mux parent rate).Writes [(mux.register, moved)] state := by
  obtain ⟨mask, masks, moves⟩ := Checked.bind_eq_ok_iff.mp moves
  obtain ⟨value, places, moves⟩ := Checked.bind_eq_ok_iff.mp moves
  cases moves
  refine writes_liftM_bind masks (writes_liftM_bind places ?_)
  refine (writes_modifyBits _ _ _ _).bind_silent fun _ =>
    (along_report StateRelation.chains_silent _).bind StateRelation.chains_silent fun _ => ?_
  split
  next => exact board.silent_refreshBus
  next => exact along_pure StateRelation.chains_silent ()

theorem writes_setRate_of_select (found : Clock.find? id = some clock) {mux : Mux} {parent rate : Nat}
    (plans : Plan.ofNode board state.cache state.registers clock.node target = .ok (.select mux parent rate)) :
    (board.setRate id target).Writes
      [(mux.register, mux.field.write parent (state.registers.read mux.register))] state := by
  obtain ⟨has, inRange⟩ := Plan.ofNode_select plans
  have moves := Mux.moveTo_eq (Clock.mux_inside found has) (Clock.parent_fits found has inRange)
    (state.registers.read mux.register)
  refine writes_setRate found plans fun journal => ?_
  have selects : (board.select id mux parent rate).Writes _ { state with journal := journal } := writes_select moves
  exact selects.bind_silent fun _ => along_pure StateRelation.chains_silent rate

end Board

/-! ### Parents at a rate -/

/-- A parent of a selector runs at a rate. Reserved values are no parents. -/
def Board.Offers (board : Board) (state : State) (mux : Mux) (rate parent : Nat) : Prop :=
  ∃ root, mux.parents[parent]? = some root ∧ root ≠ .unspecified ∧
    ((board.resolveRoot root).outcome state).result = .ok rate

namespace Plan

variable {board : Board} {state : State} {mux : Mux} {target : Nat}

theorem offers_iff {parent : Nat} :
    board.Offers state mux target parent ↔ ∃ inRange : parent < mux.parents.length,
      (mux.parents[parent] != .unspecified &&
        state.cache.rootRate board.oscillators mux.parents[parent] == target) = true := by
  have resolves (root : Root) : ((board.resolveRoot root).outcome state).result =
      .ok (state.cache.rootRate board.oscillators root) := rfl
  simp only [Board.Offers, resolves, Except.ok.injEq, Bool.and_eq_true, bne_iff_ne, beq_iff_eq]
  constructor
  · rintro ⟨root, names, proper, runs⟩
    obtain ⟨inRange, rfl⟩ := List.getElem?_eq_some_iff.mp names
    exact ⟨inRange, proper, runs⟩
  · rintro ⟨inRange, proper, runs⟩
    exact ⟨_, List.getElem?_eq_getElem inRange, proper, runs⟩

/-- The parent that is planned for is the first one at the target. -/
theorem parent?_eq_some_iff {parent : Nat} :
    parent? board.oscillators state.cache mux target = some parent ↔
      board.Offers state mux target parent ∧ ∀ lower < parent, ¬ board.Offers state mux target lower := by
  rw [parent?, List.findIdx?_eq_some_iff_getElem]
  constructor
  · rintro ⟨inRange, runs, before⟩
    refine ⟨offers_iff.mpr ⟨inRange, runs⟩, fun lower below offers => ?_⟩
    obtain ⟨_, offered⟩ := offers_iff.mp offers
    exact before lower below offered
  · rintro ⟨offers, before⟩
    obtain ⟨inRange, runs⟩ := offers_iff.mp offers
    exact ⟨inRange, runs, fun lower below offered =>
      before lower below (offers_iff.mpr ⟨Nat.lt_trans below inRange, offered⟩)⟩

theorem parent?_eq_none_iff :
    parent? board.oscillators state.cache mux target = none ↔
      ∀ parent, ¬ board.Offers state mux target parent := by
  rw [parent?, List.findIdx?_eq_none_iff]
  constructor
  · intro none parent offers
    obtain ⟨inRange, runs⟩ := offers_iff.mp offers
    exact Bool.false_ne_true ((none _ (List.getElem_mem inRange)).symm.trans runs)
  · intro none root member
    obtain ⟨parent, inRange, rfl⟩ := List.getElem_of_mem member
    exact Bool.eq_false_iff.mpr fun runs => none parent (offers_iff.mpr ⟨inRange, runs⟩)

theorem exists_parent? {offered : Nat} (offers : board.Offers state mux target offered) :
    ∃ parent, parent? board.oscillators state.cache mux target = some parent := by
  cases planned : parent? board.oscillators state.cache mux target with
  | none => exact absurd offers (parent?_eq_none_iff.mp planned offered)
  | some parent => exact ⟨parent, rfl⟩

end Plan

/-! ### Rate requests -/

namespace Board

/-- A rate request selects a parent: the first one at the target. Its number is written into the selector, and
the clock runs at the answered rate. -/
structure Selects (board : Board) (state : State) (id : ClockId) (mux : Mux) (target parent rate : Nat) : Prop where
  offers : board.Offers state mux target parent
  first : ∀ lower < parent, ¬ board.Offers state mux target lower
  answers : ((board.setRate id target).outcome state).result = .ok rate
  writes : ((board.setRate id target).outcome state).state.journal.writes =
    [(mux.register, mux.field.write parent (state.registers.read mux.register))]
  registers : ((board.setRate id target).outcome state).state.registers =
    state.registers.write mux.register (mux.field.write parent (state.registers.read mux.register))
  reads : mux.place.read ((board.setRate id target).outcome state).state.registers = parent
  runs : ((board.getRate id).outcome ((board.setRate id target).outcome state).state).result = .ok rate

/-- A rate request writes nothing, and the clock runs as before. -/
structure Leaves (board : Board) (state : State) (id : ClockId) (target : Nat) : Prop where
  writes : ((board.setRate id target).outcome state).state.journal.writes = []
  registers : ((board.setRate id target).outcome state).state.registers = state.registers
  runs : ((board.getRate id).outcome ((board.setRate id target).outcome state).state).result =
    ((board.getRate id).outcome state).result

/-- A rate request selects a parent if there is one at the target, and leaves everything as it is otherwise. -/
structure Switches (board : Board) (state : State) (id : ClockId) (mux : Mux) (target rate : Nat) : Prop where
  selects : (∃ parent, board.Offers state mux target parent) →
    ∃ parent, board.Selects state id mux target parent rate
  leaves : (∀ parent, ¬ board.Offers state mux target parent) → board.Leaves state id target

/-- A rate request leaves everything as it is, and answers the rate of the clock. -/
structure Confirms (board : Board) (state : State) (id : ClockId) (target : Nat) : Prop where
  leaves : board.Leaves state id target
  answers : ((board.setRate id target).outcome state).result = ((board.getRate id).outcome state).result

variable {board : Board} {state : State} {id : ClockId} {clock : Clock} {target : Nat}

theorem leaves_of_idle (found : Clock.find? id = some clock) {plan : Plan}
    (plans : Plan.ofNode board state.cache state.registers clock.node target = .ok plan)
    (idle : plan.isIdle = true) : board.Leaves state id target := by
  obtain ⟨_, registers, cache⟩ := (leads_setRate_of_idle found plans idle).outcome
  have written : (board.setRate id target).Writes [] { state with journal := {} } :=
    writes_setRate_of_idle found plans idle
  exact ⟨written, registers, by rw [Action.outcome_congr _ registers cache]⟩

/-- Without a selector and without a loop to program, the plan is to leave the clock at its rate. -/
theorem confirms_of_unchanged (found : Clock.find? id = some clock) {rate : Nat}
    (plans : Plan.ofNode board state.cache state.registers clock.node target = .ok (.unchanged rate))
    (runs : board.nodeRate? state.registers state.cache clock.node = .ok rate) : board.Confirms state id target where
  leaves := leaves_of_idle found plans rfl
  answers := by
    rw [(leads_setRate_of_idle found plans rfl).outcome.1, board.result_getRate found, runs]
    rfl

theorem confirms_gate (found : Clock.find? id = some clock) {gate : Gate} (built : clock.node = .gate gate) :
    board.Confirms state id target := by
  have plans : Plan.ofNode board state.cache state.registers clock.node target =
      .ok (.unchanged (state.cache.rootRate board.oscillators gate.root)) := by
    rw [built]
    rfl
  exact confirms_of_unchanged found plans (by rw [built]; rfl)

theorem confirms_divider (found : Clock.find? id = some clock) {gate : Gate} {divider : Divider}
    (built : clock.node = .divider gate none divider) : board.Confirms state id target := by
  obtain ⟨ratio, reads, positive⟩ := Clock.exists_ratio found built state.registers
  have quotient : Checked.div (state.cache.rootRate board.oscillators gate.root) ratio =
      .ok (state.cache.rootRate board.oscillators gate.root / ratio) := Checked.div_of_pos positive
  have plans : Plan.ofNode board state.cache state.registers clock.node target =
      .ok (.unchanged (state.cache.rootRate board.oscillators gate.root / ratio)) := by
    rw [built, Plan.ofNode, reads, Checked.ok_bind, quotient]
    rfl
  refine confirms_of_unchanged found plans ?_
  rw [built, nodeRate?, Checked.ok_bind]
  dsimp only
  rw [reads, Checked.ok_bind, quotient]

namespace Coherent

variable {registers : RegisterBlock} {cache : Cache} {bus : BusRates}

/-- The cached rate of a fixed-ratio loop is the one that is read back. -/
theorem confirms_pll (coherent : board.Coherent state.registers state.cache) (found : Clock.find? id = some clock)
    {pll : Pll} (built : clock.node = .pll pll) (fixed : pll.isFixedRatio = true) :
    board.Confirms state id target := by
  have plans : Plan.ofNode board state.cache state.registers clock.node target =
      .ok (.unchanged (state.cache.plls.get pll).rate) := by
    rw [built, Plan.ofNode, Plan.ofPll, if_pos fixed]
  refine confirms_of_unchanged found plans ?_
  rw [built, nodeRate?, coherent.loops]
  rfl

/-- A parent that was selected is found in the registers, and runs at the rate that it ran at before. -/
theorem runs_selected (coherent : board.Coherent registers cache) (found : Clock.find? id = some clock) {mux : Mux}
    (has : clock.node.mux? = some mux) {parent : Nat} (inRange : parent < mux.parents.length)
    {selected : RegisterBlock}
    (writes : selected = registers.write mux.register (mux.field.write parent (registers.read mux.register)))
    (derives : if id.isBusMux then cache.busRates board.oscillators selected = .ok bus else bus = cache.bus) :
    mux.place.read selected = parent ∧
      mux.selected (selected.read mux.register) = .ok mux.parents[parent] ∧
      mux.parents[parent].Runs board selected (cache.rootRate board.oscillators mux.parents[parent]) := by
  have inside := Clock.mux_inside found has
  have coherentAfter : board.Coherent selected { cache with bus := bus } := by
    subst writes
    exact coherent.selected found has derives
  have reads : mux.field.read (selected.read mux.register) = parent := by
    rw [writes, RegisterBlock.read_write, if_pos rfl]
    exact Field.read_write mux.field inside.2.2 (Clock.parent_fits found has inRange) _
  refine ⟨reads, ?_, ?_⟩
  · rw [Mux.selected_eq inside, reads, List.getElem?_eq_getElem inRange]
    rfl
  · rw [coherentAfter.root_runs_iff]
    exact Cache.rootRate_selected found has derives (List.getElem_mem inRange)

/-- Selecting the first parent at the target, for a clock that runs at the rate once that parent is selected. -/
theorem selects (coherent : board.Coherent state.registers state.cache) (found : Clock.find? id = some clock)
    {mux : Mux} {parent rate : Nat}
    (first : Plan.parent? board.oscillators state.cache mux target = some parent)
    (plans : Plan.ofNode board state.cache state.registers clock.node target = .ok (.select mux parent rate))
    (runs : ∀ {root value}, mux.selected value = .ok root →
      root.Runs board (state.registers.write mux.register value) target →
      clock.node.Runs board (state.registers.write mux.register value) rate) :
    board.Selects state id mux target parent rate := by
  obtain ⟨offers, before⟩ := Plan.parent?_eq_some_iff.mp first
  obtain ⟨inRange, offered⟩ := Plan.offers_iff.mp offers
  obtain ⟨has, _⟩ := Plan.ofNode_select plans
  obtain ⟨bus, derives, leads⟩ := leads_setRate_of_select found plans
  obtain ⟨answers, registers, _⟩ := leads.outcome
  obtain ⟨reads, selected, feeds⟩ := coherent.runs_selected found has inRange rfl derives
  have runsAt : state.cache.rootRate board.oscillators mux.parents[parent] = target :=
    beq_iff_eq.mp (Bool.and_eq_true_iff.mp offered).2
  have written : (board.setRate id target).Writes
      [(mux.register, mux.field.write parent (state.registers.read mux.register))] { state with journal := {} } :=
    writes_setRate_of_select found plans
  rw [RegisterBlock.read_write, if_pos rfl] at selected
  rw [runsAt] at feeds
  exact {
    offers := offers
    first := before
    answers := answers
    writes := written
    registers := registers
    reads := (congrArg (RegisterField.read · mux.place) registers).trans reads
    runs := (coherent.selected found has derives).getRate_after leads found (runs selected feeds) }

/-- The plan for a clock with a selector is to select the first parent at the target, or to do nothing. -/
theorem switches (coherent : board.Coherent state.registers state.cache) (found : Clock.find? id = some clock)
    {mux : Mux} (has : clock.node.mux? = some mux) {rate : Nat}
    (plans : ∀ parent, Plan.parent? board.oscillators state.cache mux target = some parent →
      Plan.ofNode board state.cache state.registers clock.node target = .ok (.select mux parent rate))
    (runs : ∀ {root value}, mux.selected value = .ok root →
      root.Runs board (state.registers.write mux.register value) target →
      clock.node.Runs board (state.registers.write mux.register value) rate) :
    board.Switches state id mux target rate where
  selects := by
    rintro ⟨offered, offers⟩
    obtain ⟨parent, planned⟩ := Plan.exists_parent? offers
    exact ⟨parent, coherent.selects found planned (plans parent planned) runs⟩
  leaves := by
    intro none
    obtain ⟨_, missed⟩ := Plan.exists_noParent has (Plan.parent?_eq_none_iff.mpr none)
    exact leaves_of_idle found missed rfl

/-- A rate request for a clock with a selector and nothing behind it. -/
theorem switches_mux (coherent : board.Coherent state.registers state.cache) (found : Clock.find? id = some clock)
    {gate : Gate} {mux : Mux} (built : clock.node = .mux gate mux) :
    board.Switches state id mux target target := by
  have has : clock.node.mux? = some mux := by
    rw [built]
    rfl
  refine coherent.switches found has (fun parent planned => ?_) fun selects feeds => ?_
  · rw [built]
    exact Plan.ofMux_of_parent? state.registers gate planned
  · rw [built]
    refine .mux ?_ feeds
    rw [RegisterBlock.read_write, if_pos rfl]
    exact selects

/-- A rate request for a clock with a selector and a divider. -/
theorem switches_divider (coherent : board.Coherent state.registers state.cache)
    (found : Clock.find? id = some clock) {gate : Gate} {mux : Mux} {divider : Divider}
    (built : clock.node = .divider gate (some mux) divider) {ratio : Nat}
    (reads : state.registers.dividerRatio divider = .ok ratio) (positive : 0 < ratio) :
    board.Switches state id mux target (target / ratio) := by
  have has : clock.node.mux? = some mux := by
    rw [built]
    rfl
  have divides : clock.node.divider? = some divider := by
    rw [built]
    rfl
  -- Dividers have registers of their own.
  have other : divider.register ≠ mux.register := by
    intro same
    have role := Clock.role_divider found divides
    rw [same, Clock.role_mux found has] at role
    cases role
  refine coherent.switches found has (fun parent planned => ?_) fun selects feeds => ?_
  · rw [built]
    exact Plan.ofMux_of_parent?_divided gate planned reads positive
  · rw [built]
    refine .divider (.mux ?_ feeds) ?_
    · rw [RegisterBlock.read_write, if_pos rfl]
      exact selects
    · rw [RegisterBlock.dividerRatio, RegisterBlock.read_write, if_neg other]
      exact reads

end Coherent

end Board

/-! ### Sessions -/

/-- All through a session in which nobody else writes the registers, a rate request for a clock with a selector
selects the first parent that runs at the target, and the clock runs at the answered rate then: the target, or
the target divided. Without such a parent the clock stays as it is. Any other clock but a programmable loop stays
as it is, and its rate is answered. -/
theorem Board.setRate_selection (board : Board) (registers : RegisterBlock) (requests : List Request)
    (starts : (board.start registers).result = .ok ()) (own : ∀ request ∈ requests, request.isForeign = false)
    {state : State} (member : state ∈ board.states requests (board.start registers).state) {id : ClockId}
    {clock : Clock} (found : Clock.find? id = some clock) (target : Nat) :
    match clock.node with
    | .mux _ mux => board.Switches state id mux target target
    | .divider _ (some mux) divider => ∃ ratio, state.registers.dividerRatio divider = .ok ratio ∧
        board.Switches state id mux target (target / ratio)
    | .pll pll => pll.isFixedRatio = true → board.Confirms state id target
    | .gate _ | .divider _ none _ => board.Confirms state id target := by
  have coherent := coherent_of_mem_states starts own member
  split
  next gate mux built => exact coherent.switches_mux found built
  next gate mux divider built =>
    obtain ⟨ratio, reads, positive⟩ := Clock.exists_ratio found built state.registers
    exact ⟨ratio, reads, coherent.switches_divider found built reads positive⟩
  next pll built => exact coherent.confirms_pll found built
  next gate built => exact confirms_gate found built
  next gate divider built => exact confirms_divider found built

/-- The pixel clock follows a loop that was programmed before, and runs at half of its rate. -/
theorem Board.setRate_selection_pixel :
    let state := ((Board.perform {} (.setRate 3 0)).outcome (Board.start {} .zero).state).state
    let asked := (Board.setRate {} 62 1_000_000_000).outcome state
    state ∈ Board.states {} [.setRate 3 0] (Board.start {} .zero).state ∧
      Board.Offers {} state .dcup 1_000_000_000 1 ∧ asked.result = .ok 500_000_000 ∧
      asked.state.journal.writes = [(.clksel0, 0x02000000)] ∧
      ((Board.getRate {} 62).outcome asked.state).result = .ok 500_000_000 := by
  intro state asked
  have own : ∀ request ∈ [Request.setRate 3 0], request.isForeign = false := by decide
  have member : state ∈ Board.states {} [.setRate 3 0] (Board.start {} .zero).state := .tail _ (.head _)
  have runs : state.cache.rootRate {} .aPll = 1_000_000_000 := by decide +kernel
  have offers : Board.Offers {} state .dcup 1_000_000_000 1 := ⟨.aPll, rfl, nofun, congrArg Except.ok runs⟩
  obtain ⟨ratio, reads, switches⟩ :=
    Board.setRate_selection {} .zero [.setRate 3 0] rfl own member (rfl : Clock.find? 62 = some _) 1_000_000_000
  have halves : ratio = 2 := (Except.ok.inj reads).symm.trans (by decide +kernel)
  subst halves
  obtain ⟨parent, selects⟩ := switches.selects ⟨1, offers⟩
  exact ⟨member, offers, selects.answers, by decide +kernel, selects.runs⟩

/-- The ids of the clocks with a selector: those of the selectors, and the divider of the pixel clock. -/
example : (List.range ClockId.count).filter (fun id => ((Clock.find? id).bind (·.node.mux?)).isSome) =
    List.range' ClockId.firstMux 14 := by decide

end ClockController
