import ClockController.Proofs.Footprint
import ClockController.Proofs.UncachedRate

/-!
# ClockController.Proofs.ActivePath

The path from which a clock gets its rate, and requests that stay off it.

## Proof strategy

A rate that the registers give depends on the loops and selectors of the active path and on the divider. A rate
request changes the loop or the selector that it is about, and nothing else. The cache is coherent before and
after, so that the answered rates are those of the registers.

## Main definitions

`Stage`: what a path passes through, a loop or a selector.
`Root.Passes`, `Node.Passes`: the active path of a root and of a clock.
`Stage.Kept`: a stage does the same before and after.

## Main results

`Node.Runs.of_kept`: a clock runs at the same rate if its path and its divider are kept.
`Stage.kept_of_footprint`: a rate request keeps every stage but the one that it is about.
`Board.getRate_off_path`: the rates of clocks whose path does not pass through what a request is about.
-/

namespace ClockController

open ClockController.Action

/-! ### Paths -/

inductive Stage where
  | loop (pll : Pll)
  | selector (place : RegisterField)
deriving DecidableEq, Repr

/-- The active path of a root passes through a stage. A bus clock continues through the parent that its selector
selects. -/
inductive Root.Passes (registers : RegisterBlock) : Root → Stage → Prop
  | loop {root : Root} {pll : Pll} (comes : root.source = .loop pll) : Passes registers root (.loop pll)
  | selector {root : Root} {bus : Bus} (comes : root.source = .bus bus) :
    Passes registers root (.selector bus.mux.place)
  | parent {root parent : Root} {bus : Bus} {stage : Stage} (comes : root.source = .bus bus)
    (selects : bus.mux.selected (registers.read bus.mux.register) = .ok parent)
    (passes : Passes registers parent stage) : Passes registers root stage

/-- The active path of a clock passes through a stage. -/
inductive Node.Passes (registers : RegisterBlock) : Node → Stage → Prop
  | pll {loop : Pll} : Passes registers (.pll loop) (.loop loop)
  | gate {gate : Gate} {stage : Stage} (passes : gate.root.Passes registers stage) :
    Passes registers (.gate gate) stage
  | selector {gate : Gate} {mux : Mux} : Passes registers (.mux gate mux) (.selector mux.place)
  | mux {gate : Gate} {mux : Mux} {root : Root} {stage : Stage}
    (selects : mux.selected (registers.read mux.register) = .ok root)
    (passes : root.Passes registers stage) : Passes registers (.mux gate mux) stage
  | divider {gate : Gate} {mux? : Option Mux} {divider : Divider} {stage : Stage}
    (passes : Passes registers (.undivided gate mux?) stage) : Passes registers (.divider gate mux? divider) stage

/-- The loop or the selector that a rate request for a clock is about. -/
def Node.stage? : Node → Option Stage
  | .pll loop => some (.loop loop)
  | node => node.mux?.map fun mux => .selector mux.place

theorem Node.stage?_of_mux {node : Node} {mux : Mux} (has : node.mux? = some mux) :
    node.stage? = some (.selector mux.place) := by
  have selects : node.stage? = node.mux?.map fun mux => .selector mux.place := by
    cases node with
    | pll loop => cases has
    | _ => rfl
  rw [selects, has]
  rfl

/-- The path of a clock begins with its own loop or selector. -/
theorem Node.passes_stage {node : Node} {stage : Stage} (own : node.stage? = some stage)
    (registers : RegisterBlock) : node.Passes registers stage := by
  cases node with
  | pll loop =>
    cases own
    exact .pll
  | gate gate => cases own
  | mux gate mux =>
    cases own
    exact .selector
  | divider gate mux? divider =>
    cases mux? with
    | none => cases own
    | some mux =>
      cases own
      exact .divider .selector

def ClockId.stage? (id : ClockId) : Option Stage :=
  (Clock.find? id).bind fun clock => clock.node.stage?

def ClockId.Passes (registers : RegisterBlock) (id : ClockId) (stage : Stage) : Prop :=
  ∃ clock, Clock.find? id = some clock ∧ clock.node.Passes registers stage

/-- The selectors on the path of a root are those of bus clocks. -/
theorem Root.Passes.exists_bus {registers : RegisterBlock} {root : Root} {stage : Stage}
    (passes : root.Passes registers stage) {place : RegisterField} (same : stage = .selector place) :
    ∃ bus : Bus, place = bus.mux.place := by
  induction passes with
  | loop => cases same
  | @selector root bus comes =>
    cases same
    exact ⟨bus, rfl⟩
  | parent _ _ _ ih => exact ih same

/-- A selector on the path of a clock is its own or that of a bus clock. -/
theorem Node.Passes.own_or_bus {registers : RegisterBlock} {node : Node} {stage : Stage}
    (passes : node.Passes registers stage) {place : RegisterField} (same : stage = .selector place) :
    (∃ mux, node.mux? = some mux ∧ place = mux.place) ∨ ∃ bus : Bus, place = bus.mux.place := by
  induction passes with
  | pll => cases same
  | gate passes => exact .inr (passes.exists_bus same)
  | selector =>
    cases same
    exact .inl ⟨_, rfl, rfl⟩
  | mux _ passes => exact .inr (passes.exists_bus same)
  | @divider gate mux? divider stage passes ih =>
    cases mux? with
    | none => exact .inr ((ih same).resolve_left nofun)
    | some mux => exact ih same

/-- So it is one of the table. -/
theorem Node.Passes.exists_mux {registers : RegisterBlock} {id : ClockId} {clock : Clock}
    (found : Clock.find? id = some clock) {place : RegisterField}
    (passes : clock.node.Passes registers (.selector place)) :
    ∃ id clock mux, Clock.find? id = some clock ∧ clock.node.mux? = some mux ∧ place = mux.place := by
  rcases passes.own_or_bus rfl with ⟨mux, has, same⟩ | ⟨bus, same⟩
  · exact ⟨id, clock, mux, found, has, same⟩
  · obtain ⟨follows, selector, foundBus, hasBus⟩ := bus.exists_mux
    exact ⟨follows, selector, bus.mux, foundBus, hasBus, same⟩

/-! ### Rates along a path -/

theorem Field.checkedRead_congr {field : Field} {x y : Word} (same : field.read x = field.read y) :
    field.checkedRead x = field.checkedRead y := by
  by_cases position : field.shift < 32
  · by_cases size : field.width < 32
    · rw [checkedRead_eq position size, checkedRead_eq position size, same]
    · -- A width outside the word is refused whatever the word.
      rw [checkedRead, checkedRead, Checked.shiftRight_of_lt position, Checked.shiftRight_of_lt position,
        checkedLowMask, if_neg size]
      rfl
  · rw [checkedRead, checkedRead, Checked.shiftRight, Checked.shiftRight, if_neg position, if_neg position]

theorem Mux.selected_congr {mux : Mux} {before after : RegisterBlock}
    (same : mux.place.read after = mux.place.read before) :
    mux.selected (after.read mux.register) = mux.selected (before.read mux.register) := by
  have reads : mux.selector (after.read mux.register) = mux.selector (before.read mux.register) :=
    Field.checkedRead_congr same
  rw [selected, reads]
  rfl

def Divider.place (divider : Divider) : RegisterField :=
  ⟨divider.register, divider.field⟩

theorem RegisterBlock.dividerRatio_congr {divider : Divider} {before after : RegisterBlock}
    (same : divider.place.read after = divider.place.read before) :
    after.dividerRatio divider = before.dividerRatio divider := by
  have reads : divider.field.checkedRead (after.read divider.register) =
      divider.field.checkedRead (before.read divider.register) := Field.checkedRead_congr same
  rw [dividerRatio, Divider.ratio, reads]
  rfl

/-- A loop has the same reading before and after, or a selector the same value. -/
def Stage.Kept (board : Board) (before after : RegisterBlock) : Stage → Prop
  | .loop pll => after.reading board.oscillators.hxt pll = before.reading board.oscillators.hxt pll
  | .selector place => place.read after = place.read before

variable {board : Board} {before after : RegisterBlock}

theorem Root.Runs.of_kept {root : Root} {rate : Nat} (runs : root.Runs board before rate)
    (kept : ∀ stage, root.Passes before stage → stage.Kept board before after) :
    root.Runs board after rate := by
  induction runs with
  | oscillator comes => exact .oscillator comes
  | loop comes reads => exact .loop comes ((kept _ (.loop comes)).trans reads)
  | bus comes selects feeds ih =>
    have same := Mux.selected_congr (kept _ (.selector comes))
    exact .bus comes (same.trans selects) (ih fun stage passes => kept stage (.parent comes selects passes))

/-- A clock runs at the same rate if its path and its divider are kept. -/
theorem Node.Runs.of_kept {node : Node} {rate : Nat} (runs : node.Runs board before rate)
    (kept : ∀ stage, node.Passes before stage → stage.Kept board before after)
    (divides : ∀ divider, node.divider? = some divider → divider.place.read after = divider.place.read before) :
    node.Runs board after rate := by
  induction runs with
  | pll reads => exact .pll ((kept _ .pll).trans reads)
  | gate feeds => exact .gate (feeds.of_kept fun stage passes => kept stage (.gate passes))
  | mux selects feeds =>
    exact .mux ((Mux.selected_congr (kept _ .selector)).trans selects)
      (feeds.of_kept fun stage passes => kept stage (.mux selects passes))
  | @divider gate mux? divider rate ratio feeds reads ih =>
    have same := RegisterBlock.dividerRatio_congr (divides divider rfl)
    refine .divider (ih (fun stage passes => kept stage (.divider passes)) fun inner has => ?_) (same.trans reads)
    -- What is divided has no divider of its own.
    cases mux? <;> cases has

namespace Board

/-! ### Answered rates -/

/-- The rate that is answered for a clock, in any state: from the cache, with a loop read back. -/
def nodeRate? (board : Board) (registers : RegisterBlock) (cache : Cache) : Node → Checked Nat
  | .pll loop => do
    let reading ← registers.reading board.oscillators.hxt loop
    return reading.rate
  | .gate gate => .ok (cache.rootRate board.oscillators gate.root)
  | .mux _ mux => cache.muxRate board.oscillators registers mux
  | .divider gate mux? divider => do
    let undivided ← match mux? with
      | some mux => cache.muxRate board.oscillators registers mux
      | none => .ok (cache.rootRate board.oscillators gate.root)
    let ratio ← registers.dividerRatio divider
    Checked.div undivided ratio

/-- Without its cache changing, the answer for a clock needs its own loop or selector and its divider alone. -/
theorem nodeRate?_of_kept {node : Node} (cache : Cache)
    (kept : ∀ stage, node.stage? = some stage → stage.Kept board before after)
    (divides : ∀ divider, node.divider? = some divider → divider.place.read after = divider.place.read before) :
    board.nodeRate? after cache node = board.nodeRate? before cache node := by
  have selects {mux : Mux} (same : mux.place.read after = mux.place.read before) :
      cache.muxRate board.oscillators after mux = cache.muxRate board.oscillators before mux := by
    rw [Cache.muxRate, Mux.selected_congr same]
    rfl
  unfold nodeRate?
  cases node with
  | pll loop =>
    have reads : after.reading board.oscillators.hxt loop = before.reading board.oscillators.hxt loop :=
      kept _ rfl
    dsimp only
    rw [reads]
  | gate gate => rfl
  | mux gate mux => exact selects (kept _ rfl)
  | divider gate mux? divider =>
    dsimp only
    rw [RegisterBlock.dividerRatio_congr (divides divider rfl)]
    cases mux? with
    | none => rfl
    | some mux =>
      dsimp only
      rw [selects (kept _ rfl)]

theorem result_nodeRate (board : Board) (state : State) (node : Node) :
    ((board.nodeRate node).runOn state).1 =
      (board.nodeRate? state.registers state.cache node).mapError .fault := by
  unfold nodeRate nodeRate?
  rw [runOn_bind, runOn_get]
  dsimp only
  cases node with
  | pll pll =>
    dsimp only
    rw [readBack, runOn_bind, runOn_get]
    dsimp only
    rw [runOn_bind, runOn_liftM]
    cases state.registers.reading board.oscillators.hxt pll <;> rfl
  | gate gate => rfl
  | mux gate mux => rw [runOn_liftM]
  | divider gate mux? divider =>
    have divides (undivided : Nat) :
        ((do let ratio ← state.registers.dividerRatio divider; Checked.div undivided ratio :
          Action Nat).runOn state).1 =
        (do let ratio ← state.registers.dividerRatio divider; Checked.div undivided ratio :
          Checked Nat).mapError .fault := by
      rw [runOn_bind, runOn_liftM]
      cases state.registers.dividerRatio divider with
      | ok ratio => exact congrArg Prod.fst (runOn_liftM _ state)
      | error fault => rfl
    cases mux? with
    | none => exact divides _
    | some mux =>
      dsimp only
      rw [runOn_bind, runOn_liftM]
      cases state.cache.muxRate board.oscillators state.registers mux with
      | ok undivided => exact divides undivided
      | error fault => rfl

theorem result_getRate (board : Board) {id : ClockId} {clock : Clock} (found : Clock.find? id = some clock)
    (state : State) :
    ((board.getRate id).outcome state).result =
      (board.nodeRate? state.registers state.cache clock.node).mapError .fault := by
  have answers := board.result_nodeRate { state with journal := {} } clock.node
  rw [← answers, Action.outcome, getRate, runOn_bind, runOn_node_of_find? found]
  dsimp only
  rw [runOn_bind]
  rcases (board.nodeRate clock.node).runOn { state with journal := {} } with ⟨result, after⟩
  cases result with
  | ok rate => cases board.options.tracesRates <;> rfl
  | error failure => rfl

theorem result_getRate_of_none (board : Board) {id : ClockId} (unknown : Clock.find? id = none) (state : State) :
    ((board.getRate id).outcome state).result = .error (.refused .noDevice) := by
  rw [Action.outcome, getRate, runOn_bind, runOn_node_of_none unknown]

end Board

/-! ### What a rate request keeps -/

/-- A rate request keeps every stage but the one that it is about. -/
theorem Stage.kept_of_footprint {id other : ClockId} {clock passing : Clock} {cache : Cache} {stage : Stage}
    (found : Clock.find? id = some clock)
    (agree : RegisterBlock.AgreeOutside (clock.node.rateFields cache) before after)
    (foundOther : Clock.find? other = some passing) (passes : passing.node.Passes before stage)
    (apart : clock.node.stage? ≠ some stage) : stage.Kept board before after := by
  cases stage with
  | loop pll =>
    -- The words of the loop are written only by a request for the loop itself.
    have kept (word : ControlWord) : after.read (.pll pll word) = before.read (.pll pll word) := by
      refine agree.read_register fun written member same => ?_
      rcases Node.mem_rateFields member with ⟨loop, _, isPll, _, place, _⟩ | ⟨mux, has, rfl⟩
      · cases place.symm.trans same
        exact apart (by rw [isPll]; rfl)
      · have role := Clock.role_mux found has
        rw [show mux.register = _ from same] at role
        cases role
    refine RegisterBlock.reading_congr ?_ board.oscillators.hxt
    rw [RegisterBlock.controlWords, kept, kept, kept]
    rfl
  | selector place =>
    obtain ⟨_, _, selector, foundSelector, hasSelector, rfl⟩ := passes.exists_mux foundOther
    refine agree.read_eq fun written member => ?_
    rcases Node.mem_rateFields member with ⟨loop, word, _, _, place, _⟩ | ⟨mux, has, rfl⟩
    · refine RegisterField.apart_of_role ?_
      rw [Mux.place, Clock.role_mux foundSelector hasSelector, place]
      intro role
      cases role
    · rcases Clock.mux_same_or_apart foundSelector found hasSelector has with ⟨register, field⟩ | separate
      · have same : mux.place = selector.place := by rw [Mux.place, Mux.place, register, field]
        exact absurd (same ▸ Node.stage?_of_mux has) apart
      · exact separate

/-- A divider keeps its ratio unless a register of dividers is written. -/
theorem Clock.divider_kept {fields : List RegisterField} {id : ClockId} {clock : Clock} {divider : Divider}
    (agree : RegisterBlock.AgreeOutside fields before after)
    (roles : ∀ written ∈ fields, written.register.role ≠ .divide)
    (found : find? id = some clock) (has : clock.node.divider? = some divider) :
    divider.place.read after = divider.place.read before := by
  refine agree.read_eq fun written member => RegisterField.apart_of_role ?_
  rw [Divider.place, Clock.role_divider found has]
  exact (roles written member).symm

/-! ### Rates off the path -/

theorem Action.outcome_congr {α : Type} (action : Action α) {before after : State}
    (registers : after.registers = before.registers) (cache : after.cache = before.cache) :
    action.outcome after = action.outcome before := by
  unfold outcome
  rw [registers, cache]

namespace Board.Coherent

variable {before after : State}

/-- With coherent caches the answer for a clock needs its path and its divider alone. -/
theorem getRate_of_kept (coherent : board.Coherent before.registers before.cache)
    (coherentAfter : board.Coherent after.registers after.cache) {id : ClockId} {clock : Clock}
    (found : Clock.find? id = some clock)
    (kept : ∀ stage, clock.node.Passes before.registers stage →
      stage.Kept board before.registers after.registers)
    (divides : ∀ divider, clock.node.divider? = some divider →
      divider.place.read after.registers = divider.place.read before.registers) :
    ((board.getRate id).outcome after).result = ((board.getRate id).outcome before).result := by
  obtain ⟨rate, leads, runs_iff⟩ := coherent.leads_getRate found
  obtain ⟨rateAfter, leadsAfter, runsAfter_iff⟩ := coherentAfter.leads_getRate found
  have runs := ((runs_iff rate).mpr rfl).of_kept kept divides
  rw [leads.outcome.1, leadsAfter.outcome.1, (runsAfter_iff rate).mp runs]

/-- A rate request leaves a coherent cache, or one that it has not touched. -/
theorem setRate_cases {state : State} (coherent : board.Coherent state.registers state.cache) (id : ClockId)
    (target : Nat) :
    ((board.setRate id target).outcome state).state.cache = state.cache ∨
      board.Coherent ((board.setRate id target).outcome state).state.registers
        ((board.setRate id target).outcome state).state.cache := by
  obtain ⟨result, after, step, leads⟩ := board.exists_rateStep id target state.registers state.cache
  rw [leads.outcome.2.1, leads.outcome.2.2]
  cases step with
  | unknown | idle | fault => exact .inl rfl
  | program found plans reads derives => exact .inr (coherent.programmed reads derives)
  | select found plans derives => exact .inr (coherent.selected found (Plan.ofNode_select plans).1 derives)

end Board.Coherent

/-- All through a session in which nobody else writes the registers, a rate request leaves the rate of every
clock whose active path passes neither through the loop nor through the selector that the request is about. -/
theorem Board.getRate_off_path (board : Board) (registers : RegisterBlock) (requests : List Request)
    (starts : (board.start registers).result = .ok ()) (own : ∀ request ∈ requests, request.isForeign = false)
    {state : State} (member : state ∈ board.states requests (board.start registers).state) (id other : ClockId)
    (target : Nat) (apart : ∀ stage, id.stage? = some stage → ¬ other.Passes state.registers stage) :
    ((board.getRate other).outcome ((board.setRate id target).outcome state).state).result =
      ((board.getRate other).outcome state).result := by
  have coherent := coherent_of_mem_states starts own member
  cases found : Clock.find? id with
  | none =>
    have refused : (board.setRate id target).Leads (state.registers, state.cache) (.error (.refused .noDevice))
        (state.registers, state.cache) := leads_setRate_of_none found target
    rw [Action.outcome_congr _ refused.outcome.2.1 refused.outcome.2.2]
  | some clock =>
    cases foundOther : Clock.find? other with
    | none => rw [board.result_getRate_of_none foundOther, board.result_getRate_of_none foundOther]
    | some passing =>
      have agree := board.changesOnly_setRate { state with journal := {} } id target
      rw [ClockId.fields, found] at agree
      have kept (stage : Stage) (passes : passing.node.Passes state.registers stage) :
          stage.Kept board state.registers ((board.setRate id target).outcome state).state.registers := by
        refine Stage.kept_of_footprint found agree foundOther passes fun named => ?_
        exact apart stage (by rw [ClockId.stage?, found]; exact named) ⟨passing, foundOther, passes⟩
      have roles (written : RegisterField) (member : written ∈ clock.node.rateFields state.cache) :
          written.register.role ≠ .divide := by
        rcases Node.role_rateFields found member with role | role
        all_goals
          rw [role]
          decide
      have divides (divider : Divider) (has : passing.node.divider? = some divider) :=
        Clock.divider_kept agree roles foundOther has
      rcases coherent.setRate_cases id target with sameCache | coherentAfter
      · rw [board.result_getRate foundOther, board.result_getRate foundOther, sameCache,
          nodeRate?_of_kept state.cache (fun stage own => kept stage (Node.passes_stage own _)) divides]
      · exact coherent.getRate_of_kept coherentAfter foundOther kept divides

/-- A gate behind a bus clock that follows the crystal, while a loop that the bus clock could follow is
programmed. -/
theorem Board.getRate_off_path_bus :
    let state := (Board.start {} .zero).state
    (∀ stage, ClockId.stage? 3 = some stage → ¬ ClockId.Passes state.registers 14 stage) ∧
      ((Board.getRate {} 14).outcome ((Board.setRate {} 3 500_000_000).outcome state).state).result =
        .ok 24_000_000 := by
  intro state
  have apart (stage : Stage) (about : ClockId.stage? 3 = some stage) :
      ¬ ClockId.Passes state.registers 14 stage := by
    rintro ⟨clock, found, passes⟩
    cases about
    cases found
    cases passes with
    | gate passes =>
      cases passes with
      | loop comes => cases comes
      | parent comes selects passes =>
        cases comes
        -- The selector reads zero, which stands for the crystal.
        have started : state.registers = .zero := (Board.silent_probe {} { registers := .zero }).1
        rw [started] at selects
        have selected : Bus.sysclk1.mux.selected (RegisterBlock.zero.read .clksel0) = .ok .hxt := rfl
        cases selected.symm.trans selects
        cases passes with
        | loop comes => cases comes
        | parent comes => cases comes
  have kept := Board.getRate_off_path {} .zero [] rfl nofun (.head _) 3 14 500_000_000 apart
  exact ⟨apart, kept.trans rfl⟩

end ClockController
