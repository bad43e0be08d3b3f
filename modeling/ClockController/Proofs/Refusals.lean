import ClockController.Proofs.Selection

/-!
# ClockController.Proofs.Refusals

What is refused, and what is answered with zero, and that neither has consequences.

## Proof strategy

An operation looks its clock up first, and that changes nothing. Behind that the only refusals are those of a
gate without an enable bit and of a clock that is no loop, and they come before anything is written. All other
steps succeed or end in a fault. So the operations are put together from a first part that may be refused, and
a second one that never is.

A rate of zero is the answer of a plan that does nothing: no solution has that rate.

## Main definitions

`Action.RefusesOnly`: the errors that an operation is refused with, before it moved anything.
`Request.Refusable`: what a request can be refused for.
`Board.Refusals`: what is refused in a state, and what stays as it is then.

## Main results

`Action.RefusesOnly.bind`: an operation after which nothing is refused.
`Board.refusesOnly_perform`: what all requests are refused with.
`Board.setRate_eq_zero_iff`: the loops that are answered with zero.
`Board.refusals`: all of it, from any state.
-/

namespace ClockController

open ClockController.Action

/-! ### Operations that may be refused -/

/-- The id of no clock, and the error that it is refused with. -/
def ClockId.Unknown (id : ClockId) (error : ErrorCode) : Prop :=
  Clock.find? id = none ∧ error = .noDevice

namespace Action

variable {α β : Type} {errors others : ErrorCode → Prop}

/-- The operation is refused with some errors only, and if it is, then before it moved anything. -/
def RefusesOnly (errors : ErrorCode → Prop) (action : Action α) : Prop :=
  ∀ state error, (action.runOn state).1 = .error (.refused error) →
    errors error ∧ StateRelation.unmoved state (action.runOn state).2

/-- The operation is never refused. -/
abbrev Accepts (action : Action α) : Prop :=
  action.RefusesOnly fun _ => False

theorem RefusesOnly.mono {action : Action α} (refuses : action.RefusesOnly errors)
    (included : ∀ error, errors error → others error) : action.RefusesOnly others := by
  intro state error refused
  obtain ⟨among, unmoved⟩ := refuses state error refused
  exact ⟨included error among, unmoved⟩

theorem Accepts.refusesOnly {action : Action α} (accepts : action.Accepts) : action.RefusesOnly errors :=
  accepts.mono fun _ => False.elim

/-- An operation whose end is known is never refused, if that end is no refusal. -/
theorem accepts_of_leads {action : Action α}
    (leads : ∀ before, ∃ result after, action.Leads before result after ∧ ∀ error, result ≠ .error (.refused error)) :
    action.Accepts := by
  intro state error refused
  obtain ⟨result, after, leads, accepts⟩ := leads (state.registers, state.cache)
  obtain ⟨reported, runs⟩ := leads state.journal
  exact absurd ((congrArg Prod.fst runs).symm.trans refused) (accepts error)

theorem accepts_of_ok {action : Action α} (leads : ∀ before, ∃ value after, action.Leads before (.ok value) after) :
    action.Accepts := by
  refine accepts_of_leads fun before => ?_
  obtain ⟨value, after, ends⟩ := leads before
  exact ⟨_, after, ends, nofun⟩

/-! ### Single steps -/

theorem accepts_pure (value : α) : (pure value : Action α).Accepts :=
  accepts_of_ok fun _ => ⟨_, _, leads_pure value⟩

theorem accepts_report (message : Message) : (report message).Accepts :=
  accepts_of_ok fun _ => ⟨_, _, leads_report message⟩

theorem accepts_get : (get : Action State).Accepts :=
  fun _ _ refused => nomatch refused

theorem accepts_modify (change : State → State) : (modify change : Action Unit).Accepts :=
  fun _ _ refused => nomatch refused

theorem accepts_read (register : Register) : (read register).Accepts :=
  accepts_of_ok fun _ => ⟨_, _, leads_read register⟩

theorem accepts_modifyBits (register : Register) (clear set : Word) : (modifyBits register clear set).Accepts :=
  accepts_of_ok fun _ => ⟨_, _, leads_modifyBits register clear set⟩

theorem accepts_liftM (checked : Checked α) : (liftM checked : Action α).Accepts := by
  refine accepts_of_leads fun _ => ?_
  cases checked with
  | ok value => exact ⟨_, _, leads_liftM rfl, nofun⟩
  | error fault => exact ⟨_, _, leads_liftM_of_error rfl, nofun⟩

theorem refusesOnly_refuse (error : ErrorCode) : (refuse error : Action α).RefusesOnly (· = error) := by
  intro state other refused
  cases refused
  exact ⟨rfl, StateRelation.chains_unmoved.refl state⟩

/-! ### Steps put together -/

/-- An operation after which nothing is refused. -/
theorem RefusesOnly.bind {action : Action α} {next : α → Action β} (first : action.RefusesOnly errors)
    (rest : ∀ value, (next value).Accepts) : (action >>= next).RefusesOnly errors := by
  intro state error refused
  have begins := first state
  rw [runOn_bind] at refused ⊢
  rcases run : action.runOn state with ⟨result, after⟩
  rw [run] at refused begins
  cases result with
  | ok value => exact (rest value after error refused).1.elim
  | error failure =>
    cases refused
    exact begins error rfl

/-- What follows the look-up of a clock is refused as for the clocks of the table. -/
theorem refusesOnly_node_bind {id : ClockId} {next : Node → Action β}
    (known : ∀ clock, Clock.find? id = some clock → (next clock.node).RefusesOnly errors) :
    (node id >>= next).RefusesOnly fun error => id.Unknown error ∨ errors error := by
  intro state error refused
  rw [runOn_bind] at refused ⊢
  cases found : Clock.find? id with
  | none =>
    rw [runOn_node_of_none found] at refused ⊢
    cases refused
    exact ⟨.inl ⟨found, rfl⟩, StateRelation.chains_unmoved.report _ state⟩
  | some clock =>
    rw [runOn_node_of_find? found] at refused ⊢
    obtain ⟨among, unmoved⟩ := known clock found state error refused
    exact ⟨.inr among, unmoved⟩

theorem refusesOnly_unknown {id : ClockId} {next : Node → Action β}
    (known : ∀ clock, Clock.find? id = some clock → (next clock.node).Accepts) :
    (node id >>= next).RefusesOnly id.Unknown :=
  (refusesOnly_node_bind known).mono fun _ among => among.resolve_right not_false

theorem Accepts.mapM {action : α → Action β} {items : List α} (accepts : ∀ item ∈ items, (action item).Accepts) :
    (items.mapM action).Accepts := by
  induction items with
  | nil =>
    rw [List.mapM_nil]
    exact accepts_pure _
  | cons item rest ih =>
    have later := ih fun other member => accepts other (.tail _ member)
    rw [List.mapM_cons]
    exact (accepts item (.head rest)).bind fun _ => later.bind fun _ => accepts_pure _

theorem Accepts.filterM {test : α → Action Bool} {items : List α} (accepts : ∀ item ∈ items, (test item).Accepts) :
    (items.filterM test).Accepts := by
  -- What passed is collected in reverse, so the induction is over every collection to start from.
  have collects : ∀ found : List α, (items.filterAuxM test found).Accepts := by
    induction items with
    | nil => exact fun found => accepts_pure found
    | cons item rest ih =>
      have later := ih fun other member => accepts other (.tail _ member)
      exact fun found => (accepts item (.head rest)).bind fun _ => later _
  exact (collects []).bind fun _ => accepts_pure _

end Action

theorem PeripheralClock.accepts_onRefusal {α : Type} (action : Action α) {recover : ErrorCode → Action α}
    (recovers : ∀ error, (recover error).Accepts) : (onRefusal action recover).Accepts := by
  intro state error refused
  rw [onRefusal, Action.runOn_tryCatch] at refused
  rcases run : action.runOn state with ⟨result, after⟩
  rw [run] at refused
  cases result with
  | ok value => cases refused
  | error failure =>
    cases failure with
    | refused first => exact (recovers first after error refused).1.elim
    | fault fault => cases refused

/-! ### Operations on a clock -/

namespace ClockId

/-- An operation that is refused for unknown ids only, for a clock of the table. -/
theorem accepts_of_find? {α : Type} {id : ClockId} {clock : Clock} (found : Clock.find? id = some clock)
    {action : Action α} (refuses : action.RefusesOnly id.Unknown) : action.Accepts := by
  refine refuses.mono fun error unknown => ?_
  cases unknown.1.symm.trans found

theorem refusesOnly_isEnabled (id : ClockId) : (isEnabled id).RefusesOnly id.Unknown := by
  refine refusesOnly_unknown fun clock _ => ?_
  split
  next => exact (accepts_read _).bind fun _ => accepts_pure _
  next =>
    split
    next => exact (accepts_read _).bind fun _ => accepts_pure _
    next => exact accepts_pure _

theorem accepts_setPower (pll : Pll) (isOn : Bool) : (pll.setPower isOn).Accepts :=
  accepts_of_ok fun before => ⟨_, _, pll.leads_setPower isOn before.1 before.2⟩

theorem refusesOnly_enable (id : ClockId) : (enable id).RefusesOnly id.Unknown := by
  refine refusesOnly_unknown fun clock _ => ?_
  cases clock.node with
  | pll pll => exact accepts_setPower pll true
  | _ => exact accepts_of_ok fun before => ⟨_, _, leads_open id _ before.1 before.2⟩

/-- A gate without an enable bit is always open. -/
theorem refusesOnly_disable (id : ClockId) :
    (disable id).RefusesOnly fun error => id.Unknown error ∨ error = .noSupport := by
  refine refusesOnly_node_bind fun clock _ => ?_
  split
  next =>
    split
    next => exact (accepts_report _).refusesOnly
    next => exact (accepts_setPower _ false).refusesOnly
  next =>
    split
    next => exact (accepts_modifyBits _ _ _).refusesOnly
    next => exact refusesOnly_refuse _

end ClockId

namespace Board

variable (board : Board)

theorem accepts_readBack (pll : Pll) : (board.readBack pll).Accepts :=
  accepts_get.bind fun _ => (accepts_liftM _).bind fun _ => (accepts_modify _).bind fun _ => accepts_pure _

theorem accepts_refreshBus : board.refreshBus.Accepts :=
  accepts_get.bind fun _ => (accepts_liftM _).bind fun _ => (accepts_modify _).bind fun _ => accepts_report _

theorem accepts_nodeRate (node : Node) : (board.nodeRate node).Accepts := by
  refine accepts_get.bind fun state => ?_
  have divides (divider : Divider) (rate : Nat) :
      (do let ratio ← state.registers.dividerRatio divider; Checked.div rate ratio : Action Nat).Accepts :=
    (accepts_liftM _).bind fun _ => accepts_liftM _
  cases node with
  | pll pll => exact board.accepts_readBack pll
  | gate gate => exact accepts_pure _
  | mux gate mux => exact accepts_liftM _
  | divider gate mux? divider =>
    cases mux? with
    | none => exact (accepts_pure _).bind fun rate => divides divider rate
    | some mux => exact (accepts_liftM _).bind fun rate => divides divider rate

theorem refusesOnly_getRate (id : ClockId) : (board.getRate id).RefusesOnly id.Unknown := by
  refine refusesOnly_unknown fun clock _ => (board.accepts_nodeRate clock.node).bind fun rate => ?_
  cases board.options.tracesRates with
  | false => exact accepts_pure rate
  | true => exact (accepts_report _).bind fun _ => accepts_pure rate

/-- Only a clock that is no loop has no mode. -/
theorem refusesOnly_pllMode (id : ClockId) :
    (board.pllMode id).RefusesOnly fun error => id.Unknown error ∨ error = .invalid := by
  refine refusesOnly_node_bind fun clock _ => ?_
  split
  next => exact Accepts.refusesOnly (accepts_get.bind fun _ => accepts_pure _)
  next => exact refusesOnly_refuse _

theorem accepts_resolveRoot (root : Root) : (board.resolveRoot root).Accepts :=
  accepts_get.bind fun _ => accepts_pure _

theorem refusesOnly_plan (id : ClockId) (target : Nat) : (board.plan id target).RefusesOnly id.Unknown := by
  refine refusesOnly_unknown fun clock _ => accepts_get.bind fun state => (accepts_liftM _).bind fun plan => ?_
  split
  next =>
    split
    next => exact (accepts_report _).bind fun _ => accepts_pure _
    next => exact accepts_pure _
  next => exact accepts_pure _

theorem refusesOnly_roundRate (id : ClockId) (target : Nat) : (board.roundRate id target).RefusesOnly id.Unknown :=
  (board.refusesOnly_plan id target).bind fun _ => accepts_pure _

theorem accepts_program (pll : Pll) (mode : Mode) (solution : Solution) :
    (board.program pll mode solution).Accepts := by
  refine accepts_of_leads fun before => ?_
  rcases board.leads_program before.1 before.2 pll mode solution with ⟨fault, _, leads⟩ | ⟨_, _, _, _, leads⟩
  · exact ⟨_, _, leads, nofun⟩
  · exact ⟨_, _, leads, nofun⟩

theorem accepts_select (id : ClockId) (mux : Mux) (parent rate : Nat) :
    (board.select id mux parent rate).Accepts := by
  refine (accepts_liftM _).bind fun _ => (accepts_liftM _).bind fun _ =>
    (accepts_modifyBits _ _ _).bind fun _ => (accepts_report _).bind fun _ => ?_
  split
  next => exact board.accepts_refreshBus
  next => exact accepts_pure ()

/-- Once there is a plan, nothing is refused. -/
theorem accepts_carryOut (id : ClockId) (target : Nat) (plan : Plan) : (board.carryOut id target plan).Accepts := by
  cases plan with
  | unchanged rate => exact accepts_pure rate
  | unreachable reason => exact (accepts_report _).bind fun _ => accepts_pure 0
  | noParent rate => exact (accepts_report _).bind fun _ => accepts_pure rate
  | program pll mode solution => exact (board.accepts_program pll mode solution).bind fun _ => accepts_pure _
  | select mux parent rate => exact (board.accepts_select id mux parent rate).bind fun _ => accepts_pure rate

theorem refusesOnly_setRate (id : ClockId) (target : Nat) : (board.setRate id target).RefusesOnly id.Unknown :=
  (board.refusesOnly_plan id target).bind fun plan => board.accepts_carryOut id target plan

end Board

/-! ### Requests -/

/-- The clock that a request is about and that it is refused without. The switching through a handle is not among
them, since there a refusal becomes a report. -/
def Request.clock? : Request → Option ClockId
  | .getRate id | .setRate id _ | .roundRate id _ | .enable id | .disable id | .isEnabled id | .pllMode id => some id
  | .peripheralRate clock | .peripheralSetRate clock _ => some clock.id
  | _ => none

/-- What a request can be refused for. -/
inductive Request.Refusable : Request → ErrorCode → Prop
  | unknown {request : Request} {id : ClockId} (about : request.clock? = some id)
    (unknown : Clock.find? id = none) : Refusable request .noDevice
  | noLoop {id : ClockId} : Refusable (.pllMode id) .invalid
  | alwaysOpen {id : ClockId} : Refusable (.disable id) .noSupport

theorem accepts_performForeign (access : Access) : (performForeign access).Accepts := by
  refine accepts_get.bind fun state => ?_
  dsimp only
  cases access.message? state.registers
  on_goal 2 => refine (accepts_report _).bind fun _ => ?_
  all_goals
    refine (accepts_modify _).bind fun _ => ?_
    cases access.answer? state.registers <;> exact accepts_pure _

/-- A request is refused for nothing else, and before it moved anything. -/
theorem Board.refusesOnly_perform (board : Board) (request : Request) :
    (board.perform request).RefusesOnly request.Refusable := by
  have about {α : Type} {action : Action α} {id : ClockId} (asks : request.clock? = some id)
      (refuses : action.RefusesOnly id.Unknown) : action.RefusesOnly request.Refusable := by
    refine refuses.mono fun error unknown => ?_
    obtain ⟨missing, rfl⟩ := unknown
    exact .unknown asks missing
  have known {id : ClockId} (member : id ∈ List.range ClockId.count) : ∃ clock, Clock.find? id = some clock :=
    Option.isSome_iff_exists.mp ((Clock.isSome_find?_iff id).mpr (List.mem_range.mp member))
  have answers {α : Type} {action : Action α} {answer : α → Answer} (refuses : action.RefusesOnly request.Refusable) :
      (do return answer (← action) : Action Answer).RefusesOnly request.Refusable :=
    refuses.bind fun _ => accepts_pure _
  have recovers {action : Action Unit} (message : ErrorCode → Message) :
      (do PeripheralClock.onRefusal action fun error => report (message error)
          return .done : Action Answer).RefusesOnly request.Refusable :=
    Accepts.refusesOnly
      ((PeripheralClock.accepts_onRefusal action fun error => accepts_report _).bind fun _ => accepts_pure _)
  cases request with
  | getRate id => exact answers (about rfl (board.refusesOnly_getRate id))
  | setRate id target => exact answers (about rfl (board.refusesOnly_setRate id target))
  | roundRate id target => exact answers (about rfl (board.refusesOnly_roundRate id target))
  | enable id => exact (about rfl id.refusesOnly_enable).bind fun _ => accepts_pure _
  | disable id =>
    refine RefusesOnly.bind (id.refusesOnly_disable.mono fun error among => ?_) fun _ => accepts_pure _
    rcases among with ⟨missing, rfl⟩ | rfl
    · exact .unknown rfl missing
    · exact .alwaysOpen
  | isEnabled id => exact answers (about rfl id.refusesOnly_isEnabled)
  | pllMode id =>
    refine RefusesOnly.bind ((board.refusesOnly_pllMode id).mono fun error among => ?_) fun _ => accepts_pure _
    rcases among with ⟨missing, rfl⟩ | rfl
    · exact .unknown rfl missing
    · exact .noLoop
  | resolveRoot root => exact answers (board.accepts_resolveRoot root).refusesOnly
  | allRoots => exact answers (Accepts.mapM fun root _ => board.accepts_resolveRoot root).refusesOnly
  | allRates =>
    refine answers (Accepts.refusesOnly (Accepts.mapM fun id member => ?_))
    obtain ⟨clock, found⟩ := known member
    exact ClockId.accepts_of_find? found (board.refusesOnly_getRate id)
  | enabledClocks =>
    refine answers (Accepts.refusesOnly (Accepts.filterM fun id member => ?_))
    obtain ⟨clock, found⟩ := known member
    exact ClockId.accepts_of_find? found id.refusesOnly_isEnabled
  | oscillators => exact (accepts_pure _).refusesOnly
  | peripheralId clock => exact (accepts_pure _).refusesOnly
  | peripheralRate clock => exact answers (about rfl (board.refusesOnly_getRate clock.id))
  | peripheralSetRate clock target => exact answers (about rfl (board.refusesOnly_setRate clock.id target))
  | peripheralEnable clock => exact recovers _
  | peripheralDisable clock => exact recovers _
  | peripheralIsEnabled clock =>
    exact answers (PeripheralClock.accepts_onRefusal _ fun _ => accepts_pure false).refusesOnly
  | foreign access => exact (accepts_performForeign access).refusesOnly

/-- A request about an unknown id is refused. -/
theorem Board.leads_perform_of_none (board : Board) {request : Request} {id : ClockId}
    (about : request.clock? = some id) (unknown : Clock.find? id = none) (before : RegisterBlock × Cache) :
    (board.perform request).Leads before (.error (.refused .noDevice)) before := by
  cases request with
  | getRate | enable | disable | isEnabled | pllMode | peripheralRate =>
    cases about
    exact (leads_node_of_none unknown).bind_of_error.bind_of_error
  -- A rate request looks the clock up to plan.
  | roundRate =>
    cases about
    exact (leads_node_of_none unknown).bind_of_error.bind_of_error.bind_of_error
  | setRate | peripheralSetRate =>
    cases about
    exact (leads_setRate_of_none unknown _).bind_of_error
  | _ => cases about

/-! ### Zero rates -/

namespace Board

variable {board : Board} {state : State} {id : ClockId} {clock : Clock} {target : Nat}

theorem unmoved_setRate_of_idle (found : Clock.find? id = some clock) {plan : Plan}
    (plans : Plan.ofNode board state.cache state.registers clock.node target = .ok plan)
    (idle : plan.isIdle = true) : ((board.setRate id target).outcome state).Unmoved state := by
  obtain ⟨_, registers, cache⟩ := (leads_setRate_of_idle found plans idle).outcome
  have written : (board.setRate id target).Writes [] { state with journal := {} } :=
    writes_setRate_of_idle found plans idle
  exact ⟨registers, cache, written⟩

/-- A request for a loop without a solution is answered with zero, and it is the only one. -/
theorem setRate_eq_zero_iff (board : Board) (state : State) {pll : Pll} (programmable : pll.isFixedRatio = false)
    (target : Nat) :
    ((board.setRate pll.id target).outcome state).result = .ok 0 ↔ ∃ reason,
      (solve board.options.derivesSpread (state.cache.plls.get pll).mode board.oscillators.hxt target).run =
        .ok (.error reason) := by
  obtain ⟨clock, found, isPll⟩ := pll.find?_id
  rcases solve_cases board.options.derivesSpread (state.cache.plls.get pll).mode board.oscillators.hxt target with
    ⟨reason, fails⟩ | ⟨solution, solves, solved⟩
  · have plans : Plan.ofNode board state.cache state.registers clock.node target = .ok (.unreachable reason) :=
      Plan.ofNode_of_error isPll programmable fails
    exact iff_of_true (leads_setRate_of_idle found plans rfl).outcome.1 ⟨reason, fails⟩
  · have plans : Plan.ofNode board state.cache state.registers clock.node target =
        .ok (.program pll (state.cache.plls.get pll).mode solution) :=
      Plan.ofNode_of_ok isPll programmable solves
    refine iff_of_false (fun zero => ?_) ?_
    · rcases leads_setRate_of_program found plans with ⟨fault, _, leads⟩ | ⟨reading, bus, _, _, leads⟩
      · cases leads.outcome.1.symm.trans zero
      · -- No solution has a rate of zero.
        have positive := solved.rate_pos
        rw [Except.ok.inj (leads.outcome.1.symm.trans zero)] at positive
        exact absurd positive (Nat.lt_irrefl 0)
    · rintro ⟨reason, fails⟩
      cases solves.symm.trans fails

theorem unmoved_setRate_of_error {pll : Pll} (programmable : pll.isFixedRatio = false) {reason : Unreachable}
    (fails : (solve board.options.derivesSpread (state.cache.plls.get pll).mode board.oscillators.hxt target).run =
      .ok (.error reason)) : ((board.setRate pll.id target).outcome state).Unmoved state := by
  obtain ⟨clock, found, isPll⟩ := pll.find?_id
  exact unmoved_setRate_of_idle found (Plan.ofNode_of_error isPll programmable fails) rfl

/-! ### All refusals -/

/-- What is refused in a state, what is answered with zero, and what stays as it is then. -/
structure Refusals (board : Board) (state : State) : Prop where
  -- Without its clock a request is refused, and every id below 67 is that of a clock.
  unknown : ∀ {request id}, request.clock? = some id →
    (((board.perform request).outcome state).result = .error (.refused .noDevice) ↔ 67 ≤ id)
  -- The first six clocks are the loops.
  noLoop : ∀ id, ((board.pllMode id).outcome state).result = .error (.refused .invalid) ↔ 6 ≤ id ∧ id < 67
  unreachable : ∀ (pll : Pll) (target : Nat), pll ≠ .ca → pll ≠ .sys →
    (((board.setRate pll.id target).outcome state).result = .ok 0 ↔ ∃ reason,
      (solve board.options.derivesSpread (state.cache.plls.get pll).mode board.oscillators.hxt target).run =
        .ok (.error reason))
  unmoved_refused : ∀ request error, ((board.perform request).outcome state).result = .error (.refused error) →
    ((board.perform request).outcome state).Unmoved state
  unmoved_unreachable : ∀ (pll : Pll) (target : Nat), pll ≠ .ca → pll ≠ .sys →
    ((board.setRate pll.id target).outcome state).result = .ok 0 →
    ((board.setRate pll.id target).outcome state).Unmoved state
  unmoved_noParent : ∀ id clock mux target, Clock.find? id = some clock → clock.node.mux? = some mux →
    (∀ parent, ¬ board.Offers state mux target parent) →
    ((board.setRate id target).outcome state).Unmoved state

/-- From any state: requests are refused where there is no clock or no loop, a loop is answered with zero exactly if
its cached mode has no solution, and neither that nor a selector without a parent at the target moves anything. -/
theorem refusals (board : Board) (state : State) : board.Refusals state where
  unknown {request id} about := by
    have none_iff : Clock.find? id = none ↔ 67 ≤ id := Clock.find?_eq_none_iff
    rw [← none_iff]
    constructor
    · intro refused
      cases (board.refusesOnly_perform request _ _ refused).1 with
      | unknown other missing =>
        cases about.symm.trans other
        exact missing
    · intro missing
      exact (board.leads_perform_of_none about missing (state.registers, state.cache)).outcome.1
  noLoop id := by
    rw [board.result_pllMode state id]
    cases found : Clock.find? id with
    | none =>
      have unknown := Clock.find?_eq_none_iff.mp found
      exact iff_of_false nofun fun known => Nat.not_lt.mpr unknown known.2
    | some clock =>
      have known := Clock.lt_count_of_find? found
      have first := Clock.isPll_iff found
      dsimp only
      cases built : clock.node with
      | pll pll => exact iff_of_false nofun fun later => Nat.not_lt.mpr later.1 (first.mp ⟨pll, built⟩)
      | _ =>
        refine iff_of_true rfl ⟨Nat.not_lt.mp fun below => ?_, known⟩
        obtain ⟨pll, isPll⟩ := first.mpr below
        cases built.symm.trans isPll
  unreachable pll target notCa notSys := board.setRate_eq_zero_iff state (Pll.programmable_of_ne notCa notSys) target
  unmoved_refused request error refused :=
    Outcome.unmoved_of_runOn (board.refusesOnly_perform request _ error refused).2
  unmoved_unreachable pll target notCa notSys zero := by
    have programmable := Pll.programmable_of_ne notCa notSys
    obtain ⟨reason, fails⟩ := (board.setRate_eq_zero_iff state programmable target).mp zero
    exact unmoved_setRate_of_error programmable fails
  unmoved_noParent id clock mux target found has misses := by
    obtain ⟨_, missed⟩ := Plan.exists_noParent has (Plan.parent?_eq_none_iff.mpr misses)
    exact unmoved_setRate_of_idle found missed rfl

/-- A loop in fractional mode has no solution for a target of zero. -/
theorem refusals_fractional :
    let state := (Board.start {} (RegisterBlock.zero.write (.pll .a .ctl0) 0x40000)).state
    ((Board.perform {} (.enable 67)).outcome state).result = .error (.refused .noDevice) ∧
      ((Board.pllMode {} 12).outcome state).result = .error (.refused .invalid) ∧
      ((Board.setRate {} 3 0).outcome state).result = .ok 0 ∧
      ((Board.setRate {} 3 0).outcome state).Unmoved state ∧
      ((Board.perform {} (.disable 50)).outcome state).result = .error (.refused .noSupport) ∧
      ((Board.perform {} (.disable 50)).outcome state).Unmoved state ∧
      ((Board.setRate {} 52 1).outcome state).Unmoved state := by
  intro state
  have stands := refusals {} state
  have zero : ((Board.setRate {} 3 0).outcome state).result = .ok 0 :=
    (stands.unreachable .a 0 nofun nofun).mpr ⟨_, rfl⟩
  have refused : ((Board.perform {} (.disable 50)).outcome state).result = .error (.refused .noSupport) := rfl
  have missed : Plan.parent? ({} : Board).oscillators state.cache .sdh0 1 = none := by decide +kernel
  have misses : ∀ parent, ¬ Board.Offers {} state .sdh0 1 parent := Plan.parent?_eq_none_iff.mp missed
  exact ⟨(stands.unknown rfl).mpr (by decide), (stands.noLoop 12).mpr (by decide), zero,
    stands.unmoved_unreachable .a 0 nofun nofun zero, refused, stands.unmoved_refused _ _ refused,
    stands.unmoved_noParent 52 _ _ 1 rfl rfl misses⟩

end Board

end ClockController
