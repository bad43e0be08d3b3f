import ClockController.Proofs.KeptRequests

/-!
# ClockController.Proofs.StateRelation

Relations between the state before an operation and the one after it, however the operation ends.

A relation that is a preorder goes along with operations one after the other. To requests that only ask it
matters just what reading a loop back does, since apart from that they change nothing but their reports.

## Main definitions

`StateRelation.Chains`: a preorder of states to which reports do not matter.
`Action.Along`: an operation leads from every state to a related one.
`Action.Silent`: an operation writes no register.
`Outcome.Unmoved`: an operation changed nothing but its reports.

## Main results

`Action.Along.bind`: operations one after the other.
`Board.along_reading`: requests that only ask go along with a relation if reading a loop back does.
`Board.along_switching`, `Board.along_own`: those that switch a clock, and all of them, do if the operations do.
`Board.session_along`: and so does a session.
`Board.silent_reading`, `Board.silent_probe`, `Board.silent_plan`: asking, starting and planning write nothing.
-/

namespace ClockController

/-- A relation between the states before and after an operation. -/
abbrev StateRelation := State → State → Prop

/-- Operations can be chained along the relation, and reports do not matter to it. -/
structure StateRelation.Chains (relation : StateRelation) : Prop where
  refl : ∀ state, relation state state
  trans : ∀ {before middle after}, relation before middle → relation middle after → relation before after
  report : ∀ message state, relation state ((Action.report message).runOn state).2

namespace Action

variable {α β : Type} {relation : StateRelation}

/-- The operation leads from every state to a related one, also when it is refused or ends in a fault. -/
def Along (relation : StateRelation) (action : Action α) : Prop :=
  ∀ state, relation state (action.runOn state).2

/-! ### Single steps -/

theorem along_pure (chains : relation.Chains) (value : α) : (pure value : Action α).Along relation :=
  fun state => chains.refl state

theorem along_refuse (chains : relation.Chains) (error : ErrorCode) :
    (refuse error : Action α).Along relation :=
  fun state => chains.refl state

theorem along_report (chains : relation.Chains) (message : Message) : (report message).Along relation :=
  fun state => chains.report message state

theorem along_get (chains : relation.Chains) : (get : Action State).Along relation :=
  fun state => chains.refl state

theorem along_read (chains : relation.Chains) (register : Register) : (read register).Along relation :=
  fun state => chains.refl state

theorem along_liftM (chains : relation.Chains) (checked : Checked α) :
    (liftM checked : Action α).Along relation := by
  intro state
  rw [runOn_liftM]
  exact chains.refl state

theorem along_modify {change : State → State} (related : ∀ state, relation state (change state)) :
    (modify change : Action Unit).Along relation :=
  related

theorem along_node (chains : relation.Chains) (id : ClockId) : (node id).Along relation := by
  intro state
  cases found : Clock.find? id with
  | none =>
    rw [runOn_node_of_none found]
    exact chains.report _ state
  | some clock =>
    rw [runOn_node_of_find? found]
    exact chains.refl state

/-! ### Steps put together -/

theorem Along.bind (chains : relation.Chains) {action : Action α} {next : α → Action β}
    (first : action.Along relation) (second : ∀ value, (next value).Along relation) :
    (action >>= next).Along relation := by
  intro state
  have leads := first state
  rw [runOn_bind]
  rcases run : action.runOn state with ⟨result, after⟩
  rw [run] at leads
  cases result with
  | ok value => exact chains.trans leads (second value after)
  | error failure => exact leads

theorem Along.mapM (chains : relation.Chains) {action : α → Action β}
    (along : ∀ item, (action item).Along relation) (items : List α) : (items.mapM action).Along relation := by
  induction items with
  | nil =>
    rw [List.mapM_nil]
    exact along_pure chains _
  | cons item rest ih =>
    rw [List.mapM_cons]
    exact (along item).bind chains fun _ => ih.bind chains fun _ => along_pure chains _

theorem Along.forM (chains : relation.Chains) {action : α → Action Unit}
    (along : ∀ item, (action item).Along relation) (items : List α) : (items.forM action).Along relation := by
  induction items with
  | nil => exact along_pure chains ()
  | cons item rest ih => exact (along item).bind chains fun _ => ih

theorem Along.filterM (chains : relation.Chains) {test : α → Action Bool}
    (along : ∀ item, (test item).Along relation) (items : List α) : (items.filterM test).Along relation := by
  -- What passed is collected in reverse, so the induction is over every collection to start from.
  have collects : ∀ found : List α, (items.filterAuxM test found).Along relation := by
    induction items with
    | nil => exact fun found => along_pure chains found
    | cons item rest ih => exact fun found => (along item).bind chains fun _ => ih _
  exact (collects []).bind chains fun _ => along_pure chains _

end Action

open ClockController.Action

theorem PeripheralClock.along_onRefusal {α : Type} {relation : StateRelation} (chains : relation.Chains)
    {action : Action α} {recover : ErrorCode → Action α} (along : action.Along relation)
    (recovers : ∀ error, (recover error).Along relation) : (onRefusal action recover).Along relation := by
  intro state
  have leads := along state
  rw [onRefusal, Action.runOn_tryCatch]
  rcases run : action.runOn state with ⟨result, after⟩
  rw [run] at leads
  cases result with
  | ok value => exact leads
  | error failure =>
    cases failure with
    | refused error => exact chains.trans leads (recovers error after)
    | fault fault => exact leads

/-! ### Requests that only ask -/

section Requests

variable {relation : StateRelation} (chains : relation.Chains) {board : Board}

include chains

theorem ClockId.along_isEnabled (id : ClockId) : (ClockId.isEnabled id).Along relation := by
  refine (along_node chains id).bind chains fun node => ?_
  split
  next => exact (along_read chains _).bind chains fun _ => along_pure chains _
  next =>
    split
    next => exact (along_read chains _).bind chains fun _ => along_pure chains _
    next => exact along_pure chains _

namespace Board

theorem along_nodeRate (readBack : ∀ pll, (board.readBack pll).Along relation) (node : Node) :
    (board.nodeRate node).Along relation := by
  refine (along_get chains).bind chains fun state => ?_
  have divides (divider : Divider) (rate : Nat) :
      (do let ratio ← state.registers.dividerRatio divider; Checked.div rate ratio : Action Nat).Along
        relation :=
    (along_liftM chains _).bind chains fun _ => along_liftM chains _
  cases node with
  | pll pll => exact readBack pll
  | gate gate => exact along_pure chains _
  | mux gate mux => exact along_liftM chains _
  | divider gate mux? divider =>
    cases mux? with
    | none => exact (along_pure chains _).bind chains fun rate => divides divider rate
    | some mux => exact (along_liftM chains _).bind chains fun rate => divides divider rate

theorem along_getRate (readBack : ∀ pll, (board.readBack pll).Along relation) (id : ClockId) :
    (board.getRate id).Along relation := by
  refine (along_node chains id).bind chains fun node =>
    (along_nodeRate chains readBack node).bind chains fun rate => ?_
  cases board.options.tracesRates with
  | false => exact along_pure chains rate
  | true => exact (along_report chains _).bind chains fun _ => along_pure chains rate

theorem along_plan (id : ClockId) (target : Nat) : (board.plan id target).Along relation := by
  refine (along_node chains id).bind chains fun node => (along_get chains).bind chains fun state =>
    (along_liftM chains _).bind chains fun plan => ?_
  split
  next =>
    split
    next => exact (along_report chains _).bind chains fun _ => along_pure chains _
    next => exact along_pure chains _
  next => exact along_pure chains _

theorem along_pllMode (id : ClockId) : (board.pllMode id).Along relation := by
  refine (along_node chains id).bind chains fun node => ?_
  split
  next => exact (along_get chains).bind chains fun _ => along_pure chains _
  next => exact along_refuse chains _

theorem along_resolveRoot (root : Root) : (board.resolveRoot root).Along relation :=
  (along_get chains).bind chains fun _ => along_pure chains _

/-- Requests that only ask go along with a relation if reading a loop back does. -/
theorem along_reading (readBack : ∀ pll, (board.readBack pll).Along relation) {request : Request}
    (reads : request.isReading = true) : (board.perform request).Along relation := by
  have answers {α : Type} {action : Action α} (along : action.Along relation) (answer : α → Answer) :
      (do return answer (← action) : Action Answer).Along relation :=
    along.bind chains fun _ => along_pure chains _
  cases request with
  | getRate id => exact answers (along_getRate chains readBack id) _
  | roundRate id target => exact answers ((along_plan chains id target).bind chains fun _ => along_pure chains _) _
  | isEnabled id => exact answers (ClockId.along_isEnabled chains id) _
  | pllMode id => exact answers (along_pllMode chains id) _
  | resolveRoot root => exact answers (along_resolveRoot chains root) _
  | allRoots => exact answers (Along.mapM chains (along_resolveRoot chains) _) _
  | allRates => exact answers (Along.mapM chains (along_getRate chains readBack) _) _
  | enabledClocks => exact answers (Along.filterM chains (ClockId.along_isEnabled chains) _) _
  | oscillators => exact along_pure chains _
  | peripheralId clock => exact along_pure chains _
  | peripheralRate clock => exact answers (along_getRate chains readBack clock.id) _
  | peripheralIsEnabled clock =>
    exact answers (PeripheralClock.along_onRefusal chains (ClockId.along_isEnabled chains clock.id)
      fun _ => along_pure chains false) _
  | _ => cases reads

/-! ### All requests of the controller -/

/-- Requests that switch a clock go along with a relation if switching a clock on and off do. -/
theorem along_switching (enable : ∀ id, (ClockId.enable id).Along relation)
    (disable : ∀ id, (ClockId.disable id).Along relation) {request : Request}
    (switches : request.isSwitching = true) : (board.perform request).Along relation := by
  have done {action : Action Unit} (along : action.Along relation) :
      (do action; return .done : Action Answer).Along relation :=
    along.bind chains fun _ => along_pure chains _
  have reported (switching : Switching) (id : ClockId) (error : ErrorCode) :
      (report (.switchingFailed switching id error)).Along relation :=
    along_report chains _
  cases request with
  | enable id => exact done (enable id)
  | disable id => exact done (disable id)
  | peripheralEnable clock =>
    exact done (PeripheralClock.along_onRefusal chains (enable clock.id) (reported _ _))
  | peripheralDisable clock =>
    exact done (PeripheralClock.along_onRefusal chains (disable clock.id) (reported _ _))
  | _ => cases switches

/-- Requests of the controller go along with a relation if reading a loop back, moving a clock to a rate and
switching it do. -/
theorem along_own (readBack : ∀ pll, (board.readBack pll).Along relation)
    (setRate : ∀ id target, (board.setRate id target).Along relation)
    (enable : ∀ id, (ClockId.enable id).Along relation) (disable : ∀ id, (ClockId.disable id).Along relation)
    {request : Request} (own : request.isForeign = false) : (board.perform request).Along relation := by
  rcases request.cases_of_own own with reads | switches | ⟨id, target, asks⟩
  · exact along_reading chains readBack reads
  · exact along_switching chains enable disable switches
  · have moves : (do return .rate (← board.setRate id target) : Action Answer).Along relation :=
      (setRate id target).bind chains fun _ => along_pure chains _
    cases request with
    | setRate | peripheralSetRate =>
      cases asks
      exact moves
    | _ => cases asks

/-- A relation that requests go along with, and to which the journal does not matter, leads from the state before
a session to the one after each request, also after the one that ended in a fault. -/
theorem session_along (forgets : ∀ state : State, relation state { state with journal := {} })
    {requests : List Request} (along : ∀ request ∈ requests, (board.perform request).Along relation)
    {state : State} {outcome : Outcome Answer} (member : outcome ∈ board.session requests state) :
    relation state outcome.state := by
  induction requests generalizing state with
  | nil => cases member
  | cons request rest ih =>
    have first : relation state ((board.perform request).outcome state).state :=
      chains.trans (forgets state) (along request (.head rest) _)
    unfold session at member
    dsimp only at member
    split at member
    next => exact List.mem_singleton.mp member ▸ first
    next =>
      rcases List.mem_cons.mp member with rfl | member
      · exact first
      · exact chains.trans first (ih (fun request later => along request (.tail _ later)) member)

end Board

end Requests

/-! ### Writing nothing -/

/-- No register was written. -/
def StateRelation.silent : StateRelation :=
  fun before after => after.registers = before.registers ∧ after.journal.writes = before.journal.writes

theorem StateRelation.chains_silent : silent.Chains where
  refl _ := ⟨rfl, rfl⟩
  trans first second := ⟨second.1.trans first.1, second.2.trans first.2⟩
  report _ _ := ⟨rfl, rfl⟩

/-- The operation writes no register, however it ends. -/
abbrev Action.Silent {α : Type} (action : Action α) : Prop :=
  action.Along .silent

namespace Board

open StateRelation

variable (board : Board)

theorem silent_readBack (pll : Pll) : (board.readBack pll).Silent := by
  refine (along_get chains_silent).bind chains_silent fun state =>
    (along_liftM chains_silent _).bind chains_silent fun reading =>
      (along_modify fun _ => ?_).bind chains_silent fun _ => along_pure chains_silent _
  exact ⟨rfl, rfl⟩

theorem silent_refreshBus : board.refreshBus.Silent := by
  refine (along_get chains_silent).bind chains_silent fun state =>
    (along_liftM chains_silent _).bind chains_silent fun rates =>
      (along_modify fun _ => ?_).bind chains_silent fun _ => along_report chains_silent _
  exact ⟨rfl, rfl⟩

theorem silent_probe : board.probe.Silent := by
  refine (Along.forM chains_silent (fun pll => ?_) Pll.all).bind chains_silent fun _ => board.silent_refreshBus
  exact (board.silent_readBack pll).bind chains_silent fun rate =>
    (along_get chains_silent).bind chains_silent fun _ => along_report chains_silent _

theorem silent_plan (id : ClockId) (target : Nat) : (board.plan id target).Silent :=
  along_plan chains_silent id target

theorem silent_reading {request : Request} (reads : request.isReading = true) :
    (board.perform request).Silent :=
  along_reading chains_silent board.silent_readBack reads

end Board

/-! ### Moving nothing -/

/-- The registers and the cache are as they were, and no register was written. -/
def StateRelation.unmoved : StateRelation :=
  fun before after => after.registers = before.registers ∧ after.cache = before.cache ∧
    after.journal.writes = before.journal.writes

theorem StateRelation.chains_unmoved : unmoved.Chains where
  refl _ := ⟨rfl, rfl, rfl⟩
  trans first second :=
    ⟨second.1.trans first.1, second.2.1.trans first.2.1, second.2.2.trans first.2.2⟩
  report _ _ := ⟨rfl, rfl, rfl⟩

/-- An operation ended with the registers and the cache of the state before it, and wrote no register. -/
structure Outcome.Unmoved {α : Type} (outcome : Outcome α) (state : State) : Prop where
  registers : outcome.state.registers = state.registers
  cache : outcome.state.cache = state.cache
  writes : outcome.state.journal.writes = []

theorem Outcome.unmoved_of_runOn {α : Type} {action : Action α} {state : State}
    (related : StateRelation.unmoved { state with journal := {} } (action.runOn { state with journal := {} }).2) :
    (action.outcome state).Unmoved state :=
  ⟨related.1, related.2.1, related.2.2⟩

end ClockController
