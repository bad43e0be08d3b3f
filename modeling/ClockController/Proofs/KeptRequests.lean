import ClockController.Proofs.Effects
import ClockController.Request

/-!
# ClockController.Proofs.KeptRequests

Properties of registers and cache that requests keep, and with them whole sessions.

A request that only asks reaches the cache through a loop that is read back, and nothing else. All other
requests of the controller are made of six effects; a property that each of them keeps is kept by every session.

## Main definitions

`Request.isReading`, `Request.isSwitching`, `Request.rateAsked?`: what a request of the controller can be about.
`Board.states`: the states of a session.

## Main results

`Request.cases_of_own`: a request only asks, switches a clock, or moves one to a rate.
`Board.keeps_reading`: a property that reading a loop back keeps is kept by every request that only asks.
`Board.keeps_own`: a property that the effects keep is kept by every request of the controller.
`Board.result_pllMode`: the mode that is answered for an id.
`Board.session_keeps`: a property that requests keep holds after each of them.
`Board.states_keep`: and so it holds of every state of a session.
`Board.states_invariant`: what holds from one state of a session to the next holds of all of them.
-/

namespace ClockController

open ClockController.Action

variable {board : Board} {property : Property} {onFault : Prop}

/-! ### Kinds of requests -/

def Request.isForeign : Request → Bool
  | .foreign _ => true
  | _ => false

/-- Whether a request only asks and moves nothing. -/
def Request.isReading : Request → Bool
  | .getRate _ | .roundRate .. | .isEnabled _ | .pllMode _ | .resolveRoot _ | .allRoots | .allRates
  | .enabledClocks | .oscillators | .peripheralId _ | .peripheralRate _ | .peripheralIsEnabled _ => true
  | _ => false

/-- Whether a request switches a clock on or off. -/
def Request.isSwitching : Request → Bool
  | .enable _ | .disable _ | .peripheralEnable _ | .peripheralDisable _ => true
  | _ => false

/-- The clock and the target of a rate request. -/
def Request.rateAsked? : Request → Option (ClockId × Nat)
  | .setRate id target => some (id, target)
  | .peripheralSetRate clock target => some (clock.id, target)
  | _ => none

/-- A request of the controller only asks, switches a clock, or moves one to a rate. -/
theorem Request.cases_of_own {request : Request} (own : request.isForeign = false) :
    request.isReading = true ∨ request.isSwitching = true ∨
      ∃ id target, request.rateAsked? = some (id, target) := by
  cases request with
  | setRate id target => exact .inr (.inr ⟨id, target, rfl⟩)
  | peripheralSetRate clock target => exact .inr (.inr ⟨clock.id, target, rfl⟩)
  | enable | disable | peripheralEnable | peripheralDisable => exact .inr (.inl rfl)
  | foreign access => cases own
  | _ => exact .inl rfl

/-! ### Requests that only ask -/

theorem keeps_divided (registers : RegisterBlock) {divider : Divider} (inside : divider.field.Inside)
    (rate : Nat) :
    (do let ratio ← registers.dividerRatio divider; Checked.div rate ratio : Action Nat).Keeps
      property onFault := by
  obtain ⟨ratio, reads, positive⟩ := registers.exists_divided inside
  intro state holds
  refine (keeps_liftM ratio reads state holds).bind fun value after run holds => ?_
  rw [runOn_liftM, reads] at run
  cases run
  exact keeps_liftM _ (Checked.div_of_pos positive) _ holds

theorem ClockId.keeps_isEnabled (id : ClockId) : (ClockId.isEnabled id).Keeps property onFault := by
  refine keeps_node_bind fun clock _ => ?_
  split
  next pll => exact (keeps_read _).bind fun _ => keeps_pure _
  next =>
    split
    next => exact (keeps_read _).bind fun _ => keeps_pure _
    next => exact keeps_pure _

namespace Board

theorem keeps_nodeRate (readBack : ∀ pll, (board.readBack pll).Keeps property onFault) {id : ClockId}
    {clock : Clock} (found : Clock.find? id = some clock) :
    (board.nodeRate clock.node).Keeps property onFault := by
  have muxInside (mux : Mux) := @Clock.mux_inside id clock found mux
  have dividerInside (divider : Divider) := @Clock.divider_inside id clock found divider
  have selects (state : State) (mux : Mux) (inside : mux.field.Inside) :
      (liftM (state.cache.muxRate board.oscillators state.registers mux) : Action Nat).Keeps
        property onFault := by
    obtain ⟨rate, runs⟩ := state.cache.exists_muxRate board.oscillators state.registers inside
    exact keeps_liftM rate runs
  refine keeps_get.bind fun state => ?_
  cases built : clock.node with
  -- Only a loop is more than a look at the cache and the registers.
  | pll pll => exact readBack pll
  | gate gate => exact keeps_pure _
  | mux gate mux => exact selects state mux (muxInside mux (by rw [built]; rfl))
  | divider gate mux? divider =>
    have inside := dividerInside divider (by rw [built]; rfl)
    cases mux? with
    | none => exact (keeps_pure _).bind fun rate => keeps_divided state.registers inside rate
    | some mux =>
      exact (selects state mux (muxInside mux (by rw [built]; rfl))).bind fun rate =>
        keeps_divided state.registers inside rate

theorem keeps_getRate (readBack : ∀ pll, (board.readBack pll).Keeps property onFault) (id : ClockId) :
    (board.getRate id).Keeps property onFault := by
  refine keeps_node_bind fun clock found => (keeps_nodeRate readBack found).bind fun rate => ?_
  cases board.options.tracesRates with
  | false => exact keeps_pure rate
  | true => exact (keeps_report _).bind fun _ => keeps_pure rate

theorem keeps_plan (id : ClockId) (target : Nat) : (board.plan id target).Keeps property onFault := by
  refine keeps_node_bind fun clock found => keeps_get.bind fun state => ?_
  obtain ⟨plan, plans⟩ := Plan.exists_ofNode board state.cache state.registers found target
  refine (keeps_liftM plan plans).bind fun plan => ?_
  split
  next reason =>
    split
    next message _ => exact (keeps_report message).bind fun _ => keeps_pure _
    next => exact keeps_pure _
  next => exact keeps_pure _

theorem keeps_roundRate (id : ClockId) (target : Nat) : (board.roundRate id target).Keeps property onFault :=
  (keeps_plan id target).bind fun _ => keeps_pure _

theorem keeps_pllMode (id : ClockId) : (board.pllMode id).Keeps property onFault := by
  refine keeps_node_bind fun clock _ => ?_
  split
  next => exact keeps_get.bind fun _ => keeps_pure _
  next => exact keeps_refuse _

theorem keeps_resolveRoot (root : Root) : (board.resolveRoot root).Keeps property onFault :=
  keeps_get.bind fun _ => keeps_pure _

/-- A property that reading a loop back keeps is kept by every request that only asks. -/
theorem keeps_reading (readBack : ∀ pll, (board.readBack pll).Keeps property onFault) {request : Request}
    (reads : request.isReading = true) : (board.perform request).Keeps property onFault := by
  cases request with
  | getRate id => exact (keeps_getRate readBack id).bind fun _ => keeps_pure _
  | roundRate id target => exact (keeps_roundRate id target).bind fun _ => keeps_pure _
  | isEnabled id => exact (ClockId.keeps_isEnabled id).bind fun _ => keeps_pure _
  | pllMode id => exact (keeps_pllMode id).bind fun _ => keeps_pure _
  | resolveRoot root => exact (keeps_resolveRoot root).bind fun _ => keeps_pure _
  | allRoots => exact (Keeps.mapM keeps_resolveRoot _).bind fun _ => keeps_pure _
  | allRates => exact (Keeps.mapM (keeps_getRate readBack) _).bind fun _ => keeps_pure _
  | enabledClocks =>
    have collects (ids : List ClockId) :
        (do return .clocks (← ids.filterM ClockId.isEnabled) : Action Answer).Keeps property onFault :=
      (Keeps.filterM ClockId.keeps_isEnabled ids).bind fun _ => keeps_pure _
    exact collects _
  | oscillators => exact keeps_pure _
  | peripheralId clock => exact keeps_pure _
  | peripheralRate clock => exact (keeps_getRate readBack clock.id).bind fun _ => keeps_pure _
  | peripheralIsEnabled clock =>
    exact (PeripheralClock.keeps_onRefusal (ClockId.keeps_isEnabled clock.id) fun _ => keeps_pure false).bind
      fun _ => keeps_pure _
  | _ => cases reads

end Board

/-! ### Requests that move something -/

/-- A property that everything keeps by which a request of the controller reaches the registers or the cache. -/
structure Board.EffectsKeep (board : Board) (property : Property) (onFault : Prop) : Prop where
  readBack : ∀ pll, (board.readBack pll).Keeps property onFault
  program : ∀ pll mode solution, (board.program pll mode solution).Keeps property onFault
  select : ∀ {id clock mux parent}, Clock.find? id = some clock → clock.node.mux? = some mux →
    parent < mux.parents.length → ∀ rate, (board.select id mux parent rate).Keeps property onFault
  setPower : ∀ pll isOn, (Pll.setPower pll isOn).Keeps property onFault
  switch : ∀ {id clock switch}, Clock.find? id = some clock → clock.node.switch? = some switch →
    ∀ clear set, (modifyBits switch.register clear set).Keeps property onFault
  routeSdHost : ∀ id, (ClockId.routeSdHost id).Keeps property onFault

namespace Board.EffectsKeep

theorem keeps_setRate (effects : board.EffectsKeep property onFault) (id : ClockId) (target : Nat) :
    (board.setRate id target).Keeps property onFault := by
  intro state holds
  refine (keeps_plan id target state holds).bind fun plan after run holds => ?_
  have carriesOut : (board.carryOut id target plan).Keeps property onFault := by
    cases plan with
    | unchanged rate => exact keeps_pure rate
    | unreachable reason => exact (keeps_report _).bind fun _ => keeps_pure 0
    | noParent rate => exact (keeps_report _).bind fun _ => keeps_pure rate
    | program pll mode solution => exact (effects.program pll mode solution).bind fun _ => keeps_pure _
    | select mux parent rate =>
      -- The effect needs a selector of the table and one of its parents, which is what the plan found.
      cases found : Clock.find? id with
      | none =>
        rw [Board.plan, runOn_bind, runOn_node_of_none found] at run
        cases run
      | some clock =>
        obtain ⟨planned, plans⟩ := Plan.exists_ofNode board state.cache state.registers found target
        obtain ⟨reported, runs⟩ := leads_plan found plans state.journal
        rw [runs] at run
        cases run
        obtain ⟨has, inRange⟩ := Plan.ofNode_select plans
        exact (effects.select found has inRange rate).bind fun _ => keeps_pure rate
  exact carriesOut after holds

theorem keeps_enable (effects : board.EffectsKeep property onFault) (id : ClockId) :
    (ClockId.enable id).Keeps property onFault := by
  refine keeps_node_bind fun clock found => ?_
  split
  next => exact effects.setPower _ true
  next =>
    dsimp only
    split
    next has => exact (effects.switch found has _ _).bind fun _ => effects.routeSdHost id
    next => exact effects.routeSdHost id

theorem keeps_disable (effects : board.EffectsKeep property onFault) (id : ClockId) :
    (ClockId.disable id).Keeps property onFault := by
  refine keeps_node_bind fun clock found => ?_
  split
  next =>
    split
    next => exact keeps_report _
    next => exact effects.setPower _ false
  next =>
    split
    next has => exact effects.switch found has _ _
    next => exact keeps_refuse _

end Board.EffectsKeep

/-- A property that the effects keep is kept by every request of the controller. -/
theorem Board.keeps_own (effects : board.EffectsKeep property onFault) {request : Request}
    (own : request.isForeign = false) : (board.perform request).Keeps property onFault := by
  by_cases reads : request.isReading = true
  · exact keeps_reading effects.readBack reads
  cases request with
  | setRate id target => exact (effects.keeps_setRate id target).bind fun _ => keeps_pure _
  | enable id => exact (effects.keeps_enable id).bind fun _ => keeps_pure _
  | disable id => exact (effects.keeps_disable id).bind fun _ => keeps_pure _
  -- A handle does what its clock does, and turns a refusal into a report.
  | peripheralSetRate clock target =>
    exact (effects.keeps_setRate clock.id target).bind fun _ => keeps_pure _
  | peripheralEnable clock =>
    exact (PeripheralClock.keeps_onRefusal (effects.keeps_enable clock.id) fun _ => keeps_report _).bind
      fun _ => keeps_pure _
  | peripheralDisable clock =>
    exact (PeripheralClock.keeps_onRefusal (effects.keeps_disable clock.id) fun _ => keeps_report _).bind
      fun _ => keeps_pure _
  | foreign access => cases own
  | _ => exact (reads rfl).elim

/-! ### Outcomes -/

/-- What a request answers and leaves, if that does not depend on what was reported before. -/
theorem Action.Leads.outcome {α : Type} {action : Action α} {state : State} {result : Except Failure α}
    {after : RegisterBlock × Cache} (leads : action.Leads (state.registers, state.cache) result after) :
    (action.outcome state).result = result ∧ (action.outcome state).state.registers = after.1 ∧
      (action.outcome state).state.cache = after.2 := by
  obtain ⟨reported, runs⟩ := leads {}
  rw [Action.outcome, runs]
  exact ⟨rfl, rfl, rfl⟩

/-- What an outcome is, of an operation that keeps a property. -/
theorem Action.Keeps.outcome {α : Type} {action : Action α} (keeps : action.Keeps property onFault)
    {state : State} (holds : property.Holds state) :
    ((action.outcome state).isFault = true → onFault) ∧
      ((action.outcome state).isFault = false → property.Holds (action.outcome state).state) := by
  have ends := keeps { state with journal := {} } holds
  unfold KeepsFrom at ends
  unfold Action.outcome
  rcases run : action.runOn { state with journal := {} } with ⟨result, after⟩
  rw [run] at ends
  cases result with
  | ok value => exact ⟨nofun, fun _ => ends⟩
  | error failure =>
    cases failure with
    | refused error => exact ⟨nofun, fun _ => ends⟩
    | fault fault => exact ⟨fun _ => ends, nofun⟩

theorem Outcome.isFault_map {α β : Type} (outcome : Outcome α) (answer : α → β) :
    Outcome.isFault ⟨outcome.result.map answer, outcome.state⟩ = outcome.isFault := by
  rcases outcome with ⟨result, after⟩
  cases result with
  | ok value => rfl
  | error failure => cases failure <;> rfl

/-- A rate request answers what the operation does, also through a handle. -/
theorem Board.outcome_of_rateAsked (board : Board) {request : Request} {id : ClockId} {target : Nat}
    (asks : request.rateAsked? = some (id, target)) (state : State) :
    (board.perform request).outcome state =
      ⟨((board.setRate id target).outcome state).result.map .rate,
        ((board.setRate id target).outcome state).state⟩ := by
  have answers : ((do return .rate (← board.setRate id target) : Action Answer).outcome state) =
      ⟨((board.setRate id target).outcome state).result.map .rate,
        ((board.setRate id target).outcome state).state⟩ := by
    unfold Action.outcome
    rw [runOn_bind]
    rcases (board.setRate id target).runOn { state with journal := {} } with ⟨result, after⟩
    cases result <;> rfl
  cases request with
  | setRate | peripheralSetRate =>
    cases asks
    exact answers
  | _ => cases asks

/-- The mode of a clock: only loops have one. -/
theorem Board.result_pllMode (board : Board) (state : State) (id : ClockId) :
    ((board.pllMode id).outcome state).result =
      match Clock.find? id with
      | none => .error (.refused .noDevice)
      | some clock =>
        match clock.node with
        | .pll pll => .ok (state.cache.plls.get pll).mode
        | _ => .error (.refused .invalid) := by
  rw [Action.outcome, pllMode, runOn_bind]
  cases found : Clock.find? id with
  | none => rw [runOn_node_of_none found]
  | some clock =>
    rw [runOn_node_of_find? found]
    dsimp only
    cases clock.node <;> rfl

/-! ### Sessions -/

/-- A property that requests keep holds after each of them. -/
theorem Board.session_keeps {requests : List Request}
    (keeps : ∀ request ∈ requests, (board.perform request).Keeps property onFault) {state : State}
    (holds : property.Holds state) {outcome : Outcome Answer}
    (member : outcome ∈ board.session requests state) :
    (outcome.isFault = true → onFault) ∧ (outcome.isFault = false → property.Holds outcome.state) := by
  induction requests generalizing state with
  | nil => cases member
  | cons request rest ih =>
    -- The session goes on from the state of the first outcome, unless that was a fault.
    have first := (keeps request (.head rest)).outcome holds
    unfold session at member
    dsimp only at member
    split at member
    next => exact List.mem_singleton.mp member ▸ first
    next runs =>
      rcases List.mem_cons.mp member with rfl | member
      · exact first
      · have rest_keeps := fun request member => keeps request (.tail _ member)
        exact ih rest_keeps (first.2 (Bool.eq_false_iff.mpr runs)) member

/-- The states of a session: the one before it, and the one after each request that ended in no fault. -/
def Board.states (board : Board) (requests : List Request) (state : State) : List State :=
  state :: ((board.session requests state).filter fun outcome => !outcome.isFault).map Outcome.state

/-- A property that requests keep holds of every state of a session. -/
theorem Board.states_keep {requests : List Request}
    (keeps : ∀ request ∈ requests, (board.perform request).Keeps property onFault) {state : State}
    (holds : property.Holds state) {after : State} (member : after ∈ board.states requests state) :
    property.Holds after := by
  rcases List.mem_cons.mp member with rfl | later
  · exact holds
  · obtain ⟨outcome, among, rfl⟩ := List.mem_map.mp later
    obtain ⟨answered, runs⟩ := List.mem_filter.mp among
    exact (session_keeps keeps holds answered).2 (by simpa using runs)

/-- What holds of a state and of every state that a request leads to from such a state holds of every state of a
session. -/
theorem Board.states_invariant {invariant : State → Prop} {requests : List Request}
    (step : ∀ request ∈ requests, ∀ state, invariant state →
      ((board.perform request).outcome state).isFault = false →
      invariant ((board.perform request).outcome state).state)
    {state : State} (holds : invariant state) {after : State} (member : after ∈ board.states requests state) :
    invariant after := by
  induction requests generalizing state with
  | nil =>
    rw [List.mem_singleton.mp member]
    exact holds
  | cons request rest ih =>
    rcases List.mem_cons.mp member with rfl | later
    · exact holds
    · unfold session at later
      dsimp only at later
      split at later
      -- A fault is no state of the session.
      next faults => simp [faults] at later
      next runs =>
        have ends := Bool.eq_false_iff.mpr runs
        have first := step request (.head _) state holds ends
        refine ih (fun request member => step request (.tail _ member)) first ?_
        simpa [states, ends] using later

end ClockController
