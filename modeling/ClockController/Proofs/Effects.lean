import ClockController.Control.Gating
import ClockController.Control.SetRate
import ClockController.Proofs.FieldIndependence
import ClockController.Proofs.KeptProperty
import ClockController.Proofs.Plans

/-!
# ClockController.Proofs.Effects

What the operations do that reach the registers or the cache, in one step each.

## Main definitions

`Action.Leads`: how an operation ends and what it leaves, its reports apart.
`RegisterBlock.programmed`: the registers after a loop was programmed.
`Board.RateStep`: what a rate request can do.
`RegisterBlock.enabled`, `RegisterBlock.disabled`: the registers after a clock was switched.

## Main results

`Board.leads_readBack`, `Board.leads_refreshBus`: reading back.
`Board.leads_plan`: planning a rate request.
`Board.leads_program`, `Board.leads_select`: programming a loop and selecting a parent.
`Board.leads_setRate_of_idle`, `Board.leads_setRate_of_program`, `Board.leads_setRate_of_select`: a rate request
with its plan.
`Board.exists_rateStep`: it always does one of these things.
`ClockId.leads_enable`, `ClockId.leads_disable`: switching a clock.
`ClockId.exists_leads_enable`, `ClockId.exists_leads_disable`: switching any clock, also one that does not exist.
-/

namespace ClockController

/-! ### Ends of operations -/

namespace Action

variable {α β : Type} {before middle after : RegisterBlock × Cache}

/-- From registers and cache to the result of an operation and to what it leaves, whatever it reports. -/
def Leads (action : Action α) (before : RegisterBlock × Cache) (result : Except Failure α)
    (after : RegisterBlock × Cache) : Prop :=
  ∀ journal, ∃ reported, action.runOn ⟨before.1, before.2, journal⟩ = (result, ⟨after.1, after.2, reported⟩)

theorem Leads.bind {action : Action α} {next : α → Action β} {value : α} {result : Except Failure β}
    (first : action.Leads before (.ok value) middle) (second : (next value).Leads middle result after) :
    (action >>= next).Leads before result after := by
  intro journal
  obtain ⟨between, runs⟩ := first journal
  obtain ⟨reported, ends⟩ := second between
  exact ⟨reported, by rw [runOn_bind, runs]; exact ends⟩

theorem Leads.bind_of_error {action : Action α} {next : α → Action β} {failure : Failure}
    (first : action.Leads before (.error failure) after) :
    (action >>= next).Leads before (.error failure) after := by
  intro journal
  obtain ⟨reported, runs⟩ := first journal
  exact ⟨reported, by rw [runOn_bind, runs]⟩

theorem leads_get_bind {next : State → Action β} {result : Except Failure β}
    (leads : ∀ journal, (next ⟨before.1, before.2, journal⟩).Leads before result after) :
    (get >>= next).Leads before result after :=
  fun journal => leads journal journal

theorem leads_pure (value : α) : (pure value : Action α).Leads before (.ok value) before :=
  fun journal => ⟨journal, rfl⟩

theorem leads_report (message : Message) : (report message).Leads before (.ok ()) before :=
  fun _ => ⟨_, rfl⟩

theorem leads_read (register : Register) : (read register).Leads before (.ok (before.1.read register)) before :=
  fun journal => ⟨journal, rfl⟩

theorem leads_write (register : Register) (value : Word) :
    (write register value).Leads before (.ok ()) (before.1.write register value, before.2) :=
  fun _ => ⟨_, rfl⟩

theorem leads_modifyBits (register : Register) (clear set : Word) :
    (modifyBits register clear set).Leads before (.ok ())
      (before.1.write register ((before.1.read register &&& ~~~clear) ||| set), before.2) :=
  (leads_read register).bind (leads_write register _)

theorem leads_liftM {checked : Checked α} {value : α} (exists_ : checked = .ok value) :
    (liftM checked : Action α).Leads before (.ok value) before := by
  intro journal
  exact ⟨journal, by rw [runOn_liftM, exists_]; rfl⟩

theorem leads_liftM_of_error {checked : Checked α} {fault : Fault} (faults : checked = .error fault) :
    (liftM checked : Action α).Leads before (.error (.fault fault)) before := by
  intro journal
  exact ⟨journal, by rw [runOn_liftM, faults]; rfl⟩

theorem leads_node {id : ClockId} {clock : Clock} (found : Clock.find? id = some clock) :
    (node id).Leads before (.ok clock.node) before :=
  fun journal => ⟨journal, runOn_node_of_find? found _⟩

theorem leads_node_of_none {id : ClockId} (unknown : Clock.find? id = none) :
    (node id).Leads before (.error (.refused .noDevice)) before :=
  fun _ => ⟨_, runOn_node_of_none unknown _⟩

theorem Leads.leaves {action : Action α} {state : State} {result : Except Failure α}
    (leads : action.Leads (state.registers, state.cache) result after) :
    (action.runOn state).2.registers = after.1 ∧ (action.runOn state).2.cache = after.2 := by
  obtain ⟨reported, runs⟩ := leads state.journal
  rw [runs]
  exact ⟨rfl, rfl⟩

/-- An operation that succeeds keeps a property that holds of what it leaves. -/
theorem Leads.keepsFrom {property : Property} {onFault : Prop} {action : Action α} {state : State} {value : α}
    (leads : action.Leads (state.registers, state.cache) (.ok value) after) (holds : property after.1 after.2) :
    action.KeepsFrom property onFault state := by
  obtain ⟨reported, runs⟩ := leads state.journal
  unfold KeepsFrom
  rw [runs]
  exact holds

theorem Leads.keepsFrom_of_fault {property : Property} {onFault : Prop} {action : Action α} {state : State}
    {fault : Fault} (leads : action.Leads (state.registers, state.cache) (.error (.fault fault)) after)
    (faults : onFault) : action.KeepsFrom property onFault state := by
  obtain ⟨reported, runs⟩ := leads state.journal
  unfold KeepsFrom
  rw [runs]
  exact faults

end Action

open ClockController.Action

variable {board : Board} {registers : RegisterBlock} {cache : Cache}

/-! ### Reading back -/

namespace Board

theorem leads_readBack {pll : Pll} {reading : Reading}
    (reads : registers.reading board.oscillators.hxt pll = .ok reading) :
    (board.readBack pll).Leads (registers, cache) (.ok reading.rate)
      (registers, { cache with plls := cache.plls.set pll reading }) :=
  leads_get_bind fun _ => (leads_liftM reads).bind fun _ => ⟨_, rfl⟩

theorem leads_readBack_of_error {pll : Pll} {fault : Fault}
    (faults : registers.reading board.oscillators.hxt pll = .error fault) :
    (board.readBack pll).Leads (registers, cache) (.error (.fault fault)) (registers, cache) :=
  leads_get_bind fun _ => (leads_liftM_of_error faults).bind_of_error

theorem leads_refreshBus (board : Board) (registers : RegisterBlock) (cache : Cache) :
    ∃ rates, cache.busRates board.oscillators registers = .ok rates ∧
      board.refreshBus.Leads (registers, cache) (.ok ()) (registers, { cache with bus := rates }) := by
  obtain ⟨rates, derives⟩ := cache.exists_busRates board.oscillators registers
  exact ⟨rates, derives, leads_get_bind fun _ => (leads_liftM derives).bind fun _ => ⟨_, rfl⟩⟩

end Board

/-! ### Planning -/

theorem Board.leads_plan {id : ClockId} {clock : Clock} (found : Clock.find? id = some clock) {target : Nat}
    {plan : Plan} (plans : Plan.ofNode board cache registers clock.node target = .ok plan) :
    (board.plan id target).Leads (registers, cache) (.ok plan) (registers, cache) := by
  refine (leads_node found).bind (leads_get_bind fun _ => (leads_liftM plans).bind ?_)
  split
  next reason =>
    split
    next => exact (leads_report _).bind (leads_pure _)
    next => exact leads_pure _
  next => exact leads_pure _

/-! ### Programming a loop -/

/-- The registers after the words of a loop were programmed; the third word counts in spread-spectrum mode
only. -/
def RegisterBlock.programmed (registers : RegisterBlock) (pll : Pll) (mode : Mode) (words : ControlWords) :
    RegisterBlock :=
  let written := (registers.write (.pll pll .ctl0) words.ctl0).write (.pll pll .ctl1) words.ctl1
  if mode = .spreadSpectrum then written.write (.pll pll .ctl2) words.ctl2 else written

/-- Programming a loop succeeds up to the last write, and ends as reading back does then. -/
theorem Board.leads_program_of_written {pll : Pll} {mode : Mode} {solution : Solution}
    {result : Except Failure Unit} {after : RegisterBlock × Cache}
    (rest : (do let _ ← board.readBack pll; board.refreshBus).Leads
      (registers.programmed pll mode (.merge mode (registers.controlWords pll) solution.words), cache)
      result after) :
    (board.program pll mode solution).Leads (registers, cache) result after := by
  unfold RegisterBlock.programmed at rest
  unfold program
  dsimp only at rest ⊢
  split
  -- A fallback is reported first; from there on the two cases are one.
  case' isTrue => refine (leads_report _).bind ?_
  all_goals
    refine leads_get_bind fun _ => (leads_write _ _).bind ((leads_write _ _).bind ?_)
    split at rest
    next spread =>
      rw [if_pos spread]
      exact (leads_write _ _).bind ((leads_report _).bind rest)
    next plain =>
      rw [if_neg plain]
      exact (leads_report _).bind rest

/-- Programming a loop ends in a fault exactly if the programmed loop has no rate. -/
theorem Board.leads_program (board : Board) (registers : RegisterBlock) (cache : Cache) (pll : Pll)
    (mode : Mode) (solution : Solution) :
    let words := ControlWords.merge mode (registers.controlWords pll) solution.words
    let programmed := registers.programmed pll mode words
    (∃ fault, programmed.reading board.oscillators.hxt pll = .error fault ∧
      (board.program pll mode solution).Leads (registers, cache) (.error (.fault fault)) (programmed, cache)) ∨
    ∃ reading rates, programmed.reading board.oscillators.hxt pll = .ok reading ∧
      Cache.busRates board.oscillators ⟨cache.plls.set pll reading, cache.bus⟩ programmed = .ok rates ∧
      (board.program pll mode solution).Leads (registers, cache) (.ok ())
        (programmed, ⟨cache.plls.set pll reading, rates⟩) := by
  intro words programmed
  cases reads : programmed.reading board.oscillators.hxt pll with
  | error fault =>
    have stops : (board.readBack pll).Leads (programmed, cache) (.error (.fault fault)) (programmed, cache) :=
      leads_readBack_of_error reads
    exact .inl ⟨fault, rfl, leads_program_of_written stops.bind_of_error⟩
  | ok reading =>
    obtain ⟨rates, derives, refreshes⟩ := board.leads_refreshBus programmed
      { cache with plls := cache.plls.set pll reading }
    exact .inr ⟨reading, rates, rfl, derives,
      leads_program_of_written ((leads_readBack reads).bind refreshes)⟩

/-! ### Selecting a parent -/

/-- Selecting a parent of a clock of the table replaces its selector, and derives the bus clocks anew if it is
that of a bus clock. -/
theorem Board.leads_select (board : Board) (registers : RegisterBlock) (cache : Cache) {id : ClockId}
    {clock : Clock} (found : Clock.find? id = some clock) {mux : Mux} (has : clock.node.mux? = some mux)
    {parent : Nat} (inRange : parent < mux.parents.length) (rate : Nat) :
    let selected := registers.write mux.register (mux.field.write parent (registers.read mux.register))
    ∃ bus, (if id.isBusMux then cache.busRates board.oscillators selected = .ok bus else bus = cache.bus) ∧
      (board.select id mux parent rate).Leads (registers, cache) (.ok ())
        (selected, { cache with bus := bus }) := by
  intro selected
  have inside := Clock.mux_inside found has
  have place := Clock.checkedPlace_eq found has inRange
  unfold select
  cases isBus : id.isBusMux with
  | true =>
    obtain ⟨bus, derives, leads⟩ := board.leads_refreshBus selected cache
    refine ⟨bus, derives, (leads_liftM inside.checkedMask_eq).bind ((leads_liftM place).bind ?_)⟩
    exact (leads_modifyBits _ _ _).bind ((leads_report _).bind leads)
  | false =>
    refine ⟨cache.bus, rfl, (leads_liftM inside.checkedMask_eq).bind ((leads_liftM place).bind ?_)⟩
    exact (leads_modifyBits _ _ _).bind (leads_report _)

/-! ### Rate requests -/

namespace Board

theorem leads_setRate_of_none {id : ClockId} (unknown : Clock.find? id = none) (target : Nat) :
    (board.setRate id target).Leads (registers, cache) (.error (.refused .noDevice)) (registers, cache) :=
  (leads_node_of_none unknown).bind_of_error.bind_of_error

theorem leads_setRate_of_idle {id : ClockId} {clock : Clock} (found : Clock.find? id = some clock) {target : Nat}
    {plan : Plan} (plans : Plan.ofNode board cache registers clock.node target = .ok plan)
    (idle : plan.isIdle = true) :
    (board.setRate id target).Leads (registers, cache) (.ok plan.rate) (registers, cache) := by
  have nothing : (board.carryOut id target plan).Leads (registers, cache) (.ok plan.rate) (registers, cache) := by
    cases plan with
    | unchanged rate => exact leads_pure rate
    | unreachable reason => exact (leads_report _).bind (leads_pure 0)
    | noParent rate => exact (leads_report _).bind (leads_pure rate)
    | program pll mode solution => cases idle
    | select mux parent rate => cases idle
  exact (leads_plan found plans).bind nothing

theorem leads_setRate_of_program {id : ClockId} {clock : Clock} (found : Clock.find? id = some clock)
    {target : Nat} {pll : Pll} {mode : Mode} {solution : Solution}
    (plans : Plan.ofNode board cache registers clock.node target = .ok (.program pll mode solution)) :
    let words := ControlWords.merge mode (registers.controlWords pll) solution.words
    let programmed := registers.programmed pll mode words
    (∃ fault, programmed.reading board.oscillators.hxt pll = .error fault ∧
      (board.setRate id target).Leads (registers, cache) (.error (.fault fault)) (programmed, cache)) ∨
    ∃ reading rates, programmed.reading board.oscillators.hxt pll = .ok reading ∧
      Cache.busRates board.oscillators ⟨cache.plls.set pll reading, cache.bus⟩ programmed = .ok rates ∧
      (board.setRate id target).Leads (registers, cache) (.ok solution.rate)
        (programmed, ⟨cache.plls.set pll reading, rates⟩) := by
  intro words programmed
  rcases board.leads_program registers cache pll mode solution with ⟨fault, faults, leads⟩ |
    ⟨reading, rates, reads, derives, leads⟩
  · exact .inl ⟨fault, faults, (leads_plan found plans).bind leads.bind_of_error⟩
  · exact .inr ⟨reading, rates, reads, derives, (leads_plan found plans).bind (leads.bind (leads_pure _))⟩

theorem leads_setRate_of_select {id : ClockId} {clock : Clock} (found : Clock.find? id = some clock)
    {target : Nat} {mux : Mux} {parent rate : Nat}
    (plans : Plan.ofNode board cache registers clock.node target = .ok (.select mux parent rate)) :
    let selected := registers.write mux.register (mux.field.write parent (registers.read mux.register))
    ∃ bus, (if id.isBusMux then cache.busRates board.oscillators selected = .ok bus else bus = cache.bus) ∧
      (board.setRate id target).Leads (registers, cache) (.ok rate) (selected, { cache with bus := bus }) := by
  intro selected
  obtain ⟨has, inRange⟩ := Plan.ofNode_select plans
  obtain ⟨bus, derives, leads⟩ := board.leads_select registers cache found has inRange rate
  exact ⟨bus, derives, (leads_plan found plans).bind (leads.bind (leads_pure _))⟩

/-- What a rate request can do. It is refused, moves nothing, programs a loop or selects a parent; a loop whose
programmed words have no rate ends it in a fault. -/
inductive RateStep (board : Board) (id : ClockId) (target : Nat) (registers : RegisterBlock) (cache : Cache) :
    Except Failure Nat → RegisterBlock × Cache → Prop
  | unknown (unknown : Clock.find? id = none) :
    RateStep board id target registers cache (.error (.refused .noDevice)) (registers, cache)
  | idle {clock : Clock} {plan : Plan} (found : Clock.find? id = some clock)
    (plans : Plan.ofNode board cache registers clock.node target = .ok plan) (idle : plan.isIdle = true) :
    RateStep board id target registers cache (.ok plan.rate) (registers, cache)
  | fault {clock : Clock} {pll : Pll} {mode : Mode} {solution : Solution} {fault : Fault}
    (found : Clock.find? id = some clock)
    (plans : Plan.ofNode board cache registers clock.node target = .ok (.program pll mode solution))
    (faults : (registers.programmed pll mode
      (.merge mode (registers.controlWords pll) solution.words)).reading board.oscillators.hxt pll = .error fault) :
    RateStep board id target registers cache (.error (.fault fault))
      (registers.programmed pll mode (.merge mode (registers.controlWords pll) solution.words), cache)
  | program {clock : Clock} {pll : Pll} {mode : Mode} {solution : Solution} {reading : Reading} {bus : BusRates}
    (found : Clock.find? id = some clock)
    (plans : Plan.ofNode board cache registers clock.node target = .ok (.program pll mode solution))
    (reads : (registers.programmed pll mode
      (.merge mode (registers.controlWords pll) solution.words)).reading board.oscillators.hxt pll = .ok reading)
    (derives : Cache.busRates board.oscillators ⟨cache.plls.set pll reading, cache.bus⟩
      (registers.programmed pll mode (.merge mode (registers.controlWords pll) solution.words)) = .ok bus) :
    RateStep board id target registers cache (.ok solution.rate)
      (registers.programmed pll mode (.merge mode (registers.controlWords pll) solution.words),
        ⟨cache.plls.set pll reading, bus⟩)
  | select {clock : Clock} {mux : Mux} {parent rate : Nat} {bus : BusRates} (found : Clock.find? id = some clock)
    (plans : Plan.ofNode board cache registers clock.node target = .ok (.select mux parent rate))
    (derives : if id.isBusMux
      then cache.busRates board.oscillators
        (registers.write mux.register (mux.field.write parent (registers.read mux.register))) = .ok bus
      else bus = cache.bus) :
    RateStep board id target registers cache (.ok rate)
      (registers.write mux.register (mux.field.write parent (registers.read mux.register)),
        { cache with bus := bus })

theorem exists_rateStep (board : Board) (id : ClockId) (target : Nat) (registers : RegisterBlock) (cache : Cache) :
    ∃ result after, board.RateStep id target registers cache result after ∧
      (board.setRate id target).Leads (registers, cache) result after := by
  cases found : Clock.find? id with
  | none => exact ⟨_, _, .unknown found, leads_setRate_of_none found target⟩
  | some clock =>
    obtain ⟨plan, plans⟩ := Plan.exists_ofNode board cache registers found target
    cases plan with
    | program pll mode solution =>
      rcases leads_setRate_of_program found plans with ⟨fault, faults, leads⟩ | ⟨reading, bus, reads, derives, leads⟩
      · exact ⟨_, _, .fault found plans faults, leads⟩
      · exact ⟨_, _, .program found plans reads derives, leads⟩
    | select mux parent rate =>
      obtain ⟨bus, derives, leads⟩ := leads_setRate_of_select found plans
      exact ⟨_, _, .select found plans derives, leads⟩
    | _ => exact ⟨_, _, .idle found plans rfl, leads_setRate_of_idle found plans rfl⟩

end Board

/-! ### Switching and routing -/

theorem Pll.leads_setPower (pll : Pll) (isOn : Bool) (registers : RegisterBlock) (cache : Cache) :
    (pll.setPower isOn).Leads (registers, cache) (.ok ())
      (registers.write pll.powerRegister
        (pll.powerField.write (if isOn then 0 else 1) (registers.read pll.powerRegister)), cache) :=
  (leads_read _).bind (leads_write _ _)

/-- Routing an SD host writes the selector of the host and nothing else. -/
theorem ClockId.leads_routeSdHost (id : ClockId) (registers : RegisterBlock) (cache : Cache) :
    (routeSdHost id).Leads (registers, cache) (.ok ())
      (match sdhSelector? id with
        | some field =>
          registers.write .clksel0 (field.write SelectField.sdhFromSysPll (registers.read .clksel0))
        | none => registers, cache) := by
  unfold routeSdHost
  cases sdhSelector? id with
  | some field => exact (leads_read _).bind (leads_write _ _)
  | none => exact leads_pure ()

namespace RegisterBlock

/-- The registers after some bits of a switch were cleared and others set, if there is a switch. -/
def switched (registers : RegisterBlock) (clear set : Switch → Word) : Option Switch → RegisterBlock
  | some switch =>
    registers.write switch.register ((registers.read switch.register &&& ~~~clear switch) ||| set switch)
  | none => registers

/-- The registers after a loop was powered up or down. -/
def powered (registers : RegisterBlock) (pll : Pll) (isOn : Bool) : RegisterBlock :=
  registers.write pll.powerRegister
    (pll.powerField.write (if isOn then 0 else 1) (registers.read pll.powerRegister))

/-- The registers after an SD host was routed to the system loop. -/
def routed (registers : RegisterBlock) (id : ClockId) : RegisterBlock :=
  match sdhSelector? id with
  | some field => registers.write .clksel0 (field.write SelectField.sdhFromSysPll (registers.read .clksel0))
  | none => registers

/-- The registers after a clock was enabled: its switch is closed, and then an SD host is routed. -/
def enabled (registers : RegisterBlock) (id : ClockId) : Node → RegisterBlock
  | .pll pll => registers.powered pll true
  | node => (registers.switched (fun _ => 0) Switch.mask node.switch?).routed id

/-- The registers after a clock was disabled. -/
def disabled (registers : RegisterBlock) : Node → RegisterBlock
  | .pll pll => if pll.isAlwaysOn then registers else registers.powered pll false
  | node => registers.switched Switch.mask (fun _ => 0) node.switch?

end RegisterBlock

/-- How disabling a clock ends: only a gate without an enable bit refuses. -/
def Node.disableResult : Node → Except Failure Unit
  | .pll _ => .ok ()
  | node => if node.switch?.isSome then .ok () else .error (.refused .noSupport)

namespace ClockId

theorem leads_enable_of_none {id : ClockId} (unknown : Clock.find? id = none) :
    (enable id).Leads (registers, cache) (.error (.refused .noDevice)) (registers, cache) :=
  (leads_node_of_none unknown).bind_of_error

theorem leads_disable_of_none {id : ClockId} (unknown : Clock.find? id = none) :
    (disable id).Leads (registers, cache) (.error (.refused .noDevice)) (registers, cache) :=
  (leads_node_of_none unknown).bind_of_error

/-- Opening a gate, if it has a switch, and then routing. -/
theorem leads_open (id : ClockId) (switch? : Option Switch) (registers : RegisterBlock) (cache : Cache) :
    (do
      if let some switch := switch? then
        modifyBits switch.register 0 switch.mask
      routeSdHost id : Action Unit).Leads (registers, cache) (.ok ())
      ((registers.switched (fun _ => 0) Switch.mask switch?).routed id, cache) := by
  cases switch? with
  | some switch => exact (leads_modifyBits _ _ _).bind (leads_routeSdHost id _ cache)
  | none => exact leads_routeSdHost id registers cache

theorem leads_enable {id : ClockId} {clock : Clock} (found : Clock.find? id = some clock)
    (registers : RegisterBlock) (cache : Cache) :
    (enable id).Leads (registers, cache) (.ok ()) (registers.enabled id clock.node, cache) := by
  refine (leads_node found).bind ?_
  cases clock.node with
  | pll pll => exact pll.leads_setPower true registers cache
  | _ => exact leads_open id _ registers cache

/-- Disabling a clock of the table never ends in a fault. -/
theorem leads_disable {id : ClockId} {clock : Clock} (found : Clock.find? id = some clock)
    (registers : RegisterBlock) (cache : Cache) :
    (disable id).Leads (registers, cache) clock.node.disableResult (registers.disabled clock.node, cache) := by
  refine (leads_node found).bind ?_
  have gated (switch? : Option Switch) :
      (match switch? with
        | some switch => modifyBits switch.register switch.mask 0
        | none => refuse .noSupport : Action Unit).Leads (registers, cache)
        (if switch?.isSome then .ok () else .error (.refused .noSupport))
        (registers.switched Switch.mask (fun _ => 0) switch?, cache) := by
    cases switch? with
    | some switch => exact leads_modifyBits _ _ _
    | none => exact fun journal => ⟨journal, rfl⟩
  cases clock.node with
  | pll pll =>
    simp only [RegisterBlock.disabled]
    split
    next => exact leads_report _
    next => exact pll.leads_setPower false registers cache
  | _ => exact gated _

/-- Enabling any clock keeps the cache. It leaves the registers as they are, or closes the switch of the clock. -/
theorem exists_leads_enable (id : ClockId) (registers : RegisterBlock) (cache : Cache) :
    ∃ result after, (enable id).Leads (registers, cache) result (after, cache) ∧
      (after = registers ∨ ∃ clock, Clock.find? id = some clock ∧ after = registers.enabled id clock.node) := by
  cases found : Clock.find? id with
  | none => exact ⟨_, _, leads_enable_of_none found, .inl rfl⟩
  | some clock => exact ⟨_, _, leads_enable found registers cache, .inr ⟨clock, rfl, rfl⟩⟩

/-- Disabling any clock keeps the cache. It leaves the registers as they are, or opens the switch of the clock. -/
theorem exists_leads_disable (id : ClockId) (registers : RegisterBlock) (cache : Cache) :
    ∃ result after, (disable id).Leads (registers, cache) result (after, cache) ∧
      (after = registers ∨ ∃ clock, Clock.find? id = some clock ∧ after = registers.disabled clock.node) := by
  cases found : Clock.find? id with
  | none => exact ⟨_, _, leads_disable_of_none found, .inl rfl⟩
  | some clock => exact ⟨_, _, leads_disable found registers cache, .inr ⟨clock, rfl, rfl⟩⟩

end ClockId

end ClockController
