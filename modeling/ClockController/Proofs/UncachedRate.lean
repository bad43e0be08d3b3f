import ClockController.Proofs.Coherence

/-!
# ClockController.Proofs.UncachedRate

The rates of clocks as the registers alone give them, and the cached rates that agree with them.

## Main definitions

`Root.Runs`, `Node.Runs`: a root and a clock run at a rate, found by following the selected path up to an
oscillator or a loop.

## Main results

`Board.Coherent.root_runs_iff`: the rate of a root from a coherent cache is the one from the registers.
`Board.Coherent.leads_getRate`: so is the rate that is answered for a clock, and the answer changes nothing.
`Board.Coherent.getRate_after`: what is answered after an operation that leaves a coherent cache.
`Board.cache_in_step`: all through a session the cache is that of a fresh start, and the answered rates are
those of the registers, however often they were asked for.
-/

namespace ClockController

open ClockController.Action

/-! ### Rates from the registers alone -/

/-- A root runs at a rate. A bus clock runs at that of the root which its selector selects. -/
inductive Root.Runs (board : Board) (registers : RegisterBlock) : Root → Nat → Prop
  | oscillator {root : Root} {input : Oscillator} (comes : root.source = .oscillator input) :
    Runs board registers root (board.oscillators.rate input / root.divisor)
  | loop {root : Root} {pll : Pll} {reading : Reading} (comes : root.source = .loop pll)
    (reads : registers.reading board.oscillators.hxt pll = .ok reading) :
    Runs board registers root (reading.rate / root.divisor)
  | bus {root parent : Root} {bus : Bus} {rate : Nat} (comes : root.source = .bus bus)
    (selects : bus.mux.selected (registers.read bus.mux.register) = .ok parent)
    (feeds : Runs board registers parent rate) : Runs board registers root (rate / root.divisor)

/-- What a divider divides: the selection, or else the root of the gate. -/
def Node.undivided (gate : Gate) : Option Mux → Node
  | some selector => .mux gate selector
  | none => .gate gate

/-- A clock runs at a rate. -/
inductive Node.Runs (board : Board) (registers : RegisterBlock) : Node → Nat → Prop
  | pll {pll : Pll} {reading : Reading}
    (reads : registers.reading board.oscillators.hxt pll = .ok reading) :
    Runs board registers (.pll pll) reading.rate
  | gate {gate : Gate} {rate : Nat} (feeds : gate.root.Runs board registers rate) :
    Runs board registers (.gate gate) rate
  | mux {gate : Gate} {mux : Mux} {root : Root} {rate : Nat}
    (selects : mux.selected (registers.read mux.register) = .ok root)
    (feeds : root.Runs board registers rate) : Runs board registers (.mux gate mux) rate
  | divider {gate : Gate} {mux? : Option Mux} {divider : Divider} {rate ratio : Nat}
    (feeds : Runs board registers (.undivided gate mux?) rate)
    (reads : registers.dividerRatio divider = .ok ratio) :
    Runs board registers (.divider gate mux? divider) (rate / ratio)

namespace Board.Coherent

variable {board : Board} {registers : RegisterBlock} {cache : Cache}

/-! ### Roots -/

theorem rootRate_of_runs (coherent : board.Coherent registers cache) {root : Root} {rate : Nat}
    (runs : root.Runs board registers rate) : cache.rootRate board.oscillators root = rate := by
  induction runs with
  | oscillator comes => rw [Cache.rootRate, comes, Cache.sourceRate]
  | @loop root pll reading comes reads =>
    rw [coherent.loops] at reads
    cases reads
    rw [Cache.rootRate, comes, Cache.sourceRate]
  | @bus root parent bus rate comes selects feeds ih =>
    -- The cached rate of the bus clock was derived from the same root.
    have derived := Cache.busRates_eq_ok_iff.mp coherent.buses bus
    rw [Cache.muxRate_eq _ _ _ selects, ih] at derived
    cases derived
    rw [Cache.rootRate, comes, Cache.sourceRate]

theorem exists_runs (coherent : board.Coherent registers cache) (root : Root) :
    ∃ rate, root.Runs board registers rate := by
  -- A bus clock selects a root that is none, so that every path ends after one selector.
  have direct (parent : Root) (apart : ∀ bus, parent.source ≠ .bus bus) :
      ∃ rate, parent.Runs board registers rate := by
    cases comes : parent.source with
    | oscillator input => exact ⟨_, .oscillator comes⟩
    | loop pll => exact ⟨_, .loop comes (coherent.loops pll)⟩
    | bus bus => exact absurd comes (apart bus)
  cases comes : root.source with
  | bus bus =>
    have selects := Mux.selected_eq bus.mux_inside (registers.read bus.mux.register)
    obtain ⟨rate, feeds⟩ := direct _ (Bus.source_of_selected selects)
    exact ⟨_, .bus comes selects feeds⟩
  | _ => exact direct root (by rw [comes]; nofun)

theorem root_runs_iff (coherent : board.Coherent registers cache) {root : Root} {rate : Nat} :
    root.Runs board registers rate ↔ cache.rootRate board.oscillators root = rate := by
  refine ⟨coherent.rootRate_of_runs, fun same => ?_⟩
  obtain ⟨found, runs⟩ := coherent.exists_runs root
  rw [← same, coherent.rootRate_of_runs runs]
  exact runs

/-! ### Clocks -/

theorem pll_runs_iff (coherent : board.Coherent registers cache) {pll : Pll} {rate : Nat} :
    (Node.pll pll).Runs board registers rate ↔ (cache.plls.get pll).rate = rate := by
  constructor
  · intro runs
    cases runs with
    | pll reads =>
      rw [coherent.loops] at reads
      cases reads
      rfl
  · intro same
    subst same
    exact .pll (coherent.loops pll)

theorem gate_runs_iff (coherent : board.Coherent registers cache) {gate : Gate} {rate : Nat} :
    (Node.gate gate).Runs board registers rate ↔ cache.rootRate board.oscillators gate.root = rate := by
  constructor
  · intro runs
    cases runs with
    | gate feeds => exact coherent.root_runs_iff.mp feeds
  · exact fun same => .gate (coherent.root_runs_iff.mpr same)

theorem mux_runs_iff (coherent : board.Coherent registers cache) {gate : Gate} {mux : Mux} {root : Root}
    (selects : mux.selected (registers.read mux.register) = .ok root) {rate : Nat} :
    (Node.mux gate mux).Runs board registers rate ↔ cache.rootRate board.oscillators root = rate := by
  constructor
  · intro runs
    cases runs with
    | mux selected feeds =>
      rw [selects] at selected
      cases selected
      exact coherent.root_runs_iff.mp feeds
  · exact fun same => .mux selects (coherent.root_runs_iff.mpr same)

theorem divider_runs_iff {gate : Gate} {mux? : Option Mux} {divider : Divider} {undivided ratio : Nat}
    (runs_iff : ∀ {rate}, (Node.undivided gate mux?).Runs board registers rate ↔ undivided = rate)
    (reads : registers.dividerRatio divider = .ok ratio) {rate : Nat} :
    (Node.divider gate mux? divider).Runs board registers rate ↔ undivided / ratio = rate := by
  constructor
  · intro runs
    cases runs with
    | divider feeds divides =>
      rw [reads] at divides
      cases divides
      rw [runs_iff.mp feeds]
  · intro same
    subst same
    exact .divider (runs_iff.mpr rfl) reads

theorem leads_nodeRate (coherent : board.Coherent registers cache) {id : ClockId} {clock : Clock}
    (found : Clock.find? id = some clock) :
    ∃ rate, (board.nodeRate clock.node).Leads (registers, cache) (.ok rate) (registers, cache) ∧
      ∀ other, clock.node.Runs board registers other ↔ rate = other := by
  have muxInside (mux : Mux) := @Clock.mux_inside id clock found mux
  cases built : clock.node with
  | pll pll =>
    exact ⟨_, leads_get_bind fun _ => coherent.leads_readBack pll, fun _ => coherent.pll_runs_iff⟩
  | gate gate => exact ⟨_, leads_get_bind fun _ => leads_pure _, fun _ => coherent.gate_runs_iff⟩
  | mux gate mux =>
    have selects := Mux.selected_eq (muxInside mux (by rw [built]; rfl)) (registers.read mux.register)
    exact ⟨_, leads_get_bind fun _ => leads_liftM (cache.muxRate_eq board.oscillators registers selects),
      fun _ => coherent.mux_runs_iff selects⟩
  | divider gate mux? divider =>
    obtain ⟨ratio, reads, positive⟩ := Clock.exists_ratio found built registers
    have divides (undivided : Nat) :
        (do let ratio ← registers.dividerRatio divider; Checked.div undivided ratio : Action Nat).Leads
          (registers, cache) (.ok (undivided / ratio)) (registers, cache) :=
      (leads_liftM reads).bind (leads_liftM (Checked.div_of_pos positive))
    cases mux? with
    | none =>
      exact ⟨_, leads_get_bind fun _ => (leads_pure _).bind (divides _),
        fun _ => divider_runs_iff coherent.gate_runs_iff reads⟩
    | some mux =>
      have selects := Mux.selected_eq (muxInside mux (by rw [built]; rfl)) (registers.read mux.register)
      have selection := cache.muxRate_eq board.oscillators registers selects
      exact ⟨_, leads_get_bind fun _ => (leads_liftM selection).bind (divides _),
        fun _ => divider_runs_iff (coherent.mux_runs_iff selects) reads⟩

/-- The rate that is answered for a clock of the table is the one from the registers. -/
theorem leads_getRate (coherent : board.Coherent registers cache) {id : ClockId} {clock : Clock}
    (found : Clock.find? id = some clock) :
    ∃ rate, (board.getRate id).Leads (registers, cache) (.ok rate) (registers, cache) ∧
      ∀ other, clock.node.Runs board registers other ↔ rate = other := by
  obtain ⟨rate, leads, runs_iff⟩ := coherent.leads_nodeRate found
  refine ⟨rate, (leads_node found).bind (leads.bind ?_), runs_iff⟩
  cases board.options.tracesRates with
  | false => exact leads_pure rate
  | true => exact (leads_report _).bind (leads_pure rate)

/-- After an operation that leaves a coherent cache, the rate that is answered for a clock is the one from the
registers that it leaves. -/
theorem getRate_after {α : Type} {action : Action α} {state : State} {result : Except Failure α}
    {after : RegisterBlock × Cache} (coherent : board.Coherent after.1 after.2)
    (leads : action.Leads (state.registers, state.cache) result after) {id : ClockId} {clock : Clock}
    (found : Clock.find? id = some clock) {rate : Nat} (runs : clock.node.Runs board after.1 rate) :
    ((board.getRate id).outcome (action.outcome state).state).result = .ok rate := by
  obtain ⟨_, nowRegisters, nowCache⟩ := leads.outcome
  rw [← nowRegisters, ← nowCache] at coherent
  rw [← nowRegisters] at runs
  obtain ⟨answered, asks, runs_iff⟩ := coherent.leads_getRate found
  rw [asks.outcome.1, (runs_iff rate).mp runs]

/-! ### Requests that only ask -/

theorem keeps_readBack (coherent : board.Coherent registers cache) (pll : Pll) :
    (board.readBack pll).Keeps (fun others other => others = registers ∧ other = cache) False := by
  rintro state ⟨rfl, rfl⟩
  exact (coherent.leads_readBack pll).keepsFrom ⟨rfl, rfl⟩

/-- Requests that only ask never end in a fault. -/
theorem isFault_of_reading {state : State} (coherent : board.Coherent state.registers state.cache)
    {reads : List Request} (reading : ∀ read ∈ reads, read.isReading = true) {outcome : Outcome Answer}
    (member : outcome ∈ board.session reads state) : outcome.isFault = false := by
  have keeps := session_keeps (fun read asked => keeps_reading coherent.keeps_readBack (reading read asked))
    ⟨rfl, rfl⟩ member
  exact Bool.eq_false_iff.mpr keeps.1

theorem states_of_reading {state : State} (coherent : board.Coherent state.registers state.cache)
    {reads : List Request} (reading : ∀ read ∈ reads, read.isReading = true) {after : State}
    (member : after ∈ board.states reads state) :
    after.registers = state.registers ∧ after.cache = state.cache :=
  states_keep (fun read asked => keeps_reading coherent.keeps_readBack (reading read asked)) ⟨rfl, rfl⟩ member

end Board.Coherent

/-! ### Sessions -/

/-- All through a session in which nobody else writes the registers, the cache is that of a fresh start on the
registers as they are then. The rate that is answered for a clock is the one that the registers alone give, and
it stays so however often anything is asked. -/
theorem Board.cache_in_step (board : Board) (registers : RegisterBlock) (requests : List Request)
    (starts : (board.start registers).result = .ok ()) (own : ∀ request ∈ requests, request.isForeign = false)
    {state : State} (member : state ∈ board.states requests (board.start registers).state) :
    ((board.start state.registers).result = .ok () ∧
      (board.start state.registers).state.cache = state.cache) ∧
    ∀ reads : List Request, (∀ read ∈ reads, read.isReading = true) →
      (∀ outcome ∈ board.session reads state, outcome.isFault = false) ∧
      ∀ after ∈ board.states reads state, ∀ id,
        match Clock.find? id with
        | some clock => ∃ rate, ((board.getRate id).outcome after).result = .ok rate ∧
            ∀ other, clock.node.Runs board state.registers other ↔ rate = other
        | none => ((board.getRate id).outcome after).result = .error (.refused .noDevice) := by
  have coherent := coherent_of_mem_states starts own member
  refine ⟨?_, fun reads reading =>
    ⟨fun outcome => coherent.isFault_of_reading reading, fun after later id => ?_⟩⟩
  · rcases board.start_cases state.registers with ⟨pll, fault, faults, _⟩ | ⟨restarts, _, fresh⟩
    · rw [coherent.loops] at faults
      cases faults
    · exact ⟨restarts, fresh.unique coherent⟩
  · obtain ⟨sameRegisters, sameCache⟩ := coherent.states_of_reading reading later
    have coherentAfter : board.Coherent after.registers after.cache := by
      rw [sameRegisters, sameCache]
      exact coherent
    split
    next clock found =>
      obtain ⟨rate, leads, runs_iff⟩ := coherentAfter.leads_getRate found
      rw [sameRegisters] at runs_iff
      exact ⟨rate, leads.outcome.1, runs_iff⟩
    next unknown =>
      rw [Action.outcome, getRate, runOn_bind, runOn_node_of_none unknown]

theorem Board.cache_in_step_after_selecting :
    ∃ state ∈ Board.states {} [.setRate 51 0, .enable 12] (Board.start {} .zero).state,
      state.registers.read .clksel0 = 0x30010 ∧ state.cache.bus.sysclk1 = 0 ∧
        (Board.start {} state.registers).state.cache = state.cache := by
  have own : ∀ request ∈ [Request.setRate 51 0, .enable 12], request.isForeign = false := by decide
  refine ⟨_, .tail _ (.tail _ (.head _)), rfl, rfl, ?_⟩
  exact (Board.cache_in_step {} .zero [.setRate 51 0, .enable 12] rfl own (.tail _ (.tail _ (.head _)))).1.2

end ClockController
