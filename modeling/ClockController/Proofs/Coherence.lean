import ClockController.Proofs.CachedValues
import ClockController.Proofs.KeptRequests

/-!
# ClockController.Proofs.Coherence

The cache says what the registers say.

## Proof strategy

The cache is coherent after a start. Each effect keeps it so, because it either changes nothing that a cached
value depends on, or derives what depends on it anew. Requests are made of these effects, and sessions of
requests.

## Main definitions

`Board.Coherent`: the readings and the bus rates in the cache are those of the registers.

## Main results

`Board.Coherent.unique`: the registers determine the cache.
`Board.start_cases`: the controller starts coherent, or with a fault of a loop that has no rate.
`Board.effectsKeep_coherent`: every effect keeps the cache coherent, faults set aside.
`Board.coherent_of_mem_states`: the cache is coherent all through a session, if nobody else writes the
registers.
-/

namespace ClockController

open ClockController.Action

/-- The cache holds the readings of all loops and the rates of the bus clocks, as the registers give them. -/
structure Board.Coherent (board : Board) (registers : RegisterBlock) (cache : Cache) : Prop where
  loops : ∀ pll, registers.reading board.oscillators.hxt pll = .ok (cache.plls.get pll)
  buses : cache.busRates board.oscillators registers = .ok cache.bus

namespace Board

variable {board : Board} {registers others : RegisterBlock} {cache other : Cache}

namespace Coherent

theorem unique (coherent : board.Coherent registers cache) (coherent' : board.Coherent registers other) :
    cache = other := by
  have plls : cache.plls = other.plls := by
    apply PerPll.ext_get
    intro pll
    have same := coherent.loops pll
    rw [coherent'.loops pll] at same
    exact (Except.ok.inj same).symm
  -- The bus rates come from the loops, which are known to agree by now.
  have bus : cache.bus = other.bus := by
    have same := coherent.buses
    rw [Cache.busRates_congr board.oscillators plls fun _ => rfl, coherent'.buses] at same
    exact (Except.ok.inj same).symm
  cases cache
  cases other
  cases plls
  cases bus
  rfl

/-- Registers that differ where no cached value looks. -/
theorem frame (coherent : board.Coherent registers cache)
    (loops : ∀ pll, others.reading board.oscillators.hxt pll = registers.reading board.oscillators.hxt pll)
    (buses : ∀ bus : Bus,
      bus.mux.field.read (others.read .clksel0) = bus.mux.field.read (registers.read .clksel0)) :
    board.Coherent others cache where
  loops pll := (loops pll).trans (coherent.loops pll)
  buses := (Cache.busRates_congr board.oscillators rfl buses).trans coherent.buses

/-- The bus rates were derived anew after the loops were read. -/
theorem of_derived {plls : PerPll Reading} {stale bus : BusRates}
    (loops : ∀ pll, registers.reading board.oscillators.hxt pll = .ok (plls.get pll))
    (derives : Cache.busRates board.oscillators ⟨plls, stale⟩ registers = .ok bus) :
    board.Coherent registers ⟨plls, bus⟩ where
  loops := loops
  buses := (Cache.busRates_stale board.oscillators plls bus stale).trans derives

end Coherent

/-- Reading back a loop of a coherent cache finds what is there already. -/
theorem Coherent.leads_readBack (coherent : board.Coherent registers cache) (pll : Pll) :
    (board.readBack pll).Leads (registers, cache) (.ok (cache.plls.get pll).rate) (registers, cache) := by
  have same : cache.plls.set pll (cache.plls.get pll) = cache.plls := by
    apply PerPll.ext_get
    intro other
    rw [PerPll.get_set]
    split
    next equal => rw [equal]
    next => rfl
  have leads : (board.readBack pll).Leads (registers, cache) (.ok (cache.plls.get pll).rate)
      (registers, { cache with plls := cache.plls.set pll (cache.plls.get pll) }) :=
    Board.leads_readBack (coherent.loops pll)
  rw [same] at leads
  exact leads

/-! ### The start -/

/-- Looking at loops one after the other ends at the first one without a rate, or has read all of them. -/
theorem leads_loops (board : Board) (registers : RegisterBlock) (loops : List Pll) (cache : Cache) :
    let look (pll : Pll) : Action Unit := do
      let rate ← board.readBack pll
      Action.report (.found pll ((← get).cache.plls.get pll).mode rate)
    (∃ pll fault after, registers.reading board.oscillators.hxt pll = .error fault ∧
      (loops.forM look).Leads (registers, cache) (.error (.fault fault)) after) ∨
    ∃ plls, (∀ pll ∈ loops, registers.reading board.oscillators.hxt pll = .ok (plls.get pll)) ∧
      (∀ pll, pll ∉ loops → plls.get pll = cache.plls.get pll) ∧
      (loops.forM look).Leads (registers, cache) (.ok ()) (registers, ⟨plls, cache.bus⟩) := by
  intro look
  induction loops generalizing cache with
  | nil => exact .inr ⟨cache.plls, nofun, fun _ _ => rfl, leads_pure ()⟩
  | cons pll rest ih =>
    cases reads : registers.reading board.oscillators.hxt pll with
    | error fault =>
      have looks : (look pll).Leads (registers, cache) (.error (.fault fault)) (registers, cache) :=
        (leads_readBack_of_error reads).bind_of_error
      exact .inl ⟨pll, fault, _, reads, looks.bind_of_error⟩
    | ok reading =>
      have looks : (look pll).Leads (registers, cache) (.ok ())
          (registers, ⟨cache.plls.set pll reading, cache.bus⟩) :=
        (leads_readBack reads).bind (leads_get_bind fun _ => leads_report _)
      rcases ih ⟨cache.plls.set pll reading, cache.bus⟩ with ⟨stuck, fault, after, faults, leads⟩ |
        ⟨plls, read, kept, leads⟩
      · exact .inl ⟨stuck, fault, after, faults, looks.bind leads⟩
      · refine .inr ⟨plls, fun other member => ?_, fun other absent => ?_, looks.bind leads⟩
        · by_cases later : other ∈ rest
          · exact read other later
          · -- The head was read first and not again, so that what it read is still there.
            obtain rfl := (List.mem_cons.mp member).resolve_right later
            rw [kept other later, PerPll.get_set, if_pos rfl]
            exact reads
        · have apart := not_or.mp (mt List.mem_cons.mpr absent)
          rw [kept other apart.2, PerPll.get_set, if_neg apart.1]

/-- The controller starts coherent, on the registers as they are, or one of the loops has no rate. -/
theorem start_cases (board : Board) (registers : RegisterBlock) :
    (∃ pll fault, registers.reading board.oscillators.hxt pll = .error fault ∧
      (board.start registers).result = .error (.fault fault)) ∨
    ((board.start registers).result = .ok () ∧ (board.start registers).state.registers = registers ∧
      board.Coherent registers (board.start registers).state.cache) := by
  rcases board.leads_loops registers Pll.all .empty with ⟨pll, fault, after, faults, leads⟩ |
    ⟨plls, read, _, leads⟩
  · have leads : board.probe.Leads (registers, .empty) (.error (.fault fault)) after := leads.bind_of_error
    obtain ⟨reported, runs⟩ := leads {}
    refine .inl ⟨pll, fault, faults, ?_⟩
    rw [start, Action.outcome, runs]
  · obtain ⟨bus, derives, refreshes⟩ := board.leads_refreshBus registers ⟨plls, Cache.empty.bus⟩
    have leads : board.probe.Leads (registers, .empty) (.ok ()) (registers, ⟨plls, bus⟩) := leads.bind refreshes
    obtain ⟨reported, runs⟩ := leads {}
    rw [start, Action.outcome, runs]
    exact .inr ⟨rfl, rfl, .of_derived (fun pll => read pll pll.mem_all) derives⟩

/-! ### Effects -/

namespace Coherent

/-- Writing a register that is neither a control word nor the first selection register. -/
theorem write (coherent : board.Coherent registers cache) {register : Register}
    (plain : register.isControlWord = false) (apart : register ≠ .clksel0) (value : Word) :
    board.Coherent (registers.write register value) cache := by
  refine coherent.frame (RegisterBlock.reading_write_of_isControlWord plain registers value _) fun bus => ?_
  rw [RegisterBlock.read_write, if_neg (Ne.symm apart)]

/-- Writing a field of the first selection register beside the bus selectors. -/
theorem write_clksel0 (coherent : board.Coherent registers cache) {field : Field}
    (apart : ∀ bus : Bus, Field.Disjoint bus.mux.field field) (value : Nat) :
    board.Coherent (registers.write .clksel0 (field.write value (registers.read .clksel0))) cache := by
  refine coherent.frame (RegisterBlock.reading_write_of_isControlWord rfl registers _ _) fun bus => ?_
  rw [RegisterBlock.read_write, if_pos rfl, Field.read_write_of_disjoint (apart bus)]

theorem write_power (coherent : board.Coherent registers cache) (pll : Pll) (value : Nat) :
    board.Coherent (registers.write pll.powerRegister
      (pll.powerField.write value (registers.read pll.powerRegister))) cache := by
  refine coherent.frame (RegisterBlock.reading_write_power registers pll value _) fun bus => ?_
  have other : Register.clksel0 ≠ pll.powerRegister := by
    unfold Pll.powerRegister
    split <;> nofun
  rw [RegisterBlock.read_write, if_neg other]

theorem programmed (coherent : board.Coherent registers cache) {pll : Pll} {mode : Mode} {words : ControlWords}
    {reading : Reading} {bus : BusRates}
    (reads : (registers.programmed pll mode words).reading board.oscillators.hxt pll = .ok reading)
    (derives : Cache.busRates board.oscillators ⟨cache.plls.set pll reading, cache.bus⟩
      (registers.programmed pll mode words) = .ok bus) :
    board.Coherent (registers.programmed pll mode words) ⟨cache.plls.set pll reading, bus⟩ := by
  refine of_derived (fun other => ?_) derives
  rw [PerPll.get_set]
  split
  next same => rw [same, reads]
  next distinct => rw [RegisterBlock.reading_programmed_of_ne distinct, coherent.loops]

/-- Selecting a parent of a clock of the table, with the bus clocks derived anew where that is needed. -/
theorem selected (coherent : board.Coherent registers cache) {id : ClockId} {clock : Clock}
    (found : Clock.find? id = some clock) {mux : Mux} (has : clock.node.mux? = some mux) {parent : Nat}
    {bus : BusRates} (derives : if id.isBusMux
      then cache.busRates board.oscillators
        (registers.write mux.register (mux.field.write parent (registers.read mux.register))) = .ok bus
      else bus = cache.bus) :
    board.Coherent (registers.write mux.register (mux.field.write parent (registers.read mux.register)))
      { cache with bus := bus } := by
  have plain := Clock.mux_register found has
  have loops := RegisterBlock.reading_write_of_isControlWord plain registers
    (mux.field.write parent (registers.read mux.register)) board.oscillators.hxt
  -- The selector of a bus clock has the rates derived anew; any other one lies apart from those selectors.
  split at derives
  next => exact of_derived (fun pll => (loops pll).trans (coherent.loops pll)) derives
  next notBus =>
    subst derives
    refine coherent.frame loops fun bus => ?_
    rw [RegisterBlock.read_write]
    split
    next place =>
      have apart := (Clock.mux_apart found has (Bool.eq_false_iff.mpr notBus) bus).resolve_left
        (not_not_intro place.symm)
      rw [Field.read_write_of_disjoint apart, place]
    next => rfl

end Coherent

/-- Every effect keeps the cache coherent, or ends in a fault. -/
theorem effectsKeep_coherent (board : Board) : board.EffectsKeep board.Coherent True where
  readBack pll := by
    intro state coherent
    exact (coherent.leads_readBack pll).keepsFrom coherent
  program pll mode solution := by
    -- Between the writes and the reading back the cache is stale, so the effect is taken as a whole.
    intro state coherent
    rcases board.leads_program state.registers state.cache pll mode solution with ⟨fault, _, leads⟩ |
      ⟨reading, bus, reads, derives, leads⟩
    · exact leads.keepsFrom_of_fault trivial
    · exact leads.keepsFrom (coherent.programmed reads derives)
  select found has inRange rate := by
    intro state coherent
    obtain ⟨bus, derives, leads⟩ := board.leads_select state.registers state.cache found has inRange rate
    exact leads.keepsFrom (coherent.selected found has derives)
  setPower pll isOn := by
    intro state coherent
    exact (pll.leads_setPower isOn state.registers state.cache).keepsFrom (coherent.write_power pll _)
  switch found has clear set := by
    intro state coherent
    have place := Clock.switch_register found has
    exact (leads_modifyBits _ _ _).keepsFrom (coherent.write place.1 place.2 _)
  routeSdHost id := by
    intro state coherent
    refine (ClockId.leads_routeSdHost id state.registers state.cache).keepsFrom ?_
    split
    next routes => exact coherent.write_clksel0 (sdhSelector_disjoint routes) _
    next => exact coherent

/-- The cache of every state of a session is coherent, if nobody else writes the registers. -/
theorem coherent_of_mem_states {requests : List Request} (starts : (board.start registers).result = .ok ())
    (own : ∀ request ∈ requests, request.isForeign = false) {state : State}
    (member : state ∈ board.states requests (board.start registers).state) :
    board.Coherent state.registers state.cache := by
  have holds : Property.Holds board.Coherent (board.start registers).state := by
    rcases board.start_cases registers with ⟨_, fault, _, faults⟩ | ⟨_, same, coherent⟩
    · rw [faults] at starts
      cases starts
    · rw [Property.Holds, same]
      exact coherent
  exact states_keep (fun request asked => board.keeps_own board.effectsKeep_coherent (own request asked))
    holds member

end Board

end ClockController
