import ClockController.Proofs.ClockTable
import ClockController.Proofs.DecodedRate
import ClockController.Proofs.Effects

/-!
# ClockController.Proofs.CachedValues

What the cached values depend on: the reading of a loop on its own control words without the power-down bit, and
the rates of the bus clocks on the loops and the bus selectors.

## Main results

`RegisterBlock.reading_write_of_ne`: writing any other register leaves a reading as it is.
`RegisterBlock.reading_write_power`: so does powering any loop up or down.
`RegisterBlock.controlWords_programmed`: the words of a loop that was programmed, and those of the others.
`Cache.busRates_congr`: bus rates agree if loops and bus selectors do.
`Cache.rootRate_selected`: selecting a parent leaves the rates of all parents as they are.
-/

namespace ClockController

/-! ### Control words -/

namespace RegisterBlock

variable {registers others : RegisterBlock}

theorem reading_congr {pll : Pll} (same : registers.controlWords pll = others.controlWords pll)
    (reference : Nat) : registers.reading reference pll = others.reading reference pll := by
  unfold reading pllMode
  rw [same]

theorem controlWords_write_of_ne {written : Register} {pll : Pll}
    (other : ∀ word, written ≠ .pll pll word) (registers : RegisterBlock) (value : Word) :
    (registers.write written value).controlWords pll = registers.controlWords pll := by
  have kept (word : ControlWord) :
      (registers.write written value).read (.pll pll word) = registers.read (.pll pll word) := by
    rw [read_write, if_neg (Ne.symm (other word))]
  rw [controlWords, kept, kept, kept]
  rfl

theorem reading_write_of_ne {written : Register} {pll : Pll} (other : ∀ word, written ≠ .pll pll word)
    (registers : RegisterBlock) (value : Word) (reference : Nat) :
    (registers.write written value).reading reference pll = registers.reading reference pll :=
  reading_congr (controlWords_write_of_ne other registers value) reference

theorem reading_write_of_isControlWord {written : Register} (plain : written.isControlWord = false)
    (registers : RegisterBlock) (value : Word) (reference : Nat) (pll : Pll) :
    (registers.write written value).reading reference pll = registers.reading reference pll := by
  refine reading_write_of_ne (fun word same => ?_) registers value reference
  rw [same] at plain
  cases plain

end RegisterBlock

/-- The words with one of them replaced. -/
def ControlWords.set (words : ControlWords) : ControlWord → Word → ControlWords
  | .ctl0, value => { words with ctl0 := value }
  | .ctl1, value => { words with ctl1 := value }
  | .ctl2, value => { words with ctl2 := value }

theorem RegisterBlock.controlWords_write (registers : RegisterBlock) (pll : Pll) (word : ControlWord)
    (value : Word) :
    (registers.write (.pll pll word) value).controlWords pll = (registers.controlWords pll).set word value := by
  cases word <;> simp [controlWords, ControlWords.set, read_write]

/-! ### Power -/

theorem Mode.ofCtl0_ne_fixedRatio (ctl0 : Word) : ofCtl0 ctl0 ≠ .fixedRatio := by
  unfold ofCtl0
  split <;> nofun

namespace RegisterBlock

/-- Powering a loop up or down changes no reading. -/
theorem reading_write_power (registers : RegisterBlock) (powered : Pll) (value reference : Nat) (pll : Pll) :
    (registers.write powered.powerRegister
      (powered.powerField.write value (registers.read powered.powerRegister))).reading reference pll =
      registers.reading reference pll := by
  by_cases same : pll = powered
  · subst same
    -- The two layouts keep the power-down bit in different words, both beside the dividers.
    cases fixed : pll.isFixedRatio with
    | true =>
      simp only [reading, pllMode, Pll.powerRegister, Pll.powerField, fixed, if_true, controlWords_write]
      rw [ControlWords.rate_eq, ControlWords.rate_eq]
      exact congrArg (· >>= _) (ControlWords.fixedRatioRate_write_powerDown reference _ value)
    | false =>
      simp only [reading, pllMode, Pll.powerRegister, Pll.powerField, fixed, Bool.false_eq_true, if_false,
        controlWords_write]
      have rate := ControlWords.rate_congr (Mode.ofCtl0_ne_fixedRatio (registers.controlWords pll).ctl0)
        (ControlWords.setting_write_powerDown (registers.controlWords pll) value) reference
      exact congrArg (· >>= _) rate
  · -- Every loop has control words of its own.
    have other (word : ControlWord) : powered.powerRegister ≠ .pll pll word := by
      unfold Pll.powerRegister
      split
      all_goals
        intro equal
        cases equal
        exact same rfl
    exact reading_write_of_ne other registers _ reference

/-! ### Programmed loops -/

theorem controlWords_programmed (registers : RegisterBlock) (pll : Pll) {mode : Mode} {words : ControlWords}
    (third : mode ≠ .spreadSpectrum → words.ctl2 = (registers.controlWords pll).ctl2) :
    (registers.programmed pll mode words).controlWords pll = words := by
  unfold programmed
  dsimp only
  split
  next => simp only [controlWords_write, ControlWords.set]
  next plain =>
    -- The third word was not written, and holds what it held.
    have third := third plain
    simp only [controlWords_write, ControlWords.set, ← third]

theorem read_programmed_of_ne {pll : Pll} {register : Register} (other : ∀ word, register ≠ .pll pll word)
    (registers : RegisterBlock) (mode : Mode) (words : ControlWords) :
    (registers.programmed pll mode words).read register = registers.read register := by
  unfold programmed
  dsimp only
  split
  all_goals simp only [read_write, other, if_false]

theorem reading_programmed_of_ne {pll other : Pll} (distinct : other ≠ pll) (registers : RegisterBlock)
    (mode : Mode) (words : ControlWords) (reference : Nat) :
    (registers.programmed pll mode words).reading reference other = registers.reading reference other := by
  have kept (word : ControlWord) :
      (registers.programmed pll mode words).read (.pll other word) = registers.read (.pll other word) := by
    refine read_programmed_of_ne (fun programmed same => ?_) registers mode words
    cases same
    exact distinct rfl
  refine reading_congr ?_ reference
  rw [controlWords, kept, kept, kept]
  rfl

end RegisterBlock

/-! ### Bus clocks -/

namespace Cache

variable {cache other : Cache} {registers others : RegisterBlock}

theorem rootRate_congr (oscillators : Oscillators) (plls : cache.plls = other.plls) {root : Root}
    (direct : ∀ bus, root.source ≠ .bus bus) :
    cache.rootRate oscillators root = other.rootRate oscillators root := by
  unfold rootRate
  cases source : root.source with
  | oscillator input => rfl
  | loop pll => simp only [sourceRate, plls]
  | bus bus => exact absurd source (direct bus)

/-- A bus clock follows no other one, so that its rate needs only the loops and its selector. -/
theorem muxRate_bus_congr (oscillators : Oscillators) (bus : Bus) (plls : cache.plls = other.plls)
    (selects : bus.mux.field.read (registers.read .clksel0) = bus.mux.field.read (others.read .clksel0)) :
    cache.muxRate oscillators registers bus.mux = other.muxRate oscillators others bus.mux := by
  have place : bus.mux.register = .clksel0 := by cases bus <;> rfl
  have left := Mux.selected_eq bus.mux_inside (registers.read bus.mux.register)
  have right := Mux.selected_eq bus.mux_inside (others.read bus.mux.register)
  rw [muxRate_eq _ cache registers left, muxRate_eq _ other others right, place, selects]
  rw [place] at right
  exact congrArg Except.ok (rootRate_congr oscillators plls (Bus.source_of_selected right))

theorem busRates_congr (oscillators : Oscillators) (plls : cache.plls = other.plls)
    (selects : ∀ bus : Bus,
      bus.mux.field.read (registers.read .clksel0) = bus.mux.field.read (others.read .clksel0)) :
    cache.busRates oscillators registers = other.busRates oscillators others := by
  unfold busRates
  rw [muxRate_bus_congr oscillators .ca35 plls (selects _),
    muxRate_bus_congr oscillators .sysclk0 plls (selects _), muxRate_bus_congr oscillators .sysclk1 plls (selects _)]

/-- What the bus rates are derived from are the loops, not the bus rates that were cached before. -/
theorem busRates_stale (oscillators : Oscillators) (plls : PerPll Reading) (stale bus : BusRates) :
    busRates oscillators ⟨plls, stale⟩ registers = busRates oscillators ⟨plls, bus⟩ registers :=
  busRates_congr oscillators rfl fun _ => rfl

/-- After a parent was selected, with the bus clocks derived anew where that is needed, all parents run at the rates
that they ran at: the selector of a bus clock does not choose between roots that follow a bus clock. -/
theorem rootRate_selected {oscillators : Oscillators} {id : ClockId} {clock : Clock}
    (found : Clock.find? id = some clock) {mux : Mux} (has : clock.node.mux? = some mux) {bus : BusRates}
    (derives : if id.isBusMux then cache.busRates oscillators registers = .ok bus else bus = cache.bus)
    {root : Root} (member : root ∈ mux.parents) :
    rootRate oscillators { cache with bus := bus } root = cache.rootRate oscillators root := by
  cases isBus : id.isBusMux with
  | true =>
    obtain ⟨follows, rfl⟩ := Clock.mux_of_isBusMux found has isBus
    have loops : ({ cache with bus := bus } : Cache).plls = cache.plls := rfl
    exact rootRate_congr oscillators loops (Bus.source_of_parent member)
  | false =>
    rw [isBus, if_neg Bool.false_ne_true] at derives
    subst derives
    rfl

theorem busRates_eq_ok_iff {oscillators : Oscillators} {rates : BusRates} :
    cache.busRates oscillators registers = .ok rates ↔
      ∀ bus : Bus, cache.muxRate oscillators registers bus.mux = .ok (rates.get bus) := by
  unfold busRates
  constructor
  · intro derives
    obtain ⟨ca35, hca35, derives⟩ := Checked.bind_eq_ok_iff.mp derives
    obtain ⟨sysclk0, hsysclk0, derives⟩ := Checked.bind_eq_ok_iff.mp derives
    obtain ⟨sysclk1, hsysclk1, derives⟩ := Checked.bind_eq_ok_iff.mp derives
    cases derives
    intro bus
    cases bus with
    | ca35 => exact hca35
    | sysclk0 => exact hsysclk0
    | sysclk1 => exact hsysclk1
  · intro runs
    rw [runs, Checked.ok_bind, runs, Checked.ok_bind, runs, Checked.ok_bind]
    rfl

end Cache

end ClockController
