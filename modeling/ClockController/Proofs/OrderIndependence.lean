import ClockController.Proofs.AnsweredRate
import ClockController.Proofs.CommutingChanges

/-!
# ClockController.Proofs.OrderIndependence

A rate request for a loop can be swapped with one for another loop, and with switching any clock.

## Proof strategy

What a rate request for a loop does depends on the cached reading of that loop alone: the words that it merges
into the control words, and the reading that it takes up afterwards. Switching depends on nothing. So each
operation has an effect that is the same wherever it starts, and the effects can be swapped. The bus clocks
differ on the way, but they are derived from the loops and from selectors that none of this reaches, so that
whatever derives them last gives the same.

## Main definitions

`Effect`: what an operation does wherever it starts.
`Effect.Apart`: effects that can be swapped.
`Action.Commutes`: operations that can be swapped.
`Action.Causes`: an operation has an effect.

## Main results

`Effect.Apart.ends_same`: effects apart from each other end in the same place in either order.
`Action.Causes.commutes`: operations can be swapped if their effects can.
`Board.exists_causes_program`, `Board.exists_causes_setRate`: the effect of a rate request for a loop.
`Board.order_independent`: rate requests for different loops, and a rate request for a loop and switching a clock.
-/

namespace ClockController

open ClockController.Action

/-! ### Effects -/

/-- What an operation does wherever it starts: it changes the registers beside the bus selectors, and may take up
a reading of a loop. -/
structure Effect where
  registers : RegisterBlock → RegisterBlock
  reading? : Option (Pll × Reading)
  keepsBuses : RegisterBlock.KeepsBuses registers

namespace Effect

variable {board : Board} {effect first second : Effect} {before after : RegisterBlock × Cache}

/-- The cached readings with the one that is taken up. -/
def plls (effect : Effect) (plls : PerPll Reading) : PerPll Reading :=
  match effect.reading? with
  | some (pll, reading) => plls.set pll reading
  | none => plls

/-- The bus clocks are those that the loops and the selectors give. -/
def Derived (board : Board) (reached : RegisterBlock × Cache) : Prop :=
  reached.2.busRates board.oscillators reached.1 = .ok reached.2.bus

/-- Where an effect leads. With a reading the bus clocks are derived anew. -/
structure Turns (board : Board) (effect : Effect) (before after : RegisterBlock × Cache) : Prop where
  registers : after.1 = effect.registers before.1
  plls : after.2.plls = effect.plls before.2.plls
  bus : if effect.reading?.isSome then Derived board after else after.2.bus = before.2.bus

/-- Bus clocks that are derived stay so. -/
theorem Turns.derived (turns : effect.Turns board before after) (derived : Derived board before) :
    Derived board after := by
  have bus := turns.bus
  split at bus
  next => exact bus
  next silent =>
    -- Without a reading the loops and the selectors are the same.
    have plls : after.2.plls = before.2.plls := by
      rw [turns.plls, Effect.plls, Option.not_isSome_iff_eq_none.mp silent]
    have selects (bus : Bus) : bus.mux.field.read (after.1.read .clksel0) =
        bus.mux.field.read (before.1.read .clksel0) := by
      rw [turns.registers, effect.keepsBuses]
    unfold Derived at derived ⊢
    rw [Cache.busRates_congr board.oscillators plls selects, derived, bus]

/-- The effects change the registers alike in either order, and take up no readings of the same loop. -/
structure Apart (first second : Effect) : Prop where
  registers : Function.Commute first.registers second.registers
  loops : ∀ x y, first.reading? = some x → second.reading? = some y → x.1 ≠ y.1

theorem Apart.commute_plls (apart : first.Apart second) : Function.Commute first.plls second.plls := by
  intro readings
  unfold plls
  cases isFirst : first.reading? with
  | none => rfl
  | some x =>
    cases isSecond : second.reading? with
    | none => rfl
    | some y => exact PerPll.set_comm (apart.loops x y isFirst isSecond).symm readings y.2 x.2

/-- Two effects apart from each other end in the same place in either order. -/
theorem Apart.ends_same (apart : first.Apart second) {viaFirst viaSecond left right : RegisterBlock × Cache}
    (begins : first.Turns board before viaFirst) (ends : second.Turns board viaFirst left)
    (swapped : second.Turns board before viaSecond) (last : first.Turns board viaSecond right) : left = right := by
  have registers : left.1 = right.1 := by
    rw [ends.registers, begins.registers, last.registers, swapped.registers]
    exact (apart.registers before.1).symm
  have plls : left.2.plls = right.2.plls := by
    rw [ends.plls, begins.plls, last.plls, swapped.plls]
    exact (apart.commute_plls before.2.plls).symm
  have bus : left.2.bus = right.2.bus := by
    have beginsBus := begins.bus
    have endsBus := ends.bus
    have swappedBus := swapped.bus
    have lastBus := last.bus
    by_cases reads : first.reading?.isSome ∨ second.reading?.isSome
    · -- A reading in one of the effects has the bus clocks derived in both orders, from the same registers.
      have derived : Derived board left ∧ Derived board right := by
        rcases reads with reads | reads
        · rw [if_pos reads] at beginsBus lastBus
          exact ⟨ends.derived beginsBus, lastBus⟩
        · rw [if_pos reads] at endsBus swappedBus
          exact ⟨endsBus, last.derived swappedBus⟩
      have same := derived.1
      rw [Derived, Cache.busRates_congr board.oscillators plls fun _ => by rw [registers], derived.2] at same
      exact (Except.ok.inj same).symm
    · obtain ⟨firstSilent, secondSilent⟩ := not_or.mp reads
      rw [if_neg firstSilent] at beginsBus lastBus
      rw [if_neg secondSilent] at endsBus swappedBus
      rw [endsBus, beginsBus, lastBus, swappedBus]
  rcases left with ⟨leftRegisters, leftPlls, leftBus⟩
  rcases right with ⟨rightRegisters, rightPlls, rightBus⟩
  cases registers
  cases plls
  cases bus
  rfl

end Effect

/-! ### Operations with an effect -/

namespace Action

variable {α β : Type} {board : Board} {state : State}

/-- The operations can be swapped at a state: in either order they leave the same registers and the same cache, and
each of them ends as it does in the other order. -/
structure Commutes (first : Action α) (second : Action β) (state : State) : Prop where
  firstResult : (first.outcome (second.outcome state).state).result = (first.outcome state).result
  secondResult : (second.outcome (first.outcome state).state).result = (second.outcome state).result
  registers : (second.outcome (first.outcome state).state).state.registers =
    (first.outcome (second.outcome state).state).state.registers
  cache : (second.outcome (first.outcome state).state).state.cache =
    (first.outcome (second.outcome state).state).state.cache

/-- From wherever the cached readings are as known, the operation ends with a result and has an effect. -/
def Causes (board : Board) (action : Action α) (known : PerPll Reading → Prop) (result : Except Failure α)
    (effect : Effect) : Prop :=
  ∀ before : RegisterBlock × Cache, known before.2.plls →
    ∃ after, action.Leads before result after ∧ effect.Turns board before after

/-- Operations whose effects are apart can be swapped, if what each of them has to know is not changed by the
other one. -/
theorem Causes.commutes {first : Action α} {second : Action β} {knownFirst knownSecond : PerPll Reading → Prop}
    {firstResult : Except Failure α} {secondResult : Except Failure β} {firstEffect secondEffect : Effect}
    (causesFirst : first.Causes board knownFirst firstResult firstEffect)
    (causesSecond : second.Causes board knownSecond secondResult secondEffect)
    (apart : firstEffect.Apart secondEffect)
    (knows : knownFirst state.cache.plls ∧ knownSecond state.cache.plls)
    (keepsSecond : knownSecond (firstEffect.plls state.cache.plls))
    (keepsFirst : knownFirst (secondEffect.plls state.cache.plls)) : first.Commutes second state := by
  obtain ⟨viaFirst, leadsFirst, begins⟩ := causesFirst (state.registers, state.cache) knows.1
  obtain ⟨viaSecond, leadsSecond, swapped⟩ := causesSecond (state.registers, state.cache) knows.2
  obtain ⟨left, leadsLeft, ends⟩ := causesSecond viaFirst (begins.plls ▸ keepsSecond)
  obtain ⟨right, leadsRight, last⟩ := causesFirst viaSecond (swapped.plls ▸ keepsFirst)
  obtain rfl := apart.ends_same begins ends swapped last
  obtain ⟨result₁, registers₁, cache₁⟩ := leadsFirst.outcome
  obtain ⟨result₂, registers₂, cache₂⟩ := leadsSecond.outcome
  have leadsLeft : second.Leads ((first.outcome state).state.registers, (first.outcome state).state.cache)
      secondResult left := by
    rw [registers₁, cache₁]
    exact leadsLeft
  have leadsRight : first.Leads ((second.outcome state).state.registers, (second.outcome state).state.cache)
      firstResult left := by
    rw [registers₂, cache₂]
    exact leadsRight
  obtain ⟨resultLeft, registersLeft, cacheLeft⟩ := leadsLeft.outcome
  obtain ⟨resultRight, registersRight, cacheRight⟩ := leadsRight.outcome
  exact {
    firstResult := resultRight.trans result₁.symm
    secondResult := resultLeft.trans result₂.symm
    registers := registersLeft.trans registersRight.symm
    cache := cacheLeft.trans cacheRight.symm }

end Action

/-- An effect on a loop: it changes nothing, or programs the loop with solved words and may take up its reading. -/
structure Effect.OnLoop (effect : Effect) (pll : Pll) : Prop where
  registers : effect.registers = id ∨ ∃ mode solved, pll.isFixedRatio = false ∧
    ControlWords.InsideFields mode solved ∧ effect.registers = RegisterBlock.reprogrammed pll mode solved
  reading : ∀ read, effect.reading? = some read → read.1 = pll

/-- An effect on the switches: it takes up no reading, and its change of the registers can be swapped with
programming any loop. -/
structure Effect.OnSwitches (effect : Effect) : Prop where
  registers : ∀ {pll : Pll} {mode : Mode} {solved : ControlWords}, pll.isFixedRatio = false →
    solved.InsideFields mode → Function.Commute (RegisterBlock.reprogrammed pll mode solved) effect.registers
  reading : effect.reading? = none

namespace Effect

variable {board : Board} {first second : Effect} {pll other : Pll} {before : RegisterBlock × Cache}

/-- Nothing happens. -/
def idle : Effect :=
  ⟨id, none, fun _ _ => rfl⟩

theorem turns_idle (board : Board) (before : RegisterBlock × Cache) : idle.Turns board before before :=
  ⟨rfl, rfl, rfl⟩

theorem onLoop_idle (pll : Pll) : idle.OnLoop pll :=
  ⟨.inl rfl, nofun⟩

theorem onSwitches_idle : idle.OnSwitches :=
  ⟨fun _ _ => Function.Commute.id_right, rfl⟩

/-- A loop is programmed with solved words, and what they decode to may be taken up. -/
def programming (pll : Pll) (mode : Mode) (solved : ControlWords) (decoded? : Option Reading) : Effect :=
  ⟨.reprogrammed pll mode solved, decoded?.map (pll, ·), RegisterBlock.keepsBuses_reprogrammed pll mode solved⟩

theorem onLoop_programming {mode : Mode} {solved : ControlWords} (programmable : pll.isFixedRatio = false)
    (inside : solved.InsideFields mode) (decoded? : Option Reading) :
    (programming pll mode solved decoded?).OnLoop pll where
  registers := .inr ⟨mode, solved, programmable, inside, rfl⟩
  reading read isRead := by
    obtain ⟨decoded, _, rfl⟩ := Option.map_eq_some_iff.mp isRead
    rfl

theorem OnLoop.apart (onFirst : first.OnLoop pll) (onSecond : second.OnLoop other) (distinct : other ≠ pll) :
    first.Apart second where
  registers := by
    rcases onFirst.registers with same | ⟨mode, solved, _, _, programs⟩
    · rw [same]
      exact Function.Commute.id_left
    · rcases onSecond.registers with same | ⟨otherMode, otherSolved, _, _, otherPrograms⟩
      · rw [same]
        exact Function.Commute.id_right
      · rw [programs, otherPrograms]
        exact RegisterBlock.commute_reprogrammed_reprogrammed distinct otherMode otherSolved
  loops x y isX isY same :=
    distinct ((onSecond.reading y isY).symm.trans (same.symm.trans (onFirst.reading x isX)))

theorem OnLoop.apart_switches (onLoop : first.OnLoop pll) (onSwitches : second.OnSwitches) : first.Apart second where
  registers := by
    rcases onLoop.registers with same | ⟨mode, solved, programmable, inside, programs⟩
    · rw [same]
      exact Function.Commute.id_left
    · rw [programs]
      exact onSwitches.registers programmable inside
  loops x y _ isY := by
    rw [onSwitches.reading] at isY
    cases isY

/-- The cached readings of the other loops stay as they are. -/
theorem OnLoop.get_plls (onLoop : first.OnLoop pll) (distinct : other ≠ pll) (readings : PerPll Reading) :
    (first.plls readings).get other = readings.get other := by
  unfold plls
  split
  next loop reading isRead =>
    have isLoop : loop = pll := onLoop.reading _ isRead
    rw [PerPll.get_set, if_neg (isLoop ▸ distinct)]
  next => rfl

theorem OnSwitches.plls (onSwitches : first.OnSwitches) (readings : PerPll Reading) :
    first.plls readings = readings := by
  rw [Effect.plls, onSwitches.reading]

end Effect

/-! ### Rate requests and switching -/

/-- Programming a solution has the same effect wherever it is planned: its words are merged into those of the loop,
and what they decode to is taken up, unless that ends in a fault. -/
theorem Board.exists_causes_program (board : Board) {pll : Pll} {target : Nat} {mode : Mode} {solution : Solution}
    {known : PerPll Reading → Prop} (programmable : pll.isFixedRatio = false)
    (solved : Solved board.oscillators.hxt target mode solution) (inside : solution.words.InsideFields mode)
    (planned : ∀ cache : Cache, known cache.plls →
      Plan.ofPll board cache pll target = .ok (.program pll mode solution)) :
    ∃ result effect, effect.OnLoop pll ∧ (board.setRate pll.id target).Causes board known result effect := by
  obtain ⟨clock, found, isPll⟩ := pll.find?_id
  have plans (registers : RegisterBlock) (cache : Cache) (knows : known cache.plls) :
      Plan.ofNode board cache registers clock.node target = .ok (.program pll mode solution) := by
    rw [isPll]
    exact planned cache knows
  have reads (registers : RegisterBlock) := solved.reading_programmed registers programmable
  cases decodes : solution.words.rate mode board.oscillators.hxt with
  | error fault =>
    refine ⟨.error (.fault fault), _, Effect.onLoop_programming programmable inside none, ?_⟩
    rintro ⟨registers, cache⟩ knows
    have stuck := reads registers
    rw [decodes] at stuck
    rcases leads_setRate_of_program found (plans registers cache knows) with ⟨other, faults, leads⟩ |
      ⟨other, _, read, _⟩
    · cases stuck.symm.trans faults
      exact ⟨_, leads, rfl, rfl, rfl⟩
    · cases stuck.symm.trans read
  | ok rate =>
    refine ⟨.ok solution.rate, _, Effect.onLoop_programming programmable inside (some ⟨mode, rate⟩), ?_⟩
    rintro ⟨registers, cache⟩ knows
    have runs := reads registers
    rw [decodes] at runs
    rcases leads_setRate_of_program found (plans registers cache knows) with ⟨other, faults, _⟩ |
      ⟨other, bus, read, derives, leads⟩
    · cases runs.symm.trans faults
    · cases runs.symm.trans read
      refine ⟨_, leads, rfl, rfl, ?_⟩
      exact (Cache.busRates_stale board.oscillators _ bus cache.bus).trans derives

/-- A rate request for a loop has an effect on the loop. Which one, and how it ends, depends on the cached reading of
the loop alone. -/
theorem Board.exists_causes_setRate (board : Board) (pll : Pll) (target : Nat) (cache : Cache) :
    ∃ result effect, effect.OnLoop pll ∧ (board.setRate pll.id target).Causes board
      (fun plls => plls.get pll = cache.plls.get pll) result effect := by
  obtain ⟨clock, found, isPll⟩ := pll.find?_id
  obtain ⟨plan, plans⟩ := Plan.exists_ofPll board cache pll target
  have same (other : Cache) (known : other.plls.get pll = cache.plls.get pll) :
      Plan.ofPll board other pll target = .ok plan := (Plan.ofPll_congr known).trans plans
  have idles (idle : plan.isIdle = true) : (board.setRate pll.id target).Causes board
      (fun plls => plls.get pll = cache.plls.get pll) (.ok plan.rate) .idle := by
    rintro ⟨registers, other⟩ known
    have planned : Plan.ofNode board other registers clock.node target = .ok plan := by
      rw [isPll]
      exact same other known
    exact ⟨_, leads_setRate_of_idle found planned idle, Effect.turns_idle board _⟩
  rcases Plan.ofPll_cases plans with ⟨_, rfl⟩ | ⟨_, reason, rfl⟩ | ⟨programmable, solution, solves, rfl⟩
  -- A fixed ratio and a target without a solution leave nothing to do.
  · exact ⟨_, .idle, Effect.onLoop_idle pll, idles rfl⟩
  · exact ⟨_, .idle, Effect.onLoop_idle pll, idles rfl⟩
  · exact board.exists_causes_program programmable (solved_of_solve solves) (solution_inside_fields solves) same

theorem ClockId.exists_causes_enable (board : Board) (id : ClockId) :
    ∃ result effect, effect.OnSwitches ∧ (enable id).Causes board (fun _ => True) result effect := by
  cases found : Clock.find? id with
  | none =>
    exact ⟨_, .idle, Effect.onSwitches_idle, fun before _ =>
      ⟨_, leads_enable_of_none found, Effect.turns_idle board before⟩⟩
  | some clock =>
    exact ⟨_, ⟨_, none, RegisterBlock.keepsBuses_enabled found⟩,
      ⟨fun programmable inside => RegisterBlock.commute_reprogrammed_enabled found programmable inside, rfl⟩,
      fun before _ => ⟨_, leads_enable found before.1 before.2, rfl, rfl, rfl⟩⟩

theorem ClockId.exists_causes_disable (board : Board) (id : ClockId) :
    ∃ result effect, effect.OnSwitches ∧ (disable id).Causes board (fun _ => True) result effect := by
  cases found : Clock.find? id with
  | none =>
    exact ⟨_, .idle, Effect.onSwitches_idle, fun before _ =>
      ⟨_, leads_disable_of_none found, Effect.turns_idle board before⟩⟩
  | some clock =>
    exact ⟨_, ⟨_, none, RegisterBlock.keepsBuses_disabled found⟩,
      ⟨fun programmable inside => RegisterBlock.commute_reprogrammed_disabled found programmable inside, rfl⟩,
      fun before _ => ⟨_, leads_disable found before.1 before.2, rfl, rfl, rfl⟩⟩

namespace Board

/-- Rate requests for different loops can be swapped. -/
theorem commutes_setRate (board : Board) (state : State) {pll other : Pll} (distinct : other ≠ pll)
    (target otherTarget : Nat) :
    (board.setRate pll.id target).Commutes (board.setRate other.id otherTarget) state := by
  obtain ⟨_, effect, onLoop, causes⟩ := board.exists_causes_setRate pll target state.cache
  obtain ⟨_, otherEffect, onOther, causesOther⟩ :=
    board.exists_causes_setRate other otherTarget state.cache
  exact causes.commutes causesOther (onLoop.apart onOther distinct) ⟨rfl, rfl⟩
    (onLoop.get_plls distinct state.cache.plls) (onOther.get_plls distinct.symm state.cache.plls)

/-- A rate request for a loop can be swapped with whatever has an effect on the switches. -/
theorem commutes_switching (board : Board) (state : State) (pll : Pll) (target : Nat) {switching : Action Unit}
    (exists_causes : ∃ result effect, effect.OnSwitches ∧
      switching.Causes board (fun _ => True) result effect) :
    (board.setRate pll.id target).Commutes switching state := by
  obtain ⟨_, effect, onLoop, causes⟩ := board.exists_causes_setRate pll target state.cache
  obtain ⟨_, switchEffect, onSwitches, causesSwitch⟩ := exists_causes
  refine causes.commutes causesSwitch (onLoop.apart_switches onSwitches) ⟨rfl, trivial⟩ trivial ?_
  rw [onSwitches.plls]

/-- From any state, also one whose cache does not say what the registers say, a rate request for a loop can be
swapped with one for another loop, and with switching any clock on or off, the loop itself among them. -/
theorem order_independent (board : Board) (state : State) (pll : Pll) (target : Nat) :
    (∀ other otherTarget, other ≠ pll →
      (board.setRate pll.id target).Commutes (board.setRate other.id otherTarget) state) ∧
    ∀ id, (board.setRate pll.id target).Commutes (ClockId.enable id) state ∧
      (board.setRate pll.id target).Commutes (ClockId.disable id) state :=
  ⟨fun _ otherTarget distinct => board.commutes_setRate state distinct target otherTarget,
    fun id => ⟨board.commutes_switching state pll target (id.exists_causes_enable board),
      board.commutes_switching state pll target (id.exists_causes_disable board)⟩⟩

/-- Two loops that were never programmed run at the default in either order, and so does one that is powered down
before or after. -/
theorem order_independent_default :
    let state := (Board.start {} .zero).state
    Pll.v ≠ Pll.a ∧ ((Board.setRate {} 3 0).outcome state).result = .ok 1_000_000_000 ∧
      ((Board.setRate {} 5 0).outcome ((Board.setRate {} 3 0).outcome state).state).result = .ok 1_000_000_000 ∧
      ((Board.setRate {} 5 0).outcome ((Board.setRate {} 3 0).outcome state).state).state.cache =
        ((Board.setRate {} 3 0).outcome ((Board.setRate {} 5 0).outcome state).state).state.cache ∧
      ((ClockId.disable 3).outcome ((Board.setRate {} 3 0).outcome state).state).state.registers =
        ((Board.setRate {} 3 0).outcome ((ClockId.disable 3).outcome state).state).state.registers := by
  have asks : ((Board.setRate {} 3 0).outcome (Board.start {} .zero).state).result = .ok 1_000_000_000 := rfl
  have answers : ((Board.setRate {} 5 0).outcome (Board.start {} .zero).state).result = .ok 1_000_000_000 := rfl
  have swaps := order_independent {} (Board.start {} .zero).state .a 0
  have loops : (Board.setRate {} 3 0).Commutes (Board.setRate {} 5 0) (Board.start {} .zero).state :=
    swaps.1 .v 0 (by decide)
  have power : (Board.setRate {} 3 0).Commutes (ClockId.disable 3) (Board.start {} .zero).state := (swaps.2 3).2
  exact ⟨by decide, asks, loops.secondResult.trans answers, loops.cache, power.registers⟩

end Board

end ClockController
