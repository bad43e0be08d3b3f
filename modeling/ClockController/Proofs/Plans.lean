import ClockController.Plan
import ClockController.Proofs.ClockTable
import ClockController.Proofs.Synthesis.Solved

/-!
# ClockController.Proofs.Plans

Planning a rate request: every clock of the table has a plan, and what a plan says about its clock.

## Main results

`Plan.exists_ofNode`: planning for a clock of the table never ends in a fault.
`Plan.ofNode_select`: a plan that selects a parent is about the selector of the clock and one of its parents.
`Plan.ofNode_program`: a plan that programs a loop is about the loop itself, in its cached mode.
`Plan.ofPll_cases`: what a plan for a loop can be.
-/

namespace ClockController

/-! ### Rates that need no loop -/

theorem Cache.muxRate_eq (oscillators : Oscillators) (cache : Cache) (registers : RegisterBlock) {mux : Mux}
    {root : Root} (selects : mux.selected (registers.read mux.register) = .ok root) :
    cache.muxRate oscillators registers mux = .ok (cache.rootRate oscillators root) := by
  rw [muxRate, selects, Checked.ok_bind]
  rfl

theorem Cache.exists_muxRate (oscillators : Oscillators) (cache : Cache) (registers : RegisterBlock) {mux : Mux}
    (inside : mux.field.Inside) : ∃ rate, cache.muxRate oscillators registers mux = .ok rate :=
  ⟨_, cache.muxRate_eq oscillators registers (mux.selected_eq inside _)⟩

theorem Cache.exists_busRates (oscillators : Oscillators) (cache : Cache) (registers : RegisterBlock) :
    ∃ rates, cache.busRates oscillators registers = .ok rates := by
  obtain ⟨ca35, hca35⟩ := cache.exists_muxRate oscillators registers (Bus.mux_inside .ca35)
  obtain ⟨sysclk0, hsysclk0⟩ := cache.exists_muxRate oscillators registers (Bus.mux_inside .sysclk0)
  obtain ⟨sysclk1, hsysclk1⟩ := cache.exists_muxRate oscillators registers (Bus.mux_inside .sysclk1)
  refine ⟨⟨ca35, sysclk0, sysclk1⟩, ?_⟩
  rw [busRates, hca35, Checked.ok_bind, hsysclk0, Checked.ok_bind, hsysclk1, Checked.ok_bind]
  rfl

theorem RegisterBlock.exists_divided (registers : RegisterBlock) {divider : Divider}
    (inside : divider.field.Inside) : ∃ ratio, registers.dividerRatio divider = .ok ratio ∧ 0 < ratio :=
  ⟨_, divider.ratio_eq inside _, Divider.ratioOf_pos _ _⟩

/-- The divider of a clock has a ratio, whatever the registers hold. -/
theorem Clock.exists_ratio {id : ClockId} {clock : Clock} (found : find? id = some clock) {gate : Gate}
    {mux? : Option Mux} {divider : Divider} (built : clock.node = .divider gate mux? divider)
    (registers : RegisterBlock) : ∃ ratio, registers.dividerRatio divider = .ok ratio ∧ 0 < ratio :=
  registers.exists_divided (divider_inside found (by rw [built]; rfl))

/-- A ratio that was read is not zero. -/
theorem RegisterBlock.ratio_pos {registers : RegisterBlock} {divider : Divider} (inside : divider.field.Inside)
    {ratio : Nat} (reads : registers.dividerRatio divider = .ok ratio) : 0 < ratio := by
  obtain ⟨read, exists_, positive⟩ := registers.exists_divided inside
  rw [reads] at exists_
  cases exists_
  exact positive

/-! ### Plans -/

namespace Plan

variable {board : Board} {cache : Cache} {registers : RegisterBlock} {target : Nat}

theorem ofPll_of_isFixedRatio {pll : Pll} (fixed : pll.isFixedRatio = true) :
    ofPll board cache pll target = .ok (.unchanged (cache.plls.get pll).rate) := by
  rw [ofPll, if_pos fixed]

theorem ofPll_of_error {pll : Pll} {reason : Unreachable} (programmable : pll.isFixedRatio = false)
    (fails : (solve board.options.derivesSpread (cache.plls.get pll).mode board.oscillators.hxt target).run =
      .ok (.error reason)) :
    ofPll board cache pll target = .ok (.unreachable reason) := by
  rw [ofPll, if_neg (Bool.eq_false_iff.mp programmable), fails]
  rfl

theorem ofPll_of_ok {pll : Pll} {solution : Solution} (programmable : pll.isFixedRatio = false)
    (solves : (solve board.options.derivesSpread (cache.plls.get pll).mode board.oscillators.hxt target).run =
      .ok (.ok solution)) :
    ofPll board cache pll target = .ok (.program pll (cache.plls.get pll).mode solution) := by
  rw [ofPll, if_neg (Bool.eq_false_iff.mp programmable), solves]
  rfl

theorem ofNode_of_error {node : Node} {pll : Pll} {reason : Unreachable} (isPll : node = .pll pll)
    (programmable : pll.isFixedRatio = false)
    (fails : (solve board.options.derivesSpread (cache.plls.get pll).mode board.oscillators.hxt target).run =
      .ok (.error reason)) :
    ofNode board cache registers node target = .ok (.unreachable reason) := by
  subst isPll
  exact ofPll_of_error programmable fails

theorem ofNode_of_ok {node : Node} {pll : Pll} {solution : Solution} (isPll : node = .pll pll)
    (programmable : pll.isFixedRatio = false)
    (solves : (solve board.options.derivesSpread (cache.plls.get pll).mode board.oscillators.hxt target).run =
      .ok (.ok solution)) :
    ofNode board cache registers node target = .ok (.program pll (cache.plls.get pll).mode solution) := by
  subst isPll
  exact ofPll_of_ok programmable solves

/-- The plan for a loop depends on its cached reading alone. -/
theorem ofPll_congr {pll : Pll} {other : Cache} (same : other.plls.get pll = cache.plls.get pll) :
    ofPll board other pll target = ofPll board cache pll target := by
  unfold ofPll
  rw [same]

theorem exists_ofPll (board : Board) (cache : Cache) (pll : Pll) (target : Nat) :
    ∃ plan, ofPll board cache pll target = .ok plan := by
  cases fixed : pll.isFixedRatio with
  | true => exact ⟨_, ofPll_of_isFixedRatio fixed⟩
  | false =>
    rcases solve_cases board.options.derivesSpread (cache.plls.get pll).mode board.oscillators.hxt target with
      ⟨reason, fails⟩ | ⟨solution, solves, _⟩
    · exact ⟨_, ofPll_of_error fixed fails⟩
    · exact ⟨_, ofPll_of_ok fixed solves⟩

theorem exists_ofMux {oscillators : Oscillators} (gate : Gate) (mux : Mux) {divider? : Option Divider}
    (inside : ∀ divider, divider? = some divider → divider.field.Inside) :
    ∃ plan, ofMux oscillators cache registers gate mux divider? target = .ok plan := by
  unfold ofMux
  split
  next =>
    split
    -- No entry of a divider table stands for a ratio of zero.
    next divider =>
      obtain ⟨ratio, reads, positive⟩ := registers.exists_divided (inside divider rfl)
      rw [reads, Checked.ok_bind, Checked.div_of_pos positive]
      exact ⟨_, rfl⟩
    next => exact ⟨_, rfl⟩
  next => exact ⟨_, rfl⟩

/-- Planning for a clock of the table never ends in a fault. -/
theorem exists_ofNode (board : Board) (cache : Cache) (registers : RegisterBlock) {id : ClockId} {clock : Clock}
    (found : Clock.find? id = some clock) (target : Nat) :
    ∃ plan, ofNode board cache registers clock.node target = .ok plan := by
  have inside (divider : Divider) := @Clock.divider_inside id clock found divider
  unfold ofNode
  cases built : clock.node with
  | pll pll => exact exists_ofPll board cache pll target
  | gate gate => exact ⟨_, rfl⟩
  | mux gate mux => exact exists_ofMux gate mux nofun
  | divider gate mux? divider =>
    rw [built] at inside
    cases mux? with
    | some mux => exact exists_ofMux gate mux inside
    | none =>
      obtain ⟨ratio, reads, positive⟩ := registers.exists_divided (inside divider rfl)
      dsimp only
      rw [reads, Checked.ok_bind, Checked.div_of_pos positive]
      exact ⟨_, rfl⟩

theorem ofMux_of_parent? {oscillators : Oscillators} {mux : Mux} {parent : Nat} (registers : RegisterBlock)
    (gate : Gate) (planned : parent? oscillators cache mux target = some parent) :
    ofMux oscillators cache registers gate mux none target = .ok (.select mux parent target) := by
  rw [ofMux, planned]

/-- The target is divided by what follows the selector. -/
theorem ofMux_of_parent?_divided {oscillators : Oscillators} {mux : Mux} {parent : Nat} (gate : Gate)
    (planned : parent? oscillators cache mux target = some parent) {divider : Divider} {ratio : Nat}
    (reads : registers.dividerRatio divider = .ok ratio) (positive : 0 < ratio) :
    ofMux oscillators cache registers gate mux (some divider) target =
      .ok (.select mux parent (target / ratio)) := by
  rw [ofMux, planned]
  dsimp only
  rw [reads, Checked.ok_bind, Checked.div_of_pos positive]
  rfl

/-- Without a parent at the target the plan for a clock with a selector is to do nothing. -/
theorem ofNode_of_parent?_eq_none {node : Node} {gate : Gate} (gated : node.gate? = some gate) {mux : Mux}
    (has : node.mux? = some mux) (missed : parent? board.oscillators cache mux target = none) :
    ofNode board cache registers node target = .ok (.noParent (cache.rootRate board.oscillators gate.root)) := by
  have misses (divider? : Option Divider) : ofMux board.oscillators cache registers gate mux divider? target =
      .ok (.noParent (cache.rootRate board.oscillators gate.root)) := by
    rw [ofMux, missed]
  cases node with
  | pll pll => cases has
  | gate => cases has
  | mux =>
    cases gated
    cases has
    exact misses none
  | divider _ _ divider =>
    cases gated
    cases has
    exact misses (some divider)

theorem exists_noParent {node : Node} {mux : Mux} (has : node.mux? = some mux)
    (missed : parent? board.oscillators cache mux target = none) :
    ∃ rate, ofNode board cache registers node target = .ok (.noParent rate) := by
  have gated : ∃ gate, node.gate? = some gate := by
    cases node with
    | pll pll => cases has
    | _ => exact ⟨_, rfl⟩
  obtain ⟨gate, gated⟩ := gated
  exact ⟨_, ofNode_of_parent?_eq_none gated has missed⟩

theorem ofMux_select {oscillators : Oscillators} {gate : Gate} {selector mux : Mux} {divider? : Option Divider}
    {parent rate : Nat}
    (plans : ofMux oscillators cache registers gate selector divider? target = .ok (.select mux parent rate)) :
    mux = selector ∧ parent < mux.parents.length := by
  unfold ofMux at plans
  split at plans
  next found =>
    have inRange := (List.findIdx?_eq_some_iff_getElem.mp found).1
    split at plans
    next divider =>
      obtain ⟨ratio, _, divides⟩ := Checked.bind_eq_ok_iff.mp plans
      obtain ⟨divided, _, same⟩ := Checked.bind_eq_ok_iff.mp divides
      cases same
      exact ⟨rfl, inRange⟩
    next =>
      cases plans
      exact ⟨rfl, inRange⟩
  next => cases plans

theorem ofPll_cases {pll : Pll} {plan : Plan} (plans : ofPll board cache pll target = .ok plan) :
    (pll.isFixedRatio = true ∧ plan = .unchanged (cache.plls.get pll).rate) ∨
      (pll.isFixedRatio = false ∧ ∃ reason, plan = .unreachable reason) ∨
      (pll.isFixedRatio = false ∧ ∃ solution,
        (solve board.options.derivesSpread (cache.plls.get pll).mode board.oscillators.hxt target).run =
          .ok (.ok solution) ∧
        plan = .program pll (cache.plls.get pll).mode solution) := by
  cases fixed : pll.isFixedRatio with
  | true =>
    rw [ofPll_of_isFixedRatio fixed] at plans
    cases plans
    exact .inl ⟨rfl, rfl⟩
  | false =>
    rcases solve_cases board.options.derivesSpread (cache.plls.get pll).mode board.oscillators.hxt target with
      ⟨reason, fails⟩ | ⟨solution, solves, _⟩
    · rw [ofPll_of_error fixed fails] at plans
      cases plans
      exact .inr (.inl ⟨rfl, reason, rfl⟩)
    · rw [ofPll_of_ok fixed solves] at plans
      cases plans
      exact .inr (.inr ⟨rfl, solution, solves, rfl⟩)

/-- A plan that selects a parent is about the selector of the clock and one of its parents. -/
theorem ofNode_select {node : Node} {mux : Mux} {parent rate : Nat}
    (plans : ofNode board cache registers node target = .ok (.select mux parent rate)) :
    node.mux? = some mux ∧ parent < mux.parents.length := by
  unfold ofNode at plans
  split at plans
  -- The plan for a loop programs it, if it does anything.
  next pll =>
    rcases ofPll_cases plans with ⟨_, same⟩ | ⟨_, _, same⟩ | ⟨_, _, _, same⟩ <;> cases same
  next => cases plans
  next =>
    obtain ⟨rfl, inRange⟩ := ofMux_select plans
    exact ⟨rfl, inRange⟩
  next =>
    obtain ⟨rfl, inRange⟩ := ofMux_select plans
    exact ⟨rfl, inRange⟩
  next =>
    obtain ⟨ratio, _, divides⟩ := Checked.bind_eq_ok_iff.mp plans
    obtain ⟨divided, _, same⟩ := Checked.bind_eq_ok_iff.mp divides
    cases same

theorem ofMux_ne_program {oscillators : Oscillators} {gate : Gate} {mux : Mux} {divider? : Option Divider}
    {pll : Pll} {mode : Mode} {solution : Solution} :
    ofMux oscillators cache registers gate mux divider? target ≠ .ok (.program pll mode solution) := by
  intro plans
  unfold ofMux at plans
  split at plans
  next =>
    split at plans
    next =>
      obtain ⟨ratio, _, divides⟩ := Checked.bind_eq_ok_iff.mp plans
      obtain ⟨divided, _, same⟩ := Checked.bind_eq_ok_iff.mp divides
      cases same
    next => cases plans
  next => cases plans

/-- A plan that programs a loop is about the loop itself, in its cached mode. -/
theorem ofNode_program {node : Node} {pll : Pll} {mode : Mode} {solution : Solution}
    (plans : ofNode board cache registers node target = .ok (.program pll mode solution)) :
    node = .pll pll ∧ pll.isFixedRatio = false ∧ mode = (cache.plls.get pll).mode ∧
      (solve board.options.derivesSpread mode board.oscillators.hxt target).run = .ok (.ok solution) := by
  unfold ofNode at plans
  split at plans
  next =>
    rcases ofPll_cases plans with ⟨_, same⟩ | ⟨_, _, same⟩ | ⟨programmable, _, solves, same⟩
    · cases same
    · cases same
    · cases same
      exact ⟨rfl, programmable, rfl, solves⟩
  next => cases plans
  next => exact absurd plans ofMux_ne_program
  next => exact absurd plans ofMux_ne_program
  next =>
    obtain ⟨ratio, _, divides⟩ := Checked.bind_eq_ok_iff.mp plans
    obtain ⟨divided, _, same⟩ := Checked.bind_eq_ok_iff.mp divides
    cases same

/-! ### The same plan again -/

section Again

variable {other : Cache} {others : RegisterBlock}

theorem parent?_congr {oscillators : Oscillators} {mux : Mux}
    (roots : ∀ root ∈ mux.parents, other.rootRate oscillators root = cache.rootRate oscillators root) :
    parent? oscillators other mux target = parent? oscillators cache mux target := by
  unfold parent?
  -- The induction is over the parents that are left to look at.
  revert roots
  induction mux.parents with
  | nil => exact fun _ => rfl
  | cons root rest ih =>
    intro roots
    rw [List.findIdx?_cons, List.findIdx?_cons, roots root List.mem_cons_self,
      ih fun later member => roots later (List.mem_cons_of_mem root member)]

/-- A parent is selected again if the parents run at the rates that they ran at, and are divided as before. -/
theorem ofNode_select_congr {node : Node} {mux : Mux} {parent rate : Nat}
    (roots : ∀ root ∈ mux.parents,
      other.rootRate board.oscillators root = cache.rootRate board.oscillators root)
    (ratios : ∀ divider, node.divider? = some divider →
      others.dividerRatio divider = registers.dividerRatio divider)
    (plans : ofNode board cache registers node target = .ok (.select mux parent rate)) :
    ofNode board other others node target = .ok (.select mux parent rate) := by
  have has := (ofNode_select plans).1
  have selects (gate : Gate) (divider? : Option Divider)
      (ratios : ∀ divider, divider? = some divider →
        others.dividerRatio divider = registers.dividerRatio divider)
      (plans : ofMux board.oscillators cache registers gate mux divider? target = .ok (.select mux parent rate)) :
      ofMux board.oscillators other others gate mux divider? target = .ok (.select mux parent rate) := by
    unfold ofMux at plans ⊢
    rw [parent?_congr roots]
    cases first : parent? board.oscillators cache mux target with
    | none =>
      rw [first] at plans
      cases plans
    | some parent =>
      rw [first] at plans
      cases divider? with
      | none => exact plans
      | some divider =>
        dsimp only at plans ⊢
        rw [ratios divider rfl]
        exact plans
  cases node with
  | pll pll => cases has
  | gate gate => cases has
  | mux gate selector =>
    cases has
    exact selects gate none nofun plans
  | divider gate mux? divider =>
    cases has
    exact selects gate (some divider) ratios plans

/-- A loop is programmed again with the same solution if its mode is what it was. -/
theorem ofNode_program_congr {node : Node} {pll : Pll} {mode : Mode} {solution : Solution}
    (same : (other.plls.get pll).mode = (cache.plls.get pll).mode)
    (plans : ofNode board cache registers node target = .ok (.program pll mode solution)) :
    ofNode board other others node target = .ok (.program pll mode solution) := by
  obtain ⟨rfl, programmable, rfl, solves⟩ := ofNode_program plans
  rw [← same] at solves ⊢
  exact ofPll_of_ok programmable solves

end Again

/-- Whether there is nothing to do. -/
def isIdle : Plan → Bool
  | .unchanged _ | .unreachable _ | .noParent _ => true
  | .program .. | .select .. => false

end Plan

end ClockController
