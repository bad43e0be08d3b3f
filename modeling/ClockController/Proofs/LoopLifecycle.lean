import ClockController.Proofs.AnsweredRate
import ClockController.Proofs.StateRelation

/-!
# ClockController.Proofs.LoopLifecycle

The modes and rates of the loops over a whole session.

## Proof strategy

A request moves the cached reading of a loop in one way only: it is a rate request for that loop, which programs a
solution for the cached mode. The loop then reads back that mode and what the words decode to, and no solution is
answered with zero or decodes to zero. So one reading follows another along every session. That the answers are the
cached readings comes from the coherence of the cache.

## Main definitions

`Board.Programs`: a rate request programmed a loop.
`Pll.Follows`: one reading of a loop may come after another.

## Main results

`Board.setRate_loop_cases`, `Board.Coherent.perform_loop_cases`: what a request does to the reading of a loop.
`Board.Coherent.follows_of_mem_states`: how the reading goes on all through a session.
`Board.loop_lifecycle`: what is answered for a loop all through a session.
-/

namespace ClockController

open ClockController.Action

variable {board : Board} {state : State}

/-! ### Rate requests -/

/-- A rate request programmed a loop: it was answered with a rate above zero, and the loop runs at such a rate in
the mode that it had. -/
structure Board.Programs (board : Board) (pll : Pll) (target : Nat) (state : State) : Prop where
  programmable : pll.isFixedRatio = false
  answers : ∃ rate, ((board.setRate pll.id target).outcome state).result = .ok rate ∧ 0 < rate
  mode : (((board.setRate pll.id target).outcome state).state.cache.plls.get pll).mode =
    (state.cache.plls.get pll).mode
  runs : 0 < (((board.setRate pll.id target).outcome state).state.cache.plls.get pll).rate

/-- From any state, a rate request that ends in no fault leaves the cached reading of a loop as it is, or it is
for that loop and programmed it. -/
theorem Board.setRate_loop_cases (crystal : 0 < board.oscillators.hxt) {id : ClockId} {target : Nat}
    (ends : ((board.setRate id target).outcome state).isFault = false) (pll : Pll) :
    ((board.setRate id target).outcome state).state.cache.plls.get pll = state.cache.plls.get pll ∨
      id = pll.id ∧ board.Programs pll target state := by
  obtain ⟨result, after, step, leads⟩ := board.exists_rateStep id target state.registers state.cache
  obtain ⟨answers, _, cache⟩ := leads.outcome
  rw [Outcome.isFault, answers] at ends
  cases step with
  | unknown | idle | select =>
    rw [cache]
    exact .inl rfl
  | fault => cases ends
  | @program clock programmed mode solution reading bus found plans reads derives =>
    obtain ⟨isPll, programmable, cached, solves⟩ := Plan.ofNode_program plans
    by_cases same : pll = programmed
    · subst same
      obtain rfl := Clock.id_of_pll found isPll
      have solved := solved_of_solve solves
      obtain ⟨kept, decodes⟩ := solved.decodes_of_programmed programmable reads
      refine .inr ⟨rfl, programmable, ⟨_, answers, solved.rate_pos⟩, ?_, ?_⟩
      all_goals rw [cache, PerPll.get_set, if_pos rfl]
      · exact kept.trans cached
      · exact solved.decoded_pos crystal decodes
    · left
      rw [cache, PerPll.get_set, if_neg same]

/-! ### Switching -/

/-- The cache stays as it is. -/
def StateRelation.sameCache : StateRelation :=
  fun before after => after.cache = before.cache

theorem StateRelation.chains_sameCache : sameCache.Chains where
  refl _ := rfl
  trans first second := second.trans first
  report _ _ := rfl

open StateRelation

theorem ClockId.along_sameCache_enable (id : ClockId) : (enable id).Along sameCache := by
  intro state
  obtain ⟨_, _, leads, _⟩ := exists_leads_enable id state.registers state.cache
  exact leads.leaves.2

theorem ClockId.along_sameCache_disable (id : ClockId) : (disable id).Along sameCache := by
  intro state
  obtain ⟨_, _, leads, _⟩ := exists_leads_disable id state.registers state.cache
  exact leads.leaves.2

/-! ### Requests -/

/-- A request of the controller leaves the cached reading of a loop as it is, or it is a rate request for that
loop and programmed it. -/
theorem Board.Coherent.perform_loop_cases (coherent : board.Coherent state.registers state.cache)
    (crystal : 0 < board.oscillators.hxt) {request : Request} (own : request.isForeign = false)
    (ends : ((board.perform request).outcome state).isFault = false) (pll : Pll) :
    ((board.perform request).outcome state).state.cache.plls.get pll = state.cache.plls.get pll ∨
      ∃ target, request.rateAsked? = some (pll.id, target) ∧ board.Programs pll target state := by
  rcases request.cases_of_own own with reads | switches | ⟨id, target, asks⟩
  · have kept := ((keeps_reading coherent.keeps_readBack reads).outcome ⟨rfl, rfl⟩).2 ends
    rw [kept.2]
    exact .inl rfl
  · have kept : (board.perform request).Along sameCache :=
      along_switching chains_sameCache ClockId.along_sameCache_enable ClockId.along_sameCache_disable switches
    exact .inl (congrArg (·.plls.get pll) (kept { state with journal := {} }))
  · rw [board.outcome_of_rateAsked asks, Outcome.isFault_map] at ends
    rw [board.outcome_of_rateAsked asks]
    rcases setRate_loop_cases crystal ends pll with same | ⟨rfl, programs⟩
    · exact .inl same
    · exact .inr ⟨target, asks, programs⟩

/-! ### Sessions -/

/-- One reading of a loop may come after another. -/
structure Pll.Follows (pll : Pll) (before after : Reading) : Prop where
  mode : after.mode = before.mode
  fixed : pll.isFixedRatio = true → after = before
  running : 0 < before.rate → 0 < after.rate

namespace Pll.Follows

theorem refl (pll : Pll) (reading : Reading) : pll.Follows reading reading :=
  ⟨rfl, fun _ => rfl, fun runs => runs⟩

theorem trans {pll : Pll} {before middle after : Reading} (first : pll.Follows before middle)
    (second : pll.Follows middle after) : pll.Follows before after where
  mode := second.mode.trans first.mode
  fixed ratio := (second.fixed ratio).trans (first.fixed ratio)
  running runs := second.running (first.running runs)

end Pll.Follows

namespace Board.Coherent

/-- The reading after a request follows the one before it. -/
theorem follows_perform (coherent : board.Coherent state.registers state.cache)
    (crystal : 0 < board.oscillators.hxt) {request : Request} (own : request.isForeign = false)
    (ends : ((board.perform request).outcome state).isFault = false) (pll : Pll) :
    pll.Follows (state.cache.plls.get pll) (((board.perform request).outcome state).state.cache.plls.get pll) := by
  rcases coherent.perform_loop_cases crystal own ends pll with same | ⟨target, asks, programs⟩
  · rw [same]
    exact .refl pll _
  · rw [board.outcome_of_rateAsked asks]
    refine ⟨programs.mode, fun fixed => ?_, fun _ => programs.runs⟩
    rw [programs.programmable] at fixed
    cases fixed

/-- All through a session the cache is coherent, and the reading of a loop follows the one at its start. -/
theorem follows_of_mem_states (coherent : board.Coherent state.registers state.cache)
    (crystal : 0 < board.oscillators.hxt) {requests : List Request}
    (own : ∀ request ∈ requests, request.isForeign = false) {after : State}
    (member : after ∈ board.states requests state) (pll : Pll) :
    board.Coherent after.registers after.cache ∧
      pll.Follows (state.cache.plls.get pll) (after.cache.plls.get pll) := by
  let invariant (after : State) : Prop := board.Coherent after.registers after.cache ∧
    pll.Follows (state.cache.plls.get pll) (after.cache.plls.get pll)
  have step (request : Request) (asked : request ∈ requests) (middle : State) (holds : invariant middle)
      (ends : ((board.perform request).outcome middle).isFault = false) :
      invariant ((board.perform request).outcome middle).state :=
    ⟨((board.keeps_own board.effectsKeep_coherent (own request asked)).outcome holds.1).2 ends,
      holds.2.trans (holds.1.follows_perform crystal (own request asked) ends pll)⟩
  exact states_invariant step ⟨coherent, .refl pll _⟩ member

end Board.Coherent

theorem Board.result_pllMode_pll (board : Board) (state : State) (pll : Pll) :
    ((board.pllMode pll.id).outcome state).result = .ok (state.cache.plls.get pll).mode := by
  obtain ⟨clock, found, isPll⟩ := pll.find?_id
  simp only [board.result_pllMode, found, isPll]

/-- A loop runs after a rate request for it was answered with a rate above zero. -/
theorem Board.Coherent.runs_after_setRate (coherent : board.Coherent state.registers state.cache)
    (crystal : 0 < board.oscillators.hxt) {pll : Pll} {target rate : Nat}
    (answers : ((board.setRate pll.id target).outcome state).result = .ok rate) (positive : 0 < rate) :
    ∃ now, ((board.getRate pll.id).outcome ((board.setRate pll.id target).outcome state).state).result = .ok now ∧
      0 < now := by
  rcases coherent.setRate_pll_cases pll target with ⟨_, leads⟩ | leads | ⟨fault, after, leads⟩ |
    ⟨_, solution, reading, programmed, bus, solves, decodes, after, leads⟩
  · -- A loop with a fixed ratio answers the rate that it runs at.
    rw [leads.outcome.1] at answers
    cases answers
    exact ⟨_, coherent.getRate_pll leads pll, positive⟩
  · rw [leads.outcome.1] at answers
    cases answers
    exact absurd positive (Nat.lt_irrefl 0)
  · rw [leads.outcome.1] at answers
    cases answers
  · refine ⟨_, after.getRate_pll leads pll, ?_⟩
    rw [PerPll.get_set, if_pos rfl]
    exact (solved_of_solve solves).decoded_pos crystal decodes

theorem Request.eq_of_rateAsked? {request : Request} {id : ClockId} {target : Nat}
    (asks : request.rateAsked? = some (id, target)) :
    request = .setRate id target ∨ request = .peripheralSetRate ⟨id⟩ target := by
  cases request with
  | setRate =>
    cases asks
    exact .inl rfl
  | peripheralSetRate =>
    cases asks
    exact .inr rfl
  | _ => cases asks

theorem RegisterBlock.mode_of_reading {registers : RegisterBlock} {reference : Nat} {pll : Pll} {reading : Reading}
    (reads : registers.reading reference pll = .ok reading) : reading.mode = registers.pllMode pll := by
  obtain ⟨rate, _, same⟩ := Checked.bind_eq_ok_iff.mp reads
  cases same
  rfl

/-- All through a session in which nobody else writes the registers, with any crystal that runs: a loop is in the
mode that the registers held at the start, and a loop with a fixed ratio keeps its rate. A request that changes the
rate of a loop is a rate request for that loop which answered a rate above zero. After such a request the loop
runs, and a loop that runs goes on running. -/
theorem Board.loop_lifecycle (board : Board) (registers : RegisterBlock) (requests : List Request)
    (crystal : 0 < board.oscillators.hxt) (starts : (board.start registers).result = .ok ())
    (own : ∀ request ∈ requests, request.isForeign = false) {state : State}
    (member : state ∈ board.states requests (board.start registers).state) (pll : Pll) :
    ((board.pllMode pll.id).outcome state).result = .ok (registers.pllMode pll) ∧
    (pll.isFixedRatio = true → ((board.getRate pll.id).outcome state).result =
      ((board.getRate pll.id).outcome (board.start registers).state).result) ∧
    (∀ request : Request, request.isForeign = false →
      let asked := (board.perform request).outcome state
      asked.isFault = false →
      ((board.getRate pll.id).outcome asked.state).result ≠ ((board.getRate pll.id).outcome state).result →
      ∃ target rate, (request = .setRate pll.id target ∨ request = .peripheralSetRate ⟨pll.id⟩ target) ∧
        asked.result = .ok (.rate rate) ∧ 0 < rate) ∧
    (∀ target rate, ((board.setRate pll.id target).outcome state).result = .ok rate → 0 < rate →
      ∃ now, ((board.getRate pll.id).outcome ((board.setRate pll.id target).outcome state).state).result =
        .ok now ∧ 0 < now) ∧
    ∀ rate, ((board.getRate pll.id).outcome state).result = .ok rate → 0 < rate →
      ∀ more : List Request, (∀ request ∈ more, request.isForeign = false) →
        ∀ later ∈ board.states more state,
          ∃ now, ((board.getRate pll.id).outcome later).result = .ok now ∧ 0 < now := by
  have begins : board.Coherent (board.start registers).state.registers (board.start registers).state.cache :=
    coherent_of_mem_states starts own (.head _)
  obtain ⟨coherent, follows⟩ := begins.follows_of_mem_states crystal own member pll
  have same : (board.start registers).state.registers = registers := (board.silent_probe { registers }).1
  refine ⟨?_, fun fixed => ?_, fun request owned => ?_, fun target rate answers positive => ?_,
    fun rate runs positive more ownMore later after => ?_⟩
  · rw [board.result_pllMode_pll, follows.mode, RegisterBlock.mode_of_reading (begins.loops pll), same]
  · rw [coherent.result_getRate_pll, begins.result_getRate_pll, follows.fixed fixed]
  · intro asked ends moved
    have coherentAfter := ((board.keeps_own board.effectsKeep_coherent owned).outcome coherent).2 ends
    rw [Board.Coherent.result_getRate_pll coherentAfter, coherent.result_getRate_pll] at moved
    rcases coherent.perform_loop_cases crystal owned ends pll with kept | ⟨target, asks, programs⟩
    · exact absurd (by rw [kept]) moved
    · obtain ⟨rate, answers, positive⟩ := programs.answers
      have answered := congrArg Outcome.result (board.outcome_of_rateAsked asks state)
      rw [answers] at answered
      exact ⟨target, rate, Request.eq_of_rateAsked? asks, answered, positive⟩
  · exact coherent.runs_after_setRate crystal answers positive
  · rw [coherent.result_getRate_pll] at runs
    cases runs
    obtain ⟨coherentLater, followsLater⟩ := coherent.follows_of_mem_states crystal ownMore after pll
    exact ⟨_, coherentLater.result_getRate_pll pll, followsLater.running positive⟩

/-- A loop that was never programmed stays in integer mode, and goes on running once the fallback was programmed. -/
theorem Board.loop_lifecycle_fallback :
    ∃ state ∈ Board.states {} [.setRate 3 0] (Board.start {} .zero).state,
      ((Board.pllMode {} 3).outcome state).result = .ok .integer ∧
      ((Board.getRate {} 3).outcome (Board.start {} .zero).state).result = .ok 0 ∧
      ((Board.getRate {} 3).outcome state).result = .ok 1_000_000_000 ∧
      ∀ more : List Request, (∀ request ∈ more, request.isForeign = false) →
        ∀ later ∈ Board.states {} more state,
          ∃ now, ((Board.getRate {} 3).outcome later).result = .ok now ∧ 0 < now := by
  have own : ∀ request ∈ [Request.setRate 3 0], request.isForeign = false := by decide
  refine ⟨_, .tail _ (.head _), ?_⟩
  obtain ⟨mode, _, _, _, running⟩ := Board.loop_lifecycle {} .zero [.setRate 3 0] (by decide) rfl own
    (.tail _ (.head _)) .a
  have runs : ((Board.getRate {} 3).outcome
      ((Board.perform {} (.setRate 3 0)).outcome (Board.start {} .zero).state).state).result =
        .ok 1_000_000_000 := rfl
  exact ⟨mode, rfl, runs, running _ runs (by decide)⟩

end ClockController
