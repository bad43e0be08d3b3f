import ClockController.State

/-!
# ClockController.Action

Operations on the state of the controller, and the steps that they are made of.

An operation may be refused, and its arithmetic may end in a fault. Either way what was done before stays done.

## Main definitions

`Action`: an operation.
`Action.runOn`: how an operation ends, and the state then.
`Action.report`, `Action.read`, `Action.write`, `Action.node`: the steps.

## Main results

`Action.runOn_bind`: an operation after another one starts from its state, unless that one failed.
-/

namespace ClockController

inductive Failure where
  -- The operation is refused.
  | refused (error : ErrorCode)
  -- The arithmetic has no result.
  | fault (fault : Fault)
deriving DecidableEq, Repr

/-- An operation on the state. What was done before a failure stays done. -/
abbrev Action := ExceptT Failure (StateM State)

namespace Action

variable {α β : Type}

def runOn (action : Action α) (state : State) : Except Failure α × State :=
  StateT.run (ExceptT.run action) state

/-! ### Steps -/

def ofChecked : Checked α → Action α
  | .ok value => pure value
  | .error fault => throw (.fault fault)

instance : MonadLift Checked Action :=
  ⟨ofChecked⟩

def refuse (error : ErrorCode) : Action α :=
  throw (.refused error)

def report (message : Message) : Action Unit :=
  modify fun state =>
    { state with journal := { state.journal with log := state.journal.log ++ [message] } }

def read (register : Register) : Action Word := do
  return (← get).registers.read register

def write (register : Register) (value : Word) : Action Unit :=
  modify fun state => { state with
    registers := state.registers.write register value
    journal := { state.journal with writes := state.journal.writes ++ [(register, value)] } }

/-- Clears the bits of `clear` in a register and then sets those of `set`, in one write. -/
def modifyBits (register : Register) (clear set : Word) : Action Unit := do
  let value ← read register
  write register ((value &&& ~~~clear) ||| set)

/-- The node of a clock. An id that names no clock is refused. -/
def node (id : ClockId) : Action Node := do
  match Clock.find? id with
  | some clock => return clock.node
  | none =>
    report (.unknownClock id)
    refuse .noDevice

/-! ### Running the steps -/

@[simp]
theorem runOn_pure (value : α) (state : State) :
    runOn (pure value) state = (.ok value, state) :=
  rfl

/-- An operation after another one starts from its state, unless that one failed. -/
theorem runOn_bind (action : Action α) (next : α → Action β) (state : State) :
    runOn (action >>= next) state =
      match runOn action state with
      | (.ok value, state) => runOn (next value) state
      | (.error failure, state) => (.error failure, state) := by
  change StateT.run (ExceptT.run (action >>= next)) state = _
  rw [ExceptT.run_bind, StateT.run_bind]
  simp only [runOn]
  rcases StateT.run (ExceptT.run action) state with ⟨result, state⟩
  cases result <;> rfl

@[simp]
theorem runOn_map (f : α → β) (action : Action α) (state : State) :
    runOn (f <$> action) state = ((runOn action state).1.map f, (runOn action state).2) := by
  rw [map_eq_pure_bind, runOn_bind]
  rcases runOn action state with ⟨result, state⟩
  cases result <;> rfl

@[simp]
theorem runOn_get (state : State) : runOn get state = (.ok state, state) :=
  rfl

@[simp]
theorem runOn_modify (change : State → State) (state : State) :
    runOn (modify change) state = (.ok (), change state) :=
  rfl

@[simp]
theorem runOn_throw (failure : Failure) (state : State) :
    runOn (throw failure : Action α) state = (.error failure, state) :=
  rfl

@[simp]
theorem runOn_refuse (error : ErrorCode) (state : State) :
    runOn (refuse error : Action α) state = (.error (.refused error), state) :=
  rfl

/-- A checked value changes nothing: it is there, or it is a fault. -/
@[simp]
theorem runOn_liftM (value : Checked α) (state : State) :
    runOn (liftM value : Action α) state = (value.mapError .fault, state) := by
  cases value <;> rfl

@[simp]
theorem runOn_report (message : Message) (state : State) :
    runOn (report message) state =
      (.ok (), { state with journal := { state.journal with log := state.journal.log ++ [message] } }) :=
  rfl

@[simp]
theorem runOn_read (register : Register) (state : State) :
    runOn (read register) state = (.ok (state.registers.read register), state) :=
  rfl

@[simp]
theorem runOn_write (register : Register) (value : Word) (state : State) :
    runOn (write register value) state =
      (.ok (), { state with
        registers := state.registers.write register value
        journal := { state.journal with writes := state.journal.writes ++ [(register, value)] } }) :=
  rfl

@[simp]
theorem runOn_modifyBits (register : Register) (clear set : Word) (state : State) :
    runOn (modifyBits register clear set) state =
      runOn (write register ((state.registers.read register &&& ~~~clear) ||| set)) state := by
  rw [modifyBits, runOn_bind, runOn_read]

theorem runOn_node_of_find? {id : ClockId} {clock : Clock} (found : Clock.find? id = some clock)
    (state : State) : runOn (node id) state = (.ok clock.node, state) := by
  simp [node, found]

theorem runOn_node_of_none {id : ClockId} (unknown : Clock.find? id = none) (state : State) :
    runOn (node id) state =
      (.error (.refused .noDevice), (runOn (report (.unknownClock id)) state).2) := by
  simp [node, unknown, runOn_bind]

end Action

end ClockController
