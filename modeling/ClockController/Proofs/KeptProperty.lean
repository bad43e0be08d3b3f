import ClockController.Control.Peripheral

/-!
# ClockController.Proofs.KeptProperty

Properties of registers and cache that operations keep.

Reports and recorded writes do not matter to such a property. A refused operation has to keep it too, since
what was done before the refusal stays done. What a fault entails is a parameter: nothing, where faults are set
aside, or a contradiction, where there must be none.

## Main definitions

`Property`: a property of registers and cache.
`Action.Keeps`: an operation keeps a property.

## Main results

`Action.Keeps.bind`: operations one after the other.
`Action.Keeps.mapM`, `Action.Keeps.filterM`: an operation repeated over a list.
`PeripheralClock.keeps_onRefusal`: an operation with something in place of its refusal.
-/

namespace ClockController

/-- A property of what the controller works on. -/
abbrev Property := RegisterBlock → Cache → Prop

def Property.Holds (property : Property) (state : State) : Prop :=
  property state.registers state.cache

namespace Action

variable {α β : Type} {property : Property} {onFault : Prop}

/-- An operation ended with the property, or in a fault that is allowed. -/
def Ends (property : Property) (onFault : Prop) (result : Except Failure α) (state : State) : Prop :=
  match result with
  | .error (.fault _) => onFault
  | _ => property.Holds state

/-- An operation keeps a property on the way from a state. -/
def KeepsFrom (property : Property) (onFault : Prop) (action : Action α) (state : State) : Prop :=
  Ends property onFault (action.runOn state).1 (action.runOn state).2

def Keeps (property : Property) (onFault : Prop) (action : Action α) : Prop :=
  ∀ state, property.Holds state → action.KeepsFrom property onFault state

/-! ### One operation after the other -/

/-- An operation that depends on what the one before it found. -/
theorem KeepsFrom.bind {action : Action α} {next : α → Action β} {state : State}
    (first : action.KeepsFrom property onFault state)
    (second : ∀ value after, action.runOn state = (.ok value, after) → property.Holds after →
      (next value).KeepsFrom property onFault after) :
    (action >>= next).KeepsFrom property onFault state := by
  unfold KeepsFrom at first ⊢
  rw [runOn_bind]
  rcases ends : action.runOn state with ⟨result, after⟩
  rw [ends] at first
  cases result with
  | ok value => exact second value after ends first
  | error failure =>
    cases failure with
    | refused => exact first
    | fault => exact first

theorem Keeps.bind {action : Action α} {next : α → Action β} (first : action.Keeps property onFault)
    (second : ∀ value, (next value).Keeps property onFault) : (action >>= next).Keeps property onFault :=
  fun state holds => (first state holds).bind fun value after _ => second value after

/-! ### Single steps -/

theorem keeps_pure (value : α) : (pure value : Action α).Keeps property onFault :=
  fun _ holds => holds

theorem keeps_refuse (error : ErrorCode) : (refuse error : Action α).Keeps property onFault :=
  fun _ holds => holds

theorem keeps_report (message : Message) : (report message).Keeps property onFault :=
  fun _ holds => holds

theorem keeps_get : (get : Action State).Keeps property onFault :=
  fun _ holds => holds

theorem keeps_read (register : Register) : (read register).Keeps property onFault :=
  fun _ holds => holds

theorem keeps_liftM {checked : Checked α} (value : α) (exists_ : checked = .ok value) :
    (liftM checked : Action α).Keeps property onFault := by
  intro state holds
  subst exists_
  exact holds

/-- What follows the look-up of a clock has to keep the property for every clock of the table. -/
theorem keeps_node_bind {id : ClockId} {next : Node → Action β}
    (known : ∀ clock, Clock.find? id = some clock → (next clock.node).Keeps property onFault) :
    (node id >>= next).Keeps property onFault := by
  intro state holds
  cases found : Clock.find? id with
  | none =>
    -- The id is reported and refused, and neither touches the registers or the cache.
    unfold KeepsFrom
    rw [runOn_bind, runOn_node_of_none found]
    exact holds
  | some clock =>
    unfold KeepsFrom
    rw [runOn_bind, runOn_node_of_find? found]
    exact known clock found state holds

/-! ### Repetition -/

theorem Keeps.mapM {action : α → Action β} (keeps : ∀ item, (action item).Keeps property onFault)
    (items : List α) : (items.mapM action).Keeps property onFault := by
  induction items with
  | nil =>
    rw [List.mapM_nil]
    exact keeps_pure _
  | cons item rest ih =>
    rw [List.mapM_cons]
    exact (keeps item).bind fun _ => ih.bind fun _ => keeps_pure _

theorem Keeps.filterM {test : α → Action Bool} (keeps : ∀ item, (test item).Keeps property onFault)
    (items : List α) : (items.filterM test).Keeps property onFault := by
  -- What passed is collected in reverse, so the induction is over every collection to start from.
  have collects : ∀ found : List α, (items.filterAuxM test found).Keeps property onFault := by
    induction items with
    | nil => exact fun found => keeps_pure found
    | cons item rest ih => exact fun found => (keeps item).bind fun _ => ih _
  exact (collects []).bind fun _ => keeps_pure _

end Action

/-! ### In place of a refusal -/

theorem Action.runOn_tryCatch {α : Type} (action : Action α) (handler : Failure → Action α) (state : State) :
    (tryCatch action handler : Action α).runOn state =
      match action.runOn state with
      | (.ok value, after) => (.ok value, after)
      | (.error failure, after) => (handler failure).runOn after := by
  unfold Action.runOn ExceptT.run StateT.run
  simp only [tryCatch, tryCatchThe, MonadExceptOf.tryCatch, ExceptT.tryCatch, ExceptT.mk, bind, StateT.bind]
  rcases action state with ⟨result, after⟩
  cases result <;> rfl

theorem PeripheralClock.keeps_onRefusal {α : Type} {property : Property} {onFault : Prop} {action : Action α}
    {recover : ErrorCode → Action α} (keeps : action.Keeps property onFault)
    (recovers : ∀ error, (recover error).Keeps property onFault) :
    (onRefusal action recover).Keeps property onFault := by
  intro state holds
  have ends := keeps state holds
  unfold Action.KeepsFrom at ends ⊢
  rw [onRefusal, Action.runOn_tryCatch]
  rcases run : action.runOn state with ⟨result, after⟩
  rw [run] at ends
  cases result with
  | ok value => exact ends
  | error failure =>
    cases failure with
    | refused error => exact recovers error after ends
    | fault fault => exact ends

end ClockController
