/-!
# ClockController.Pll

The six phase-locked loops of the MA35D1, and values kept for each of them.

## Main definitions

`Pll`: the loops in the order of their clock ids.
`PerPll`: one value for each loop.

## Main results

`PerPll.get_set`: reading after a write.
`PerPll.ext_get`: what every loop reads determines the whole.
-/

namespace ClockController

inductive Pll where
  -- The processor loop.
  | ca
  -- The system loop.
  | sys
  -- The memory loop.
  | ddr
  | a
  | e
  | v
deriving DecidableEq, Repr

namespace Pll

def all : List Pll :=
  [.ca, .sys, .ddr, .a, .e, .v]

/-- The place of the loop in the order; it is also its clock id. -/
def index : Pll → Nat
  | .ca => 0
  | .sys => 1
  | .ddr => 2
  | .a => 3
  | .e => 4
  | .v => 5

/-- The name of the loop as a kind of node. -/
def name : Pll → String
  | .ca => "CaPll"
  | .sys => "SysPll"
  | .ddr => "DdrPll"
  | .a => "APll"
  | .e => "EPll"
  | .v => "VPll"

/-- The processor and system loops have a fixed ratio, and control words of their own layout. -/
def isFixedRatio : Pll → Bool
  | .ca | .sys => true
  | _ => false

/-- The processor and memory loops are never powered down. -/
def isAlwaysOn : Pll → Bool
  | .ca | .ddr => true
  | _ => false

theorem mem_all (pll : Pll) : pll ∈ all := by
  cases pll <;> decide

theorem index_lt (pll : Pll) : pll.index < 6 := by
  cases pll <;> decide

/-- All loops but two can be programmed. -/
theorem programmable_of_ne {pll : Pll} (notCa : pll ≠ .ca) (notSys : pll ≠ .sys) : pll.isFixedRatio = false := by
  cases pll with
  | ca => exact absurd rfl notCa
  | sys => exact absurd rfl notSys
  | _ => rfl

theorem all_getElem?_eq_some_iff {place : Nat} {pll : Pll} : all[place]? = some pll ↔ pll.index = place := by
  have each : ∀ place : Fin all.length, all[place].index = place := by decide
  constructor
  · intro found
    obtain ⟨inRange, rfl⟩ := List.getElem?_eq_some_iff.mp found
    exact each ⟨place, inRange⟩
  · rintro rfl
    cases pll <;> rfl

end Pll

structure PerPll (α : Type) where
  ca : α
  sys : α
  ddr : α
  a : α
  e : α
  v : α
deriving DecidableEq, Repr

namespace PerPll

variable {α : Type}

def replicate (value : α) : PerPll α :=
  ⟨value, value, value, value, value, value⟩

def get (values : PerPll α) : Pll → α
  | .ca => values.ca
  | .sys => values.sys
  | .ddr => values.ddr
  | .a => values.a
  | .e => values.e
  | .v => values.v

def set (values : PerPll α) (pll : Pll) (value : α) : PerPll α :=
  match pll with
  | .ca => { values with ca := value }
  | .sys => { values with sys := value }
  | .ddr => { values with ddr := value }
  | .a => { values with a := value }
  | .e => { values with e := value }
  | .v => { values with v := value }

def toList (values : PerPll α) : List α :=
  Pll.all.map values.get

/-! ### Reading and writing -/

theorem ext_get {x y : PerPll α} (same : ∀ pll, x.get pll = y.get pll) : x = y := by
  cases x
  cases y
  have hca := same .ca
  have hsys := same .sys
  have hddr := same .ddr
  have ha := same .a
  have he := same .e
  have hv := same .v
  simp_all [get]

@[simp]
theorem get_replicate (value : α) (pll : Pll) : (replicate value).get pll = value := by
  cases pll <;> rfl

/-- A loop reads the value written last; the others keep theirs. -/
theorem get_set (values : PerPll α) (written : Pll) (value : α) (pll : Pll) :
    (values.set written value).get pll = if pll = written then value else values.get pll := by
  cases written <;> cases pll <;> rfl

/-- Of two writes for a loop the last one counts. -/
theorem set_set (values : PerPll α) (pll : Pll) (first second : α) :
    (values.set pll first).set pll second = values.set pll second := by
  cases pll <;> rfl

/-- Writes for different loops can be swapped. -/
theorem set_comm {x y : Pll} (distinct : x ≠ y) (values : PerPll α) (first second : α) :
    (values.set x first).set y second = (values.set y second).set x first := by
  apply ext_get
  intro pll
  simp only [get_set]
  by_cases isX : pll = x
  · have notY : pll ≠ y := isX ▸ distinct
    rw [if_pos isX, if_pos isX, if_neg notY]
  · rw [if_neg isX, if_neg isX]

end PerPll

end ClockController
