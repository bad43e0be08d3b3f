import ClockController.Clock.Table
import ClockController.Proofs.FieldIndependence

/-!
# ClockController.Proofs.ClockTable

What holds of every clock in the table.

## Main results

`Clock.mux_inside`, `Clock.divider_inside`: selectors and dividers lie inside their registers.
`Mux.selected_eq`, `Divider.ratio_eq`: so they can always be read.
`Clock.mux_apart`, `Clock.switch_register`, `sdhSelector_disjoint`: what is written for one clock shares no bit
with the selector of a bus clock.
`Clock.role_mux`, `Clock.role_divider`, `Clock.role_switch`: selectors, dividers and enable bits have registers
of their own.
`Clock.mux_same_or_apart`: two selectors are the same field, or they have no bit in common.
`Bus.source_of_selected`: no bus clock follows another bus clock.
`Clock.mux_of_isBusMux`: the selector behind the id of a bus clock.
-/

namespace ClockController

/-! ### Selectors and dividers of the table -/

def Node.mux? : Node → Option Mux
  | .mux _ selector => some selector
  | .divider _ selector? _ => selector?
  | _ => none

def Node.divider? : Node → Option Divider
  | .divider _ _ ratios => some ratios
  | _ => none

/-- The field has a bit, is no whole word, and ends inside its word. -/
def Field.Inside (field : Field) : Prop :=
  0 < field.width ∧ field.width < 32 ∧ field.shift + field.width ≤ 32

instance (field : Field) : Decidable field.Inside :=
  inferInstanceAs (Decidable (_ ∧ _))

theorem Clock.mem_of_find? {id : ClockId} {clock : Clock} (found : find? id = some clock) :
    clock ∈ clocks :=
  List.mem_of_getElem? found

theorem Clock.lt_count_of_find? {id : ClockId} {clock : Clock} (found : find? id = some clock) :
    id < ClockId.count := by
  rw [← isSome_find?_iff, found]
  rfl

/-- An id names no clock exactly if it is not below the number of clocks. -/
theorem Clock.find?_eq_none_iff {id : ClockId} : find? id = none ↔ ClockId.count ≤ id := by
  rw [← Nat.not_lt, ← isSome_find?_iff, Option.not_isSome_iff_eq_none]

theorem Clock.mux_inside {id : ClockId} {clock : Clock} (found : find? id = some clock) {mux : Mux}
    (has : clock.node.mux? = some mux) : mux.field.Inside := by
  have all : ∀ clock ∈ clocks, ∀ mux ∈ clock.node.mux?, mux.field.Inside := by decide
  exact all clock (mem_of_find? found) mux has

theorem Clock.divider_inside {id : ClockId} {clock : Clock} (found : find? id = some clock)
    {divider : Divider} (has : clock.node.divider? = some divider) : divider.field.Inside := by
  have all : ∀ clock ∈ clocks, ∀ divider ∈ clock.node.divider?, divider.field.Inside := by decide
  exact all clock (mem_of_find? found) divider has

theorem Clock.parents_le {id : ClockId} {clock : Clock} (found : find? id = some clock) {mux : Mux}
    (has : clock.node.mux? = some mux) : mux.parents.length ≤ 1 <<< mux.field.width := by
  have all : ∀ clock ∈ clocks, ∀ mux ∈ clock.node.mux?, mux.parents.length ≤ 1 <<< mux.field.width := by
    decide
  exact all clock (mem_of_find? found) mux has

theorem Bus.mux_inside (bus : Bus) : bus.mux.field.Inside := by
  cases bus <;> decide

/-! ### Loops of the table -/

theorem Pll.find?_id (pll : Pll) : ∃ clock, Clock.find? pll.id = some clock ∧ clock.node = .pll pll := by
  cases pll <;> exact ⟨_, rfl, rfl⟩

/-- A loop has one id only. -/
theorem Clock.id_of_pll {id : ClockId} {clock : Clock} (found : find? id = some clock) {pll : Pll}
    (isPll : clock.node = .pll pll) : id = pll.id := by
  have all : ∀ id ∈ List.range ClockId.count, ∀ clock ∈ find? id, ∀ pll ∈ Pll.all,
      clock.node = .pll pll → id = pll.id := by
    decide
  exact all id (List.mem_range.mpr (lt_count_of_find? found)) clock found pll pll.mem_all isPll

/-- The loops come first. -/
theorem Clock.isPll_iff {id : ClockId} {clock : Clock} (found : find? id = some clock) :
    (∃ pll, clock.node = .pll pll) ↔ id < ClockId.firstGate := by
  constructor
  · rintro ⟨pll, isPll⟩
    rw [id_of_pll found isPll]
    exact pll.index_lt
  · intro first
    have all : ∀ id ∈ List.range ClockId.firstGate, ∀ clock ∈ find? id, ∃ pll ∈ Pll.all, clock.node = .pll pll := by
      decide
    obtain ⟨pll, _, isPll⟩ := all id (List.mem_range.mpr first) clock found
    exact ⟨pll, isPll⟩

/-! ### Registers of the table -/

def Register.isControlWord : Register → Bool
  | .pll .. => true
  | _ => false

theorem Clock.mux_register {id : ClockId} {clock : Clock} (found : find? id = some clock) {mux : Mux}
    (has : clock.node.mux? = some mux) : mux.register.isControlWord = false := by
  have all : ∀ clock ∈ clocks, ∀ mux ∈ clock.node.mux?, mux.register.isControlWord = false := by decide
  exact all clock (mem_of_find? found) mux has

/-- A selector that is not that of a bus clock shares no bit with one. -/
theorem Clock.mux_apart {id : ClockId} {clock : Clock} (found : find? id = some clock) {mux : Mux}
    (has : clock.node.mux? = some mux) (plain : id.isBusMux = false) (bus : Bus) :
    mux.register ≠ .clksel0 ∨ Field.Disjoint bus.mux.field mux.field := by
  have all : ∀ id ∈ List.range ClockId.count, ∀ clock ∈ find? id, ∀ mux ∈ clock.node.mux?,
      ClockId.isBusMux id = false → ∀ bus ∈ [Bus.ca35, .sysclk0, .sysclk1],
        mux.register ≠ .clksel0 ∨ Field.Disjoint bus.mux.field mux.field := by
    decide
  have known := List.mem_range.mpr (lt_count_of_find? found)
  exact all id known clock found mux has plain bus (by cases bus <;> decide)

/-- Enable bits lie neither in a control word nor beside a bus selector. -/
theorem Clock.switch_register {id : ClockId} {clock : Clock} (found : find? id = some clock) {switch : Switch}
    (has : clock.node.switch? = some switch) :
    switch.register.isControlWord = false ∧ switch.register ≠ .clksel0 := by
  have all : ∀ clock ∈ clocks, ∀ switch ∈ clock.node.switch?,
      switch.register.isControlWord = false ∧ switch.register ≠ .clksel0 := by
    decide
  exact all clock (mem_of_find? found) switch has

theorem sdhSelector?_cases {id : ClockId} {field : Field} (routes : sdhSelector? id = some field) :
    (id = ClockId.sdh0Gate ∧ field = SelectField.sdh0) ∨ (id = ClockId.sdh1Gate ∧ field = SelectField.sdh1) := by
  unfold sdhSelector? at routes
  split at routes
  next same => exact .inl ⟨same, (Option.some.inj routes).symm⟩
  next =>
    split at routes
    next same => exact .inr ⟨same, (Option.some.inj routes).symm⟩
    next => cases routes

theorem sdhSelector_disjoint {id : ClockId} {field : Field} (routes : sdhSelector? id = some field)
    (bus : Bus) : Field.Disjoint bus.mux.field field := by
  rcases sdhSelector?_cases routes with ⟨_, rfl⟩ | ⟨_, rfl⟩
  all_goals cases bus <;> decide

/-- What the registers are there for. -/
inductive Register.Role where
  | enable
  | select
  | divide
  | control
  | other
deriving DecidableEq

def Register.role : Register → Role
  | .pwrctl | .sysclk0 | .sysclk1 | .apbclk0 | .apbclk1 | .apbclk2 => .enable
  | .clksel0 | .clksel1 | .clksel2 | .clksel3 | .clksel4 => .select
  | .clkdiv0 | .clkdiv1 | .clkdiv2 | .clkdiv3 | .clkdiv4 => .divide
  | .pll .. => .control
  | _ => .other

theorem Clock.role_mux {id : ClockId} {clock : Clock} (found : find? id = some clock) {mux : Mux}
    (has : clock.node.mux? = some mux) : mux.register.role = .select := by
  have all : ∀ clock ∈ clocks, ∀ mux ∈ clock.node.mux?, mux.register.role = .select := by decide
  exact all clock (mem_of_find? found) mux has

theorem Clock.role_divider {id : ClockId} {clock : Clock} (found : find? id = some clock) {divider : Divider}
    (has : clock.node.divider? = some divider) : divider.register.role = .divide := by
  have all : ∀ clock ∈ clocks, ∀ divider ∈ clock.node.divider?, divider.register.role = .divide := by decide
  exact all clock (mem_of_find? found) divider has

theorem Clock.role_switch {id : ClockId} {clock : Clock} (found : find? id = some clock) {switch : Switch}
    (has : clock.node.switch? = some switch) : switch.register.role = .enable := by
  have all : ∀ clock ∈ clocks, ∀ switch ∈ clock.node.switch?, switch.register.role = .enable := by decide
  exact all clock (mem_of_find? found) switch has

/-- Two selectors of the table are the same field, or they have no bit in common. -/
theorem Clock.mux_same_or_apart {x y : ClockId} {left right : Clock} (foundLeft : find? x = some left)
    (foundRight : find? y = some right) {mux other : Mux} (has : left.node.mux? = some mux)
    (hasOther : right.node.mux? = some other) :
    (mux.register = other.register ∧ mux.field = other.field) ∨ mux.register ≠ other.register ∨
      Field.Disjoint mux.field other.field := by
  have all : ∀ mux ∈ clocks.filterMap (·.node.mux?), ∀ other ∈ clocks.filterMap (·.node.mux?),
      (mux.register = other.register ∧ mux.field = other.field) ∨ mux.register ≠ other.register ∨
        Field.Disjoint mux.field other.field := by
    decide
  exact all mux (List.mem_filterMap.mpr ⟨left, mem_of_find? foundLeft, has⟩) other
    (List.mem_filterMap.mpr ⟨right, mem_of_find? foundRight, hasOther⟩)

theorem Bus.exists_mux (bus : Bus) : ∃ id clock, Clock.find? id = some clock ∧ clock.node.mux? = some bus.mux := by
  cases bus with
  | ca35 => exact ⟨ClockId.ca35Mux, _, rfl, rfl⟩
  | sysclk0 => exact ⟨ClockId.sysclk0Mux, _, rfl, rfl⟩
  | sysclk1 => exact ⟨ClockId.sysclk1Mux, _, rfl, rfl⟩

/-! ### Reading them -/

theorem Field.Inside.shift_lt {field : Field} (inside : field.Inside) : field.shift < 32 := by
  obtain ⟨positive, _, ends⟩ := inside
  omega

theorem Field.Inside.checkedRead_eq {field : Field} (inside : field.Inside) (word : Word) :
    field.checkedRead word = .ok (field.read word) :=
  Field.checkedRead_eq inside.shift_lt inside.2.1 word

theorem Field.Inside.checkedMask_eq {field : Field} (inside : field.Inside) :
    field.checkedMask = .ok field.mask :=
  Field.checkedMask_eq inside.shift_lt inside.2.1

/-- The number of a parent fits its selector. It is moved into place uncut. -/
theorem Clock.parent_fits {id : ClockId} {clock : Clock} (found : find? id = some clock) {mux : Mux}
    (has : clock.node.mux? = some mux) {parent : Nat} (inRange : parent < mux.parents.length) :
    parent < 1 <<< mux.field.width :=
  Nat.lt_of_lt_of_le inRange (parents_le found has)

theorem Clock.checkedPlace_eq {id : ClockId} {clock : Clock} (found : find? id = some clock) {mux : Mux}
    (has : clock.node.mux? = some mux) {parent : Nat} (inRange : parent < mux.parents.length) :
    mux.field.checkedPlace parent = .ok (mux.field.encode parent) := by
  rw [Field.checkedPlace_eq (mux_inside found has).shift_lt,
    Field.shiftLeft_eq_encode (parent_fits found has inRange)]

theorem Mux.selected_eq {mux : Mux} (inside : mux.field.Inside) (word : Word) :
    mux.selected word = .ok (mux.parents[mux.field.read word]?.getD .unspecified) := by
  rw [selected, selector, inside.checkedRead_eq, Checked.ok_bind]
  rfl

theorem Divider.ratio_eq {divider : Divider} (inside : divider.field.Inside) (word : Word) :
    divider.ratio word = .ok (ratioOf divider.table (divider.field.read word)) := by
  rw [ratio, inside.checkedRead_eq, Checked.ok_bind]
  rfl

/-! ### Bus clocks -/

/-- What a bus clock can follow is an oscillator or a loop, never another bus clock. -/
theorem Bus.source_of_parent {bus : Bus} {root : Root} (member : root ∈ bus.mux.parents) (other : Bus) :
    root.source ≠ .bus other := by
  cases bus <;> cases root <;> first | (exfalso; revert member; decide) | nofun

theorem Bus.source_of_selected {bus : Bus} {word : Word} {root : Root}
    (selects : bus.mux.selected word = .ok root) (other : Bus) : root.source ≠ .bus other := by
  rw [Mux.selected_eq bus.mux_inside] at selects
  cases selects
  cases found : bus.mux.parents[bus.mux.field.read word]? with
  | none => nofun
  | some parent => exact source_of_parent (List.mem_of_getElem? found) other

/-- An id with a bus selector names the selector that the bus clock follows. -/
theorem Clock.mux_of_isBusMux {id : ClockId} {clock : Clock} (found : find? id = some clock) {mux : Mux}
    (has : clock.node.mux? = some mux) (isBus : id.isBusMux = true) : ∃ bus : Bus, mux = bus.mux := by
  have named : (id = ClockId.ca35Mux ∨ id = ClockId.sysclk0Mux) ∨ id = ClockId.sysclk1Mux := by
    simpa [ClockId.isBusMux] using isBus
  rcases named with (rfl | rfl) | rfl
  · cases found
    cases has
    exact ⟨.ca35, rfl⟩
  · cases found
    cases has
    exact ⟨.sysclk0, rfl⟩
  · cases found
    cases has
    exact ⟨.sysclk1, rfl⟩

end ClockController
