import ClockController.Proofs.Effects

/-!
# ClockController.Proofs.WrittenFields

Which bits of the register block a write can change.

A write of a field changes the bits of the field. Programming a loop replaces whole control words, but the words
that are written agree with the ones before outside the fields of the mode: a solution has no bit elsewhere.

## Main definitions

`Field.AgreeOutside`: two words agree in every bit outside some fields.
`RegisterField`: a field of a register.
`RegisterBlock.AgreeOutside`: two blocks agree in every bit outside some fields.
`Mode.fields`: the fields of the control words that belong to a mode.

## Main results

`solution_inside_fields`: a solution has no bit outside the fields of its mode.
`ControlWords.agreeOutside_merge`: merging a solution changes no other bit.
`RegisterBlock.agreeOutside_programmed`: neither does programming a loop.
`RegisterBlock.AgreeOutside.read_eq`: a field apart from the written ones keeps its value.
-/

namespace ClockController

/-! ### Words -/

namespace Field

/-- The words agree in every bit that lies in none of the fields. -/
def AgreeOutside (fields : List Field) (before after : Word) : Prop :=
  ∀ bit, (∀ field ∈ fields, field.mask.getLsbD bit = false) → after.getLsbD bit = before.getLsbD bit

instance (fields : List Field) (before after : Word) : Decidable (AgreeOutside fields before after) :=
  decidable_of_iff (∀ bit : Fin 32, (∀ field ∈ fields, field.mask.getLsbD bit = false) →
      after.getLsbD bit = before.getLsbD bit) <| by
    refine ⟨fun agree bit outside => ?_, fun agree bit => agree bit⟩
    by_cases within : bit < 32
    · exact agree ⟨bit, within⟩ outside
    · have beyond := Nat.le_of_not_lt within
      rw [BitVec.getLsbD_of_ge before bit beyond, BitVec.getLsbD_of_ge after bit beyond]

namespace AgreeOutside

variable {fields : List Field} {before middle after : Word}

theorem refl (fields : List Field) (word : Word) : AgreeOutside fields word word :=
  fun _ _ => rfl

theorem trans (first : AgreeOutside fields before middle) (second : AgreeOutside fields middle after) :
    AgreeOutside fields before after :=
  fun bit outside => (second bit outside).trans (first bit outside)

theorem mono (agree : AgreeOutside fields before after) {more : List Field} (included : fields ⊆ more) :
    AgreeOutside more before after :=
  fun bit outside => agree bit fun field member => outside field (included member)

theorem clear (agree : AgreeOutside fields before after) {field : Field} (member : field ∈ fields) :
    AgreeOutside fields before (field.clear after) := by
  intro bit outside
  rw [getLsbD_clear, outside field member, Bool.not_false, Bool.and_true]
  exact agree bit outside

theorem write (agree : AgreeOutside fields before after) {field : Field} (member : field ∈ fields)
    (value : Nat) : AgreeOutside fields before (field.write value after) :=
  fun bit outside =>
    (field.getLsbD_write_of_not_mem value after (outside field member)).trans (agree bit outside)

/-- Setting bits changes nothing outside the fields if the bits lie inside. -/
theorem or (agree : AgreeOutside fields before after) {bits : Word} (inside : AgreeOutside fields 0 bits) :
    AgreeOutside fields before (after ||| bits) := by
  intro bit outside
  rw [BitVec.getLsbD_or, inside bit outside, BitVec.ofNat_eq_ofNat, BitVec.getLsbD_zero, Bool.or_false]
  exact agree bit outside

/-- Clearing bits changes nothing outside the fields if the bits lie inside. -/
theorem andNot (agree : AgreeOutside fields before after) {bits : Word} (inside : AgreeOutside fields 0 bits) :
    AgreeOutside fields before (after &&& ~~~bits) := by
  intro bit outside
  rw [BitVec.getLsbD_and, BitVec.getLsbD_not, inside bit outside, BitVec.ofNat_eq_ofNat, BitVec.getLsbD_zero,
    agree bit outside]
  have beyond : 32 ≤ bit → before.getLsbD bit = false := BitVec.getLsbD_of_ge before bit
  grind

end AgreeOutside

theorem agreeOutside_mask {fields : List Field} {field : Field} (member : field ∈ fields) :
    AgreeOutside fields 0 field.mask := by
  intro bit outside
  rw [outside field member, BitVec.ofNat_eq_ofNat, BitVec.getLsbD_zero]

/-- A number other than zero has bits in the field it is moved into; zero has none anywhere. -/
theorem agreeOutside_encode {fields : List Field} {field : Field} {value : Nat}
    (member : value ≠ 0 → field ∈ fields) : AgreeOutside fields 0 (field.encode value) := by
  intro bit outside
  rw [getLsbD_encode, BitVec.ofNat_eq_ofNat, BitVec.getLsbD_zero]
  by_cases zero : value = 0
  · rw [zero, Nat.zero_testBit, Bool.and_false]
  · have none := outside field (member zero)
    rw [getLsbD_mask] at none
    rw [none, Bool.false_and]

/-- A whole word as one field. -/
def whole : Field := ⟨0, 32⟩

theorem agreeOutside_whole (before after : Word) : AgreeOutside [whole] before after := by
  intro bit outside
  have beyond : 32 ≤ bit := by
    have none := outside whole (.head _)
    rw [getLsbD_mask] at none
    simpa [whole] using none
  rw [BitVec.getLsbD_of_ge before bit beyond, BitVec.getLsbD_of_ge after bit beyond]

/-- A field of words that agree outside other fields reads the same in both. -/
theorem AgreeOutside.read_eq {fields : List Field} {before after : Word}
    (agree : AgreeOutside fields before after) {field : Field}
    (apart : ∀ written ∈ fields, field.Disjoint written) : field.read after = field.read before := by
  apply Nat.eq_of_testBit_eq
  intro i
  rw [testBit_read, testBit_read]
  cases inside : decide (i < field.width) with
  | false => rfl
  | true =>
    refine congrArg (true && ·) (agree _ fun written member => ?_)
    have separate := apart written member
    unfold Disjoint at separate
    rw [getLsbD_mask]
    grind

end Field

/-! ### Register blocks -/

/-- A field of a register. -/
structure RegisterField where
  register : Register
  field : Field
deriving DecidableEq, Repr

namespace RegisterField

/-- Whether a bit of a raw word of the block lies in the field. -/
def Covers (place : RegisterField) (slot : Fin 53) (bit : Nat) : Prop :=
  place.register.slot = slot ∧ place.field.mask.getLsbD bit = true

instance (place : RegisterField) (slot : Fin 53) (bit : Nat) : Decidable (place.Covers slot bit) :=
  inferInstanceAs (Decidable (_ ∧ _))

/-- Fields without a common bit. -/
def Apart (x y : RegisterField) : Prop :=
  x.register ≠ y.register ∨ Field.Disjoint x.field y.field

instance (x y : RegisterField) : Decidable (x.Apart y) :=
  inferInstanceAs (Decidable (_ ∨ _))

/-- Fields of registers that are there for different things. -/
theorem apart_of_role {x y : RegisterField} (roles : x.register.role ≠ y.register.role) : x.Apart y :=
  .inl fun same => roles (congrArg Register.role same)

def read (registers : RegisterBlock) (place : RegisterField) : Nat :=
  place.field.read (registers.read place.register)

end RegisterField

namespace RegisterBlock

/-- A bit of a raw word, mapped or not. -/
def bit (registers : RegisterBlock) (slot : Fin 53) (bit : Nat) : Bool :=
  registers.words[slot].getLsbD bit

/-- The blocks agree in every bit of every raw word that lies in none of the fields. -/
def AgreeOutside (fields : List RegisterField) (before after : RegisterBlock) : Prop :=
  ∀ (slot : Fin 53) (bit : Nat), (∀ place ∈ fields, ¬ place.Covers slot bit) →
    after.bit slot bit = before.bit slot bit

/-- The fields of one register among fields of the block. -/
def fieldsIn (register : Register) (fields : List RegisterField) : List Field :=
  (fields.filter fun place => place.register = register).map RegisterField.field

theorem mem_fieldsIn {register : Register} {fields : List RegisterField} {field : Field} :
    field ∈ fieldsIn register fields ↔ ⟨register, field⟩ ∈ fields := by
  simp only [fieldsIn, List.mem_map, List.mem_filter, decide_eq_true_eq]
  constructor
  · rintro ⟨place, ⟨member, rfl⟩, rfl⟩
    exact member
  · exact fun member => ⟨_, ⟨member, rfl⟩, rfl⟩

namespace AgreeOutside

variable {fields more : List RegisterField} {before middle after : RegisterBlock}

theorem refl (fields : List RegisterField) (registers : RegisterBlock) :
    AgreeOutside fields registers registers :=
  fun _ _ _ => rfl

theorem trans (first : AgreeOutside fields before middle) (second : AgreeOutside fields middle after) :
    AgreeOutside fields before after :=
  fun slot bit outside => (second slot bit outside).trans (first slot bit outside)

theorem mono (agree : AgreeOutside fields before after) (included : fields ⊆ more) :
    AgreeOutside more before after :=
  fun slot bit outside => agree slot bit fun place member => outside place (included member)

/-- A write reaches one raw word, and there it counts what the old and the new word have in common. -/
theorem write (registers : RegisterBlock) {register : Register} {value : Word}
    (agree : Field.AgreeOutside (fieldsIn register fields) (registers.read register) value) :
    AgreeOutside fields registers (registers.write register value) := by
  intro slot bit outside
  simp only [RegisterBlock.bit, RegisterBlock.write, Fin.getElem_fin, Vector.getElem_set]
  split
  next same =>
    obtain rfl : register.slot = slot := Fin.ext same
    refine agree bit fun field member => ?_
    have clear := outside _ (mem_fieldsIn.mp member)
    exact Bool.eq_false_iff.mpr fun covers => clear ⟨rfl, covers⟩
  next => rfl

theorem read (agree : AgreeOutside fields before after) (register : Register) :
    Field.AgreeOutside (fieldsIn register fields) (before.read register) (after.read register) := by
  intro bit outside
  refine agree register.slot bit fun place member covers => ?_
  have same : place.register = register := Register.slot_injective covers.1
  subst same
  have clear := outside place.field (mem_fieldsIn.mpr member)
  rw [covers.2] at clear
  cases clear

/-- A field apart from the written ones keeps its value. -/
theorem read_eq (agree : AgreeOutside fields before after) {place : RegisterField}
    (apart : ∀ written ∈ fields, place.Apart written) : place.read after = place.read before := by
  refine (agree.read place.register).read_eq fun field member => ?_
  exact (apart _ (mem_fieldsIn.mp member)).resolve_left (not_not_intro rfl)

/-- A register without a written field keeps its word. -/
theorem read_register (agree : AgreeOutside fields before after) {register : Register}
    (apart : ∀ written ∈ fields, written.register ≠ register) : after.read register = before.read register := by
  apply BitVec.eq_of_getLsbD_eq
  intro bit _
  exact agree.read register bit fun field member => absurd rfl (apart _ (mem_fieldsIn.mp member))

end AgreeOutside

/-- Writing a field changes that field. -/
theorem agreeOutside_write_field (registers : RegisterBlock) (register : Register) (field : Field) (value : Nat) :
    AgreeOutside [⟨register, field⟩] registers
      (registers.write register (field.write value (registers.read register))) :=
  .write registers ((Field.AgreeOutside.refl _ _).write (mem_fieldsIn.mpr (.head _)) value)

end RegisterBlock

/-! ### Control words -/

/-- The fields that belong to a mode: programming a loop in the mode replaces them, and nothing else. -/
def Mode.fields : Mode → ControlWord → List Field
  | .integer, .ctl0 | .fixedRatio, .ctl0 | .fractional, .ctl0 =>
    [PllField.mode, PllField.input, PllField.feedback]
  | .spreadSpectrum, .ctl0 => [PllField.mode, PllField.input, PllField.feedback, PllField.spreadRate]
  | .integer, .ctl1 | .fixedRatio, .ctl1 => [PllField.output]
  | .fractional, .ctl1 | .spreadSpectrum, .ctl1 => [PllField.output, PllField.fraction]
  | .integer, .ctl2 | .fixedRatio, .ctl2 | .fractional, .ctl2 => []
  -- The slope has the third word to itself.
  | .spreadSpectrum, .ctl2 => [Field.whole]

def ControlWords.get (words : ControlWords) : ControlWord → Word
  | .ctl0 => words.ctl0
  | .ctl1 => words.ctl1
  | .ctl2 => words.ctl2

theorem ControlWords.ext_get {x y : ControlWords} (same : ∀ word, x.get word = y.get word) : x = y := by
  cases x
  cases y
  cases same .ctl0
  cases same .ctl1
  cases same .ctl2
  rfl

/-- The words have no bit outside the fields of a mode. -/
def ControlWords.InsideFields (mode : Mode) (words : ControlWords) : Prop :=
  ∀ word, Field.AgreeOutside (mode.fields word) 0 (words.get word)

/-- Merging words that stay inside the fields of the mode changes no other bit. -/
theorem ControlWords.agreeOutside_merge (mode : Mode) (current : ControlWords) {solved : ControlWords}
    (inside : solved.InsideFields mode) (word : ControlWord) :
    Field.AgreeOutside (mode.fields word) (current.get word) ((merge mode current solved).get word) := by
  have bits := inside word
  have start := Field.AgreeOutside.refl (mode.fields word) (current.get word)
  cases word with
  | ctl0 =>
    have cleared {fields : List Field} (agree : Field.AgreeOutside fields current.ctl0 current.ctl0)
        (modeMember : PllField.mode ∈ fields) (input : PllField.input ∈ fields)
        (feedback : PllField.feedback ∈ fields) := ((agree.write modeMember mode.bits).clear input).clear feedback
    cases mode with
    | spreadSpectrum =>
      exact ((cleared start (by decide) (by decide) (by decide)).clear (by decide)).or bits
    | _ => exact (cleared start (by decide) (by decide) (by decide)).or bits
  | ctl1 =>
    cases mode with
    | integer | fixedRatio => exact (start.clear (by decide)).or bits
    | fractional | spreadSpectrum => exact ((start.clear (by decide)).clear (by decide)).or bits
  | ctl2 =>
    cases mode with
    | spreadSpectrum => exact Field.agreeOutside_whole _ _
    | _ => exact start

/-! ### Solutions -/

/-- A packed setting stays inside the fields of a mode that has what the setting uses. -/
theorem Setting.words_insideFields {mode : Mode} {setting : Setting}
    (fraction : setting.fraction ≠ 0 → mode = .fractional ∨ mode = .spreadSpectrum)
    (spreadRate : setting.spreadRate ≠ 0 → mode = .spreadSpectrum)
    (slope : setting.slope ≠ 0 → mode = .spreadSpectrum) : setting.words.InsideFields mode := by
  intro word
  cases word with
  | ctl0 =>
    refine ((Field.agreeOutside_encode fun used => ?_).or (Field.agreeOutside_encode fun _ => ?_)).or
      (Field.agreeOutside_encode fun _ => ?_)
    · cases spreadRate used
      decide
    · cases mode <;> decide
    · cases mode <;> decide
  | ctl1 =>
    refine (Field.agreeOutside_encode fun _ => ?_).or (Field.agreeOutside_encode fun used => ?_)
    · cases mode <;> decide
    · rcases fraction used with rfl | rfl <;> decide
  | ctl2 =>
    by_cases spread : mode = .spreadSpectrum
    · subst spread
      exact Field.agreeOutside_whole _ _
    · exact Field.agreeOutside_encode fun used => absurd (slope used) spread

theorem Solution.fallback_insideFields (mode : Mode) : Solution.fallback.words.InsideFields mode := by
  have packed : Solution.fallback.words = Setting.words { input := 3, feedback := 250, output := 2 } := rfl
  rw [packed]
  exact Setting.words_insideFields (absurd rfl) (absurd rfl) (absurd rfl)

/-- A solution has no bit outside the fields of its mode. -/
theorem solution_inside_fields {derivesSpread : Bool} {mode : Mode} {reference target : Nat} {solution : Solution}
    (solves : (solve derivesSpread mode reference target).run = .ok (.ok solution)) :
    solution.words.InsideFields mode := by
  cases mode with
  | fractional =>
    -- The search of this mode has no spread to pack, which its origin alone does not say.
    rcases solveFractional_cases reference target with ⟨reason, ends⟩ | ends |
      ⟨dividers, output, rate, _, _, _, ends⟩
    · cases ends.symm.trans solves
    · cases ends.symm.trans solves
      exact Solution.fallback_insideFields _
    · cases ends.symm.trans solves
      exact Setting.words_insideFields (fun _ => .inl rfl) (absurd rfl) (absurd rfl)
  | integer =>
    cases solved_of_solve solves with
    | fallback => exact Solution.fallback_insideFields _
    | integer => exact Setting.words_insideFields (absurd rfl) (absurd rfl) (absurd rfl)
    | fractional modes => rcases modes with same | same <;> cases same
  | spreadSpectrum =>
    cases solved_of_solve solves with
    | fallback => exact Solution.fallback_insideFields _
    | slow => intro word; cases word <;> decide
    | fast => intro word; cases word <;> decide
    | fractional => exact Setting.words_insideFields (fun _ => .inr rfl) (fun _ => rfl) (fun _ => rfl)
  | fixedRatio => cases solves

/-! ### Programmed loops -/

/-- The fields of a loop that belong to a mode. -/
def Pll.fields (pll : Pll) (mode : Mode) : List RegisterField :=
  [.ctl0, .ctl1, .ctl2].flatMap fun word => (mode.fields word).map (⟨.pll pll word, ·⟩)

namespace RegisterBlock

theorem fields_subset_fieldsIn (pll : Pll) (mode : Mode) (word : ControlWord) :
    mode.fields word ⊆ fieldsIn (.pll pll word) (pll.fields mode) := by
  intro field member
  refine mem_fieldsIn.mpr (List.mem_flatMap.mpr ⟨word, ?_, List.mem_map.mpr ⟨field, member, rfl⟩⟩)
  cases word <;> decide

/-- Programming a loop with words that agree with its own outside the fields of the mode. -/
theorem agreeOutside_programmed (registers : RegisterBlock) (pll : Pll) {mode : Mode} {words : ControlWords}
    (kept : ∀ word, Field.AgreeOutside (mode.fields word) ((registers.controlWords pll).get word)
      (words.get word)) :
    AgreeOutside (pll.fields mode) registers (registers.programmed pll mode words) := by
  have agree (word : ControlWord) := (kept word).mono (fields_subset_fieldsIn pll mode word)
  have first : AgreeOutside (pll.fields mode) registers (registers.write (.pll pll .ctl0) words.ctl0) :=
    .write registers (agree .ctl0)
  have second : AgreeOutside (pll.fields mode) (registers.write (.pll pll .ctl0) words.ctl0)
      ((registers.write (.pll pll .ctl0) words.ctl0).write (.pll pll .ctl1) words.ctl1) := by
    refine .write _ ?_
    rw [read_write, if_neg nofun]
    exact agree .ctl1
  unfold programmed
  dsimp only
  split
  next =>
    refine (first.trans second).trans (.write _ ?_)
    rw [read_write, if_neg nofun, read_write, if_neg nofun]
    exact agree .ctl2
  next => exact first.trans second

end RegisterBlock

end ClockController
