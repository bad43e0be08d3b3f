import ClockController.Synthesis.Integer
import Mathlib.Data.List.Induction

/-!
# ClockController.Proofs.Synthesis.ExhaustiveSearch

The search for whole dividers against one that leaves nothing out.

The search tests a band once for all the dividers behind it, stops at an exact candidate, and leaves a pair of
input and feedback divider as soon as its outputs can only fall further below the target. The exhaustive search
looks at every choice of dividers by itself.

## Main definitions

`IntegerSearch.exhaustive`: the search that leaves nothing out.
`IntegerSearch.Dividers.FirstClosest`: the first of the admissible dividers that are closest to a target.

## Main results

`IntegerSearch.search_eq_exhaustive`: both searches have the same result.
`IntegerSearch.search_cases`: that result is the first of the closest dividers, if any are admissible.
`IntegerSearch.Dividers.FirstClosest.unique`: there is only one first choice.
`IntegerSearch.exists_admissible_iff`: the references that have admissible dividers.
-/

namespace ClockController

namespace IntegerSearch

/-! ### Admissible dividers -/

namespace Dividers

/-- The input of the phase detector, rounded down. -/
def detector (reference : Nat) (dividers : Dividers) : Nat :=
  reference / dividers.input

/-- The rate of the oscillator for the rounded input. -/
def oscillator (reference : Nat) (dividers : Dividers) : Nat :=
  dividers.detector reference * dividers.feedback

/-- The rate by which the search ranks dividers. -/
def ranked (reference : Nat) (dividers : Dividers) : Nat :=
  dividers.oscillator reference / dividers.output

/-- Dividers that the search visits and that pass every band. -/
structure Admissible (reference : Nat) (dividers : Dividers) : Prop where
  input : dividers.input ∈ inputDividers
  feedback : dividers.feedback ∈ feedbackDividers
  output : dividers.output ∈ outputDividers
  detector : dividers.detector reference ∈ Band.phaseDetector
  oscillator : dividers.oscillator reference ∈ Band.oscillator
  ranked : dividers.ranked reference ∈ Band.output

end Dividers

theorem mem_inputDividers {divider : Nat} : divider ∈ inputDividers ↔ 1 ≤ divider ∧ divider ≤ 63 := by
  simp only [inputDividers, List.mem_range'_1]
  omega

theorem mem_feedbackDividers {divider : Nat} :
    divider ∈ feedbackDividers ↔ 16 ≤ divider ∧ divider ≤ 2047 := by
  simp only [feedbackDividers, List.mem_range'_1]
  omega

theorem mem_outputDividers {divider : Nat} : divider ∈ outputDividers ↔ 1 ≤ divider ∧ divider ≤ 7 := by
  simp only [outputDividers, List.mem_range'_1]
  omega

/-- A candidate whose dividers are admissible and whose distance is that of their rate. -/
structure Candidate.Sound (reference target : Nat) (candidate : Candidate) : Prop where
  admissible : candidate.dividers.Admissible reference
  distance : candidate.distance = IntegerSearch.distance (candidate.dividers.ranked reference) target

/-! ### The search that leaves nothing out -/

instance (reference : Nat) (dividers : Dividers) : Decidable (dividers.Admissible reference) :=
  decidable_of_iff
    ((dividers.input ∈ inputDividers ∧ dividers.feedback ∈ feedbackDividers ∧
      dividers.output ∈ outputDividers) ∧
      dividers.detector reference ∈ Band.phaseDetector ∧ dividers.oscillator reference ∈ Band.oscillator ∧
      dividers.ranked reference ∈ Band.output)
    ⟨fun ⟨⟨input, feedback, output⟩, detector, oscillator, ranked⟩ =>
      { input, feedback, output, detector, oscillator, ranked },
      fun admissible => ⟨⟨admissible.input, admissible.feedback, admissible.output⟩, admissible.detector,
        admissible.oscillator, admissible.ranked⟩⟩

/-- The best candidate after one more choice of dividers, with all of its bands tested. -/
def consider (reference target : Nat) (best : Option Candidate) (dividers : Dividers) : Option Candidate :=
  if dividers.Admissible reference ∧ improves (distance (dividers.ranked reference) target) best then
    some ⟨dividers, distance (dividers.ranked reference) target⟩
  else
    best

/-- The choices with a pair of input and feedback divider. -/
def pairChoices (input feedback : Nat) : List Dividers :=
  outputDividers.map (Dividers.mk input feedback)

def inputChoices (input : Nat) : List Dividers :=
  feedbackDividers.flatMap (pairChoices input)

/-- Every choice of dividers, in the order of the search. -/
def choices : List Dividers :=
  inputDividers.flatMap inputChoices

def exhaustive (reference target : Nat) : Option Candidate :=
  choices.foldl (consider reference target) none

/-! ### What may be left out -/

variable {reference target : Nat}

theorem consider_of_improves {dividers : Dividers} {best : Option Candidate}
    (admissible : dividers.Admissible reference)
    (closer : improves (distance (dividers.ranked reference) target) best = true) :
    consider reference target best dividers = some ⟨dividers, distance (dividers.ranked reference) target⟩ :=
  if_pos ⟨admissible, closer⟩

theorem consider_of_not_admissible {dividers : Dividers} (outside : ¬ dividers.Admissible reference)
    (best : Option Candidate) : consider reference target best dividers = best :=
  if_neg fun both => outside both.1

theorem consider_of_not_improves {dividers : Dividers} {best : Option Candidate}
    (farther : improves (distance (dividers.ranked reference) target) best = false) :
    consider reference target best dividers = best :=
  if_neg fun both => by simp [farther] at both

theorem improves_of_isExact {best : Option Candidate} (exact : isExact best = true) (distance : Nat) :
    improves distance best = false := by
  cases best with
  | none => cases exact
  | some candidate =>
    have zero : candidate.distance = 0 := by simpa [isExact] using exact
    simp [improves, zero]

/-- What does not improve a candidate is no closer, and neither is anything farther away. -/
theorem improves_mono {near far : Nat} {best : Option Candidate} (rejected : improves near best = false)
    (le : near ≤ far) : improves far best = false := by
  cases best with
  | none => cases rejected
  | some candidate =>
    simp only [improves, decide_eq_false_iff_not, Nat.not_lt] at rejected ⊢
    exact Nat.le_trans rejected le

/-- Choices none of which is taken leave the best candidate as it is. -/
theorem foldl_consider_of_idle {best : Option Candidate} {list : List Dividers}
    (idle : ∀ dividers ∈ list, consider reference target best dividers = best) :
    list.foldl (consider reference target) best = best := by
  induction list with
  | nil => rfl
  | cons dividers rest ih =>
    rw [List.foldl_cons, idle dividers List.mem_cons_self]
    exact ih fun other member => idle other (List.mem_cons_of_mem dividers member)

theorem foldl_consider_of_isExact {best : Option Candidate} (exact : isExact best = true)
    (list : List Dividers) : list.foldl (consider reference target) best = best :=
  foldl_consider_of_idle fun _ _ => consider_of_not_improves (improves_of_isExact exact _)

/-- A sweep stops at an exact candidate, which no later choice could replace. -/
theorem sweep_eq {visit : Nat → Option Candidate → Checked (Option Candidate)}
    {choicesOf : Nat → List Dividers} {values : List Nat}
    (visits : ∀ value ∈ values, ∀ best,
      visit value best = .ok ((choicesOf value).foldl (consider reference target) best))
    (best : Option Candidate) :
    sweep visit values best = .ok ((values.flatMap choicesOf).foldl (consider reference target) best) := by
  induction values generalizing best with
  | nil => rfl
  | cons value rest ih =>
    rw [sweep]
    split
    next exact => rw [foldl_consider_of_isExact exact]
    next =>
      rw [visits value List.mem_cons_self, Checked.ok_bind, List.flatMap_cons, List.foldl_append]
      exact ih (fun other member => visits other (List.mem_cons_of_mem value member)) _

/-- Below the target a larger output divider is farther away. -/
theorem distance_le_of_div {oscillator output larger : Nat} (positive : 0 < output) (lt : output < larger)
    (below : oscillator / output < target) :
    distance (oscillator / output) target ≤ distance (oscillator / larger) target := by
  have falls : oscillator / larger ≤ oscillator / output := Nat.div_le_div_left (Nat.le_of_lt lt) positive
  unfold distance
  omega

theorem visitOutputs_eq {input feedback : Nat} {outputs : List Nat} (rising : outputs.Pairwise (· < ·))
    (positive : ∀ output ∈ outputs, 0 < output)
    (admissible_iff : ∀ output ∈ outputs, Dividers.Admissible reference ⟨input, feedback, output⟩ ↔
      reference / input * feedback / output ∈ Band.output)
    (best : Option Candidate) :
    visitOutputs target input feedback (reference / input * feedback) outputs best =
      .ok ((outputs.map (Dividers.mk input feedback)).foldl (consider reference target) best) := by
  induction outputs generalizing best with
  | nil => rfl
  | cons output rest ih =>
    have go := ih rising.of_cons (fun other member => positive other (List.mem_cons_of_mem output member))
      (fun other member => admissible_iff other (List.mem_cons_of_mem output member))
    have outputPositive := positive output List.mem_cons_self
    have inBand_iff := admissible_iff output List.mem_cons_self
    rw [visitOutputs, Checked.div_of_pos outputPositive, Checked.ok_bind, List.map_cons, List.foldl_cons]
    split
    next inBand =>
      split
      next closer =>
        have taken : consider reference target best ⟨input, feedback, output⟩ =
            some ⟨⟨input, feedback, output⟩, distance (reference / input * feedback / output) target⟩ :=
          consider_of_improves (inBand_iff.mpr inBand) closer
        rw [taken]
        dsimp only
        split
        next exact => rw [foldl_consider_of_isExact exact]; rfl
        next => exact go _
      next notCloser =>
        have farther : improves (distance (reference / input * feedback / output) target) best = false :=
          Bool.not_eq_true _ ▸ notCloser
        have kept : consider reference target best ⟨input, feedback, output⟩ = best :=
          consider_of_not_improves farther
        rw [kept]
        split
        -- The dividers that are left out are larger, and the rate is below the target already.
        next below =>
          rw [foldl_consider_of_idle]
          · rfl
          · intro dividers member
            obtain ⟨larger, later, rfl⟩ := List.mem_map.mp member
            have lt := List.rel_of_pairwise_cons rising later
            exact consider_of_not_improves (improves_mono farther (distance_le_of_div outputPositive lt below))
        next => exact go best
    next outside =>
      rw [consider_of_not_admissible (fun admissible => outside (inBand_iff.mp admissible))]
      exact go best

theorem visitFeedback_eq {input feedback : Nat} (inputVisited : input ∈ inputDividers)
    (feedbackVisited : feedback ∈ feedbackDividers) (detector : reference / input ∈ Band.phaseDetector)
    (best : Option Candidate) :
    visitFeedback target input (reference / input) feedback best =
      .ok ((pairChoices input feedback).foldl (consider reference target) best) := by
  have product : reference / input * feedback < rateBound := calc
    reference / input * feedback ≤ 40_000_000 * 2047 :=
      Nat.mul_le_mul detector.2 (mem_feedbackDividers.mp feedbackVisited).2
    _ < rateBound := by decide
  rw [visitFeedback, Checked.mul_of_lt product, Checked.ok_bind]
  split
  next oscillator =>
    refine visitOutputs_eq (List.pairwise_lt_range' 1) (fun _ member => (mem_outputDividers.mp member).1) ?_ best
    intro output outputVisited
    exact ⟨fun admissible => admissible.ranked, fun ranked =>
      ⟨inputVisited, feedbackVisited, outputVisited, detector, oscillator, ranked⟩⟩
  next outside =>
    -- No output divider could bring the oscillator into its band.
    rw [foldl_consider_of_idle]
    · rfl
    · intro dividers member
      obtain ⟨output, _, rfl⟩ := List.mem_map.mp member
      have notAdmissible : ¬ Dividers.Admissible reference ⟨input, feedback, output⟩ :=
        fun admissible => outside admissible.oscillator
      exact consider_of_not_admissible notAdmissible best

theorem visitInput_eq {input : Nat} (inputVisited : input ∈ inputDividers) (best : Option Candidate) :
    visitInput reference target input best =
      .ok ((inputChoices input).foldl (consider reference target) best) := by
  rw [visitInput, Checked.div_of_pos (mem_inputDividers.mp inputVisited).1, Checked.ok_bind]
  split
  next detector =>
    exact sweep_eq (fun _ feedbackVisited => visitFeedback_eq inputVisited feedbackVisited detector) best
  next outside =>
    rw [foldl_consider_of_idle]
    · rfl
    · intro dividers member
      obtain ⟨feedback, _, pair⟩ := List.mem_flatMap.mp member
      obtain ⟨output, _, rfl⟩ := List.mem_map.mp pair
      have notAdmissible : ¬ Dividers.Admissible reference ⟨input, feedback, output⟩ :=
        fun admissible => outside admissible.detector
      exact consider_of_not_admissible notAdmissible best

/-- Nothing that the search leaves out would have changed its result. -/
theorem search_eq_exhaustive (reference target : Nat) :
    search reference target = .ok (exhaustive reference target) :=
  sweep_eq (fun _ inputVisited => visitInput_eq inputVisited) none

/-! ### The first of the closest -/

/-- The order in which choices are looked at: by input divider, then by feedback divider, then by output
divider. -/
def Dividers.Precedes (first second : Dividers) : Prop :=
  first.input < second.input ∨
    first.input = second.input ∧
      (first.feedback < second.feedback ∨ first.feedback = second.feedback ∧ first.output < second.output)

/-- Dividers that are closer to a target than others, or as close and not behind them. -/
def Dividers.PreferredTo (reference target : Nat) (dividers other : Dividers) : Prop :=
  distance (dividers.ranked reference) target < distance (other.ranked reference) target ∨
    distance (dividers.ranked reference) target = distance (other.ranked reference) target ∧
      (dividers = other ∨ dividers.Precedes other)

/-- The first of the admissible dividers that are closest to a target. -/
structure Dividers.FirstClosest (reference target : Nat) (dividers : Dividers) : Prop where
  admissible : dividers.Admissible reference
  preferred : ∀ other : Dividers, other.Admissible reference → dividers.PreferredTo reference target other

theorem Dividers.FirstClosest.distance_le {dividers other : Dividers}
    (firstClosest : dividers.FirstClosest reference target) (admissible : other.Admissible reference) :
    distance (dividers.ranked reference) target ≤ distance (other.ranked reference) target := by
  rcases firstClosest.preferred other admissible with closer | ⟨same, _⟩
  · exact Nat.le_of_lt closer
  · exact Nat.le_of_eq same

theorem Dividers.PreferredTo.of_closer {closer dividers other : Dividers}
    (preferred : dividers.PreferredTo reference target other)
    (lt : distance (closer.ranked reference) target < distance (dividers.ranked reference) target) :
    closer.PreferredTo reference target other := by
  rcases preferred with farther | ⟨same, _⟩
  · exact .inl (Nat.lt_trans lt farther)
  · exact .inl (same ▸ lt)

theorem Dividers.Precedes.asymm {dividers other : Dividers} (ahead : dividers.Precedes other) :
    ¬ other.Precedes dividers := by
  unfold Precedes at ahead ⊢
  omega

theorem Dividers.PreferredTo.antisymm {dividers other : Dividers}
    (preferred : dividers.PreferredTo reference target other)
    (otherPreferred : other.PreferredTo reference target dividers) : dividers = other := by
  rcases preferred with closer | ⟨same, rfl | ahead⟩
  · rcases otherPreferred with otherCloser | ⟨same, _⟩
    · exact absurd otherCloser (Nat.lt_asymm closer)
    · exact absurd closer (Nat.not_lt.mpr (Nat.le_of_eq same))
  · rfl
  · rcases otherPreferred with closer | ⟨_, rfl | behind⟩
    · exact absurd closer (Nat.not_lt.mpr (Nat.le_of_eq same))
    · rfl
    · exact absurd behind ahead.asymm

/-- There is only one first choice. -/
theorem Dividers.FirstClosest.unique {dividers other : Dividers}
    (firstClosest : dividers.FirstClosest reference target) (another : other.FirstClosest reference target) :
    dividers = other :=
  (firstClosest.preferred other another.admissible).antisymm (another.preferred dividers firstClosest.admissible)

/-- The first dividers that are closest to a target are also the first that are closest to their own rank. -/
theorem Dividers.FirstClosest.at_ranked {dividers : Dividers} (firstClosest : dividers.FirstClosest reference target) :
    dividers.FirstClosest reference (dividers.ranked reference) := by
  refine ⟨firstClosest.admissible, fun other admissible => ?_⟩
  by_cases same : other.ranked reference = dividers.ranked reference
  · rcases firstClosest.preferred other admissible with closer | ⟨_, order⟩
    · rw [same] at closer
      exact absurd closer (Nat.lt_irrefl _)
    · exact .inr ⟨by rw [same], order⟩
  · left
    unfold distance
    omega

/-- The choices are listed in the order of the search. -/
theorem pairwise_choices : choices.Pairwise Dividers.Precedes := by
  rw [choices, List.pairwise_flatMap]
  constructor
  · intro input _
    rw [inputChoices, List.pairwise_flatMap]
    constructor
    · intro feedback _
      rw [pairChoices, List.pairwise_map]
      exact (List.pairwise_lt_range' 1).imp fun lt => .inr ⟨rfl, .inr ⟨rfl, lt⟩⟩
    · refine (List.pairwise_lt_range' 1).imp fun lt first firstMember second secondMember => ?_
      obtain ⟨firstOutput, _, rfl⟩ := List.mem_map.mp firstMember
      obtain ⟨secondOutput, _, rfl⟩ := List.mem_map.mp secondMember
      exact .inr ⟨rfl, .inl lt⟩
  · refine (List.pairwise_lt_range' 1).imp fun lt first firstMember second secondMember => ?_
    obtain ⟨firstFeedback, _, firstPair⟩ := List.mem_flatMap.mp firstMember
    obtain ⟨secondFeedback, _, secondPair⟩ := List.mem_flatMap.mp secondMember
    obtain ⟨firstOutput, _, rfl⟩ := List.mem_map.mp firstPair
    obtain ⟨secondOutput, _, rfl⟩ := List.mem_map.mp secondPair
    exact .inl lt

theorem Dividers.Admissible.mem_choices {dividers : Dividers} (admissible : dividers.Admissible reference) :
    dividers ∈ choices :=
  List.mem_flatMap.mpr ⟨_, admissible.input, List.mem_flatMap.mpr ⟨_, admissible.feedback,
    List.mem_map.mpr ⟨_, admissible.output, rfl⟩⟩⟩

/-- What is known of the best candidate after looking at some choices. -/
inductive Best (reference target : Nat) (seen : List Dividers) : Option Candidate → Prop
  | none (rejected : ∀ dividers ∈ seen, ¬ dividers.Admissible reference) : Best reference target seen none
  | some {candidate : Candidate} (member : candidate.dividers ∈ seen)
      (sound : candidate.Sound reference target)
      (preferred : ∀ other ∈ seen, other.Admissible reference →
        candidate.dividers.PreferredTo reference target other) :
      Best reference target seen (some candidate)

/-- Looking at one more choice, behind all the others. -/
theorem Best.consider {seen : List Dividers} {best : Option Candidate} {last : Dividers}
    (known : Best reference target seen best) (behind : ∀ other ∈ seen, other.Precedes last) :
    Best reference target (seen ++ [last]) (consider reference target best last) := by
  have lastMember : last ∈ seen ++ [last] := List.mem_append_right seen List.mem_cons_self
  by_cases admissible : last.Admissible reference
  · cases known with
    | none rejected =>
      rw [consider_of_improves admissible rfl]
      refine .some lastMember ⟨admissible, rfl⟩ (List.forall_mem_append.mpr ⟨?_, ?_⟩)
      · exact fun other earlier otherAdmissible => absurd otherAdmissible (rejected other earlier)
      · exact List.forall_mem_singleton.mpr fun _ => .inr ⟨rfl, .inl rfl⟩
    | @some candidate member sound preferred =>
      cases closer : improves (distance (last.ranked reference) target) (Option.some candidate) with
      | true =>
        rw [consider_of_improves admissible closer]
        have lt : distance (last.ranked reference) target < candidate.distance := of_decide_eq_true closer
        rw [sound.distance] at lt
        refine .some lastMember ⟨admissible, rfl⟩ (List.forall_mem_append.mpr ⟨?_, ?_⟩)
        · exact fun other earlier otherAdmissible => (preferred other earlier otherAdmissible).of_closer lt
        · exact List.forall_mem_singleton.mpr fun _ => .inr ⟨rfl, .inl rfl⟩
      | false =>
        rw [consider_of_not_improves closer]
        have le : candidate.distance ≤ distance (last.ranked reference) target :=
          Nat.not_lt.mp (of_decide_eq_false closer)
        rw [sound.distance] at le
        refine .some (List.mem_append_left _ member) sound (List.forall_mem_append.mpr ⟨preferred, ?_⟩)
        refine List.forall_mem_singleton.mpr fun _ => ?_
        -- Of two choices at the same distance the earlier one stays.
        rcases Nat.lt_or_eq_of_le le with farther | same
        · exact .inl farther
        · exact .inr ⟨same, .inr (behind _ member)⟩
  · rw [consider_of_not_admissible admissible]
    cases known with
    | none rejected =>
      exact .none (List.forall_mem_append.mpr ⟨rejected, List.forall_mem_singleton.mpr admissible⟩)
    | some member sound preferred =>
      refine .some (List.mem_append_left _ member) sound (List.forall_mem_append.mpr ⟨preferred, ?_⟩)
      exact List.forall_mem_singleton.mpr fun lastAdmissible => absurd lastAdmissible admissible

theorem best_foldl {list : List Dividers} (ordered : list.Pairwise Dividers.Precedes) :
    Best reference target list (list.foldl (IntegerSearch.consider reference target) none) := by
  induction list using List.reverseRecOn with
  | nil => exact .none nofun
  | append_singleton seen dividers ih =>
    obtain ⟨seenOrdered, _, behind⟩ := List.pairwise_append.mp ordered
    rw [List.foldl_append]
    exact (ih seenOrdered).consider fun other member => behind other member dividers List.mem_cons_self

theorem best_exhaustive (reference target : Nat) : Best reference target choices (exhaustive reference target) :=
  best_foldl pairwise_choices

/-- The search ends without a candidate if no dividers are admissible, and else with the first of the closest. -/
theorem search_cases (reference target : Nat) :
    (search reference target = .ok none ∧ ¬ ∃ dividers : Dividers, dividers.Admissible reference) ∨
      ∃ candidate, search reference target = .ok (some candidate) ∧ candidate.Sound reference target ∧
        candidate.dividers.FirstClosest reference target := by
  have best := best_exhaustive reference target
  rw [search_eq_exhaustive]
  cases found : exhaustive reference target with
  | none =>
    rw [found] at best
    cases best with
    | none rejected =>
      exact .inl ⟨rfl, fun ⟨dividers, admissible⟩ => rejected dividers admissible.mem_choices admissible⟩
  | some candidate =>
    rw [found] at best
    cases best with
    | some _ sound preferred =>
      exact .inr ⟨candidate, rfl, sound, sound.admissible,
        fun other admissible => preferred other admissible.mem_choices admissible⟩

/-! ### References with admissible dividers -/

/-- The smallest feedback divider that brings the oscillator into its band suits the smallest output divider. -/
theorem exists_admissible_of_detector {input : Nat} (inputVisited : input ∈ inputDividers)
    (detector : reference / input ∈ Band.phaseDetector) :
    ∃ dividers : Dividers, dividers.Admissible reference := by
  have slow : 1_000_000 ≤ reference / input := detector.1
  have fast : reference / input ≤ 40_000_000 := detector.2
  have quotient_ge : 15 ≤ 600_000_000 / (reference / input) :=
    (Nat.le_div_iff_mul_le (by omega)).mpr (by omega)
  have quotient_le : 600_000_000 / (reference / input) ≤ 600 := Nat.div_le_of_le_mul (by omega)
  have above : 600_000_000 < reference / input * (600_000_000 / (reference / input) + 1) :=
    Nat.lt_mul_div_succ 600_000_000 (by omega)
  have below : reference / input * (600_000_000 / (reference / input) + 1) ≤ 640_000_000 := by
    have whole := Nat.mul_div_le 600_000_000 (reference / input)
    rw [Nat.mul_add_one]
    omega
  refine ⟨⟨input, 600_000_000 / (reference / input) + 1, 1⟩, ?_⟩
  exact
    { input := inputVisited
      feedback := mem_feedbackDividers.mpr ⟨by dsimp only; omega, by dsimp only; omega⟩
      output := mem_outputDividers.mpr (show 1 ≤ 1 ∧ 1 ≤ 7 by decide)
      detector
      oscillator := ⟨Nat.le_of_lt above, Nat.le_trans below (by decide)⟩
      ranked := by
        rw [Dividers.ranked, Nat.div_one]
        exact ⟨Nat.le_trans (by decide) (Nat.le_of_lt above), Nat.le_trans below (by decide)⟩ }

theorem exists_detector_iff :
    (∃ input ∈ inputDividers, reference / input ∈ Band.phaseDetector) ↔
      1_000_000 ≤ reference ∧ reference ≤ 2_520_000_062 := by
  constructor
  · rintro ⟨input, visited, slow, fast⟩
    obtain ⟨positive, small⟩ := mem_inputDividers.mp visited
    have lower : 1_000_000 * input ≤ reference := (Nat.le_div_iff_mul_le positive).mp slow
    have upper : reference < 40_000_001 * input :=
      (Nat.div_lt_iff_lt_mul positive).mp (Nat.lt_succ_of_le fast)
    omega
  · rintro ⟨lower, upper⟩
    -- The smallest input divider that is large enough leaves at least half of the upper end.
    refine ⟨reference / 40_000_001 + 1, mem_inputDividers.mpr (by omega), ?_⟩
    have positive : 0 < reference / 40_000_001 + 1 := Nat.succ_pos _
    constructor
    · exact (Nat.le_div_iff_mul_le positive).mpr (show 1_000_000 * _ ≤ _ by omega)
    · exact Nat.le_of_lt_succ ((Nat.div_lt_iff_lt_mul positive).mpr (show _ < 40_000_001 * _ by omega))

theorem exists_admissible_iff :
    (∃ dividers : Dividers, dividers.Admissible reference) ↔ 1_000_000 ≤ reference ∧ reference ≤ 2_520_000_062 := by
  rw [← exists_detector_iff]
  constructor
  · exact fun ⟨dividers, admissible⟩ => ⟨dividers.input, admissible.input, admissible.detector⟩
  · exact fun ⟨_, visited, detector⟩ => exists_admissible_of_detector visited detector

end IntegerSearch

end ClockController
