import CoolProof.VerificationCalculation
import Mathlib.Algebra.Order.Floor.Ring
import Mathlib.Analysis.Real.Sqrt

/-! Laws of the verification in exact arithmetic. What both groups have in common, and what the
weather explains, does not change the effect; exchanging the groups changes its sign; and the
interval narrows with the sample, except that a single observation has no width at all. -/

namespace CoolProof.VerificationRuns
open JsonDocument Models Loops Binary64

/-! ## Exact values of literals -/

def exactValue (x : FloatLiteral) : ℚ :=
  if x.text.head? = some '-' then -unsignedValue (dropSign x.text) else unsignedValue x.text

example : exactValue ⟨['-', '1', '.', '2', '5'], by decide +kernel⟩ = -5 / 4 := by decide +kernel

/-- Numbers for all literals, of which the two of the code have their own values. -/
structure Reading (K : Type) [Field K] where
  value : FloatLiteral → K
  zero : value zeroLiteral = 0
  quantile : value normalQuantile = 49 / 25

theorem exactValue_zeroLiteral : exactValue zeroLiteral = 0 := by decide +kernel

theorem exactValue_normalQuantile : exactValue normalQuantile = 49 / 25 := by decide +kernel

/-- The numbers that the literals spell. -/
def exactReading (K : Type) [Field K] [CharZero K] : Reading K where
  value x := exactValue x
  zero := by rw [exactValue_zeroLiteral, Rat.cast_zero]
  quantile := by
    rw [exactValue_normalQuantile]
    norm_num

/-! ## Exact arithmetic -/

section Exact

variable {K : Type} [Field K] [LinearOrder K] [FloorRing K]

/-- Every number is finite, and nothing is rounded. -/
def exact (reading : Reading K) (sqrt : K → K) : Arithmetic K where
  parse := reading.value
  ofInt n := some n
  toInt x := if 0 ≤ x then ⌊x⌋ else ⌈x⌉
  isFinite _ := true
  eq x y := x = y
  lt x y := x < y
  le x y := x ≤ y
  add := (· + ·)
  sub := (· - ·)
  mul := (· * ·)
  div := (· / ·)
  neg := (- ·)
  abs x := |x|
  sqrt := sqrt

/-- The dictionary of the fields. -/
def valuesOf (reading : Reading K) (data : VerificationInput) : Values K where
  treatedBaseline := reading.value data.treatedBaseline
  treatedObserved := reading.value data.treatedObserved
  controlBaseline := reading.value data.controlBaseline
  controlObserved := reading.value data.controlObserved
  treatedWeatherDelta := reading.value data.treatedWeatherDelta
  controlWeatherDelta := reading.value data.controlWeatherDelta
  expectedCooling := reading.value data.expectedCooling
  treatedThresholdHoursBaseline := reading.value data.treatedThresholdHoursBaseline
  treatedThresholdHoursObserved := reading.value data.treatedThresholdHoursObserved
  controlThresholdHoursBaseline := reading.value data.controlThresholdHoursBaseline
  controlThresholdHoursObserved := reading.value data.controlThresholdHoursObserved
  totalCost := reading.value data.totalCost
  sampleSize := data.sampleSize

/-- What remains of the change of a group without its weather. -/
def treatedChange (v : Values K) : K :=
  v.treatedObserved - v.treatedBaseline - v.treatedWeatherDelta

def controlChange (v : Values K) : K :=
  v.controlObserved - v.controlBaseline - v.controlWeatherDelta

def effectOf (reading : Reading K) (data : VerificationInput) : K :=
  controlChange (valuesOf reading data) - treatedChange (valuesOf reading data)

/-- The standard error, by the size of the sample. -/
def errorOf (sqrt : K → K) (effect : K) (size : Int) : K :=
  if 1 < max 1 size then |effect| / sqrt (max 1 size : Int) else 0

variable (reading : Reading K) (sqrt : K → K)

theorem coolingEffect_exact (v : Values K) :
    coolingEffect (exact reading sqrt) v = controlChange v - treatedChange v := rfl

theorem expected_exact (v : Values K) :
    expected (exact reading sqrt) v = max 0 v.expectedCooling := by
  unfold expected
  change (if decide (reading.value zeroLiteral < v.expectedCooling) then v.expectedCooling
    else reading.value zeroLiteral) = _
  rw [reading.zero]
  by_cases positive : 0 < v.expectedCooling
  · rw [decide_eq_true positive, if_pos rfl, max_eq_right positive.le]
  · rw [decide_eq_false positive, if_neg Bool.false_ne_true, max_eq_left (not_lt.mp positive)]

variable [IsStrictOrderedRing K]

theorem sampleCount_exact (data : VerificationInput) :
    sampleCount (exact reading sqrt) (valuesOf reading data) = max 1 data.sampleSize := by
  change max 1 (if (0 : K) ≤ (data.sampleSize : K) then ⌊(data.sampleSize : K)⌋
    else ⌈(data.sampleSize : K)⌉) = _
  rw [Int.floor_intCast, Int.ceil_intCast, ite_self]

/-- Every input is accepted, with the result of its values. -/
theorem calculateVerification_exact (data : VerificationInput) :
    calculateVerification (exact reading sqrt) data =
      .ok (result (exact reading sqrt) (valuesOf reading data)
        (errorOf sqrt (effectOf reading data) data.sampleSize)) := by
  have read : values (exact reading sqrt) data = .ok (valuesOf reading data) := by
    obtain ⟨checked, passed⟩ : ∃ checked, (data.measurements.mapM fun field =>
        finite (exact reading sqrt) field.1 ((exact reading sqrt).parse field.2)) = .ok checked :=
      mapM_ok_of_turns fun field _ => ⟨_, rfl⟩
    unfold values
    rw [passed]
    rfl
  have error : standardError (exact reading sqrt) (valuesOf reading data) =
      .ok (errorOf sqrt (effectOf reading data) data.sampleSize) := by
    unfold standardError errorOf
    rw [sampleCount_exact]
    split
    · rfl
    · exact congrArg Except.ok reading.zero
  unfold calculateVerification
  rw [read]
  change (standardError (exact reading sqrt) (valuesOf reading data)).bind _ = _
  rw [error]
  rfl

end Exact

/-! ## Figures -/

section Figures

variable {F : Type} (fp : Arithmetic F) (v : Values F) (error : F)

theorem result_nodup : ((result fp v error).map Prod.fst).Nodup := by
  simp [result]

/-- A figure is found under its key. -/
theorem lookup_result {key : String} {figure : Figure F}
    (member : (key, figure) ∈ result fp v error) :
    (result fp v error).lookup key = some figure := by
  have unique := result_nodup fp v error
  generalize result fp v error = figures at member unique
  induction figures with
  | nil => cases member
  | cons first figures ih =>
    obtain ⟨fresh, rest⟩ := List.nodup_cons.mp unique
    rcases List.mem_cons.mp member with rfl | later
    · exact List.lookup_cons_self
    · have other : (key == first.1) = false := by
        rw [beq_eq_false_iff_ne]
        rintro rfl
        exact fresh (List.mem_map.mpr ⟨_, later, rfl⟩)
      rw [List.lookup_cons, other]
      exact ih later rest

/-- The number under a key. -/
def numberAt (figures : List (String × Figure F)) (key : String) : Option F :=
  match figures.lookup key with
  | some (.number x) => some x
  | _ => none

theorem numberAt_result {key : String} {x : F} (member : (key, .number x) ∈ result fp v error) :
    numberAt (result fp v error) key = some x := by
  rw [numberAt, lookup_result fp v error member]

theorem numberAt_cooling_effect :
    numberAt (result fp v error) "cooling_effect" = some (coolingEffect fp v) :=
  numberAt_result fp v error (by simp [result])

theorem numberAt_threshold_hours_reduction :
    numberAt (result fp v error) "threshold_hours_reduction" = some (thresholdReduction fp v) :=
  numberAt_result fp v error (by simp [result])

theorem numberAt_expected_minus_observed :
    numberAt (result fp v error) "expected_minus_observed" = some (fp.neg (variance fp v)) :=
  numberAt_result fp v error (by simp [result])

theorem numberAt_attainment_ratio :
    numberAt (result fp v error) "attainment_ratio" = some (attainment fp v) :=
  numberAt_result fp v error (by simp [result])

theorem lookup_met_expectation : (result fp v error).lookup "met_expectation" =
    some (.flag (fp.le (expected fp v) (coolingEffect fp v))) :=
  lookup_result fp v error (by simp [result])

theorem numberAt_confidence_interval_95_low :
    numberAt (result fp v error) "confidence_interval_95_low" =
      some (fp.sub (coolingEffect fp v) (fp.mul (fp.parse normalQuantile) error)) :=
  numberAt_result fp v error (by simp [result])

theorem numberAt_confidence_interval_95_high :
    numberAt (result fp v error) "confidence_interval_95_high" =
      some (fp.add (coolingEffect fp v) (fp.mul (fp.parse normalQuantile) error)) :=
  numberAt_result fp v error (by simp [result])

end Figures

/-! ## The interval -/

/-- The interval of the figures lies around their effect. -/
def Contains {K : Type} [LE K] (figures : List (String × Figure K)) : Prop :=
  ∃ low effect high, numberAt figures "confidence_interval_95_low" = some low ∧
    numberAt figures "cooling_effect" = some effect ∧
    numberAt figures "confidence_interval_95_high" = some high ∧ low ≤ effect ∧ effect ≤ high

def width {K : Type} [Sub K] (figures : List (String × Figure K)) : Option K := do
  let high ← numberAt figures "confidence_interval_95_high"
  let low ← numberAt figures "confidence_interval_95_low"
  some (high - low)

/-- Two sample sizes for the same measurements: both intervals contain the effect, and the
second is not wider than the first. -/
def Narrows (reading : Reading ℝ) (data : VerificationInput) (n m : Int) : Prop :=
  ∃ few many, calculateVerification (exact reading Real.sqrt) { data with sampleSize := n } =
      .ok few ∧
    calculateVerification (exact reading Real.sqrt) { data with sampleSize := m } = .ok many ∧
    Contains few ∧ Contains many ∧
    ∃ before after, width few = some before ∧ width many = some after ∧ after ≤ before

/-- Without the weather, both groups have changed by the same. -/
def ChangedEqually {K : Type} [Sub K] (v : Values K) : Prop :=
  v.controlObserved - v.controlBaseline - v.controlWeatherDelta =
    v.treatedObserved - v.treatedBaseline - v.treatedWeatherDelta

section Interval

variable (reading : Reading ℝ)

theorem errorOf_nonneg (effect : ℝ) (size : Int) : 0 ≤ errorOf Real.sqrt effect size := by
  unfold errorOf
  split
  · exact div_nonneg (abs_nonneg effect) (Real.sqrt_nonneg _)
  · exact le_refl 0

theorem low_result (v : Values ℝ) (error : ℝ) :
    numberAt (result (exact reading Real.sqrt) v error) "confidence_interval_95_low" =
      some (controlChange v - treatedChange v - 49 / 25 * error) := by
  rw [numberAt_confidence_interval_95_low, ← reading.quantile]
  rfl

theorem high_result (v : Values ℝ) (error : ℝ) :
    numberAt (result (exact reading Real.sqrt) v error) "confidence_interval_95_high" =
      some (controlChange v - treatedChange v + 49 / 25 * error) := by
  rw [numberAt_confidence_interval_95_high, ← reading.quantile]
  rfl

theorem width_result (v : Values ℝ) (error : ℝ) :
    width (result (exact reading Real.sqrt) v error) = some (2 * (49 / 25 * error)) := by
  rw [width, high_result, low_result]
  refine congrArg some ?_
  ring

theorem contains_result (v : Values ℝ) {error : ℝ} (nonneg : 0 ≤ error) :
    Contains (result (exact reading Real.sqrt) v error) := by
  refine ⟨_, _, _, low_result reading v error, numberAt_cooling_effect _ v error,
    high_result reading v error, ?_, ?_⟩
  all_goals rw [coolingEffect_exact]
  · linarith
  · linarith

/-- Standard errors fall with the sample, but the first is zero. -/
theorem errorOf_le_iff (effect : ℝ) {n m : Int} (positive : 1 ≤ n) (more : n ≤ m) :
    errorOf Real.sqrt effect m ≤ errorOf Real.sqrt effect n ↔ 2 ≤ n ∨ m = 1 ∨ effect = 0 := by
  have self : max 1 n = n := max_eq_right positive
  have self' : max 1 m = m := max_eq_right (positive.trans more)
  unfold errorOf
  rw [self, self']
  rcases positive.lt_or_eq with several | one
  · have root : 0 < Real.sqrt n := Real.sqrt_pos.mpr (by exact_mod_cast positive)
    have roots : Real.sqrt n ≤ Real.sqrt m := Real.sqrt_le_sqrt (by exact_mod_cast more)
    rw [if_pos several, if_pos (several.trans_le more)]
    exact iff_of_true (div_le_div_of_nonneg_left (abs_nonneg effect) root roots) (.inl several)
  · subst one
    rw [if_neg (lt_irrefl 1)]
    by_cases single : m = 1
    · rw [single, if_neg (lt_irrefl 1)]
      exact iff_of_true (le_refl 0) (.inr (.inl rfl))
    · have larger : 1 < m := lt_of_le_of_ne more (Ne.symm single)
      have root : 0 < Real.sqrt m := Real.sqrt_pos.mpr (by exact_mod_cast positive.trans more)
      rw [if_pos larger]
      constructor
      · intro flat
        have none : |effect| ≤ 0 := by
          have scaled := mul_le_mul_of_nonneg_right flat root.le
          rwa [div_mul_cancel₀ _ root.ne', zero_mul] at scaled
        exact .inr (.inr (abs_eq_zero.mp (le_antisymm none (abs_nonneg effect))))
      · rintro (two | same | zero)
        · exact absurd two (by decide)
        · exact absurd same single
        · rw [zero, abs_zero, zero_div]

/-- The widths are compared as the standard errors are. -/
theorem narrows_iff_error (data : VerificationInput) (n m : Int) : Narrows reading data n m ↔
    errorOf Real.sqrt (effectOf reading data) m ≤ errorOf Real.sqrt (effectOf reading data) n := by
  have sized : ∀ size, calculateVerification (exact reading Real.sqrt)
      { data with sampleSize := size } = .ok (result (exact reading Real.sqrt)
        (valuesOf reading { data with sampleSize := size })
        (errorOf Real.sqrt (effectOf reading data) size)) :=
    fun size => calculateVerification_exact reading Real.sqrt { data with sampleSize := size }
  constructor
  · rintro ⟨_, _, done, done', -, -, before, after, wide, wide', less⟩
    cases (sized n).symm.trans done
    cases (sized m).symm.trans done'
    rw [width_result] at wide wide'
    cases wide
    cases wide'
    linarith
  · intro less
    refine ⟨_, _, sized n, sized m, contains_result reading _ (errorOf_nonneg _ n),
      contains_result reading _ (errorOf_nonneg _ m), _, _, width_result reading _ _,
      width_result reading _ _, ?_⟩
    linarith

end Interval

/-- A larger sample does not widen the interval exactly if it is not compared with a single
observation, or both are single, or the effect is zero because both groups have changed by the
same. -/
theorem interval_narrows_iff (reading : Reading ℝ) (data : VerificationInput) (n m : Int)
    (positive : 1 ≤ n) (more : n ≤ m) :
    Narrows reading data n m ↔ 2 ≤ n ∨ m = 1 ∨ ChangedEqually (valuesOf reading data) := by
  have effect : ChangedEqually (valuesOf reading data) ↔ effectOf reading data = 0 :=
    sub_eq_zero.symm
  rw [narrows_iff_error, errorOf_le_iff _ positive more, effect]

/-! ### A treated zone that has cooled by four degrees -/

def matchedZones : VerificationInput where
  treatedBaseline := ⟨['3', '5', '.', '0'], by decide +kernel⟩
  treatedObserved := ⟨['3', '1', '.', '0'], by decide +kernel⟩
  controlBaseline := ⟨['3', '4', '.', '0'], by decide +kernel⟩
  controlObserved := ⟨['3', '4', '.', '0'], by decide +kernel⟩
  treatedWeatherDelta := .one
  controlWeatherDelta := .one
  expectedCooling := ⟨['3', '.', '0'], by decide +kernel⟩
  treatedThresholdHoursBaseline := zeroLiteral
  treatedThresholdHoursObserved := zeroLiteral
  controlThresholdHoursBaseline := zeroLiteral
  controlThresholdHoursObserved := zeroLiteral
  totalCost := zeroLiteral
  sampleSize := 1

theorem effectOf_exactReading (data : VerificationInput) :
    effectOf (exactReading ℝ) data = ((effectOf (exactReading ℚ) data : ℚ) : ℝ) := by
  simp [effectOf, controlChange, treatedChange, valuesOf, exactReading]

theorem effectOf_matchedZones : effectOf (exactReading ℝ) matchedZones = 4 := by
  have four : effectOf (exactReading ℚ) matchedZones = 4 := by decide +kernel
  rw [effectOf_exactReading, four]
  norm_num

/-- With one observation the interval is a point, with two it is not. -/
theorem interval_need_not_narrow : ¬ ∀ (reading : Reading ℝ) (data : VerificationInput)
    (n m : Int), 1 ≤ n → n ≤ m → Narrows reading data n m := by
  intro claimed
  have narrow := claimed (exactReading ℝ) matchedZones 1 2 (by decide) (by decide)
  rw [narrows_iff_error, errorOf_le_iff _ (by decide) (by decide), effectOf_matchedZones] at narrow
  norm_num at narrow

theorem interval_narrows_iff_matchedZones : Narrows (exactReading ℝ) matchedZones 2 8 ↔
    2 ≤ (2 : Int) ∨ (8 : Int) = 1 ∨ ChangedEqually (valuesOf (exactReading ℝ) matchedZones) :=
  interval_narrows_iff (exactReading ℝ) matchedZones 2 8 (by decide) (by decide)

/-! ## Difference in differences -/

/-- The same constant on both observations, on a group at both times, or on an observation and
its weather. -/
inductive Shifted {K : Type} [Add K] (c : K) : Values K → Values K → Prop
  | observed (v : Values K) : Shifted c v
      { v with treatedObserved := v.treatedObserved + c, controlObserved := v.controlObserved + c }
  | treatedLevel (v : Values K) : Shifted c v
      { v with treatedBaseline := v.treatedBaseline + c, treatedObserved := v.treatedObserved + c }
  | controlLevel (v : Values K) : Shifted c v
      { v with controlBaseline := v.controlBaseline + c, controlObserved := v.controlObserved + c }
  | treatedWeather (v : Values K) : Shifted c v
      { v with treatedObserved := v.treatedObserved + c,
               treatedWeatherDelta := v.treatedWeatherDelta + c }
  | controlWeather (v : Values K) : Shifted c v
      { v with controlObserved := v.controlObserved + c,
               controlWeatherDelta := v.controlWeatherDelta + c }

theorem Shifted.same {K : Type} [Field K] {c : K} {v v' : Values K} (shifted : Shifted c v v') :
    controlChange v' - treatedChange v' = controlChange v - treatedChange v ∧
      v'.expectedCooling = v.expectedCooling ∧ v'.totalCost = v.totalCost ∧
      v'.sampleSize = v.sampleSize := by
  unfold controlChange treatedChange
  cases shifted with
  | observed => exact ⟨by ring, rfl, rfl, rfl⟩
  | treatedLevel => exact ⟨by ring, rfl, rfl, rfl⟩
  | controlLevel => exact ⟨by ring, rfl, rfl, rfl⟩
  | treatedWeather => exact ⟨by ring, rfl, rfl, rfl⟩
  | controlWeather => exact ⟨by ring, rfl, rfl, rfl⟩

/-- The other group is treated. -/
def VerificationInput.swapped (data : VerificationInput) : VerificationInput :=
  { data with
    treatedBaseline := data.controlBaseline
    treatedObserved := data.controlObserved
    controlBaseline := data.treatedBaseline
    controlObserved := data.treatedObserved
    treatedWeatherDelta := data.controlWeatherDelta
    controlWeatherDelta := data.treatedWeatherDelta
    treatedThresholdHoursBaseline := data.controlThresholdHoursBaseline
    treatedThresholdHoursObserved := data.controlThresholdHoursObserved
    controlThresholdHoursBaseline := data.treatedThresholdHoursBaseline
    controlThresholdHoursObserved := data.treatedThresholdHoursObserved }

section Effect

variable {F : Type} (fp : Arithmetic F)

/-- The figures that are made of the effect, the expectation, the cost and the standard error. -/
def effectFigures (effect expected totalCost error : F) : List (String × Figure F) :=
  let zero := fp.parse zeroLiteral
  let margin := fp.mul (fp.parse normalQuantile) error
  [("cooling_effect", .number effect),
   ("met_expectation", .flag (fp.le expected effect)),
   ("attainment_ratio",
    .number (if fp.eq expected zero then zero else fp.div effect expected)),
   ("expected_minus_observed", .number (fp.neg (fp.sub effect expected))),
   ("confidence_interval_95_low", .number (fp.sub effect margin)),
   ("confidence_interval_95_high", .number (fp.add effect margin)),
   ("cost_per_degree", if fp.lt zero effect then .number (fp.div totalCost effect) else .missing)]

def effectKeys : List String :=
  ["cooling_effect", "met_expectation", "attainment_ratio", "expected_minus_observed",
   "confidence_interval_95_low", "confidence_interval_95_high", "cost_per_degree"]

theorem effectFigures_subset (v : Values F) (error : F) :
    effectFigures fp (coolingEffect fp v) (expected fp v) v.totalCost error ⊆
      result fp v error := by
  intro pair member
  simp only [effectFigures, List.mem_cons, List.not_mem_nil, or_false] at member
  rcases member with rfl | rfl | rfl | rfl | rfl | rfl | rfl <;>
    simp [result, variance, attainment, costPer]

/-- They are equal for values with the same effect, expectation and cost. -/
theorem lookup_of_same_effect {v v' : Values F} (error : F)
    (effect : coolingEffect fp v' = coolingEffect fp v)
    (expectation : expected fp v' = expected fp v) (cost : v'.totalCost = v.totalCost) :
    ∀ key ∈ effectKeys,
      (result fp v' error).lookup key = (result fp v error).lookup key := by
  intro key member
  have keys : effectKeys =
      (effectFigures fp (coolingEffect fp v) (expected fp v) v.totalCost error).map Prod.fst := rfl
  obtain ⟨pair, inFigures, rfl⟩ := List.mem_map.mp (keys ▸ member)
  have here := lookup_result fp v error (effectFigures_subset fp v error inFigures)
  rw [← effect, ← expectation, ← cost] at inFigures
  have there := lookup_result fp v' error (effectFigures_subset fp v' error inFigures)
  rw [here, there]

end Effect

section Laws

variable {K : Type} [Field K] [LinearOrder K] [FloorRing K] (reading : Reading K) (sqrt : K → K)
  (data : VerificationInput)

theorem coolingEffect_swapped :
    coolingEffect (exact reading sqrt) (valuesOf reading data.swapped) =
      -coolingEffect (exact reading sqrt) (valuesOf reading data) := (neg_sub _ _).symm

theorem thresholdReduction_swapped :
    thresholdReduction (exact reading sqrt) (valuesOf reading data.swapped) =
      -thresholdReduction (exact reading sqrt) (valuesOf reading data) := (neg_sub _ _).symm

variable [IsStrictOrderedRing K]

/-- Inputs that differ by a shift have the same figures of the effect. -/
theorem lookup_of_shifted {c : K} {data' : VerificationInput}
    (shifted : Shifted c (valuesOf reading data) (valuesOf reading data')) :
    ∃ figures figures', calculateVerification (exact reading sqrt) data = .ok figures ∧
      calculateVerification (exact reading sqrt) data' = .ok figures' ∧
      ∀ key ∈ effectKeys, figures'.lookup key = figures.lookup key := by
  obtain ⟨effect, expectation, cost, size⟩ := shifted.same
  have sizes : data'.sampleSize = data.sampleSize := Int.cast_injective size
  refine ⟨_, _, calculateVerification_exact reading sqrt data,
    calculateVerification_exact reading sqrt data', ?_⟩
  rw [effectOf, effect, sizes]
  refine lookup_of_same_effect _ _ effect ?_ cost
  rw [expected_exact, expected_exact, expectation]

theorem met_iff_shortfall (v : Values K) :
    (exact reading sqrt).le (expected (exact reading sqrt) v)
        (coolingEffect (exact reading sqrt) v) = true ↔
      (exact reading sqrt).neg (variance (exact reading sqrt) v) ≤ 0 := by
  have shortfall : (exact reading sqrt).neg (variance (exact reading sqrt) v) =
      expected (exact reading sqrt) v - coolingEffect (exact reading sqrt) v := neg_sub _ _
  rw [shortfall, sub_nonpos]
  exact decide_eq_true_iff

theorem met_iff_ratio {v : Values K} (positive : 0 < v.expectedCooling) :
    (exact reading sqrt).le (expected (exact reading sqrt) v)
        (coolingEffect (exact reading sqrt) v) = true ↔
      1 ≤ attainment (exact reading sqrt) v := by
  have expectation : expected (exact reading sqrt) v = v.expectedCooling := by
    rw [expected_exact, max_eq_right positive.le]
  have ratio : attainment (exact reading sqrt) v =
      coolingEffect (exact reading sqrt) v / v.expectedCooling := by
    unfold attainment
    rw [expectation]
    change (if decide (v.expectedCooling = reading.value zeroLiteral) then _ else _) = _
    rw [reading.zero, decide_eq_false positive.ne', if_neg Bool.false_ne_true]
    rfl
  rw [ratio, expectation, one_le_div₀ positive]
  exact decide_eq_true_iff

end Laws

/-- Shifts that both groups share, or that the weather explains, leave all figures of the effect
as they are; exchanging the groups negates the effect and the hours; and an expectation is met
exactly without a shortfall, which is a ratio of at least one if something is expected. -/
theorem difference_in_differences_laws (reading : Reading ℚ) (sqrt : ℚ → ℚ)
    (data : VerificationInput) :
    (∀ c data', Shifted c (valuesOf reading data) (valuesOf reading data') →
      ∃ figures figures', calculateVerification (exact reading sqrt) data = .ok figures ∧
        calculateVerification (exact reading sqrt) data' = .ok figures' ∧
        ∀ key ∈ effectKeys, figures'.lookup key = figures.lookup key) ∧
    (∃ figures figures' effect reduction,
      calculateVerification (exact reading sqrt) data = .ok figures ∧
      calculateVerification (exact reading sqrt) data.swapped = .ok figures' ∧
      numberAt figures "cooling_effect" = some effect ∧
      numberAt figures' "cooling_effect" = some (-effect) ∧
      numberAt figures "threshold_hours_reduction" = some reduction ∧
      numberAt figures' "threshold_hours_reduction" = some (-reduction)) ∧
    ∃ figures met shortfall ratio,
      calculateVerification (exact reading sqrt) data = .ok figures ∧
      figures.lookup "met_expectation" = some (.flag met) ∧
      numberAt figures "expected_minus_observed" = some shortfall ∧
      numberAt figures "attainment_ratio" = some ratio ∧
      (met = true ↔ shortfall ≤ 0) ∧
      (0 < reading.value data.expectedCooling → (met = true ↔ 1 ≤ ratio)) := by
  have done := calculateVerification_exact reading sqrt data
  refine ⟨fun c data' shifted => lookup_of_shifted reading sqrt data shifted, ?_, ?_⟩
  · refine ⟨_, _, _, _, done, calculateVerification_exact reading sqrt data.swapped,
      numberAt_cooling_effect _ _ _, ?_, numberAt_threshold_hours_reduction _ _ _, ?_⟩
    · rw [numberAt_cooling_effect, coolingEffect_swapped]
    · rw [numberAt_threshold_hours_reduction, thresholdReduction_swapped]
  · exact ⟨_, _, _, _, done, lookup_met_expectation _ _ _,
      numberAt_expected_minus_observed _ _ _, numberAt_attainment_ratio _ _ _,
      met_iff_shortfall reading sqrt _, fun positive => met_iff_ratio reading sqrt positive⟩

/-- The matched zones on a day that is one degree warmer for both. -/
def warmerDay : VerificationInput :=
  { matchedZones with
    treatedObserved := ⟨['3', '2', '.', '0'], by decide +kernel⟩
    controlObserved := ⟨['3', '5', '.', '0'], by decide +kernel⟩ }

theorem shifted_warmerDay : Shifted 1 (valuesOf (exactReading ℚ) matchedZones)
    (valuesOf (exactReading ℚ) warmerDay) := by
  have treated : (exactReading ℚ).value warmerDay.treatedObserved =
      (exactReading ℚ).value matchedZones.treatedObserved + 1 := by decide +kernel
  have control : (exactReading ℚ).value warmerDay.controlObserved =
      (exactReading ℚ).value matchedZones.controlObserved + 1 := by decide +kernel
  have warmer : valuesOf (exactReading ℚ) warmerDay =
      { valuesOf (exactReading ℚ) matchedZones with
        treatedObserved := (exactReading ℚ).value matchedZones.treatedObserved + 1
        controlObserved := (exactReading ℚ).value matchedZones.controlObserved + 1 } := by
    rw [← treated, ← control]
    rfl
  rw [warmer]
  exact Shifted.observed _

theorem difference_in_differences_laws_warmerDay : ∃ figures figures',
    calculateVerification (exact (exactReading ℚ) id) matchedZones = .ok figures ∧
      calculateVerification (exact (exactReading ℚ) id) warmerDay = .ok figures' ∧
      ∀ key ∈ effectKeys, figures'.lookup key = figures.lookup key :=
  (difference_in_differences_laws (exactReading ℚ) id matchedZones).1 1 warmerDay
    shifted_warmerDay

end CoolProof.VerificationRuns
