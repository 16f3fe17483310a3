import CoolProof.Library.Loops
import CoolProof.Library.WeightedSums
import CoolProof.PortfolioReadback

/-! The heat exposure score in exact arithmetic: three aggregates of the observations, weighted
by their hours, a population and a criticality, each brought between zero and one, and their
mean by weights that add up to one. -/

namespace CoolProof.Heat
open WeightedSums Loops

/-! ## Weights -/

/-- A float; `none` is one that is not finite. -/
abbrev Number := Option ℚ

/-- Weights that have passed `__post_init__`. -/
structure HeatWeights where
  meanTemperature : ℚ
  persistenceHours : ℚ
  thresholdExceedance : ℚ
  population : ℚ
  criticality : ℚ
  version : String
  nonneg : ∀ v ∈ [meanTemperature, persistenceHours, thresholdExceedance, population, criticality],
    0 ≤ v
  positive : 0 < [meanTemperature, persistenceHours, thresholdExceedance, population,
    criticality].sum

/-- The constructor; an error is a `ValueError`. -/
def heatWeights (meanTemperature persistenceHours thresholdExceedance population criticality :
    Number) (version : String) : Except String HeatWeights :=
  match meanTemperature, persistenceHours, thresholdExceedance, population, criticality with
  | some m, some p, some t, some n, some c =>
      if accepted : (∀ v ∈ [m, p, t, n, c], 0 ≤ v) ∧ 0 < [m, p, t, n, c].sum then
        .ok ⟨m, p, t, n, c, version, accepted.1, accepted.2⟩
      else .error "heat weights must be finite and non-negative"
  | _, _, _, _, _ => .error "heat weights must be finite and non-negative"

/-- `HeatWeights()` -/
def defaultWeights : HeatWeights where
  meanTemperature := 35 / 100
  persistenceHours := 25 / 100
  thresholdExceedance := 25 / 100
  population := 10 / 100
  criticality := 5 / 100
  version := "heat-score-v1"
  nonneg := by
    intro v member
    simp only [List.mem_cons, List.not_mem_nil, or_false] at member
    rcases member with rfl | rfl | rfl | rfl | rfl <;> norm_num
  positive := by norm_num

theorem heatWeights_self (w : HeatWeights) :
    heatWeights (some w.meanTemperature) (some w.persistenceHours) (some w.thresholdExceedance)
      (some w.population) (some w.criticality) w.version = .ok w :=
  dif_pos ⟨w.nonneg, w.positive⟩

/-- Weights that add up to one. -/
structure NormalizedWeights where
  meanTemperature : ℚ
  persistenceHours : ℚ
  thresholdExceedance : ℚ
  population : ℚ
  criticality : ℚ
  nonneg : ∀ v ∈ [meanTemperature, persistenceHours, thresholdExceedance, population, criticality],
    0 ≤ v
  whole : [meanTemperature, persistenceHours, thresholdExceedance, population, criticality].sum = 1

def HeatWeights.total (w : HeatWeights) : ℚ :=
  [w.meanTemperature, w.persistenceHours, w.thresholdExceedance, w.population, w.criticality].sum

theorem HeatWeights.nonneg_div (w : HeatWeights) : ∀ v ∈ [w.meanTemperature / w.total,
    w.persistenceHours / w.total, w.thresholdExceedance / w.total, w.population / w.total,
    w.criticality / w.total], 0 ≤ v := by
  intro v member
  obtain ⟨u, weight, rfl⟩ := List.mem_map.mp (show v ∈ [w.meanTemperature, w.persistenceHours,
    w.thresholdExceedance, w.population, w.criticality].map (· / w.total) from member)
  exact div_nonneg (w.nonneg u weight) w.positive.le

theorem HeatWeights.sum_div (w : HeatWeights) : [w.meanTemperature / w.total,
    w.persistenceHours / w.total, w.thresholdExceedance / w.total, w.population / w.total,
    w.criticality / w.total].sum = 1 := by
  calc
    _ = [w.meanTemperature, w.persistenceHours, w.thresholdExceedance, w.population,
        w.criticality].sum / w.total := by
      simp only [List.sum_cons, List.sum_nil]
      ring
    _ = 1 := div_self w.positive.ne'

def HeatWeights.normalized (w : HeatWeights) : NormalizedWeights where
  meanTemperature := w.meanTemperature / w.total
  persistenceHours := w.persistenceHours / w.total
  thresholdExceedance := w.thresholdExceedance / w.total
  population := w.population / w.total
  criticality := w.criticality / w.total
  nonneg := w.nonneg_div
  whole := w.sum_div

/-! ## Observations -/

/-- The keys of an observation that are read, where they are present. -/
structure Observation where
  temperatureC : Option Number
  temperature : Option Number
  hours : Option Number

/-- `item.get("temperature_c", item.get("temperature", 0))` -/
def Observation.temp (item : Observation) : Number :=
  item.temperatureC.getD (item.temperature.getD (some 0))

/-- `item.get("hours", 1)` -/
def Observation.duration (item : Observation) : Number := item.hours.getD (some 1)

/-- One turn of the loop: a temperature and its hours. -/
def Observation.reading (item : Observation) : Except String (ℚ × ℚ) :=
  match item.temp, item.duration with
  | some temp, some duration =>
      if duration ≤ 0 then .error "observation temperature and hours must be finite; hours > 0"
      else .ok (temp, duration)
  | _, _ => .error "observation temperature and hours must be finite; hours > 0"

/-- A finite temperature for a positive number of hours. -/
def Observation.Reads (item : Observation) (temp hours : ℚ) : Prop :=
  item.temp = some temp ∧ item.duration = some hours ∧ 0 < hours

theorem reading_ok_iff {item : Observation} {x : ℚ × ℚ} :
    item.reading = .ok x ↔ item.Reads x.1 x.2 := by
  unfold Observation.reading Observation.Reads
  cases item.temp with
  | none => simp
  | some temp =>
    cases item.duration with
    | none => simp
    | some duration =>
      change (if duration ≤ 0 then _ else _) = _ ↔ _
      split
      · rename_i nonpositive
        simp only [reduceCtorEq, false_iff]
        rintro ⟨-, same, positive⟩
        cases same
        exact absurd positive (not_lt.mpr nonpositive)
      · rename_i positive
        constructor
        · intro same
          cases same
          exact ⟨rfl, rfl, not_le.mp positive⟩
        · rintro ⟨temperature, hours, -⟩
          cases x
          cases temperature
          cases hours
          rfl

/-! ## The score -/

/-- `sum(t * h ...) / total_hours` -/
def meanTemperature (readings : List (ℚ × ℚ)) : ℚ := weightedMean id readings

/-- `sum(max(0.0, t - threshold_c) * h ...) / total_hours` -/
def exceedance (thresholdC : ℚ) (readings : List (ℚ × ℚ)) : ℚ :=
  weightedMean (fun t => max 0 (t - thresholdC)) readings

/-- `sum(h for t, h in zip(temps, hours) if t >= threshold_c)` -/
def persistence (thresholdC : ℚ) (readings : List (ℚ × ℚ)) : ℚ :=
  totalWeight (readings.filter fun x => thresholdC ≤ x.1)

/-- The keyword arguments with their defaults. -/
structure ExposureArguments where
  thresholdC : ℚ := 35
  population : ℚ := 0
  criticality : ℚ := 0
  weights : Option HeatWeights := none

def tempComponent (thresholdC : ℚ) (readings : List (ℚ × ℚ)) : ℚ :=
  max 0 (min 1 ((meanTemperature readings - thresholdC) / 15))

def persistenceComponent (thresholdC : ℚ) (readings : List (ℚ × ℚ)) : ℚ :=
  min 1 (persistence thresholdC readings / 24)

def exceedanceComponent (thresholdC : ℚ) (readings : List (ℚ × ℚ)) : ℚ :=
  max 0 (min 1 (exceedance thresholdC readings / 15))

def populationComponent (population : ℚ) : ℚ := max 0 (min 1 (population / 10000))

def criticalityComponent (criticality : ℚ) : ℚ := max 0 (min 1 criticality)

def score (w : NormalizedWeights) (thresholdC population criticality : ℚ)
    (readings : List (ℚ × ℚ)) : ℚ :=
  tempComponent thresholdC readings * w.meanTemperature +
    persistenceComponent thresholdC readings * w.persistenceHours +
    exceedanceComponent thresholdC readings * w.thresholdExceedance +
    populationComponent population * w.population +
    criticalityComponent criticality * w.criticality

structure HeatExposure where
  method : String
  meanTemperatureC : ℚ
  thresholdC : ℚ
  persistenceHours : ℚ
  exposureHours : ℚ
  thresholdExceedanceC : ℚ
  exposureScore : ℚ
  population : ℚ
  criticality : ℚ
  weights : NormalizedWeights
  version : String
  observationCount : Nat
  inputs : String

/-- What is returned for the readings of a number of observations. -/
def exposure (arguments : ExposureArguments) (observationCount : Nat)
    (readings : List (ℚ × ℚ)) : HeatExposure :=
  let weights := arguments.weights.getD defaultWeights
  { method := "deterministic_heat_exposure_v1"
    meanTemperatureC := meanTemperature readings
    thresholdC := arguments.thresholdC
    persistenceHours := persistence arguments.thresholdC readings
    exposureHours := persistence arguments.thresholdC readings
    thresholdExceedanceC := exceedance arguments.thresholdC readings
    exposureScore := Portfolio.round 6 (score weights.normalized arguments.thresholdC
      arguments.population arguments.criticality readings)
    population := arguments.population
    criticality := arguments.criticality
    weights := weights.normalized
    version := weights.version
    observationCount
    inputs := "FortyGuard observations" }

example : (exposure {} 1 [(36, 24)]).exposureScore = 29 / 100 := by decide +kernel

/-- `calculate_heat_exposure`; an error is a `ValueError`. -/
def calculateHeatExposure (observations : List Observation) (arguments : ExposureArguments) :
    Except String HeatExposure :=
  if observations.isEmpty then .error "at least one heat observation is required"
  else (observations.mapM Observation.reading).map (exposure arguments observations.length)

/-! ## What the aggregates are -/

/-- The indicator of a temperature at the threshold or higher. -/
def reaches (thresholdC t : ℚ) : ℚ := if thresholdC ≤ t then 1 else 0

theorem persistence_eq (thresholdC : ℚ) (readings : List (ℚ × ℚ)) :
    persistence thresholdC readings = weightedSum (reaches thresholdC) readings := by
  induction readings with
  | nil => rfl
  | cons x readings ih =>
    rw [weightedSum_cons, ← ih, persistence, List.filter_cons, reaches]
    by_cases hot : thresholdC ≤ x.1
    · rw [if_pos hot, if_pos (decide_eq_true hot), one_mul]
      exact List.sum_cons
    · rw [if_neg hot, if_neg (by simpa using hot), zero_mul, zero_add]
      rfl

theorem reaches_mono (thresholdC : ℚ) : Monotone (reaches thresholdC) := by
  intro t u raised
  unfold reaches
  split_ifs with low high
  · exact le_refl 1
  · exact absurd (low.trans raised) high
  · exact zero_le_one
  · exact le_refl 0

theorem reaches_nonneg (thresholdC t : ℚ) : 0 ≤ reaches thresholdC t := by
  unfold reaches
  split_ifs
  · exact zero_le_one
  · exact le_refl 0

/-- Degrees above the threshold. -/
def excess (thresholdC t : ℚ) : ℚ := max 0 (t - thresholdC)

theorem excess_mono (thresholdC : ℚ) : Monotone (excess thresholdC) :=
  fun _ _ raised => max_le_max (le_refl 0) (sub_le_sub_right raised thresholdC)

/-- The components with their weights. -/
def components (w : NormalizedWeights) (thresholdC population criticality : ℚ)
    (readings : List (ℚ × ℚ)) : List (ℚ × ℚ) :=
  [(tempComponent thresholdC readings, w.meanTemperature),
   (persistenceComponent thresholdC readings, w.persistenceHours),
   (exceedanceComponent thresholdC readings, w.thresholdExceedance),
   (populationComponent population, w.population),
   (criticalityComponent criticality, w.criticality)]

theorem score_eq (w : NormalizedWeights) (thresholdC population criticality : ℚ)
    (readings : List (ℚ × ℚ)) : score w thresholdC population criticality readings =
      weightedSum id (components w thresholdC population criticality readings) := by
  simp only [score, components, weightedSum_cons, weightedSum_nil, id_eq]
  ring

/-! ## Bounds -/

section Bounds

variable (w : NormalizedWeights) (thresholdC population criticality : ℚ)
  {readings : List (ℚ × ℚ)}

theorem components_nonneg : ∀ x ∈ components w thresholdC population criticality readings,
    0 ≤ x.2 := by
  intro x member
  exact w.nonneg x.2 (List.mem_map_of_mem (f := Prod.snd) member)

theorem components_unit (hours : ∀ x ∈ readings, 0 ≤ x.2) :
    ∀ x ∈ components w thresholdC population criticality readings, 0 ≤ x.1 ∧ x.1 ≤ 1 := by
  have persists : 0 ≤ persistence thresholdC readings := by
    rw [persistence_eq]
    exact weightedSum_nonneg (reaches_nonneg thresholdC) hours
  intro x member
  simp only [components, List.mem_cons, List.not_mem_nil, or_false] at member
  rcases member with rfl | rfl | rfl | rfl | rfl
  · exact clamp_unit _
  · exact ⟨le_min zero_le_one (div_nonneg persists (by norm_num)), min_le_left _ _⟩
  · exact clamp_unit _
  · exact clamp_unit _
  · exact clamp_unit _

theorem score_unit (hours : ∀ x ∈ readings, 0 ≤ x.2) :
    0 ≤ score w thresholdC population criticality readings ∧
      score w thresholdC population criticality readings ≤ 1 := by
  rw [score_eq]
  exact weightedSum_unit (components_unit w thresholdC population criticality hours)
    (components_nonneg w thresholdC population criticality) w.whole

variable {population criticality} {readings' : List (ℚ × ℚ)} {population' criticality' : ℚ}

theorem components_raised (raised : Raised readings readings') (hours : ∀ x ∈ readings, 0 ≤ x.2)
    (people : population ≤ population') (critical : criticality ≤ criticality') :
    Raised (components w thresholdC population criticality readings)
      (components w thresholdC population' criticality' readings') := by
  have nonneg := @components_nonneg w thresholdC population criticality readings
  have mean : meanTemperature readings ≤ meanTemperature readings' :=
    weightedMean_mono monotone_id raised hours
  have persists : persistence thresholdC readings ≤ persistence thresholdC readings' := by
    rw [persistence_eq, persistence_eq]
    exact weightedSum_mono (reaches_mono thresholdC) raised
  have exceeds : exceedance thresholdC readings ≤ exceedance thresholdC readings' :=
    weightedMean_mono (excess_mono thresholdC) raised hours
  refine .cons ⟨?_, rfl, nonneg _ (by simp [components])⟩ <|
    .cons ⟨?_, rfl, nonneg _ (by simp [components])⟩ <|
    .cons ⟨?_, rfl, nonneg _ (by simp [components])⟩ <|
    .cons ⟨?_, rfl, nonneg _ (by simp [components])⟩ <|
    .cons ⟨?_, rfl, nonneg _ (by simp [components])⟩ .nil
  · exact clamp_mono (div_le_div_of_nonneg_right (sub_le_sub_right mean _) (by norm_num))
  · exact min_le_min (le_refl 1) (div_le_div_of_nonneg_right persists (by norm_num))
  · exact clamp_mono (div_le_div_of_nonneg_right exceeds (by norm_num))
  · exact clamp_mono (div_le_div_of_nonneg_right people (by norm_num))
  · exact clamp_mono critical

theorem score_mono (raised : Raised readings readings') (hours : ∀ x ∈ readings, 0 ≤ x.2)
    (people : population ≤ population') (critical : criticality ≤ criticality') :
    score w thresholdC population criticality readings ≤
      score w thresholdC population' criticality' readings' := by
  rw [score_eq, score_eq]
  exact weightedSum_mono monotone_id
    (components_raised w thresholdC raised hours people critical)

end Bounds

/-! ## The calculation -/

section Calculation

variable {observations : List Observation} {arguments : ExposureArguments} {r : HeatExposure}

theorem calculateHeatExposure_ok_iff : calculateHeatExposure observations arguments = .ok r ↔
    observations ≠ [] ∧ ∃ readings, observations.mapM Observation.reading = .ok readings ∧
      r = exposure arguments observations.length readings := by
  unfold calculateHeatExposure
  cases observations with
  | nil => simp
  | cons item items =>
    rw [if_neg (by simp)]
    cases (item :: items).mapM Observation.reading with
    | error text => simp [Except.map]
    | ok readings => simp [Except.map, eq_comm]

/-- Readings have positive hours. -/
theorem hours_of_readings {readings : List (ℚ × ℚ)}
    (read : observations.mapM Observation.reading = .ok readings) : ∀ x ∈ readings, 0 ≤ x.2 := by
  intro x member
  obtain ⟨item, -, reading⟩ := mem_of_mapM_ok read x member
  exact (reading_ok_iff.mp reading).2.2.le

theorem readings_of_reads (accepted : ∀ item ∈ observations, ∃ temp hours, item.Reads temp hours) :
    ∃ readings, observations.mapM Observation.reading = .ok readings := by
  refine mapM_ok_of_turns fun item member => ?_
  obtain ⟨temp, hours, reads⟩ := accepted item member
  exact ⟨(temp, hours), reading_ok_iff.mpr reads⟩

/-- The readings of a list with one item in the middle. -/
theorem readings_middle {before after : List Observation} {item : Observation}
    {readings : List (ℚ × ℚ)} {temp hours : ℚ}
    (read : (before ++ item :: after).mapM Observation.reading = .ok readings)
    (reads : item.Reads temp hours) :
    ∃ front back, before.mapM Observation.reading = .ok front ∧
      after.mapM Observation.reading = .ok back ∧ readings = front ++ (temp, hours) :: back := by
  obtain ⟨front, rest, first, second, rfl⟩ := mapM_append_ok_iff.mp read
  obtain ⟨x, back, middle, last, rfl⟩ := mapM_cons_ok_iff.mp second
  have same : x = (temp, hours) :=
    Except.ok.inj (middle.symm.trans (reading_ok_iff.mpr reads))
  exact ⟨front, back, first, last, by rw [same]⟩

theorem exposureScore_unit {count : Nat} {readings : List (ℚ × ℚ)}
    (hours : ∀ x ∈ readings, 0 ≤ x.2) :
    0 ≤ (exposure arguments count readings).exposureScore ∧
      (exposure arguments count readings).exposureScore ≤ 1 := by
  obtain ⟨low, high⟩ := score_unit (arguments.weights.getD defaultWeights).normalized
    arguments.thresholdC arguments.population arguments.criticality hours
  have one : Portfolio.round 6 1 = 1 :=
    Portfolio.HasDigits.round_eq ⟨10 ^ 6, by norm_num⟩
  exact ⟨Portfolio.round_nonneg low, (Portfolio.round_mono 6 high).trans one.le⟩

end Calculation

/-- Accepted observations have a score between zero and one, and the score is not lowered by a
higher temperature of one of them, a larger population or a higher criticality. -/
theorem exposure_score_bounded_monotone (observations : List Observation)
    (arguments : ExposureArguments) (nonempty : observations ≠ [])
    (accepted : ∀ item ∈ observations, ∃ temp hours, item.Reads temp hours) :
    ∃ r, calculateHeatExposure observations arguments = .ok r ∧
      (0 ≤ r.exposureScore ∧ r.exposureScore ≤ 1) ∧
      (∀ before item after raised temp temp' hours, observations = before ++ item :: after →
        item.Reads temp hours → raised.Reads temp' hours → temp ≤ temp' →
        ∃ r', calculateHeatExposure (before ++ raised :: after) arguments = .ok r' ∧
          r.exposureScore ≤ r'.exposureScore) ∧
      (∀ population, arguments.population ≤ population →
        ∃ r', calculateHeatExposure observations { arguments with population } = .ok r' ∧
          r.exposureScore ≤ r'.exposureScore) ∧
      ∀ criticality, arguments.criticality ≤ criticality →
        ∃ r', calculateHeatExposure observations { arguments with criticality } = .ok r' ∧
          r.exposureScore ≤ r'.exposureScore := by
  obtain ⟨readings, read⟩ := readings_of_reads accepted
  have hours := hours_of_readings read
  have same := Raised.refl hours
  refine ⟨_, calculateHeatExposure_ok_iff.mpr ⟨nonempty, readings, read, rfl⟩,
    exposureScore_unit hours, ?_, ?_, ?_⟩
  · rintro before item after raised temp temp' duration rfl reads reads' higher
    obtain ⟨front, back, first, last, rfl⟩ := readings_middle read reads
    have again : (before ++ raised :: after).mapM Observation.reading =
        .ok (front ++ (temp', duration) :: back) :=
      mapM_append_ok_iff.mpr ⟨front, _, first, mapM_cons_ok_iff.mpr
        ⟨_, back, reading_ok_iff.mpr reads', last, rfl⟩, rfl⟩
    refine ⟨_, calculateHeatExposure_ok_iff.mpr ⟨by simp, _, again, rfl⟩, ?_⟩
    exact Portfolio.round_mono 6 (score_mono _ _ (Raised.at hours higher) hours (le_refl _)
      (le_refl _))
  · intro population larger
    refine ⟨_, calculateHeatExposure_ok_iff.mpr ⟨nonempty, readings, read, rfl⟩, ?_⟩
    exact Portfolio.round_mono 6 (score_mono _ _ same hours larger (le_refl _))
  · intro criticality higher
    refine ⟨_, calculateHeatExposure_ok_iff.mpr ⟨nonempty, readings, read, rfl⟩, ?_⟩
    exact Portfolio.round_mono 6 (score_mono _ _ same hours (le_refl _) higher)

/-- A temperature under its first key for a number of hours. -/
def measured (temp hours : ℚ) : Observation := ⟨some (some temp), none, some (some hours)⟩

theorem measured_reads (temp : ℚ) {hours : ℚ} (positive : 0 < hours) :
    (measured temp hours).Reads temp hours := ⟨rfl, rfl, positive⟩

theorem exposure_score_bounded_monotone_two : ∃ r,
    calculateHeatExposure [measured 36 4, measured 30 2] {} = .ok r ∧
      (0 ≤ r.exposureScore ∧ r.exposureScore ≤ 1) := by
  have accepted : ∀ item ∈ [measured 36 4, measured 30 2],
      ∃ temp hours, item.Reads temp hours := by
    intro item member
    simp only [List.mem_cons, List.not_mem_nil, or_false] at member
    rcases member with rfl | rfl
    · exact ⟨36, 4, measured_reads 36 (by norm_num)⟩
    · exact ⟨30, 2, measured_reads 30 (by norm_num)⟩
  obtain ⟨r, done, unit, -⟩ := exposure_score_bounded_monotone _ {} (by simp) accepted
  exact ⟨r, done, unit⟩

/-! ## How observations are recorded -/

/-- The aggregates and the score are the same. -/
def SameAggregates (r r' : HeatExposure) : Prop :=
  r'.meanTemperatureC = r.meanTemperatureC ∧ r'.persistenceHours = r.persistenceHours ∧
    r'.thresholdExceedanceC = r.thresholdExceedanceC ∧ r'.exposureScore = r.exposureScore

theorem sameAggregates_of_sameRecord (arguments : ExposureArguments) (count count' : Nat)
    {readings readings' : List (ℚ × ℚ)} (same : SameRecord readings readings') :
    SameAggregates (exposure arguments count readings) (exposure arguments count' readings') := by
  have mean : meanTemperature readings' = meanTemperature readings :=
    (weightedMean_of_sameRecord id same).symm
  have persists : persistence arguments.thresholdC readings' =
      persistence arguments.thresholdC readings := by
    rw [persistence_eq, persistence_eq, weightedSum_of_sameRecord _ same]
  have exceeds : exceedance arguments.thresholdC readings' =
      exceedance arguments.thresholdC readings := (weightedMean_of_sameRecord _ same).symm
  refine ⟨mean, persists, exceeds, ?_⟩
  change Portfolio.round 6 (score _ _ _ _ readings') = Portfolio.round 6 (score _ _ _ _ readings)
  rw [score, score, tempComponent, tempComponent, persistenceComponent, persistenceComponent,
    exceedanceComponent, exceedanceComponent, mean, persists, exceeds]

/-- The aggregates and the score do not change when accepted observations are put in another
order, or when one of them is cut into two of the same temperature whose hours add up. -/
theorem exposure_of_same_record (observations : List Observation) (arguments : ExposureArguments)
    (r : HeatExposure) (accepted : calculateHeatExposure observations arguments = .ok r) :
    (∀ permuted, observations.Perm permuted →
      ∃ r', calculateHeatExposure permuted arguments = .ok r' ∧ SameAggregates r r') ∧
    ∀ before item after first second temp hours hours',
      observations = before ++ item :: after → item.Reads temp (hours + hours') →
      first.Reads temp hours → second.Reads temp hours' →
      ∃ r', calculateHeatExposure (before ++ first :: second :: after) arguments = .ok r' ∧
        SameAggregates r r' := by
  obtain ⟨nonempty, readings, read, rfl⟩ := calculateHeatExposure_ok_iff.mp accepted
  constructor
  · intro permuted order
    obtain ⟨readings', again, moved⟩ := mapM_ok_of_perm order read
    have some : permuted ≠ [] := fun none => nonempty (none ▸ order).eq_nil
    exact ⟨_, calculateHeatExposure_ok_iff.mpr ⟨some, readings', again, rfl⟩,
      sameAggregates_of_sameRecord arguments _ _ (.perm moved)⟩
  · rintro before item after first second temp hours hours' rfl whole left right
    obtain ⟨front, back, start, last, rfl⟩ := readings_middle read whole
    have again : (before ++ first :: second :: after).mapM Observation.reading =
        .ok (front ++ (temp, hours) :: (temp, hours') :: back) :=
      mapM_append_ok_iff.mpr ⟨front, _, start, mapM_cons_ok_iff.mpr
        ⟨_, _, reading_ok_iff.mpr left, mapM_cons_ok_iff.mpr
          ⟨_, back, reading_ok_iff.mpr right, last, rfl⟩, rfl⟩, rfl⟩
    exact ⟨_, calculateHeatExposure_ok_iff.mpr ⟨by simp, _, again, rfl⟩,
      sameAggregates_of_sameRecord arguments _ _ (SameRecord.cut_at front back temp hours hours')⟩

theorem exposure_of_same_record_cut : ∃ r',
    calculateHeatExposure [measured 36 1, measured 36 3] {} = .ok r' ∧
      SameAggregates (exposure {} 1 [(36, 1 + 3)]) r' := by
  have read : [measured 36 (1 + 3)].mapM Observation.reading = .ok [(36, 1 + 3)] :=
    mapM_cons_ok_iff.mpr
      ⟨_, [], reading_ok_iff.mpr (measured_reads 36 (by norm_num)), rfl, rfl⟩
  have accepted : calculateHeatExposure [measured 36 (1 + 3)] {} =
      .ok (exposure {} 1 [(36, 1 + 3)]) :=
    calculateHeatExposure_ok_iff.mpr ⟨by simp, _, read, rfl⟩
  exact (exposure_of_same_record _ {} _ accepted).2 [] _ [] _ _ 36 1 3 rfl
    (measured_reads 36 (by norm_num)) (measured_reads 36 (by norm_num))
    (measured_reads 36 (by norm_num))

end CoolProof.Heat
