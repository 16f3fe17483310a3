import CoolProof.Library.Loops
import CoolProof.VerificationRuns

/-! The calculation of a verification run: a weather-adjusted difference in differences, with
an interval and costs around it. It is written over any arithmetic of floats, so that what it
raises can be told from what it computes. -/

namespace CoolProof.VerificationRuns
open JsonDocument Uuid Models Loops

/-! ## Floats -/

/-- The floats of the interpreter. An integer beyond their range has none, which is an
`OverflowError`; a literal beyond it is an infinity. -/
structure Arithmetic (F : Type) where
  parse : FloatLiteral → F
  ofInt : Int → Option F
  toInt : F → Int
  isFinite : F → Bool
  eq : F → F → Bool
  lt : F → F → Bool
  le : F → F → Bool
  add : F → F → F
  sub : F → F → F
  mul : F → F → F
  div : F → F → F
  neg : F → F
  abs : F → F
  sqrt : F → F

/-- Integers become finite floats, and the integer part of a finite float is one of them. -/
structure Arithmetic.ConvertsIntegers {F : Type} (fp : Arithmetic F) : Prop where
  finite : ∀ {n x}, fp.ofInt n = some x → fp.isFinite x = true
  integerPart : ∀ {x}, fp.isFinite x = true → (fp.ofInt (max 1 (fp.toInt x))).isSome

/-- `0.0` -/
def zeroLiteral : FloatLiteral := ⟨['0', '.', '0'], by decide +kernel⟩

/-- `1.96` -/
def normalQuantile : FloatLiteral := ⟨['1', '.', '9', '6'], by decide +kernel⟩

/-! ## Values -/

/-- The dictionary of the fields as floats. -/
structure Values (F : Type) where
  treatedBaseline : F
  treatedObserved : F
  controlBaseline : F
  controlObserved : F
  treatedWeatherDelta : F
  controlWeatherDelta : F
  expectedCooling : F
  treatedThresholdHoursBaseline : F
  treatedThresholdHoursObserved : F
  controlThresholdHoursBaseline : F
  controlThresholdHoursObserved : F
  totalCost : F
  sampleSize : F

/-- The float fields, in the order in which they are converted. -/
def VerificationInput.measurements (data : VerificationInput) : List (String × FloatLiteral) :=
  [("treated_baseline", data.treatedBaseline), ("treated_observed", data.treatedObserved),
   ("control_baseline", data.controlBaseline), ("control_observed", data.controlObserved),
   ("treated_weather_delta", data.treatedWeatherDelta),
   ("control_weather_delta", data.controlWeatherDelta),
   ("expected_cooling", data.expectedCooling),
   ("treated_threshold_hours_baseline", data.treatedThresholdHoursBaseline),
   ("treated_threshold_hours_observed", data.treatedThresholdHoursObserved),
   ("control_threshold_hours_baseline", data.controlThresholdHoursBaseline),
   ("control_threshold_hours_observed", data.controlThresholdHoursObserved),
   ("total_cost", data.totalCost)]

section Calculation

variable {F : Type} (fp : Arithmetic F)

/-- `_finite` -/
def finite (name : String) (value : F) : Except CalculationError F :=
  if fp.isFinite value then .ok value else .error (.valueError (name ++ " must be finite"))

/-- `{name: _finite(name, float(value)) for name, value in data.__dict__.items()}`; the sample
size is the last field. -/
def values (data : VerificationInput) : Except CalculationError (Values F) := do
  let _ ← data.measurements.mapM fun field => finite fp field.1 (fp.parse field.2)
  match fp.ofInt data.sampleSize with
  | none => .error .other
  | some size =>
      let sampleSize ← finite fp "sample_size" size
      .ok {
        treatedBaseline := fp.parse data.treatedBaseline
        treatedObserved := fp.parse data.treatedObserved
        controlBaseline := fp.parse data.controlBaseline
        controlObserved := fp.parse data.controlObserved
        treatedWeatherDelta := fp.parse data.treatedWeatherDelta
        controlWeatherDelta := fp.parse data.controlWeatherDelta
        expectedCooling := fp.parse data.expectedCooling
        treatedThresholdHoursBaseline := fp.parse data.treatedThresholdHoursBaseline
        treatedThresholdHoursObserved := fp.parse data.treatedThresholdHoursObserved
        controlThresholdHoursBaseline := fp.parse data.controlThresholdHoursBaseline
        controlThresholdHoursObserved := fp.parse data.controlThresholdHoursObserved
        totalCost := fp.parse data.totalCost
        sampleSize := sampleSize }

/-! ## The result -/

/-- A value of the result. -/
inductive Figure (F : Type) where
  | method (text : String)
  | number (x : F)
  | flag (b : Bool)
  | count (n : Int)
  | missing

variable (v : Values F)

def treatedDelta : F := fp.sub v.treatedObserved v.treatedBaseline

def controlDelta : F := fp.sub v.controlObserved v.controlBaseline

def treatedAdjustedDelta : F := fp.sub (treatedDelta fp v) v.treatedWeatherDelta

def controlAdjustedDelta : F := fp.sub (controlDelta fp v) v.controlWeatherDelta

/-- Lower temperatures are better, so the control comes first. -/
def coolingEffect : F := fp.sub (controlAdjustedDelta fp v) (treatedAdjustedDelta fp v)

/-- `max(0.0, values["expected_cooling"])` -/
def expected : F :=
  if fp.lt (fp.parse zeroLiteral) v.expectedCooling then v.expectedCooling
  else fp.parse zeroLiteral

def variance : F := fp.sub (coolingEffect fp v) (expected fp v)

def attainment : F :=
  if fp.eq (expected fp v) (fp.parse zeroLiteral) then fp.parse zeroLiteral
  else fp.div (coolingEffect fp v) (expected fp v)

def thresholdTreated : F := fp.sub v.treatedThresholdHoursBaseline v.treatedThresholdHoursObserved

def thresholdControl : F := fp.sub v.controlThresholdHoursBaseline v.controlThresholdHoursObserved

def thresholdReduction : F := fp.sub (thresholdTreated fp v) (thresholdControl fp v)

/-- `max(1, int(values["sample_size"]))` -/
def sampleCount : Int := max 1 (fp.toInt v.sampleSize)

/-- The square root is taken of a float. -/
def standardError : Except CalculationError F :=
  if 1 < sampleCount fp v then
    match fp.ofInt (sampleCount fp v) with
    | none => .error .other
    | some n => .ok (fp.div (fp.abs (coolingEffect fp v)) (fp.sqrt n))
  else .ok (fp.parse zeroLiteral)

/-- A cost for each unit of a gain, if there is a gain. -/
def costPer (gain : F) : Figure F :=
  if fp.lt (fp.parse zeroLiteral) gain then .number (fp.div v.totalCost gain) else .missing

/-- The result that is made of the values, in the order of its keys. -/
def result (standardError : F) : List (String × Figure F) :=
  let margin := fp.mul (fp.parse normalQuantile) standardError
  [("method", .method "matched_control_weather_adjusted_difference_in_differences"),
   ("treated_delta", .number (treatedDelta fp v)),
   ("control_delta", .number (controlDelta fp v)),
   ("treated_weather_adjusted_delta", .number (treatedAdjustedDelta fp v)),
   ("control_weather_adjusted_delta", .number (controlAdjustedDelta fp v)),
   ("cooling_effect", .number (coolingEffect fp v)),
   ("expected_cooling", .number (expected fp v)),
   ("expected_minus_observed", .number (fp.neg (variance fp v))),
   ("attainment_ratio", .number (attainment fp v)),
   ("met_expectation", .flag (fp.le (expected fp v) (coolingEffect fp v))),
   ("threshold_hours_reduction", .number (thresholdReduction fp v)),
   ("treated_threshold_hours_reduction", .number (thresholdTreated fp v)),
   ("control_threshold_hours_reduction", .number (thresholdControl fp v)),
   ("observed_cooling", .number (coolingEffect fp v)),
   ("weather_adjusted_cooling", .number (coolingEffect fp v)),
   ("confidence_interval_95_low", .number (fp.sub (coolingEffect fp v) margin)),
   ("confidence_interval_95_high", .number (fp.add (coolingEffect fp v) margin)),
   ("cost_per_degree", costPer fp v (coolingEffect fp v)),
   ("cost_per_exposure_hour_avoided", costPer fp v (thresholdReduction fp v)),
   ("sample_size", .count (sampleCount fp v))]

/-- `calculate_verification` -/
def calculateVerification (data : VerificationInput) :
    Except CalculationError (List (String × Figure F)) := do
  let v ← values fp data
  let error ← standardError fp v
  .ok (result fp v error)

end Calculation

end CoolProof.VerificationRuns
