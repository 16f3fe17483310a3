import CoolProof.Library.Calendar
import CoolProof.Library.JsonText
import CoolProof.Library.Uuid

/-! The two readings of a heat request: the idempotency key under which an analysis
is cached, and the FortyGuard query that is sent and paid for. The key picks its
fields by alias, request before parameters; the query reads other names. Nothing
here assumes that the two readings look at the same fields. -/

namespace CoolProof.ProviderQuery
open JsonDocument PythonText Calendar Uuid

structure FortyGuardError where
  code : String
  message : String
  retryable : Bool
deriving DecidableEq

/-- What the query translation may raise; `int` raises ValueError with the text. -/
inductive Raised where
  | fortyGuard (exc : FortyGuardError)
  | valueError (text : String)
deriving DecidableEq

def dictOr (fallback : Dict) : Option Json → Dict
  | some (.obj fields) => fields
  | _ => fallback

/-- The inner function `value(*names)` of the key: first name that either object has. -/
def value (request params : Dict) : List String → Json
  | [] => .null
  | name :: names =>
      match request.get name with
      | some x => x
      | none =>
          match params.get name with
          | some x => x
          | none => value request params names

def canonical (request : Dict) : Dict :=
  let params := dictOr [] (request.get "parameters")
  [("polygon", value request params ["polygon", "geometry"]),
   ("datetime", value request params ["datetime", "date", "timestamp", "time"]),
   ("analytic_type", value request params ["analytic_type", "analytic", "analysis_type"]),
   ("threshold", value request params ["threshold", "threshold_c"]),
   ("granularity", value request params ["granularity", "resolution", "resolution_m"])]

/-- `analysis_idempotency_key`; the zone is dropped, the digest is a parameter. -/
def analysisIdempotencyKey (sha256 : String → String) (_zoneId : UUID) (request : Dict) : String :=
  sha256 (JsonText.dumps (.obj (canonical request)))

def isFeatureCollection (geometry : Dict) : Bool :=
  geometry.get "type" = some (.str "FeatureCollection")

def featureCollection (geometry : Dict) : Dict :=
  [("type", .str "FeatureCollection"),
   ("features", .arr [.obj [("type", .str "Feature"), ("properties", .obj []),
     ("geometry", .obj geometry)]])]

def polygonAoi (geometry : Dict) : Dict :=
  if isFeatureCollection geometry then geometry else featureCollection geometry

/-- `a or b` on optional values. -/
def pyOr (a b : Option Json) : Option Json :=
  match a with
  | some x => if x.truthy then some x else b
  | none => b

def currentHour (now : Instant) : Dict :=
  [("start_date", .str (isoDate (startOfHour now))),
   ("start_time", .str (hourMinute (startOfHour now))), ("filter_type", .int 1)]

def dateTime (now : Instant) (parameters : Dict) : Dict :=
  dictOr (currentHour now) (parameters.get "date_time")

/-- The analytic chosen by the flag when no string names one. -/
def flagAnalytic (parameters : Dict) : String :=
  if ((parameters.get "include_exceedance").getD .null).truthy then "exceedance" else "tcm"

def namedAnalytic (parameters : Dict) : Option String :=
  (parameters.get "analytic_type").bind Json.asStr

def analyticType (parameters : Dict) : String :=
  (namedAnalytic parameters).getD (flagAnalytic parameters)

/-- `parameters.get("granularity", parameters.get("resolution"))` -/
def requestedGranularity (parameters : Dict) : Option Json :=
  (parameters.get "granularity").or (parameters.get "resolution")

/-- The text before a final `m`, when there is one. -/
def metreText : Json → Option (List Char)
  | .str s => if s.toList.getLast? = some 'm' then some s.toList.dropLast else none
  | _ => none

def readGranularity (x : Json) : Except Raised Json :=
  match metreText x with
  | none => .ok x
  | some digits =>
      match int 10 digits with
      | some n => .ok (.int n)
      | none => .error (.valueError (String.ofList digits))

def granularity (parameters : Dict) : Except Raised Json :=
  readGranularity ((requestedGranularity parameters).getD (.int 100))

/-- The optional keys `threshold` and `direction`, copied when present. -/
def copied (key : String) (parameters : Dict) : Dict :=
  match parameters.get key with
  | some x => [(key, x)]
  | none => []

/-- `FortyGuardClient._heatmap_payload` -/
def heatmapPayload (now : Instant) (payload : Dict) : Except Raised Dict :=
  match pyOr (payload.get "polygon_aoi") (payload.get "geometry") with
  | some (.obj geometry) => do
      let parameters := dictOr [] (payload.get "parameters")
      let granularity ← granularity parameters
      pure ([("polygon_aoi", .obj (polygonAoi geometry)),
        ("date_time", .obj (dateTime now parameters)),
        ("granularity", granularity),
        ("analytic_type", .str (analyticType parameters))] ++
        (copied "threshold" parameters ++ copied "direction" parameters))
  | _ => .error (.fortyGuard
      ⟨"fortyguard_invalid_request", "A polygon geometry is required", false⟩)

/-- The payload `create_heat_analysis` builds from a zone and the request body. -/
def requestPayload (geometry parameters : Dict) : Dict :=
  [("geometry", .obj geometry), ("parameters", .obj parameters)]

/-- The same outcome: queries that Python finds equal, or the same exception. -/
def SameOutcome : Except Raised Dict → Except Raised Dict → Prop
  | .ok a, .ok b => Equal (.obj a) (.obj b)
  | .error e, .error f => e = f
  | _, _ => False

/-! ## What the key reads -/

/-- The alias lists of the key, in the order of its fields. -/
def keyAliases : List (List String) :=
  [["polygon", "geometry"], ["datetime", "date", "timestamp", "time"],
   ["analytic_type", "analytic", "analysis_type"], ["threshold", "threshold_c"],
   ["granularity", "resolution", "resolution_m"]]

/-- Both requests have the same text under every alias list of the key. -/
def KeyFieldsAgree (r₁ r₂ : Dict) : Prop :=
  ∀ names ∈ keyAliases,
    Same (value r₁ (dictOr [] (r₁.get "parameters")) names)
      (value r₂ (dictOr [] (r₂.get "parameters")) names)

instance (r₁ r₂ : Dict) : Decidable (KeyFieldsAgree r₁ r₂) :=
  inferInstanceAs (Decidable (∀ names ∈ keyAliases, _))

theorem same_canonical_iff (r₁ r₂ : Dict) :
    Same (.obj (canonical r₁)) (.obj (canonical r₂)) ↔ KeyFieldsAgree r₁ r₂ := by
  constructor
  · intro same
    have polygon := same.get "polygon"
    have datetime := same.get "datetime"
    have analytic := same.get "analytic_type"
    have threshold := same.get "threshold"
    have granularity := same.get "granularity"
    simp [canonical] at polygon datetime analytic threshold granularity
    simp [KeyFieldsAgree, keyAliases, polygon, datetime, analytic, threshold, granularity]
  · intro agree
    simp only [KeyFieldsAgree, keyAliases, List.forall_mem_cons, List.not_mem_nil,
      false_imp_iff, implies_true, and_true] at agree
    obtain ⟨polygon, datetime, analytic, threshold, granularity⟩ := agree
    apply Same.obj_of_canonFields
    simp only [canonical, canonFields]
    rw [polygon, datetime, analytic, threshold, granularity]

/-- With a collision-free digest, equal keys mean equal key fields and nothing more. -/
theorem key_eq_iff (sha256 : String → String) (noCollision : Function.Injective sha256)
    (z₁ z₂ : UUID) (r₁ r₂ : Dict) :
    analysisIdempotencyKey sha256 z₁ r₁ = analysisIdempotencyKey sha256 z₂ r₂ ↔
      KeyFieldsAgree r₁ r₂ := by
  rw [analysisIdempotencyKey, analysisIdempotencyKey, noCollision.eq_iff, JsonText.dumps_eq_iff,
    same_canonical_iff]

end CoolProof.ProviderQuery
