import CoolProof.HeatHistory
import CoolProof.QueryCache

/-! When equal provider queries share a cache key. The query resolves defaults, aliases
and units before it is sent; the key is taken from the request as it was spelled, so two
spellings of one query get one key only under `SpelledAlike`. -/

namespace CoolProof.QueryCharging
open JsonDocument ProviderQuery QueryCache Calendar Uuid

/-- The area the key reads: a `polygon` parameter before the geometry of the zone. -/
def keyArea (g ps : Dict) : Json := (ps.get "polygon").getD (.obj g)

/-- The parameter a key field reads, under its first name that is present. -/
def firstOf (names : List String) (ps : Dict) : Json :=
  (names.findSome? fun name => ps.get name).getD .null

def SameParameter (names : List String) (ps₁ ps₂ : Dict) : Prop :=
  Same (firstOf names ps₁) (firstOf names ps₂)

/-- Both requests are sent, and ask for the same metres. -/
def SameMetres (ps₁ ps₂ : Dict) : Prop :=
  ∃ x y, granularity ps₁ = .ok x ∧ granularity ps₂ = .ok y ∧ Equal x y

/-- The requests denote one provider query. -/
def SameQuery (g₁ ps₁ g₂ ps₂ : Dict) : Prop :=
  SameMetres ps₁ ps₂ ∧ SameArea g₁ g₂ ∧
    EqualField (ps₁.get "date_time") (ps₂.get "date_time") ∧
    analyticType ps₁ = analyticType ps₂ ∧
    EqualField (ps₁.get "threshold") (ps₂.get "threshold") ∧
    EqualField (ps₁.get "direction") (ps₂.get "direction")

/-- A named analytic is spelled in one way only; the flag and the default leave it open
what stands under the aliases. -/
def AnalyticSpelledAlike (ps₁ ps₂ : Dict) : Prop :=
  ((namedAnalytic ps₁).isSome ∧ (namedAnalytic ps₂).isSome) ∨
    SameParameter ["analytic_type", "analytic", "analysis_type"] ps₁ ps₂

/-- Without `polygon` parameters both areas are bare or both collections, and their numbers are
written alike. -/
def AreaSpelledAlike (g₁ ps₁ g₂ ps₂ : Dict) : Prop :=
  match ps₁.get "polygon", ps₂.get "polygon" with
  | none, none => isFeatureCollection g₁ = isFeatureCollection g₂ ∧
      Same (.obj (polygonAoi g₁)) (.obj (polygonAoi g₂))
  | _, _ => Same (keyArea g₁ ps₁) (keyArea g₂ ps₂)

/-- A threshold in the query is written alike, and without one, what stands under the alias. -/
def ThresholdSpelledAlike (ps₁ ps₂ : Dict) : Prop :=
  match ps₁.get "threshold", ps₂.get "threshold" with
  | some x, some y => Same x y
  | _, _ => SameParameter ["threshold_c"] ps₁ ps₂

/-- One query in one spelling, its numbers included: agreement in what the translation makes
equal and the key keeps apart. -/
structure SpelledAlike (g₁ ps₁ g₂ ps₂ : Dict) : Prop where
  area : AreaSpelledAlike g₁ ps₁ g₂ ps₂
  window : SameParameter ["datetime", "date", "timestamp", "time"] ps₁ ps₂
  analytic : AnalyticSpelledAlike ps₁ ps₂
  threshold : ThresholdSpelledAlike ps₁ ps₂
  metres : SameParameter ["granularity", "resolution", "resolution_m"] ps₁ ps₂

/-! ## Equal queries -/

/-- FortyGuard receives the same query for both requests. -/
def QueriesEqual (now₁ now₂ : Instant) (g₁ ps₁ g₂ ps₂ : Dict) : Prop :=
  ∃ a b, heatmapPayload now₁ (requestPayload g₁ ps₁) = .ok a ∧
    heatmapPayload now₂ (requestPayload g₂ ps₂) = .ok b ∧ Equal (.obj a) (.obj b)

theorem queriesEqual_iff (now₁ now₂ : Instant) {g₁ ps₁ g₂ ps₂ : Dict}
    (window₁ : HasDateTime ps₁) (window₂ : HasDateTime ps₂) :
    QueriesEqual now₁ now₂ g₁ ps₁ g₂ ps₂ ↔ SameQuery g₁ ps₁ g₂ ps₂ := by
  unfold QueriesEqual SameQuery SameMetres
  rw [heatmapPayload_request, heatmapPayload_request, ← equal_polygonAoi_iff,
    ← equal_dateTime_iff now₁ now₂ window₁ window₂]
  cases granularity ps₁ with
  | error e => simp [Except.map]
  | ok x =>
    cases granularity ps₂ with
    | error f => simp [Except.map]
    | ok y =>
      simp only [Except.map, Except.ok.injEq, exists_and_left, exists_eq_left', equal_query_iff]
      tauto

/-! ## Key fields of equal queries -/

theorem keyArea_request (g ps : Dict) :
    value (requestPayload g ps) ps ["polygon", "geometry"] = keyArea g ps := by
  cases h : ps.get "polygon" <;> simp [value, requestPayload, keyArea, h]

theorem keyFieldsAgree_iff (g₁ ps₁ g₂ ps₂ : Dict) :
    KeyFieldsAgree (requestPayload g₁ ps₁) (requestPayload g₂ ps₂) ↔
      Same (keyArea g₁ ps₁) (keyArea g₂ ps₂) ∧
      SameParameter ["datetime", "date", "timestamp", "time"] ps₁ ps₂ ∧
      SameParameter ["analytic_type", "analytic", "analysis_type"] ps₁ ps₂ ∧
      SameParameter ["threshold", "threshold_c"] ps₁ ps₂ ∧
      SameParameter ["granularity", "resolution", "resolution_m"] ps₁ ps₂ := by
  have parameters : ∀ g ps, dictOr [] ((requestPayload g ps).get "parameters") = ps := by
    intro g ps
    simp [requestPayload, dictOr]
  have named : ∀ g ps names, (∀ name ∈ names, name ≠ "geometry" ∧ name ≠ "parameters") →
      value (requestPayload g ps) ps names = firstOf names ps :=
    fun g ps names other => value_request g ps names other
  simp only [KeyFieldsAgree, keyAliases, List.forall_mem_cons, List.not_mem_nil,
    false_imp_iff, implies_true, and_true, parameters, keyArea_request, SameParameter]
  rw [named _ _ _ (by simp), named _ _ _ (by simp), named _ _ _ (by simp),
    named _ _ _ (by simp), named _ _ _ (by simp), named _ _ _ (by simp),
    named _ _ _ (by simp), named _ _ _ (by simp)]

theorem same_bare_iff {g₁ g₂ : Dict} : Same (.obj g₁) (.obj g₂) ↔
    isFeatureCollection g₁ = isFeatureCollection g₂ ∧
      Same (.obj (polygonAoi g₁)) (.obj (polygonAoi g₂)) := by
  unfold polygonAoi
  constructor
  · intro same
    have kind := isFeatureCollection_eq same.equal
    rw [kind]
    refine ⟨rfl, ?_⟩
    split
    · exact same
    · apply Same.obj_of_canonFields
      simp only [featureCollection, canonFields, Json.canon, canonItems]
      rw [Json.obj.inj same]
  · rintro ⟨kind, same⟩
    rw [kind] at same
    split at same
    · exact same
    · have features := same.get "features"
      simp only [featureCollection, ne_eq, String.reduceEq, not_false_eq_true, Dict.get_cons_ne,
        Dict.get_cons_self, sameField_some, same_arr_singleton] at features
      have geometry := features.get "geometry"
      simpa using geometry

theorem same_area_iff {g₁ ps₁ g₂ ps₂ : Dict} :
    Same (keyArea g₁ ps₁) (keyArea g₂ ps₂) ↔ AreaSpelledAlike g₁ ps₁ g₂ ps₂ := by
  unfold AreaSpelledAlike
  cases h₁ : ps₁.get "polygon" with
  | some x => rfl
  | none =>
    cases h₂ : ps₂.get "polygon" with
    | some y => rfl
    | none =>
      simp only [keyArea, h₁, h₂, Option.getD_none]
      exact same_bare_iff

theorem same_analytic_iff {ps₁ ps₂ : Dict} (same : analyticType ps₁ = analyticType ps₂) :
    SameParameter ["analytic_type", "analytic", "analysis_type"] ps₁ ps₂ ↔
      AnalyticSpelledAlike ps₁ ps₂ := by
  have found : ∀ ps s, namedAnalytic ps = some s →
      firstOf ["analytic_type", "analytic", "analysis_type"] ps = .str s := by
    intro ps s h
    obtain ⟨x, got, text⟩ := Option.bind_eq_some_iff.mp h
    cases x <;> simp_all [Json.asStr, firstOf]
  constructor
  · exact .inr
  · rintro (⟨named₁, named₂⟩ | alike)
    · obtain ⟨s, h₁⟩ := Option.isSome_iff_exists.mp named₁
      obtain ⟨t, h₂⟩ := Option.isSome_iff_exists.mp named₂
      have equal : s = t := by simpa [analyticType, h₁, h₂] using same
      rw [SameParameter, found _ _ h₁, found _ _ h₂, equal]
    · exact alike

theorem same_threshold_iff {ps₁ ps₂ : Dict}
    (equal : EqualField (ps₁.get "threshold") (ps₂.get "threshold")) :
    SameParameter ["threshold", "threshold_c"] ps₁ ps₂ ↔ ThresholdSpelledAlike ps₁ ps₂ := by
  unfold ThresholdSpelledAlike SameParameter firstOf
  cases h₁ : ps₁.get "threshold" <;> cases h₂ : ps₂.get "threshold" <;>
    simp_all [List.findSome?_cons]

/-- The key tells apart what the translation made equal exactly when the spelling does. -/
theorem keyFieldsAgree_iff_spelledAlike {g₁ ps₁ g₂ ps₂ : Dict}
    (same : SameQuery g₁ ps₁ g₂ ps₂) :
    KeyFieldsAgree (requestPayload g₁ ps₁) (requestPayload g₂ ps₂) ↔
      SpelledAlike g₁ ps₁ g₂ ps₂ := by
  obtain ⟨_, _, _, analytic, threshold, _⟩ := same
  rw [keyFieldsAgree_iff, same_area_iff, same_analytic_iff analytic, same_threshold_iff threshold]
  constructor
  · rintro ⟨h₁, h₂, h₃, h₄, h₅⟩
    exact ⟨h₁, h₂, h₃, h₄, h₅⟩
  · rintro ⟨h₁, h₂, h₃, h₄, h₅⟩
    exact ⟨h₁, h₂, h₃, h₄, h₅⟩

/-! ## Charging -/

/-- A request whose key is stored and fresh is answered without the provider. -/
theorem submit_cached {svc : Heat.HeatService} {req : Heat.SubmitRequest} {env : Heat.SubmitEnv}
    {s : Heat.HeatStore} {existing : Models.HeatAnalysis}
    (stored : s.byKey req.organizationId (svc.key req) = some existing)
    (fresh : Heat.isFresh existing env.now = true) :
    Heat.submit svc req env s = ⟨s, .returned existing true, false⟩ := by
  simp [Heat.submit, stored, fresh]

/-- The submission `create_heat_analysis` makes of a zone's geometry and its parameters. -/
def heatRequest (organizationId projectId zoneId : UUID) (g ps : Dict) : Heat.SubmitRequest :=
  ⟨organizationId, projectId, zoneId, requestPayload g ps⟩

/-- The requests share a key, so while an analysis made for the first is fresh the second
buys no activity. -/
def ChargedOnce (svc : Heat.HeatService) (req₁ req₂ : Heat.SubmitRequest) : Prop :=
  svc.key req₁ = svc.key req₂ ∧
    ∀ (s : Heat.HeatStore) (env : Heat.SubmitEnv) (existing : Models.HeatAnalysis),
      s.byKey req₂.organizationId (svc.key req₁) = some existing →
      Heat.isFresh existing env.now = true → (Heat.submit svc req₂ env s).called = false

theorem chargedOnce_iff_key (svc : Heat.HeatService) (req₁ req₂ : Heat.SubmitRequest) :
    ChargedOnce svc req₁ req₂ ↔ svc.key req₁ = svc.key req₂ := by
  constructor
  · exact And.left
  · intro same
    refine ⟨same, fun s env existing stored fresh => ?_⟩
    rw [same] at stored
    rw [submit_cached stored fresh]

/-- One provider query is charged once exactly when it is spelled in one way. -/
theorem equal_queries_charged_once_iff (svc : Heat.HeatService)
    (noCollision : Function.Injective svc.sha256) (org project₁ zone₁ project₂ zone₂ : UUID)
    (now₁ now₂ : Instant) (g₁ ps₁ g₂ ps₂ : Dict) (window₁ : HasDateTime ps₁)
    (window₂ : HasDateTime ps₂) :
    (QueriesEqual now₁ now₂ g₁ ps₁ g₂ ps₂ →
      ChargedOnce svc (heatRequest org project₁ zone₁ g₁ ps₁)
        (heatRequest org project₂ zone₂ g₂ ps₂)) ↔
    (¬SameQuery g₁ ps₁ g₂ ps₂ ∨ SpelledAlike g₁ ps₁ g₂ ps₂) := by
  have keys : ChargedOnce svc (heatRequest org project₁ zone₁ g₁ ps₁)
        (heatRequest org project₂ zone₂ g₂ ps₂) ↔
      KeyFieldsAgree (requestPayload g₁ ps₁) (requestPayload g₂ ps₂) := by
    rw [chargedOnce_iff_key]
    exact key_eq_iff svc.sha256 noCollision zone₁ zone₂ _ _
  rw [keys, queriesEqual_iff now₁ now₂ window₁ window₂]
  by_cases same : SameQuery g₁ ps₁ g₂ ps₂
  · simp [same, keyFieldsAgree_iff_spelledAlike same]
  · simp [same]

/-- A filter of `1` and one of `1.0` ask for the same thing, and are spelled alike where the key
looks. -/
theorem equal_queries_charged_once_iff_days :
    Function.Injective Heat.sampleService.sha256 ∧ HasDateTime (filterRequest (.int 1)) ∧
      HasDateTime (filterRequest (.float .one)) ∧
    ((QueriesEqual 0 7 [] (filterRequest (.int 1)) [] (filterRequest (.float .one)) →
      ChargedOnce Heat.sampleService (heatRequest 1 2 3 [] (filterRequest (.int 1)))
        (heatRequest 1 4 5 [] (filterRequest (.float .one)))) ↔
    (¬SameQuery [] (filterRequest (.int 1)) [] (filterRequest (.float .one)) ∨
      SpelledAlike [] (filterRequest (.int 1)) [] (filterRequest (.float .one)))) ∧
    SameQuery [] (filterRequest (.int 1)) [] (filterRequest (.float .one)) ∧
    SpelledAlike [] (filterRequest (.int 1)) [] (filterRequest (.float .one)) ∧
    ¬Same (.obj (filterRequest (.int 1))) (.obj (filterRequest (.float .one))) :=
  ⟨fun _ _ h => h, filterRequest_hasDateTime _, filterRequest_hasDateTime _,
    equal_queries_charged_once_iff Heat.sampleService (fun _ _ h => h) 1 2 3 4 5 0 7 [] _ [] _
      (filterRequest_hasDateTime _) (filterRequest_hasDateTime _),
    ⟨⟨_, _, rfl, rfl, rfl⟩, .inl rfl, by decide +kernel, rfl, by decide, by decide⟩,
    ⟨⟨rfl, rfl⟩, rfl, .inr rfl, rfl, rfl⟩, by decide⟩

/-- The default granularity, spelled out. -/
def spelledRequest (day : String) : Dict := ("granularity", .int 100) :: dayRequest day

theorem spelledRequest_hasDateTime (day : String) : HasDateTime (spelledRequest day) :=
  ⟨_, by simp [spelledRequest, dayRequest]; rfl⟩

/-- A request that spells the default out sends the query of one that leaves it out, and is
charged a second time. -/
theorem spelled_default_charged_twice :
    ¬∀ (svc : Heat.HeatService), Function.Injective svc.sha256 →
      ∀ (org project₁ zone₁ project₂ zone₂ : UUID) (now₁ now₂ : Instant) (g₁ ps₁ g₂ ps₂ : Dict),
        HasDateTime ps₁ → HasDateTime ps₂ → QueriesEqual now₁ now₂ g₁ ps₁ g₂ ps₂ →
        ChargedOnce svc (heatRequest org project₁ zone₁ g₁ ps₁)
          (heatRequest org project₂ zone₂ g₂ ps₂) := by
  intro once
  have equal : QueriesEqual 0 0 [] (dayRequest "2024-07-15") [] (spelledRequest "2024-07-15") :=
    ⟨_, _, rfl, rfl, by decide⟩
  have charged := once Heat.sampleService (fun _ _ h => h) 1 2 3 2 3 0 0 [] _ [] _
    (dayRequest_hasDateTime _) (spelledRequest_hasDateTime _) equal
  have agree := (key_eq_iff id (fun _ _ h => h) 3 3 _ _).mp charged.1
  exact absurd agree (by decide)

end CoolProof.QueryCharging
