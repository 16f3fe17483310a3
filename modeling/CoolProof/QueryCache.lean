import CoolProof.ProviderQuery

/-! When the cache key is sound for the provider query. The key never reads
`date_time`, `direction` or `include_exceedance`, and it reads a few names that the
query ignores, so equal keys determine the query only under `UnreadAgree`. -/

namespace CoolProof.QueryCache
open JsonDocument ProviderQuery Calendar Uuid

/-- The request names its time window, so the clock plays no part. -/
def HasDateTime (parameters : Dict) : Prop :=
  ∃ window, parameters.get "date_time" = some (.obj window)

/-- The same area, a bare geometry standing for the collection that wraps it. -/
def SameArea (g₁ g₂ : Dict) : Prop :=
  Equal (.obj g₁) (.obj g₂) ∨
    (isFeatureCollection g₁ = false ∧ Equal (.obj g₂) (.obj (featureCollection g₁))) ∨
    (isFeatureCollection g₂ = false ∧ Equal (.obj g₁) (.obj (featureCollection g₂)))

/-- The named analytics agree when both requests name one; a request that names none
agrees with one that names what its exceedance flag selects. -/
def AnalyticAgree (ps₁ ps₂ : Dict) : Prop :=
  match namedAnalytic ps₁, namedAnalytic ps₂ with
  | some _, some _ => True
  | some s, none => s = flagAnalytic ps₂
  | none, some t => t = flagAnalytic ps₁
  | none, none => flagAnalytic ps₁ = flagAnalytic ps₂

/-- The default of 100 metres, as a number of either kind or as a text in metres. -/
def IsDefaultGranularity (x : Json) : Prop :=
  Equal x (.int 100) ∨ ∃ digits, metreText x = some digits ∧ PythonText.int 10 digits = some 100

/-- Both requests give `granularity` or `resolution`, or neither does, or the one that
does asks for the default. -/
def GranularityAgree (ps₁ ps₂ : Dict) : Prop :=
  match requestedGranularity ps₁, requestedGranularity ps₂ with
  | some _, some _ => True
  | some x, none => IsDefaultGranularity x
  | none, some y => IsDefaultGranularity y
  | none, none => True

/-- The granularity is a text in metres that is not a number. -/
def MalformedGranularity (ps : Dict) : Prop :=
  ∃ x digits, requestedGranularity ps = some x ∧ metreText x = some digits ∧
    PythonText.int 10 digits = none

/-- Agreement in what the query reads and the key does not. -/
def UnreadAgree (g₁ ps₁ g₂ ps₂ : Dict) : Prop :=
  GranularityAgree ps₁ ps₂ ∧
    (MalformedGranularity ps₁ ∨
      SameArea g₁ g₂ ∧ EqualField (ps₁.get "date_time") (ps₂.get "date_time") ∧
        AnalyticAgree ps₁ ps₂ ∧
        (ps₁.get "threshold").isSome = (ps₂.get "threshold").isSome ∧
        EqualField (ps₁.get "direction") (ps₂.get "direction"))

/-! ## The query, field by field -/

theorem heatmapPayload_request (now : Instant) (g ps : Dict) :
    heatmapPayload now (requestPayload g ps) = (granularity ps).map fun x =>
      [("polygon_aoi", .obj (polygonAoi g)), ("date_time", .obj (dateTime now ps)),
        ("granularity", x), ("analytic_type", .str (analyticType ps))] ++
        (copied "threshold" ps ++ copied "direction" ps) := by
  have geometry : pyOr ((requestPayload g ps).get "polygon_aoi")
      ((requestPayload g ps).get "geometry") = some (.obj g) := by
    simp [requestPayload, pyOr]
  have parameters : dictOr [] ((requestPayload g ps).get "parameters") = ps := by
    simp [requestPayload, dictOr]
  rw [heatmapPayload, geometry]
  simp only [parameters]
  cases granularity ps <;> rfl

theorem get_copied_self (key : String) (ps : Dict) : (copied key ps).get key = ps.get key := by
  unfold copied
  split <;> simp_all

theorem get_copied_ne {key name : String} (ps : Dict) (h : name ≠ key) :
    (copied key ps).get name = none := by
  unfold copied
  split <;> simp_all

/-- Two queries with readable granularities are equal exactly field by field. -/
theorem equal_query_iff (now₁ now₂ : Instant) (g₁ ps₁ g₂ ps₂ : Dict) (x₁ x₂ : Json) :
    Equal (.obj ([("polygon_aoi", .obj (polygonAoi g₁)), ("date_time", .obj (dateTime now₁ ps₁)),
        ("granularity", x₁), ("analytic_type", .str (analyticType ps₁))] ++
        (copied "threshold" ps₁ ++ copied "direction" ps₁)))
      (.obj ([("polygon_aoi", .obj (polygonAoi g₂)), ("date_time", .obj (dateTime now₂ ps₂)),
        ("granularity", x₂), ("analytic_type", .str (analyticType ps₂))] ++
        (copied "threshold" ps₂ ++ copied "direction" ps₂))) ↔
    Equal (.obj (polygonAoi g₁)) (.obj (polygonAoi g₂)) ∧
      Equal (.obj (dateTime now₁ ps₁)) (.obj (dateTime now₂ ps₂)) ∧ Equal x₁ x₂ ∧
      analyticType ps₁ = analyticType ps₂ ∧
      EqualField (ps₁.get "threshold") (ps₂.get "threshold") ∧
      EqualField (ps₁.get "direction") (ps₂.get "direction") := by
  constructor
  · intro same
    have area := same.get "polygon_aoi"
    have window := same.get "date_time"
    have metres := same.get "granularity"
    have analytic := same.get "analytic_type"
    have threshold := same.get "threshold"
    have direction := same.get "direction"
    simp at area window metres analytic
    simp [Dict.get_append, get_copied_self, get_copied_ne] at threshold direction
    exact ⟨area, window, metres, analytic, threshold, direction⟩
  · rintro ⟨area, window, metres, analytic, threshold, direction⟩
    have copiedEqual : ∀ key, EqualField (ps₁.get key) (ps₂.get key) →
        canonFields (plainFields (copied key ps₁)) =
          canonFields (plainFields (copied key ps₂)) := by
      intro key field
      unfold copied
      cases h₁ : ps₁.get key <;> cases h₂ : ps₂.get key <;>
        simp_all [plainFields, canonFields, Equal, Same]
    apply Equal.obj_of_canonFields
    simp only [plainFields_append, canonFields_append, copiedEqual _ threshold,
      copiedEqual _ direction, plainFields, canonFields]
    rw [area, window, metres, analytic]

theorem equal_featureCollection_iff (g h : Dict) :
    Equal (.obj (featureCollection g)) (.obj (featureCollection h)) ↔
      Equal (.obj g) (.obj h) := by
  constructor
  · intro equal
    have features := equal.get "features"
    simp only [featureCollection, ne_eq, String.reduceEq, not_false_eq_true, Dict.get_cons_ne,
      Dict.get_cons_self, equalField_some, equal_arr_singleton] at features
    have geometry := features.get "geometry"
    simpa using geometry
  · intro equal
    have feature : Equal
        (.obj [("type", .str "Feature"), ("properties", .obj []), ("geometry", .obj g)])
        (.obj [("type", .str "Feature"), ("properties", .obj []), ("geometry", .obj h)]) := by
      apply Equal.obj_of_canonFields
      simp only [plainFields, canonFields]
      rw [equal]
    have features := (equal_arr_singleton _ _).mpr feature
    apply Equal.obj_of_canonFields
    simp only [featureCollection, plainFields, canonFields]
    rw [features]

theorem isFeatureCollection_eq {g h : Dict} (equal : Equal (.obj g) (.obj h)) :
    isFeatureCollection g = isFeatureCollection h := by
  unfold isFeatureCollection
  rw [decide_eq_decide]
  exact (equal.get "type").eq_some_str_iff _

theorem isFeatureCollection_featureCollection (g : Dict) :
    isFeatureCollection (featureCollection g) = true := by
  simp [isFeatureCollection, featureCollection]

theorem equal_polygonAoi_iff (g₁ g₂ : Dict) :
    Equal (.obj (polygonAoi g₁)) (.obj (polygonAoi g₂)) ↔ SameArea g₁ g₂ := by
  -- a wrapped area is never equal to a bare geometry
  have mixed : ∀ {g h : Dict}, isFeatureCollection g = true → isFeatureCollection h = false →
      ¬Equal (.obj g) (.obj h) := by
    intro g h hg hh same
    rw [isFeatureCollection_eq same, hh] at hg
    exact Bool.false_ne_true hg
  have wrapped := isFeatureCollection_featureCollection
  unfold polygonAoi SameArea
  cases h₁ : isFeatureCollection g₁ <;> cases h₂ : isFeatureCollection g₂
  · have left : ¬Equal (.obj g₂) (.obj (featureCollection g₁)) :=
      fun same => mixed (wrapped g₁) h₂ same.symm
    have right : ¬Equal (.obj g₁) (.obj (featureCollection g₂)) :=
      fun same => mixed (wrapped g₂) h₁ same.symm
    simp [equal_featureCollection_iff, left, right]
  · have bare : ¬Equal (.obj g₁) (.obj g₂) := fun same => mixed h₂ h₁ same.symm
    simp only [Bool.false_eq_true, if_false, if_true, bare, false_or, true_and, false_and,
      or_false, reduceCtorEq]
    exact ⟨Equal.symm, Equal.symm⟩
  · have bare : ¬Equal (.obj g₁) (.obj g₂) := mixed h₁ h₂
    simp [bare]
  · simp

/-! ## Soundness of the key -/

theorem value_request (g ps : Dict) (names : List String)
    (other : ∀ name ∈ names, name ≠ "geometry" ∧ name ≠ "parameters") :
    value (requestPayload g ps) ps names =
      (names.findSome? fun name => ps.get name).getD .null := by
  induction names with
  | nil => rfl
  | cons name names ih =>
    obtain ⟨geometry, parameters⟩ := other name (by simp)
    have tail := ih (fun n hn => other n (List.mem_cons_of_mem _ hn))
    have absent : (requestPayload g ps).get name = none := by
      simp [requestPayload, geometry, parameters]
    rw [value, absent, List.findSome?_cons]
    cases ps.get name <;> simp [tail]

theorem keyFieldsAgree_value {g₁ ps₁ g₂ ps₂ : Dict}
    (agree : KeyFieldsAgree (requestPayload g₁ ps₁) (requestPayload g₂ ps₂))
    (names : List String) (member : names ∈ keyAliases)
    (other : ∀ name ∈ names, name ≠ "geometry" ∧ name ≠ "parameters") :
    Same ((names.findSome? fun name => ps₁.get name).getD .null)
      ((names.findSome? fun name => ps₂.get name).getD .null) := by
  have parameters : ∀ g ps, dictOr [] ((requestPayload g ps).get "parameters") = ps := by
    intro g ps
    simp [requestPayload, dictOr]
  have same := agree names member
  rwa [parameters, parameters, value_request _ _ _ other, value_request _ _ _ other] at same

/-- The two outcomes of reading a granularity. -/
def SameRead : Except Raised Json → Except Raised Json → Prop
  | .ok x, .ok y => Equal x y
  | .error e, .error f => e = f
  | _, _ => False

theorem metreText_of_same {x y : Json} (same : Same x y) : metreText x = metreText y := by
  cases x with
  | str s => rw [(str_same y s).mp same]
  | _ =>
    cases y with
    | str t => exact absurd ((same_str _ t).mp same) (by simp)
    | _ => rfl

theorem readGranularity_of_same {x y : Json} (same : Same x y) :
    SameRead (readGranularity x) (readGranularity y) := by
  unfold readGranularity
  rw [metreText_of_same same]
  cases metreText y with
  | none => exact same.equal
  | some digits => cases hi : PythonText.int 10 digits <;> simp [SameRead, hi]

theorem sameRead_default_iff (x : Json) :
    SameRead (readGranularity x) (.ok (.int 100)) ↔ IsDefaultGranularity x := by
  unfold IsDefaultGranularity readGranularity
  cases hm : metreText x with
  | none => simp [SameRead]
  | some digits =>
    have named : ¬Equal x (.int 100) := by
      cases x with
      | str s => exact nofun
      | _ => cases hm
    cases hi : PythonText.int 10 digits with
    | none => simp [SameRead, hi, named]
    | some n =>
      have same : Equal (.int n) (.int 100) ↔ n = 100 := by
        rw [equal_numbers_iff rfl rfl]
        exact Int.cast_inj
      simp [SameRead, hi, named, same]

theorem granularity_default {ps : Dict} (h : requestedGranularity ps = none) :
    granularity ps = .ok (.int 100) := by simp [granularity, h, readGranularity, metreText]

theorem sameRead_comm {x y : Except Raised Json} (h : SameRead x y) : SameRead y x := by
  cases x <;> cases y <;> simp_all [SameRead, Equal, Same]

/-- Under equal keys the two granularities agree as the request shows. -/
theorem sameRead_granularity_iff {g₁ ps₁ g₂ ps₂ : Dict}
    (agree : KeyFieldsAgree (requestPayload g₁ ps₁) (requestPayload g₂ ps₂)) :
    SameRead (granularity ps₁) (granularity ps₂) ↔ GranularityAgree ps₁ ps₂ := by
  have picked := keyFieldsAgree_value agree
    ["granularity", "resolution", "resolution_m"] (by simp [keyAliases]) (by simp)
  have found : ∀ ps x, requestedGranularity ps = some x →
      (["granularity", "resolution", "resolution_m"].findSome? fun name => ps.get name) =
        some x := by
    intro ps x h
    unfold requestedGranularity at h
    cases hg : ps.get "granularity" <;> simp_all [List.findSome?_cons]
  unfold GranularityAgree
  cases h₁ : requestedGranularity ps₁ with
  | none =>
    cases h₂ : requestedGranularity ps₂ with
    | none => simp [granularity_default h₁, granularity_default h₂, SameRead]
    | some y =>
      have read : granularity ps₂ = readGranularity y := by simp [granularity, h₂]
      rw [granularity_default h₁, read]
      change _ ↔ IsDefaultGranularity y
      rw [← sameRead_default_iff]
      exact ⟨sameRead_comm, sameRead_comm⟩
  | some x =>
    have read₁ : granularity ps₁ = readGranularity x := by simp [granularity, h₁]
    cases h₂ : requestedGranularity ps₂ with
    | none => rw [read₁, granularity_default h₂, sameRead_default_iff]
    | some y =>
      have read₂ : granularity ps₂ = readGranularity y := by simp [granularity, h₂]
      rw [found _ _ h₁, found _ _ h₂] at picked
      simpa [read₁, read₂] using readGranularity_of_same picked

theorem granularity_error_iff (ps : Dict) :
    (∃ e, granularity ps = .error e) ↔ MalformedGranularity ps := by
  unfold MalformedGranularity granularity readGranularity
  cases h : requestedGranularity ps with
  | none => simp [metreText]
  | some x =>
    cases hm : metreText x with
    | none => simp [hm]
    | some digits => cases hi : PythonText.int 10 digits <;> simp [hm, hi]

theorem analyticType_eq_iff {g₁ ps₁ g₂ ps₂ : Dict}
    (agree : KeyFieldsAgree (requestPayload g₁ ps₁) (requestPayload g₂ ps₂)) :
    analyticType ps₁ = analyticType ps₂ ↔ AnalyticAgree ps₁ ps₂ := by
  have picked := keyFieldsAgree_value agree
    ["analytic_type", "analytic", "analysis_type"] (by simp [keyAliases]) (by simp)
  have found : ∀ ps s, namedAnalytic ps = some s → ps.get "analytic_type" = some (.str s) := by
    intro ps s h
    obtain ⟨x, got, text⟩ := Option.bind_eq_some_iff.mp h
    cases x <;> simp_all [Json.asStr]
  unfold AnalyticAgree analyticType
  cases h₁ : namedAnalytic ps₁ with
  | none => cases h₂ : namedAnalytic ps₂ <;> simp [eq_comm]
  | some s =>
    cases h₂ : namedAnalytic ps₂ with
    | none => simp
    | some t =>
      simp only [List.findSome?_cons, found _ _ h₁, found _ _ h₂, Option.getD_some,
        same_str] at picked
      simpa using Json.str.inj picked

theorem equalField_threshold_iff {g₁ ps₁ g₂ ps₂ : Dict}
    (agree : KeyFieldsAgree (requestPayload g₁ ps₁) (requestPayload g₂ ps₂)) :
    EqualField (ps₁.get "threshold") (ps₂.get "threshold") ↔
      (ps₁.get "threshold").isSome = (ps₂.get "threshold").isSome := by
  have picked := keyFieldsAgree_value agree
    ["threshold", "threshold_c"] (by simp [keyAliases]) (by simp)
  constructor
  · exact EqualField.isSome_eq
  · intro present
    cases h₁ : ps₁.get "threshold" <;> cases h₂ : ps₂.get "threshold" <;>
      simp_all [List.findSome?_cons, Same.equal]

theorem equal_dateTime_iff (now₁ now₂ : Instant) {ps₁ ps₂ : Dict} (window₁ : HasDateTime ps₁)
    (window₂ : HasDateTime ps₂) :
    Equal (.obj (dateTime now₁ ps₁)) (.obj (dateTime now₂ ps₂)) ↔
      EqualField (ps₁.get "date_time") (ps₂.get "date_time") := by
  obtain ⟨w₁, h₁⟩ := window₁
  obtain ⟨w₂, h₂⟩ := window₂
  simp [dateTime, dictOr, h₁, h₂]

/-- Under equal keys the queries are equal exactly when the unread fields agree. -/
theorem sameOutcome_iff (now₁ now₂ : Instant) {g₁ ps₁ g₂ ps₂ : Dict}
    (window₁ : HasDateTime ps₁) (window₂ : HasDateTime ps₂)
    (agree : KeyFieldsAgree (requestPayload g₁ ps₁) (requestPayload g₂ ps₂)) :
    SameOutcome (heatmapPayload now₁ (requestPayload g₁ ps₁))
        (heatmapPayload now₂ (requestPayload g₂ ps₂)) ↔ UnreadAgree g₁ ps₁ g₂ ps₂ := by
  unfold UnreadAgree
  rw [heatmapPayload_request, heatmapPayload_request, ← sameRead_granularity_iff agree,
    ← granularity_error_iff, ← equal_polygonAoi_iff, ← equal_dateTime_iff now₁ now₂ window₁ window₂,
    ← analyticType_eq_iff agree, ← equalField_threshold_iff agree]
  cases granularity ps₁ with
  | error e => cases granularity ps₂ <;> simp [SameOutcome, SameRead, Except.map]
  | ok x =>
    cases granularity ps₂ with
    | error f => simp [SameOutcome, SameRead, Except.map]
    | ok y =>
      simp only [SameOutcome, SameRead, Except.map, equal_query_iff, reduceCtorEq, exists_false,
        false_or]
      tauto

/-- A cached analysis answers the query it was made for exactly when the two requests
differ in a field of the key or agree in what the key leaves out. -/
theorem cached_query_sound_iff (sha256 : String → String)
    (noCollision : Function.Injective sha256) (zone₁ zone₂ : UUID) (now₁ now₂ : Instant)
    (g₁ ps₁ g₂ ps₂ : Dict) (window₁ : HasDateTime ps₁) (window₂ : HasDateTime ps₂) :
    (analysisIdempotencyKey sha256 zone₁ (requestPayload g₁ ps₁) =
        analysisIdempotencyKey sha256 zone₂ (requestPayload g₂ ps₂) →
      SameOutcome (heatmapPayload now₁ (requestPayload g₁ ps₁))
        (heatmapPayload now₂ (requestPayload g₂ ps₂))) ↔
    (¬KeyFieldsAgree (requestPayload g₁ ps₁) (requestPayload g₂ ps₂) ∨
      UnreadAgree g₁ ps₁ g₂ ps₂) := by
  rw [key_eq_iff sha256 noCollision]
  by_cases agree : KeyFieldsAgree (requestPayload g₁ ps₁) (requestPayload g₂ ps₂)
  · simp [agree, sameOutcome_iff now₁ now₂ window₁ window₂ agree]
  · simp [agree]

/-- A request for one day, by the name the query reads. -/
def dayRequest (day : String) : Dict :=
  [("date_time", .obj [("start_date", .str day), ("filter_type", .int 1)])]

theorem dayRequest_hasDateTime (day : String) : HasDateTime (dayRequest day) :=
  ⟨_, by simp [dayRequest]; rfl⟩

/-- A day whose filter is a number of either kind. -/
def filterRequest (filter : Json) : Dict :=
  [("date_time", .obj [("start_date", .str "2024-07-15"), ("filter_type", filter)]),
   ("threshold", .int 35)]

theorem filterRequest_hasDateTime (filter : Json) : HasDateTime (filterRequest filter) :=
  ⟨_, by simp [filterRequest]; rfl⟩

/-- A filter of `1` and one of `1.0` are two requests with one key, and their queries are equal. -/
theorem cached_query_sound_iff_days :
    Function.Injective (id : String → String) ∧
      HasDateTime (filterRequest (.int 1)) ∧ HasDateTime (filterRequest (.float .one)) ∧
    ((analysisIdempotencyKey id 1 (requestPayload [] (filterRequest (.int 1))) =
        analysisIdempotencyKey id 2 (requestPayload [] (filterRequest (.float .one))) →
      SameOutcome (heatmapPayload 0 (requestPayload [] (filterRequest (.int 1))))
        (heatmapPayload 7 (requestPayload [] (filterRequest (.float .one))))) ↔
    (¬KeyFieldsAgree (requestPayload [] (filterRequest (.int 1)))
        (requestPayload [] (filterRequest (.float .one))) ∨
      UnreadAgree [] (filterRequest (.int 1)) [] (filterRequest (.float .one)))) ∧
    KeyFieldsAgree (requestPayload [] (filterRequest (.int 1)))
      (requestPayload [] (filterRequest (.float .one))) ∧
    UnreadAgree [] (filterRequest (.int 1)) [] (filterRequest (.float .one)) ∧
    ¬Same (.obj (filterRequest (.int 1))) (.obj (filterRequest (.float .one))) :=
  ⟨fun _ _ h => h, filterRequest_hasDateTime _, filterRequest_hasDateTime _,
    cached_query_sound_iff id (fun _ _ h => h) 1 2 0 7 [] _ [] _
      (filterRequest_hasDateTime _) (filterRequest_hasDateTime _), by decide,
    ⟨trivial, .inr ⟨.inl rfl, by decide +kernel, rfl, rfl, by decide⟩⟩, by decide⟩

/-- Two different days share a key whatever the digest is, and ask for different data. -/
theorem days_share_key_not_query :
    ¬∀ (sha256 : String → String), Function.Injective sha256 →
      ∀ (zone₁ zone₂ : UUID) (now : Instant) (g₁ ps₁ g₂ ps₂ : Dict),
        HasDateTime ps₁ → HasDateTime ps₂ →
        analysisIdempotencyKey sha256 zone₁ (requestPayload g₁ ps₁) =
          analysisIdempotencyKey sha256 zone₂ (requestPayload g₂ ps₂) →
        SameOutcome (heatmapPayload now (requestPayload g₁ ps₁))
          (heatmapPayload now (requestPayload g₂ ps₂)) := by
  intro sound
  have same := sound id (fun _ _ h => h) 1 1 0 [] (dayRequest "2024-07-15") []
    (dayRequest "2024-07-16") (dayRequest_hasDateTime _) (dayRequest_hasDateTime _) (by decide)
  have window := Equal.get same "date_time"
  exact absurd window (by decide)

end CoolProof.QueryCache
