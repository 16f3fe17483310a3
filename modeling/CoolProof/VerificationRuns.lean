import CoolProof.Library.JsonText
import CoolProof.PortfolioRuns

/-! Verification runs: one row for each organization and request body. `create_verification`
checks the project and the portfolio, answers with the stored run of the same body if there
is one, and otherwise stores a run and, in a second transaction, the key of its report. The
report may be asked for again, which writes the key only. -/

namespace CoolProof.VerificationRuns
open JsonDocument Uuid Models Tables Documents Projects PortfolioRuns

/-! ## Requests -/

structure VerificationInput where
  treatedBaseline : FloatLiteral
  treatedObserved : FloatLiteral
  controlBaseline : FloatLiteral
  controlObserved : FloatLiteral
  treatedWeatherDelta : FloatLiteral
  controlWeatherDelta : FloatLiteral
  expectedCooling : FloatLiteral
  treatedThresholdHoursBaseline : FloatLiteral
  treatedThresholdHoursObserved : FloatLiteral
  controlThresholdHoursBaseline : FloatLiteral
  controlThresholdHoursObserved : FloatLiteral
  totalCost : FloatLiteral
  sampleSize : Int

structure VerificationRequest extends VerificationInput where
  projectId : Option UUID
  portfolioRunId : Option UUID

def between (floats : Floats) (low high : ℚ) (x : FloatLiteral) : Bool :=
  low ≤ floats.value x && floats.value x ≤ high

def VerificationInput.validBody (input : VerificationInput) (floats : Floats) : Bool :=
  ([input.treatedBaseline, input.treatedObserved, input.controlBaseline, input.controlObserved,
    input.treatedWeatherDelta, input.controlWeatherDelta].all (between floats (-100) 100)) &&
  between floats 0 100 input.expectedCooling &&
  ([input.treatedThresholdHoursBaseline, input.treatedThresholdHoursObserved,
    input.controlThresholdHoursBaseline, input.controlThresholdHoursObserved,
    input.totalCost].all fun x => !isNegative x) &&
  1 ≤ input.sampleSize

def optionalUuid : Option UUID → Json
  | some id => .str (Uuid.toString id)
  | none => .null

/-- `request.model_dump(mode="json")` -/
def VerificationRequest.dump (request : VerificationRequest) : Dict :=
  [("project_id", optionalUuid request.projectId),
   ("portfolio_run_id", optionalUuid request.portfolioRunId),
   ("treated_baseline", .float request.treatedBaseline),
   ("treated_observed", .float request.treatedObserved),
   ("control_baseline", .float request.controlBaseline),
   ("control_observed", .float request.controlObserved),
   ("treated_weather_delta", .float request.treatedWeatherDelta),
   ("control_weather_delta", .float request.controlWeatherDelta),
   ("expected_cooling", .float request.expectedCooling),
   ("treated_threshold_hours_baseline", .float request.treatedThresholdHoursBaseline),
   ("treated_threshold_hours_observed", .float request.treatedThresholdHoursObserved),
   ("control_threshold_hours_baseline", .float request.controlThresholdHoursBaseline),
   ("control_threshold_hours_observed", .float request.controlThresholdHoursObserved),
   ("total_cost", .float request.totalCost), ("sample_size", .int request.sampleSize)]

/-- What `calculate_verification` may raise. -/
inductive CalculationError where
  | valueError (text : String)
  | other

/-- The digest and the floating-point calculation. -/
structure VerificationService where
  floats : Floats
  sha256 : String → String
  calculate : VerificationInput → Except CalculationError Dict

/-- `_idempotency_key` -/
def idempotencyKey (sha256 : String → String) (request : VerificationRequest) : String :=
  sha256 (JsonText.dumps (.obj request.dump))

/-! ## Reports -/

/-- What the object store may raise, by the classes that are caught. -/
inductive StorageError where
  | osError
  | valueError
  | runtimeError
  | other
deriving DecidableEq

/-- `except (OSError, ValueError, RuntimeError)` -/
def StorageError.caught (e : StorageError) : Bool := e ≠ .other

/-- Whether a bucket is configured, how a write ends, and how a presigning ends. -/
structure ReportStorage where
  bucket : Bool
  put : Except StorageError Unit
  presign : Except StorageError String

/-- `report_key` -/
def reportKey (organizationId verificationId : UUID) : String :=
  "organizations/" ++ Uuid.toString organizationId ++ "/verification-reports/" ++
    Uuid.toString verificationId ++ ".json"

/-- `write_report` -/
def writeReport (storage : ReportStorage) (organizationId verificationId : UUID) :
    Except StorageError (Option String) :=
  if !storage.bucket then .ok none
  else storage.put.map fun _ => some (reportKey organizationId verificationId)

/-- `report_download_url` -/
def reportDownloadUrl (storage : ReportStorage) (key : String) : Except StorageError String :=
  if !storage.bucket || !"organizations/".toList.isPrefixOf key.toList then .error .valueError
  else storage.presign

structure VerificationOut where
  verificationId : UUID
  status : String
  result : Dict
  reportKey : Option String
  reportUrl : Option String

/-- `_response` -/
def response (storage : ReportStorage) (run : VerificationRun) :
    Except Stopped VerificationOut :=
  match run.reportS3Key.filter fun key => key ≠ "" with
  | none => .ok ⟨run.id, "completed", run.resultJson, run.reportS3Key, none⟩
  | some key =>
      match reportDownloadUrl storage key with
      | .ok url => .ok ⟨run.id, "completed", run.resultJson, run.reportS3Key, some url⟩
      | .error e =>
          if e.caught then .ok ⟨run.id, "completed", run.resultJson, run.reportS3Key, none⟩
          else .error .unhandled

/-! ## Tables -/

structure VerificationTables where
  verifications : List VerificationRun

/-- The column pair of the unique constraint. -/
def bodyKey (v : VerificationRun) : UUID × String := (v.organizationId, v.idempotencyKey)

structure VerificationTables.Constraints (t : VerificationTables) : Prop where
  verificationId : (t.verifications.map VerificationRun.id).Nodup
  idempotency : (t.verifications.map bodyKey).Nodup

theorem VerificationTables.constraints_iff (t : VerificationTables) : t.Constraints ↔
    (t.verifications.map VerificationRun.id).Nodup ∧ (t.verifications.map bodyKey).Nodup :=
  ⟨fun ⟨a, b⟩ => ⟨a, b⟩, fun ⟨a, b⟩ => ⟨a, b⟩⟩

instance (t : VerificationTables) : Decidable t.Constraints :=
  decidable_of_iff _ t.constraints_iff.symm

structure VerificationStore extends VerificationTables where
  wf : toVerificationTables.Constraints

def VerificationStore.empty : VerificationStore where
  verifications := []
  wf := by
    constructor <;> simp

def VerificationStore.commit (t : VerificationTables) : Option VerificationStore :=
  if wf : t.Constraints then some ⟨t, wf⟩ else none

def VerificationTables.insert (t : VerificationTables) (run : VerificationRun) :
    VerificationTables := ⟨t.verifications ++ [run]⟩

def VerificationTables.put (t : VerificationTables) (run : VerificationRun) :
    VerificationTables := ⟨update VerificationRun.id run t.verifications⟩

/-! ## The request -/

/-- The portfolio is of another project than the request names. -/
def projectMismatch (projectId : Option UUID) (portfolio : PortfolioRun) : Bool :=
  match projectId, portfolio.projectId with
  | some p, some q => q ≠ p
  | _, _ => false

/-- Why the portfolio of a request is refused, if it is. -/
def portfolioRefused (runs : List PortfolioRun) (organizationId : UUID)
    (request : VerificationRequest) : Option Refusal :=
  match request.portfolioRunId with
  | none => none
  | some id =>
      match runs.find? fun r => r.id = id && r.organizationId = organizationId with
      | none => some (.apiError 404 "portfolio_run_not_found" "Portfolio run was not found")
      | some portfolio =>
          if projectMismatch request.projectId portfolio then
            some (.apiError 422 "portfolio_project_mismatch"
              "Portfolio run does not belong to the selected project")
          else none

def newVerification (svc : VerificationService) (tenant : TenantContext)
    (request : VerificationRequest) (result : Dict) (id : UUID) : VerificationRun where
  id := id
  organizationId := tenant.organizationId
  projectId := request.projectId
  portfolioRunId := request.portfolioRunId
  idempotencyKey := idempotencyKey svc.sha256 request
  resultJson := result
  reportS3Key := none

/-- The report of a stored run, in a transaction of its own. -/
def storeReport (storage : ReportStorage) (s : VerificationStore) (tenant : TenantContext)
    (run : VerificationRun) : VerificationStore × Except Stopped VerificationOut :=
  match writeReport storage tenant.organizationId run.id with
  | .error e => (s, if e.caught then response storage run else .error .unhandled)
  | .ok key =>
      match VerificationStore.commit (s.put { run with reportS3Key := key }) with
      | none => (s, .error (.refused .database))
      | some t => (t, response storage { run with reportS3Key := key })

/-- The insert of a new run, with its report. -/
def insertVerification (storage : ReportStorage) (s : VerificationStore) (tenant : TenantContext)
    (run : VerificationRun) : VerificationStore × Except Stopped VerificationOut :=
  match VerificationStore.commit (s.insert run) with
  | none => (s, .error (.refused .database))
  | some t => storeReport storage t tenant run

/-- `create_verification` -/
def createVerification (svc : VerificationService) (projects : List Project)
    (runs : List PortfolioRun) (s : VerificationStore) (tenant : TenantContext)
    (request : VerificationRequest) (newId : UUID) (storage : ReportStorage) :
    VerificationStore × Except Stopped VerificationOut :=
  if !mayWrite tenant then (s, .error (.refused insufficientRole))
  else if !request.validBody svc.floats then (s, .error (.refused .invalidBody))
  else if !projectFound projects tenant.organizationId request.projectId then
    (s, .error (.refused (.apiError 404 "project_not_found" "Project was not found")))
  else match portfolioRefused runs tenant.organizationId request with
    | some refusal => (s, .error (.refused refusal))
    | none =>
        match find bodyKey (tenant.organizationId, idempotencyKey svc.sha256 request)
            s.verifications with
        | some existing => (s, response storage existing)
        | none =>
            match svc.calculate request.toVerificationInput with
            | .error (.valueError text) =>
                (s, .error (.refused (.apiError 422 "invalid_observation" text)))
            | .error .other => (s, .error .unhandled)
            | .ok result =>
                insertVerification storage s tenant
                  (newVerification svc tenant request result newId)

/-! ## Columns that stay -/

/-- The columns of a run that nothing updates. -/
def fixedColumns (v : VerificationRun) : UUID × UUID × String × Dict :=
  (v.id, v.organizationId, v.idempotencyKey, v.resultJson)

def columns (s : VerificationTables) : List (UUID × UUID × String × Dict) :=
  s.verifications.map fixedColumns

/-- The column of the report as a session writes it that loaded the run with another value. -/
def withReport (id : UUID) (loaded key : Option String) (v : VerificationRun) : VerificationRun :=
  if v.id = id then { v with reportS3Key := flush loaded key v.reportS3Key } else v

theorem withReport_fixed (id : UUID) (loaded key : Option String) (v : VerificationRun) :
    fixedColumns (withReport id loaded key v) = fixedColumns v := by
  unfold withReport
  split <;> rfl

@[simp] theorem withReport_organizationId (id : UUID) (loaded key : Option String)
    (v : VerificationRun) : (withReport id loaded key v).organizationId = v.organizationId :=
  congrArg (fun columns => columns.2.1) (withReport_fixed id loaded key v)

theorem withReport_other {id : UUID} (loaded key : Option String) {v : VerificationRun}
    (other : v.id ≠ id) : withReport id loaded key v = v := if_neg other

theorem map_withReport {β : Type} (column : UUID × UUID × String × Dict → β) (id : UUID)
    (loaded key : Option String) (rows : List VerificationRun) :
    (rows.map (withReport id loaded key)).map (fun v => column (fixedColumns v)) =
      rows.map fun v => column (fixedColumns v) := by
  rw [List.map_map]
  exact List.map_congr_left fun v _ => congrArg column (withReport_fixed id loaded key v)

/-- The commit that writes the key of a report. -/
def VerificationStore.setReport (s : VerificationStore) (id : UUID) (loaded key : Option String) :
    VerificationStore where
  verifications := s.verifications.map (withReport id loaded key)
  wf := by
    have ids : (s.verifications.map (withReport id loaded key)).map VerificationRun.id =
        s.verifications.map VerificationRun.id := map_withReport (·.1) ..
    have keys : (s.verifications.map (withReport id loaded key)).map bodyKey =
        s.verifications.map bodyKey := map_withReport (fun c => (c.2.1, c.2.2.1)) ..
    exact ⟨ids ▸ s.wf.verificationId, keys ▸ s.wf.idempotency⟩

@[simp] theorem columns_setReport (s : VerificationStore) (id : UUID)
    (loaded key : Option String) :
    columns (s.setReport id loaded key).toVerificationTables =
      columns s.toVerificationTables := map_withReport (fun c => c) id loaded key s.verifications

/-! ## Reports asked for again -/

def reportUnavailable (message : String) : Stopped :=
  .refused (.apiError 503 "report_storage_unavailable" message)

/-- `session.get`, which does not look at the organization. -/
def getRun (t : VerificationTables) (tenant : TenantContext) (id : UUID) :
    Except Stopped VerificationRun :=
  match t.verifications.find? fun v => v.id = id with
  | none => .error (.refused (.httpException 404 "Verification not found"))
  | some run =>
      if run.organizationId ≠ tenant.organizationId then
        .error (.refused (.httpException 404 "Verification not found"))
      else .ok run

/-- `_get_tenant_verification` -/
def getTenantVerification (t : VerificationTables) (tenant : TenantContext) (id : UUID) :
    Except Stopped VerificationRun :=
  match t.verifications.find? fun v => v.id = id && v.organizationId = tenant.organizationId with
  | none => .error (.refused (.apiError 404 "verification_not_found" "Verification was not found"))
  | some run => .ok run

/-- `_materialize_report`, and the end of `create_report`, which is the same. -/
def materializeReport (storage : ReportStorage) (s : VerificationStore) (tenant : TenantContext)
    (run : VerificationRun) : VerificationStore × Except Stopped (UUID × String) :=
  match writeReport storage tenant.organizationId run.id with
  | .error _ => (s, .error (reportUnavailable "Unable to create report artifact"))
  | .ok none => (s, .error (reportUnavailable "Report storage is not configured"))
  | .ok (some key) => (s.setReport run.id run.reportS3Key (some key), .ok (run.id, key))

def createReport (storage : ReportStorage) (s : VerificationStore) (tenant : TenantContext)
    (id : UUID) : VerificationStore × Except Stopped (UUID × String) :=
  if !mayWrite tenant then (s, .error (.refused insufficientRole))
  else match getRun s.toVerificationTables tenant id with
    | .error e => (s, .error e)
    | .ok run => materializeReport storage s tenant run

def createReportAlias (storage : ReportStorage) (s : VerificationStore) (tenant : TenantContext)
    (id : UUID) : VerificationStore × Except Stopped (UUID × String) :=
  if !mayWrite tenant then (s, .error (.refused insufficientRole))
  else match getTenantVerification s.toVerificationTables tenant id with
    | .error e => (s, .error e)
    | .ok run => materializeReport storage s tenant run

/-- Every role may read. -/
def getVerification (storage : ReportStorage) (t : VerificationTables) (tenant : TenantContext)
    (id : UUID) : Except Stopped VerificationOut :=
  getRun t tenant id >>= response storage

def getReportAlias (storage : ReportStorage) (t : VerificationTables) (tenant : TenantContext)
    (id : UUID) : Except Stopped VerificationOut :=
  getTenantVerification t tenant id >>= response storage

/-- The run that a request names, which both selects find. -/
structure Owned (t : VerificationTables) (tenant : TenantContext) (id : UUID)
    (run : VerificationRun) : Prop where
  stored : run ∈ t.verifications
  id : run.id = id
  owner : run.organizationId = tenant.organizationId

theorem getTenantVerification_ok_iff (s : VerificationStore) (tenant : TenantContext) (id : UUID)
    (run : VerificationRun) :
    getTenantVerification s.toVerificationTables tenant id = .ok run ↔
      Owned s.toVerificationTables tenant id run := by
  unfold getTenantVerification
  constructor
  · intro found
    split at found
    · cases found
    · rename_i stored
      cases found
      obtain ⟨same, owner⟩ : run.id = id ∧ run.organizationId = tenant.organizationId := by
        simpa using List.find?_some stored
      exact ⟨List.mem_of_find?_eq_some stored, same, owner⟩
  · rintro ⟨stored, rfl, owner⟩
    split
    · rename_i absent
      have missed := List.find?_eq_none.mp absent run stored
      simp [owner] at missed
    · rename_i other found
      have same : other.id = run.id := (by simpa using List.find?_some found : _ ∧ _).1
      rw [List.inj_on_of_nodup_map s.wf.verificationId (List.mem_of_find?_eq_some found) stored
        same]

/-- The two selects find the same run, and differ in how they say that there is none. -/
theorem getRun_ok_iff (s : VerificationStore) (tenant : TenantContext) (id : UUID)
    (run : VerificationRun) : getRun s.toVerificationTables tenant id = .ok run ↔
      Owned s.toVerificationTables tenant id run := by
  unfold getRun
  constructor
  · intro found
    split at found
    · cases found
    · rename_i stored
      split at found
      · cases found
      · rename_i owner
        cases found
        exact ⟨List.mem_of_find?_eq_some stored, by simpa using List.find?_some stored,
          not_not.mp owner⟩
  · rintro ⟨stored, rfl, owner⟩
    split
    · rename_i absent
      have missed := List.find?_eq_none.mp absent run stored
      exact absurd (decide_eq_true rfl) missed
    · rename_i other found
      have same : other.id = run.id := by simpa using List.find?_some found
      obtain rfl := List.inj_on_of_nodup_map s.wf.verificationId
        (List.mem_of_find?_eq_some found) stored same
      rw [if_neg (not_not.mpr owner)]

theorem getReportAlias_ok_iff (storage : ReportStorage) (s : VerificationStore)
    (tenant : TenantContext) (id : UUID) (out : VerificationOut) :
    getReportAlias storage s.toVerificationTables tenant id = .ok out ↔
      getVerification storage s.toVerificationTables tenant id = .ok out := by
  rw [getReportAlias, getVerification, Loops.bind_ok_iff, Loops.bind_ok_iff]
  exact exists_congr fun run => and_congr_left fun _ =>
    (getTenantVerification_ok_iff s tenant id run).trans (getRun_ok_iff s tenant id run).symm

theorem createReportAlias_fst (storage : ReportStorage) (s : VerificationStore)
    (tenant : TenantContext) (id : UUID) :
    (createReportAlias storage s tenant id).1 = (createReport storage s tenant id).1 := by
  unfold createReportAlias createReport
  split
  · rfl
  cases byId : getRun s.toVerificationTables tenant id with
  | ok run =>
    have same := (getTenantVerification_ok_iff s tenant id run).mpr
      ((getRun_ok_iff s tenant id run).mp byId)
    rw [same]
  | error e =>
    cases both : getTenantVerification s.toVerificationTables tenant id with
    | error => rfl
    | ok run =>
      have same := (getRun_ok_iff s tenant id run).mpr
        ((getTenantVerification_ok_iff s tenant id run).mp both)
      rw [byId] at same
      cases same

/-- The two requests give the same answers, too, and differ in what they say of a missing run. -/
theorem createReportAlias_ok_iff (storage : ReportStorage) (s : VerificationStore)
    (tenant : TenantContext) (id : UUID) (answer : UUID × String) :
    (createReportAlias storage s tenant id).2 = .ok answer ↔
      (createReport storage s tenant id).2 = .ok answer := by
  unfold createReportAlias createReport
  split
  · exact Iff.rfl
  cases byId : getRun s.toVerificationTables tenant id with
  | ok run =>
    have same := (getTenantVerification_ok_iff s tenant id run).mpr
      ((getRun_ok_iff s tenant id run).mp byId)
    rw [same]
  | error e =>
    cases both : getTenantVerification s.toVerificationTables tenant id with
    | error e' =>
      exact iff_of_false (fun answered => nomatch answered) fun answered => nomatch answered
    | ok run =>
      have same := (getRun_ok_iff s tenant id run).mpr
        ((getTenantVerification_ok_iff s tenant id run).mp both)
      rw [byId] at same
      cases same

/-! ## What a request writes -/

/-- A verification run refers to a project of its organization, and to a portfolio of its
organization that is of no other project. -/
structure Sourced (projects : ProjectTables) (runs : List PortfolioRun) (v : VerificationRun) :
    Prop where
  project : ∀ p ∈ v.projectId, projects.HasProject v.organizationId p
  portfolio : ∀ id ∈ v.portfolioRunId, ∃ run ∈ runs, run.id = id ∧
    run.organizationId = v.organizationId ∧ ∀ p ∈ v.projectId, ∀ q ∈ run.projectId, p = q

theorem Sourced.kept {s t : ProjectTables} {runs runs' : List PortfolioRun} {v : VerificationRun}
    (sourced : Sourced s runs v) (grown : s.Kept t) (more : runs ⊆ runs') : Sourced t runs' v where
  project p named := grown.project (sourced.project p named)
  portfolio id named := by
    obtain ⟨run, stored, same⟩ := sourced.portfolio id named
    exact ⟨run, more stored, same⟩

theorem Sourced.withReport {projects : ProjectTables} {runs : List PortfolioRun}
    {v : VerificationRun} (sourced : Sourced projects runs v) (id : UUID)
    (loaded key : Option String) :
    Sourced projects runs (VerificationRuns.withReport id loaded key v) := by
  unfold VerificationRuns.withReport
  split
  · exact ⟨sourced.project, sourced.portfolio⟩
  · exact sourced

inductive VerificationWrites (projects : ProjectTables) (runs : List PortfolioRun)
    (s : VerificationTables) (tenant : TenantContext) : VerificationTables → Prop where
  | nothing : VerificationWrites projects runs s tenant s
  | created {run} : run.organizationId = tenant.organizationId → Sourced projects runs run →
      VerificationWrites projects runs s tenant (s.insert run)
  | rewritten {id loaded key} :
      (∀ v ∈ s.verifications, v.id = id → v.organizationId = tenant.organizationId) →
      VerificationWrites projects runs s tenant ⟨s.verifications.map (withReport id loaded key)⟩

theorem VerificationStore.commit_some {t : VerificationTables} {s : VerificationStore}
    (h : VerificationStore.commit t = some s) : s.toVerificationTables = t := by
  unfold VerificationStore.commit at h
  split at h
  · cases h
    rfl
  · cases h

theorem sourced_of_checked {projects : ProjectTables} {runs : List PortfolioRun}
    {tenant : TenantContext} {request : VerificationRequest} {v : VerificationRun}
    (owner : v.organizationId = tenant.organizationId) (project : v.projectId = request.projectId)
    (portfolio : v.portfolioRunId = request.portfolioRunId)
    (found : projectFound projects.projects tenant.organizationId request.projectId = true)
    (checked : portfolioRefused runs tenant.organizationId request = none) :
    Sourced projects runs v where
  project p named := by
    rw [owner]
    exact ProjectTables.hasProject_of_found found (project ▸ named)
  portfolio id named := by
    rw [portfolio] at named
    rw [project, owner]
    unfold portfolioRefused at checked
    rw [Option.mem_def.mp named] at checked
    dsimp only at checked
    split at checked
    · cases checked
    rename_i run stored
    split at checked
    · cases checked
    rename_i fits
    have keys : run.id = id ∧ run.organizationId = tenant.organizationId := by
      simpa using List.find?_some stored
    refine ⟨run, List.mem_of_find?_eq_some stored, keys.1, keys.2, fun p asked q has => ?_⟩
    have same : ¬q ≠ p := by
      simpa [projectMismatch, Option.mem_def.mp asked, Option.mem_def.mp has] using fits
    exact (not_not.mp same).symm

/-- The two transactions leave one new row, with or without the key of its report. -/
theorem insertVerification_writes (storage : ReportStorage) {projects : ProjectTables}
    {runs : List PortfolioRun} (s : VerificationStore) {tenant : TenantContext}
    {run : VerificationRun} (owner : run.organizationId = tenant.organizationId)
    (sourced : Sourced projects runs run) :
    VerificationWrites projects runs s.toVerificationTables tenant
      (insertVerification storage s tenant run).1.toVerificationTables := by
  unfold insertVerification
  split
  · exact .nothing
  rename_i t inserted
  have rows : t.toVerificationTables = s.insert run := VerificationStore.commit_some inserted
  have created : VerificationWrites projects runs s.toVerificationTables tenant
      t.toVerificationTables := by
    rw [rows]
    exact .created owner sourced
  unfold storeReport
  split
  · exact created
  rename_i key written
  split
  · exact created
  · rename_i u reported
    have ids := t.wf.verificationId
    rw [rows] at ids
    have fresh : ∀ r ∈ s.verifications, r.id ≠ run.id := by
      simp only [VerificationTables.insert, List.map_append, List.map_cons, List.map_nil,
        List.nodup_append, List.mem_singleton] at ids
      exact fun r member => ids.2.2 _ (List.mem_map_of_mem member) _ rfl
    have final : u.toVerificationTables = s.insert { run with reportS3Key := key } := by
      rw [VerificationStore.commit_some reported, VerificationTables.put, rows]
      exact congrArg VerificationTables.mk (update_added fresh rfl)
    rw [final]
    exact .created owner ⟨sourced.project, sourced.portfolio⟩

theorem createVerification_writes (svc : VerificationService) (projects : ProjectTables)
    (runs : List PortfolioRun) (s : VerificationStore) (tenant : TenantContext)
    (request : VerificationRequest) (newId : UUID) (storage : ReportStorage) :
    VerificationWrites projects runs s.toVerificationTables tenant
      (createVerification svc projects.projects runs s tenant request newId
        storage).1.toVerificationTables := by
  unfold createVerification
  split
  · exact .nothing
  split
  · exact .nothing
  split
  · exact .nothing
  rename_i found
  split
  · exact .nothing
  rename_i checked
  split
  · exact .nothing
  split
  · exact .nothing
  · exact .nothing
  · exact insertVerification_writes storage s rfl
      (sourced_of_checked rfl rfl rfl (by simpa using found) checked)

theorem createReport_writes (projects : ProjectTables) (runs : List PortfolioRun)
    (storage : ReportStorage) (s : VerificationStore) (tenant : TenantContext) (id : UUID) :
    VerificationWrites projects runs s.toVerificationTables tenant
      (createReport storage s tenant id).1.toVerificationTables := by
  unfold createReport
  split
  · exact .nothing
  split
  · exact .nothing
  rename_i run found
  obtain ⟨stored, -, owner⟩ := (getRun_ok_iff s tenant id run).mp found
  unfold materializeReport
  split
  · exact .nothing
  · exact .nothing
  · refine .rewritten fun v member same => ?_
    rw [List.inj_on_of_nodup_map s.wf.verificationId member stored same, owner]

theorem createReportAlias_writes (projects : ProjectTables) (runs : List PortfolioRun)
    (storage : ReportStorage) (s : VerificationStore) (tenant : TenantContext) (id : UUID) :
    VerificationWrites projects runs s.toVerificationTables tenant
      (createReportAlias storage s tenant id).1.toVerificationTables := by
  rw [createReportAlias_fst]
  exact createReport_writes projects runs storage s tenant id

end CoolProof.VerificationRuns
