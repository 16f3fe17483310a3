import CoolProof.HeatPolls
import CoolProof.HeatScope
import CoolProof.PortfolioRuns

/-! Heat analyses as tenants ask for them. A submission is made for a zone of the tenant's
project and works on a row of the tenant; a poll works on a row that is stored. What either
writes, with its audit events, is said once, in `HeatWrites`. -/

namespace CoolProof.HeatRequests
open Calendar JsonDocument Uuid Models ProviderQuery Tables Heat Documents Projects PortfolioRuns

/-- `record_audit_event`, committed -/
def record (s : HeatStore) (event : AuditEvent) : HeatStore where
  analyses := s.analyses
  activities := s.activities
  circuit := s.circuit
  audits := s.audits ++ [event]
  wf := s.wf.of_keys rfl rfl

/-- `create_heat_analysis`, up to the queue: the analysis that is shown, and whether it is
cached. -/
def createHeatAnalysis (svc : HeatService) (projects : ProjectTables) (s : HeatStore)
    (tenant : TenantContext) (body : HeatAnalysisCreate) (env : SubmitEnv) (now : Instant) :
    HeatStore × Except Stopped (HeatAnalysis × Bool) :=
  if !mayWrite tenant then (s, .error (.refused insufficientRole))
  else match findZone projects.projects projects.zones tenant.organizationId body with
    | none => (s, .error (.refused (.apiError 404 "zone_not_found" "Project zone was not found")))
    | some zone =>
        let submitted := submit svc (createRequest tenant.organizationId body zone) env s
        match submitted.outcome with
        | .returned analysis true => (submitted.store, .ok (analysis, true))
        | .returned analysis false =>
            (record submitted.store (auditEvent tenant "heat_analysis.requested"
                "heat_analysis" analysis.id [("zone_id", .str (Uuid.toString body.zoneId))] now),
              .ok (analysis, false))
        | .raised (.fortyGuard exc) =>
            (submitted.store, .error (.refused (.apiError 503 exc.code exc.message)))
        | .raised (.valueError _) => (submitted.store, .error .unhandled)
        | .integrityError => (submitted.store, .error (.refused .database))

/-! ## What a request writes -/

/-- The project and zone of a written row: those of a submission, which were checked, or
those the row had. -/
inductive Placed (projects : ProjectTables) (s : HeatStore) (row : HeatAnalysis) : Prop where
  | checked : projects.HasProject row.organizationId row.projectId →
      projects.HasZone row.organizationId row.projectId row.zoneId → Placed projects s row
  | kept {a} : a ∈ s.analyses → row.organizationId = a.organizationId →
      row.projectId = a.projectId → row.zoneId = a.zoneId → Placed projects s row

/-- The event is about the analysis. -/
structure About (row : HeatAnalysis) (event : AuditEvent) : Prop where
  organization : event.organizationId = row.organizationId
  resourceType : event.resourceType = "heat_analysis"
  resourceId : event.resourceId = Uuid.toString row.id

/-- One analysis of the organization is written, in a place that is its own. -/
structure RowWrite (projects : ProjectTables) (s : HeatStore) (organizationId : UUID)
    (t : HeatTables) (row : HeatAnalysis) (activity : Option FortyGuardActivity) : Prop where
  wrote : Wrote s.toHeatTables t row activity
  owner : row.organizationId = organizationId
  before : ∀ old, s.analysis row.id = some old → old.organizationId = organizationId
  placed : Placed projects s row

/-- The store after a submission or a poll for an organization. -/
inductive HeatWrites (projects : ProjectTables) (s : HeatStore) (organizationId : UUID) :
    HeatStore → Prop where
  | nothing : HeatWrites projects s organizationId s
  | wrote {t row activity events} : RowWrite projects s organizationId t.toHeatTables row activity →
      t.audits = s.audits ++ events → (∀ e ∈ events, About row e) →
      HeatWrites projects s organizationId t

/-! ## Submissions -/

/-- The zone that is found is one of the tenant's project. -/
theorem findZone_scope {t : ProjectTables} {organizationId : UUID} {body : HeatAnalysisCreate}
    {zone : Zone} (found : findZone t.projects t.zones organizationId body = some zone) :
    t.HasProject organizationId body.projectId ∧
      t.HasZone organizationId body.projectId body.zoneId := by
  unfold findZone at found
  dsimp only at found
  split at found
  · rename_i known
    obtain ⟨p, project⟩ := Option.isSome_iff_exists.mp known
    have projectKeys : p.id = body.projectId ∧ p.organizationId = organizationId := by
      simpa using List.find?_some project
    have zoneKeys : zone.id = body.zoneId ∧ zone.projectId = body.projectId ∧
        zone.organizationId = organizationId := by simpa using List.find?_some found
    exact ⟨⟨p, List.mem_of_find?_eq_some project, projectKeys⟩,
      ⟨zone, List.mem_of_find?_eq_some found, zoneKeys⟩⟩
  · cases found

/-- A submission for a checked zone writes nothing or one row, and an answer that is not
cached is that row. -/
theorem submit_writes (svc : HeatService) {projects : ProjectTables} (req : SubmitRequest)
    (env : SubmitEnv) (s : HeatStore)
    (project : projects.HasProject req.organizationId req.projectId)
    (zone : projects.HasZone req.organizationId req.projectId req.zoneId) :
    ((submit svc req env s).store = s ∧
        ∀ r, (submit svc req env s).outcome ≠ .returned r false) ∨
      ∃ row activity, RowWrite projects s req.organizationId
          (submit svc req env s).store.toHeatTables row activity ∧
        ∀ r, (submit svc req env s).outcome = .returned r false → r = row := by
  have ends := submit_ends svc req env s
  generalize submit svc req env s = submitted at ends
  have stored : ∀ {row}, s.byKey req.organizationId (svc.key req) = some row →
      row ∈ s.analyses ∧ row.organizationId = req.organizationId := fun found =>
    ⟨(byKey_some found).1, (byKey_some found).2.1⟩
  have before : ∀ row, s.byKey req.organizationId (svc.key req) = some row →
      ∀ old, s.analysis row.id = some old → old.organizationId = req.organizationId := by
    intro row found old again
    rw [s.analysis_of_mem (stored found).1] at again
    rw [← Option.some.inj again]
    exact (stored found).2
  have placed : ∀ {row : HeatAnalysis}, row.organizationId = req.organizationId →
      row.projectId = req.projectId → row.zoneId = req.zoneId → Placed projects s row := by
    intro row owner inProject inZone
    refine .checked ?_ ?_
    · rw [owner, inProject]
      exact project
    · rw [owner, inProject, inZone]
      exact zone
  cases ends with
  | cached found fresh => exact .inl ⟨rfl, fun r h => by cases h⟩
  | @stale row exc t found answers wrote =>
    have kept : Placed projects s (withError row exc) := .kept (stored found).1 rfl rfl rfl
    exact .inr ⟨_, _, ⟨wrote, (stored found).2, before row found, kept⟩, fun r h => by cases h⟩
  | @refreshed row activityId activity t found refreshes wrote =>
    have owner : (requeue req activityId row).organizationId = req.organizationId :=
      (stored found).2
    refine .inr ⟨_, _, ⟨wrote, owner, before row found, placed owner rfl rfl⟩, fun r h => ?_⟩
    cases h
    rfl
  | @inserted row activityId activity t missing fresh owner wrote =>
    refine .inr ⟨_, _, ⟨wrote, owner, fun old again => ?_, placed owner rfl rfl⟩, fun r h => ?_⟩
    · have none_stored : s.analysis (requeue req activityId row).id = none := fresh
      rw [none_stored] at again
      cases again
    · cases h
      rfl
  | @refused row exc t opens unanswered wrote =>
    rcases opens with ⟨found, -⟩ | ⟨-, fresh, rfl⟩
    · have kept : Placed projects s (markFailed row exc) := .kept (stored found).1 rfl rfl rfl
      exact .inr ⟨_, _, ⟨wrote, (stored found).2, before row found, kept⟩, fun r h => by cases h⟩
    · refine .inr ⟨_, _, ⟨wrote, rfl, fun old again => ?_, placed rfl rfl rfl⟩,
        fun r h => by cases h⟩
      exact nomatch fresh.symm.trans again
  | nothing silent unanswered => exact .inl ⟨rfl, fun r => silent r false⟩

theorem createHeatAnalysis_writes (svc : HeatService) (projects : ProjectTables) (s : HeatStore)
    (tenant : TenantContext) (body : HeatAnalysisCreate) (env : SubmitEnv) (now : Instant) :
    HeatWrites projects s tenant.organizationId
      (createHeatAnalysis svc projects s tenant body env now).1 := by
  unfold createHeatAnalysis
  split
  · exact .nothing
  split
  · exact .nothing
  rename_i zone found
  obtain ⟨project, inProject⟩ := findZone_scope found
  have writes := submit_writes svc (createRequest tenant.organizationId body zone) env s project
    inProject
  have audits := submit_audits svc (createRequest tenant.organizationId body zone) env s
  dsimp only
  generalize submit svc (createRequest tenant.organizationId body zone) env s = submitted at *
  obtain ⟨t, outcome, called⟩ := submitted
  have quiet : HeatWrites projects s tenant.organizationId t := by
    rcases writes with ⟨same, -⟩ | ⟨row, activity, writes, -⟩
    · rw [show t = s from same]
      exact .nothing
    · exact .wrote writes (by rw [List.append_nil]; exact audits) (by simp)
  cases outcome with
  | returned analysis cached =>
    cases cached with
    | true => exact quiet
    | false =>
      rcases writes with ⟨-, cached⟩ | ⟨row, activity, writes, answer⟩
      · exact absurd rfl (cached analysis)
      · have same : analysis = row := answer analysis rfl
        refine .wrote ⟨⟨writes.wrote.analysis, writes.wrote.activity⟩, writes.owner,
          writes.before, writes.placed⟩ (congrArg (· ++ _) audits) ?_
        intro e member
        rw [List.mem_singleton.mp member, ← same]
        exact ⟨(same ▸ writes.owner).symm, rfl, rfl⟩
  | raised exc =>
    cases exc with
    | fortyGuard exc => exact quiet
    | valueError text => exact quiet
  | integrityError => exact quiet

/-! ## Polls -/

/-- A poll leaves an analysis where it is. -/
theorem poll_place {svc : HeatService} {s : HeatStore} {id : UUID} {clock : PollClock}
    {answer : Except Raised Dict} {a row : HeatAnalysis} {activity : Option FortyGuardActivity}
    (write : OpWrite svc s (.poll id clock answer) a row activity) :
    row.id = a.id ∧ row.organizationId = a.organizationId ∧ row.projectId = a.projectId ∧
      row.zoneId = a.zoneId := by
  cases write with
  | answered stored live normal =>
    unfold answeredAnalysis
    dsimp only
    split
    · exact ⟨rfl, rfl, rfl, rfl⟩
    · exact ⟨rfl, rfl, rfl, rfl⟩
  | retried stored live error retries => exact ⟨rfl, rfl, rfl, rfl⟩
  | gaveUp stored live error retries => exact ⟨rfl, rfl, rfl, rfl⟩

theorem auditTerminal_about {a row : HeatAnalysis} (same : row.id = a.id)
    (owner : row.organizationId = a.organizationId) (eventType : String) (metadata : Dict)
    (at_ : Instant) : About row (auditTerminal a eventType metadata at_) :=
  ⟨owner.symm, rfl, by rw [same]; rfl⟩

/-- The events of a poll are about the analysis it polled. -/
theorem pollBody_about (svc : HeatService) (clock : PollClock) (m : PollMemory)
    (seen : Except FortyGuardError Dict) {row : HeatAnalysis} (same : row.id = m.analysis.id)
    (owner : row.organizationId = m.analysis.organizationId) :
    ∀ e ∈ (pollBody svc clock m seen).2, About row e := by
  rcases pollBody_ends svc clock m seen with ⟨raw, status, result, -, -, ends⟩ | ⟨exc, -, ends⟩
  · rw [ends]
    unfold pollAnswered
    dsimp only
    split
    · intro e member
      rw [List.mem_singleton.mp member]
      exact auditTerminal_about same owner _ _ _
    · simp
  · rw [ends]
    unfold pollFailed
    dsimp only
    split
    · simp
    · split
      · intro e member
        rw [List.mem_singleton.mp member]
        exact auditTerminal_about same owner _ _ _
      · simp

/-- A poll works for the organization of the analysis. -/
theorem poll_writes (svc : HeatService) (projects : ProjectTables) {s : HeatStore} {id : UUID}
    (clock : PollClock) (answer : Except Raised Dict) {a : HeatAnalysis}
    (stored : s.analysis id = some a) :
    HeatWrites projects s a.organizationId (poll svc id clock answer s) := by
  cases arrived : caught answer with
  | none =>
    rw [show poll svc id clock answer s = s by simp [poll, arrived]]
    exact .nothing
  | some seen =>
    cases live : suppressed a s.circuit clock.now with
    | true =>
      rw [show poll svc id clock answer s = s by simp [poll, stored, arrived, live]]
      exact .nothing
    | false =>
      have writes := poll_commit svc clock stored live arrived
      have write : OpWrite svc s (.poll id clock answer) a
          (pollBody svc clock (s.memory a) seen).1.analysis
          (pollBody svc clock (s.memory a) seen).1.activity :=
        pollBody_cases svc clock stored live arrived
      obtain ⟨sameId, owner, project, zone⟩ := poll_place write
      refine .wrote ⟨writes.wrote, owner, fun old found => ?_,
        .kept (find_some stored).1 owner project zone⟩ writes.audits
        (pollBody_about svc clock _ seen sameId owner)
      rw [sameId, s.analysis_of_mem (find_some stored).1] at found
      rw [← Option.some.inj found]

end CoolProof.HeatRequests
