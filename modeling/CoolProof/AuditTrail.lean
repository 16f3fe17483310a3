import CoolProof.Library.Journal
import CoolProof.TenantIntegrity

/-! The audit trail over whole runs of calls. Each call records one audit event at most, which
names its organization, its user and what it did; so the events are, one by one, accounts of
calls in their order, and the rows they speak of can be read back from them. -/

namespace CoolProof.Agents
open Calendar JsonDocument Uuid Models Tables Grounding

/-! ## Decisions -/

/-- Neither an approval nor an audit event is written. -/
structure Undecided (s t : AgentTables) : Prop where
  approvals : t.approvals = s.approvals
  audits : t.audits = s.audits

/-- A decision on a run writes its approval and its audit event. -/
structure Decided (s : AgentTables) (run : AgentRun) (request : ApprovalRequest) (now : Instant)
    (t : AgentTables) : Prop where
  role : request.reviewerRole = .manager ∨ request.reviewerRole = .admin
  same : run.id = request.runId
  decision : request.decision ∈ ["approve", "reject", "revise"]
  approvals : t.approvals = s.approvals ++ [approvalOf run request]
  audits : t.audits = s.audits ++ [decisionAudit run request now]

theorem Undecided.refl (s : AgentTables) : Undecided s s := ⟨rfl, rfl⟩

theorem Undecided.trans {s t u : AgentTables} (first : Undecided s t) (second : Undecided t u) :
    Undecided s u :=
  ⟨second.approvals.trans first.approvals, second.audits.trans first.audits⟩

theorem Decided.trans {s t u : AgentTables} {run : AgentRun} {request : ApprovalRequest}
    {now : Instant} (decided : Decided s run request now t) (rest : Undecided t u) :
    Decided s run request now u :=
  { decided with
    approvals := rest.approvals.trans decided.approvals
    audits := rest.audits.trans decided.audits }

theorem undecided_progress (s : AgentStore) {run changed : AgentRun}
    (sameRow : changed.id = run.id) (eventType : String) (node : Option String) (payload : Dict)
    (summary : String) : Undecided s.toAgentTables
      (s.transact (progress run changed sameRow eventType node payload summary)).toAgentTables where
  approvals := List.append_nil _
  audits := List.append_nil _

theorem completeNodes_undecided (state : CoolProofState) (names : List String) (s : AgentStore)
    (run : AgentRun) :
    Undecided s.toAgentTables (completeNodes state names s run).1.toAgentTables := by
  induction names generalizing s run with
  | nil => exact .refl _
  | cons name names ih => exact (undecided_progress s _ _ _ _ _).trans (ih _ _)

theorem executeRun_undecided (rt : Runtime) (env : Surroundings) (s : AgentStore)
    (run : AgentRun) : Undecided s.toAgentTables (executeRun rt env s run).1.toAgentTables := by
  have started : Undecided s.toAgentTables (s.transact (startExecution run)).toAgentTables :=
    undecided_progress s _ _ _ _ _
  unfold executeRun
  dsimp only
  split
  · exact started
  split
  · exact started.trans (undecided_progress _ _ _ _ _ _)
  · exact started.trans ((completeNodes_undecided _ _ _ _).trans
      (undecided_progress _ _ _ _ _ _))

theorem startAgentRun_undecided (rt : Runtime) (env : Surroundings) (s : AgentStore)
    (request : StartRequest) :
    Undecided s.toAgentTables (startAgentRun rt env s request).1.toAgentTables := by
  unfold startAgentRun startWith
  split
  · exact .refl _
  split
  · exact .refl _
  split
  · exact .refl _
  · rename_i made create
    have queued : Undecided s.toAgentTables made.toAgentTables := by
      unfold createRun at create
      split at create
      · cases create
        exact ⟨rfl, rfl⟩
      · cases create
    exact queued.trans (executeRun_undecided _ _ _ _)

theorem decideRun_decided {s : AgentStore} {run : AgentRun} {request : ApprovalRequest}
    {now : Instant} {draft : Draft run} (same : run.id = request.runId)
    (decided : decideRun run request now = .ok draft) :
    Decided s.toAgentTables run request now (s.transact draft).toAgentTables := by
  unfold decideRun at decided
  split at decided
  · cases decided
  rename_i roles
  split at decided
  · cases decided
  split at decided
  · cases decided
  split at decided
  · cases decided
  · rename_i status known
    cases decided
    refine ⟨by tauto, same, ?_, rfl, rfl⟩
    unfold decisionStatus at known
    split at known
    · simp [*]
    · simp [*]
    · simp [*]
    · cases known

/-- A request to decide writes nothing of a decision, or all of it. -/
theorem approveAgentRun_decided (rt : Runtime) (env : Surroundings) (s : AgentStore)
    (request : ApprovalRequest) (now : Instant) :
    Undecided s.toAgentTables (approveAgentRun rt env s request now).1.toAgentTables ∨
    ∃ run, Decided s.toAgentTables run request now
      (approveAgentRun rt env s request now).1.toAgentTables := by
  unfold approveAgentRun approveWith
  split
  · exact .inl (.refl _)
  split
  · exact .inl (.refl _)
  split
  · exact .inl (.refl _)
  rename_i run found
  split
  · exact .inl (.refl _)
  rename_i draft decided
  have decides : Decided s.toAgentTables run request now (s.transact draft).toAgentTables :=
    decideRun_decided (find_some found).2 decided
  refine .inr ⟨run, ?_⟩
  split
  · exact decides.trans (executeRun_undecided _ _ _ _)
  split
  · split
    · exact decides
    · rename_i final finalized
      unfold finalizeApprovedRun at finalized
      split at finalized
      · cases finalized
        exact decides.trans (undecided_progress _ _ _ _ _ _)
      · cases finalized
  · exact decides

end CoolProof.Agents

namespace CoolProof.Workspaces
open Calendar JsonDocument Uuid Models Tables Documents Projects PortfolioRuns VerificationRuns
  HeatRequests Journal Runs

/-! ## What a call records -/

/-- The event is one that the call may record where it is served. That of a request names the
tenant and the user, who has the role for it; that of a poll has no user and is of the
organization of the analysis. -/
inductive Records : Transition Workspace Call → AuditEvent → Prop where
  | projectCreated {w v tenant body newId now} : mayWrite tenant = true →
      Records ⟨w, .request tenant (.createProject body newId now), v⟩
        (auditEvent tenant "project.created" "project" newId [] now)
  | zoneCreated {w v tenant projectId body newId now} : mayWrite tenant = true →
      Records ⟨w, .request tenant (.createZone projectId body newId now), v⟩
        (auditEvent tenant "zone.created" "zone" newId
          [("project_id", .str (Uuid.toString projectId))] now)
  | analysisRequested {w v tenant body env now} (id : UUID) : mayWrite tenant = true →
      Records ⟨w, .request tenant (.createHeatAnalysis body env now), v⟩
        (auditEvent tenant "heat_analysis.requested" "heat_analysis" id
          [("zone_id", .str (Uuid.toString body.zoneId))] now)
  | runDecided {w v tenant runId decision comment decidedAt now provider} (revision : Nat) :
      tenant.role = .manager ∨ tenant.role = .admin →
      decision ∈ ["approve", "reject", "revise"] →
      Records
        ⟨w, .request tenant (.approveAgentRun runId decision comment decidedAt now provider), v⟩
        (auditEvent tenant ("agent_run." ++ decision) "agent_run" runId
          [("revision", .int revision)] decidedAt)
  | analysisEnded {w v id clock answer a eventType metadata} : w.heat.analysis id = some a →
      eventType ∈ ["heat_analysis.succeeded", "heat_analysis.failed"] →
      Records ⟨w, .poll id clock answer, v⟩
        (Heat.auditTerminal a eventType metadata clock.auditedAt)

/-! ### Projects and zones -/

theorem save_advances {β : Type} {x : Transition Workspace Call} {s : ProjectStore}
    {t : ProjectTables} (advances : Advances Records x s.audits t.audits) (ing : Ingestion)
    (texts : List String) (answer : Except Refusal β) :
    Advances Records x s.audits (s.save ing texts t answer).1.audits := by
  unfold ProjectStore.save
  split
  · exact advances
  · exact .idle

theorem createProject_advances (w v : Workspace) (ing : Ingestion) (s : ProjectStore)
    (tenant : TenantContext) (body : ProjectCreate) (newId : UUID) (now : Instant) :
    Advances Records ⟨w, .request tenant (.createProject body newId now), v⟩ s.audits
      (createProject ing s tenant body newId now).1.audits := by
  unfold createProject
  split
  · exact .idle
  rename_i role
  split
  · exact .idle
  · exact save_advances (.entry (.projectCreated (by simpa using role))) ing _ _

theorem createZone_advances (w v : Workspace) (ing : Ingestion) (s : ProjectStore)
    (tenant : TenantContext) (projectId : UUID) (body : ZoneCreate) (newId : UUID)
    (now : Instant) :
    Advances Records ⟨w, .request tenant (.createZone projectId body newId now), v⟩ s.audits
      (createZone ing s tenant projectId body newId now).1.audits := by
  unfold createZone
  split
  · exact .idle
  rename_i role
  split
  · exact .idle
  split
  · exact .idle
  · exact save_advances (.entry (.zoneCreated (by simpa using role))) ing _ _

/-! ### Heat analyses -/

theorem createHeatAnalysis_advances (w v : Workspace) (svc : Heat.HeatService)
    (projects : ProjectTables) (s : Heat.HeatStore) (tenant : TenantContext)
    (body : Heat.HeatAnalysisCreate) (env : Heat.SubmitEnv) (now : Instant) :
    Advances Records ⟨w, .request tenant (.createHeatAnalysis body env now), v⟩ s.audits
      (createHeatAnalysis svc projects s tenant body env now).1.audits := by
  unfold createHeatAnalysis
  split
  · exact .idle
  rename_i role
  split
  · exact .idle
  rename_i zone found
  have silent := Heat.submit_audits svc (Heat.createRequest tenant.organizationId body zone) env s
  dsimp only
  generalize Heat.submit svc (Heat.createRequest tenant.organizationId body zone) env s =
    submitted at silent
  have quiet : Advances Records ⟨w, .request tenant (.createHeatAnalysis body env now), v⟩
      s.audits submitted.store.audits := silent ▸ .idle
  split
  · exact quiet
  · rename_i analysis _
    have asked : (record submitted.store (auditEvent tenant "heat_analysis.requested"
        "heat_analysis" analysis.id [("zone_id", .str (Uuid.toString body.zoneId))] now)).audits =
        s.audits ++ [auditEvent tenant "heat_analysis.requested" "heat_analysis" analysis.id
          [("zone_id", .str (Uuid.toString body.zoneId))] now] := congrArg (· ++ _) silent
    rw [asked]
    exact .entry (.analysisRequested analysis.id (by simpa using role))
  · exact quiet
  · exact quiet
  · exact quiet

/-- The try block of a poll records the end of the analysis, or nothing. -/
theorem pollBody_advances {w v : Workspace} (svc : Heat.HeatService) {id : UUID}
    (clock : Heat.PollClock) (answer : Except ProviderQuery.Raised Dict) {m : Heat.PollMemory}
    (stored : w.heat.analysis id = some m.analysis)
    (seen : Except ProviderQuery.FortyGuardError Dict) (entries : List AuditEvent) :
    Advances Records ⟨w, .poll id clock answer, v⟩ entries
      (entries ++ (Heat.pollBody svc clock m seen).2) := by
  have none_ : Advances Records ⟨w, .poll id clock answer, v⟩ entries (entries ++ []) := by
    rw [List.append_nil]
    exact .idle
  have ended : ∀ eventType metadata,
      eventType ∈ ["heat_analysis.succeeded", "heat_analysis.failed"] →
      Advances Records ⟨w, .poll id clock answer, v⟩ entries
        (entries ++ [Heat.auditTerminal m.analysis eventType metadata clock.auditedAt]) :=
    fun _ _ kind => .entry (.analysisEnded stored kind)
  rcases Heat.pollBody_ends svc clock m seen with
    ⟨raw, status, result, -, -, ends⟩ | ⟨exc, -, ends⟩
  · rw [ends]
    unfold Heat.pollAnswered
    dsimp only
    split
    · rename_i changed
      refine ended _ _ ?_
      cases status with
      | succeeded => exact List.mem_cons_self
      | failed => exact List.mem_cons_of_mem _ List.mem_cons_self
      | queued => cases changed
      | running => cases changed
    · exact none_
  · rw [ends]
    unfold Heat.pollFailed
    dsimp only
    split
    · exact none_
    · split
      · exact ended _ _ (List.mem_cons_of_mem _ List.mem_cons_self)
      · exact none_

theorem poll_advances (svc : Heat.HeatService) (w v : Workspace) (id : UUID)
    (clock : Heat.PollClock) (answer : Except ProviderQuery.Raised Dict) :
    Advances Records ⟨w, .poll id clock answer, v⟩ w.heat.audits
      (Heat.poll svc id clock answer w.heat).audits := by
  cases stored : w.heat.analysis id with
  | none => rw [poll_missing svc clock answer stored]; exact .idle
  | some a =>
    cases arrived : Heat.caught answer with
    | none =>
      rw [show Heat.poll svc id clock answer w.heat = w.heat by simp [Heat.poll, arrived]]
      exact .idle
    | some seen =>
      cases live : Heat.suppressed a w.heat.circuit clock.now with
      | true =>
        rw [show Heat.poll svc id clock answer w.heat = w.heat by
          simp [Heat.poll, stored, arrived, live]]
        exact .idle
      | false =>
        rw [(Heat.poll_commit svc clock stored live arrived).audits]
        exact pollBody_advances svc clock answer stored seen w.heat.audits

/-! ### Agent runs -/

theorem approveAgentRun_advances (w v : Workspace) (rt : Agents.Runtime)
    (env : Agents.Surroundings) (s : Agents.AgentStore) (tenant : TenantContext) (runId : UUID)
    (decision : String) (comment : Option String) (decidedAt now : Instant)
    (provider : Agents.LLMProvider) :
    Advances Records
      ⟨w, .request tenant (.approveAgentRun runId decision comment decidedAt now provider), v⟩
      s.audits
      (Agents.approveAgentRun rt env s (approvalRequest tenant runId decision comment)
        decidedAt).1.audits := by
  rcases Agents.approveAgentRun_decided rt env s (approvalRequest tenant runId decision comment)
    decidedAt with silent | ⟨run, decided⟩
  · rw [silent.audits]
    exact .idle
  · have same : run.id = runId := decided.same
    rw [decided.audits]
    subst same
    exact .entry (.runDecided run.revision decided.role decided.decision)

/-! ### Calls -/

/-- The tables with audit events: of projects and zones, of heat analyses, of agent runs. -/
inductive AuditLog where
  | projects
  | heat
  | agents
deriving DecidableEq

def Workspace.audits (w : Workspace) : AuditLog → List AuditEvent
  | .projects => w.projects.audits
  | .heat => w.heat.audits
  | .agents => w.agents.audits

/-- The log an event is for, by what it speaks of. -/
def auditLog (e : AuditEvent) : AuditLog :=
  if e.resourceType = "heat_analysis" then .heat
  else if e.resourceType = "agent_run" then .agents
  else .projects

/-- A call records one event at most, in one of the logs. -/
theorem serveCall_enters (dep : Deployment) (w : Workspace) (call : Call) :
    Enters Records auditLog ⟨w, call, serveCall dep w call⟩ w.audits
      (serveCall dep w call).audits := by
  cases call with
  | poll id clock answer =>
    refine enters_of_advances .heat (poll_advances dep.heat w _ id clock answer)
      (fun e recorded => ?_) fun log other => ?_
    · cases recorded with
      | analysisEnded => rfl
    · cases log <;> first | rfl | exact absurd rfl other
  | request tenant request =>
    cases request with
    | createProject body newId now =>
      refine enters_of_advances .projects
        (createProject_advances w _ dep.ingestion w.projects tenant body newId now)
        (fun e recorded => ?_) fun log other => ?_
      · cases recorded with
        | projectCreated => rfl
      · cases log <;> first | rfl | exact absurd rfl other
    | createZone projectId body newId now =>
      refine enters_of_advances .projects
        (createZone_advances w _ dep.ingestion w.projects tenant projectId body newId now)
        (fun e recorded => ?_) fun log other => ?_
      · cases recorded with
        | zoneCreated => rfl
      · cases log <;> first | rfl | exact absurd rfl other
    | createHeatAnalysis body env now =>
      refine enters_of_advances .heat (createHeatAnalysis_advances w _ dep.heat
        w.projects.toProjectTables w.heat tenant body env now)
        (fun e recorded => ?_) fun log other => ?_
      · cases recorded with
        | analysisRequested => rfl
      · cases log <;> first | rfl | exact absurd rfl other
    | startAgentRun projectId inputData newId threadId now provider =>
      refine enters_idle fun log => ?_
      cases log with
      | agents =>
        exact (Agents.startAgentRun_undecided dep.agents ⟨w.groundingTables, now, provider⟩
          w.agents (startRequest tenant projectId inputData newId threadId)).audits
      | projects | heat => rfl
    | approveAgentRun runId decision comment decidedAt now provider =>
      refine enters_of_advances .agents (approveAgentRun_advances w _ dep.agents
        ⟨w.groundingTables, now, provider⟩ w.agents tenant runId decision comment decidedAt now
        provider) (fun e recorded => ?_) fun log other => ?_
      · cases recorded with
        | runDecided => rfl
      · cases log <;> first | rfl | exact absurd rfl other
    | catalogue | optimize | createVerification | createReport | createReportAlias =>
      exact enters_idle fun log => by cases log <;> rfl

/-! ## What the logs account for -/

/-- What the events of one type say of their rows. -/
def account (eventType : String) (log : List AuditEvent) : List (UUID × String × Dict) :=
  (log.filter fun e => e.eventType = eventType).map fun e =>
    (e.organizationId, e.resourceId, e.metadata)

/-- What a decision event says, and what an approval has of it. -/
def decisionColumns (e : AuditEvent) : UUID × Option UUID × String × String × Dict :=
  (e.organizationId, e.actorUserId, e.eventType, e.resourceId, e.metadata)

def approvalColumns (a : AgentApproval) : UUID × Option UUID × String × String × Dict :=
  (a.organizationId, some a.reviewerUserId, "agent_run." ++ a.decision, Uuid.toString a.runId,
    [("revision", .int a.revision)])

/-- Projects, zones and approvals are, row by row and in their order, those of the events. -/
structure Accounted (w : Workspace) : Prop where
  projects : account "project.created" w.projects.audits =
    w.projects.projects.map fun p => (p.organizationId, Uuid.toString p.id, [])
  zones : account "zone.created" w.projects.audits =
    w.projects.zones.map fun z => (z.organizationId, Uuid.toString z.id,
      [("project_id", .str (Uuid.toString z.projectId))])
  decisions : w.agents.audits.map decisionColumns = w.agents.approvals.map approvalColumns

theorem account_append (eventType : String) (log : List AuditEvent) (e : AuditEvent) :
    account eventType (log ++ [e]) = account eventType log ++
      if e.eventType = eventType then [(e.organizationId, e.resourceId, e.metadata)] else [] := by
  unfold account
  rw [List.filter_append, List.map_append]
  by_cases same : e.eventType = eventType
  · simp [same]
  · simp [same]

theorem Accounted.projectWrites {w : Workspace} (accounted : Accounted w) {tenant : TenantContext}
    {p : ProjectStore} (writes : ProjectWrites w.projects.toProjectTables tenant p.toProjectTables) :
    Accounted { w with projects := p } := by
  obtain ⟨projects, zones, decisions⟩ := accounted
  generalize tables : p.toProjectTables = t at writes
  suffices both : account "project.created" t.audits =
      (t.projects.map fun p => (p.organizationId, Uuid.toString p.id, [])) ∧
      account "zone.created" t.audits = t.zones.map fun z => (z.organizationId,
        Uuid.toString z.id, [("project_id", .str (Uuid.toString z.projectId))]) by
    rw [← tables] at both
    exact ⟨both.1, both.2, decisions⟩
  cases writes with
  | nothing => exact ⟨projects, zones⟩
  | project =>
    refine ⟨?_, ?_⟩
    · rw [withProject, account_append, projects, List.map_append]
      rfl
    · rw [withProject, account_append, zones]
      exact List.append_nil _
  | zone has =>
    refine ⟨?_, ?_⟩
    · rw [withZone, account_append, projects]
      exact List.append_nil _
    · rw [withZone, account_append, zones, List.map_append]
      rfl

theorem decisions_undecided {s t : Agents.AgentTables} (silent : Agents.Undecided s t)
    (decisions : s.audits.map decisionColumns = s.approvals.map approvalColumns) :
    t.audits.map decisionColumns = t.approvals.map approvalColumns := by
  rw [silent.audits, silent.approvals, decisions]

theorem decisions_decided {s t : Agents.AgentTables} {run : AgentRun}
    {request : Agents.ApprovalRequest} {now : Instant}
    (decided : Agents.Decided s run request now t)
    (decisions : s.audits.map decisionColumns = s.approvals.map approvalColumns) :
    t.audits.map decisionColumns = t.approvals.map approvalColumns := by
  rw [decided.audits, decided.approvals, List.map_append, List.map_append, decisions]
  rfl

theorem serveCall_accounted (dep : Deployment) {w : Workspace} (call : Call)
    (accounted : Accounted w) : Accounted (serveCall dep w call) := by
  cases call with
  | poll id clock answer => exact { accounted with }
  | request tenant request =>
    cases request with
    | createProject body newId now =>
      exact accounted.projectWrites (createProject_writes dep.ingestion w.projects tenant body
        newId now)
    | createZone projectId body newId now =>
      exact accounted.projectWrites (createZone_writes dep.ingestion w.projects tenant projectId
        body newId now)
    | startAgentRun projectId inputData newId threadId now provider =>
      exact { accounted with
        decisions := decisions_undecided (Agents.startAgentRun_undecided dep.agents
          ⟨w.groundingTables, now, provider⟩ w.agents
          (startRequest tenant projectId inputData newId threadId)) accounted.decisions }
    | approveAgentRun runId decision comment decidedAt now provider =>
      refine { accounted with decisions := ?_ }
      rcases Agents.approveAgentRun_decided dep.agents ⟨w.groundingTables, now, provider⟩ w.agents
        (approvalRequest tenant runId decision comment) decidedAt with silent | ⟨run, decided⟩
      · exact decisions_undecided silent accounted.decisions
      · exact decisions_decided decided accounted.decisions
    | createHeatAnalysis | catalogue | optimize | createVerification | createReport
    | createReportAlias => exact { accounted with }

theorem serveCalls_accounted (dep : Deployment) (calls : List Call) :
    Accounted (serveCalls dep calls) := by
  induction calls using List.reverseRecOn with
  | nil => exact ⟨rfl, rfl, rfl⟩
  | append_singleton calls call ih =>
    rw [serveCalls, List.foldl_append]
    exact serveCall_accounted dep call ih

/-- The calls of a run, each between the state that it met and the one that it left. -/
def history (dep : Deployment) (calls : List Call) : List (Transition Workspace Call) :=
  trace (fun call w => serveCall dep w call) Workspace.empty calls

/-- The audit events that a run has left, in all logs. -/
abbrev AuditTable (dep : Deployment) (calls : List Call) (events : List AuditEvent) : Prop :=
  Journaled Records auditLog (history dep calls) (serveCalls dep calls).audits events

/-- After any calls, the audit events are what calls of the run recorded, one each at most and in
their order, and later calls only add to them; and projects, zones and decisions are those they
tell of. -/
theorem audit_trail (dep : Deployment) (calls : List Call) :
    (∃ events, AuditTable dep calls events ∧
      ∀ later, ∃ more, AuditTable dep (calls ++ later) (events ++ more)) ∧
    Accounted (serveCalls dep calls) := by
  have start : AuditTable dep [] [] := journaled_nil fun log => by cases log <;> rfl
  obtain ⟨events, table⟩ := start.continue (serveCall_enters dep) calls
  exact ⟨⟨events, table, table.continue (serveCall_enters dep)⟩, serveCalls_accounted dep calls⟩

end CoolProof.Workspaces
