import CoolProof.AgentExecution
import CoolProof.HeatRequests
import CoolProof.VerificationRuns

/-! The whole store of the application and the calls that write it: the requests of tenants,
each with the context its user was authenticated for, and the polls of the worker, which
belong to no tenant. -/

namespace CoolProof.Workspaces
open Calendar JsonDocument Uuid Models Tables Documents Projects PortfolioRuns VerificationRuns
  HeatRequests

structure Workspace where
  projects : ProjectStore
  heat : Heat.HeatStore
  catalogue : CatalogueStore
  portfolios : PortfolioStore
  verifications : VerificationStore
  agents : Agents.AgentStore

def Workspace.empty : Workspace :=
  ⟨.empty, .empty, .empty, .empty, .empty, .empty⟩

/-- The services, libraries and settings that the requests run with. -/
structure Deployment where
  heat : Heat.HeatService
  ingestion : Ingestion
  optimizer : Optimizer
  verification : VerificationService
  agents : Agents.Runtime

/-! ## Calls -/

inductive WorkspaceRequest where
  | createProject (body : ProjectCreate) (newId : UUID) (now : Instant)
  | createZone (projectId : UUID) (body : ZoneCreate) (newId : UUID) (now : Instant)
  | createHeatAnalysis (body : Heat.HeatAnalysisCreate) (env : Heat.SubmitEnv) (now : Instant)
  | catalogue (request : CatalogueRequest)
  | optimize (request : OptimizeRequest) (env : OptimizeEnv)
  | createVerification (request : VerificationRequest) (newId : UUID) (storage : ReportStorage)
  | createReport (verificationId : UUID) (storage : ReportStorage)
  | createReportAlias (verificationId : UUID) (storage : ReportStorage)
  | startAgentRun (projectId : Option UUID) (inputData : Dict) (newId : UUID)
      (threadId : String) (now : Instant) (provider : Agents.LLMProvider)
  | approveAgentRun (runId : UUID) (decision : String) (comment : Option String)
      (decidedAt now : Instant) (provider : Agents.LLMProvider)

/-- The tables a run is grounded in. -/
def Workspace.groundingTables (w : Workspace) : Grounding.GroundingTables where
  projects := w.projects.projects
  heatAnalyses := w.heat.analyses
  portfolioRuns := w.portfolios.runs
  interventions := w.catalogue.interventions
  interventionEvidence := w.catalogue.evidence
  documents := w.catalogue.documents
  documentChunks := w.catalogue.chunks

def startRequest (tenant : TenantContext) (projectId : Option UUID) (inputData : Dict)
    (newId : UUID) (threadId : String) : Agents.StartRequest where
  id := newId
  organizationId := tenant.organizationId
  projectId := projectId
  threadId := threadId
  inputData := inputData
  role := tenant.role

def approvalRequest (tenant : TenantContext) (runId : UUID) (decision : String)
    (comment : Option String) : Agents.ApprovalRequest where
  runId := runId
  organizationId := tenant.organizationId
  reviewerUserId := tenant.userId
  reviewerRole := tenant.role
  decision := decision
  comment := comment

/-- The workspace after a request of a tenant. -/
def serveRequest (dep : Deployment) (w : Workspace) (tenant : TenantContext) :
    WorkspaceRequest → Workspace
  | .createProject body newId now =>
      { w with projects := (createProject dep.ingestion w.projects tenant body newId now).1 }
  | .createZone projectId body newId now =>
      { w with
        projects := (createZone dep.ingestion w.projects tenant projectId body newId now).1 }
  | .createHeatAnalysis body env now =>
      { w with
        heat := (createHeatAnalysis dep.heat w.projects.toProjectTables w.heat tenant body env
          now).1 }
  | .catalogue request =>
      { w with
        catalogue := serveCatalogue dep.ingestion w.projects.projects w.catalogue tenant request }
  | .optimize request env =>
      { w with
        portfolios := (optimize dep.optimizer w.projects.toProjectTables
          w.catalogue.interventions w.portfolios tenant request env).1 }
  | .createVerification request newId storage =>
      { w with
        verifications := (createVerification dep.verification w.projects.projects
          w.portfolios.runs w.verifications tenant request newId storage).1 }
  | .createReport verificationId storage =>
      { w with verifications := (createReport storage w.verifications tenant verificationId).1 }
  | .createReportAlias verificationId storage =>
      { w with
        verifications := (createReportAlias storage w.verifications tenant verificationId).1 }
  | .startAgentRun projectId inputData newId threadId now provider =>
      { w with
        agents := (Agents.startAgentRun dep.agents ⟨w.groundingTables, now, provider⟩ w.agents
          (startRequest tenant projectId inputData newId threadId)).1 }
  | .approveAgentRun runId decision comment decidedAt now provider =>
      { w with
        agents := (Agents.approveAgentRun dep.agents ⟨w.groundingTables, now, provider⟩ w.agents
          (approvalRequest tenant runId decision comment) decidedAt).1 }

inductive Call where
  | request (tenant : TenantContext) (request : WorkspaceRequest)
  | poll (id : UUID) (clock : Heat.PollClock) (answer : Except ProviderQuery.Raised Dict)

def serveCall (dep : Deployment) (w : Workspace) : Call → Workspace
  | .request tenant request => serveRequest dep w tenant request
  | .poll id clock answer => { w with heat := Heat.poll dep.heat id clock answer w.heat }

/-- Calls one after another, from the empty store. -/
def serveCalls (dep : Deployment) (calls : List Call) : Workspace :=
  calls.foldl (serveCall dep) Workspace.empty

/-- The organization a call works for: the tenant's, or that of the analysis polled. -/
def Call.organizationId (w : Workspace) : Call → Option UUID
  | .request tenant _ => some tenant.organizationId
  | .poll id _ _ => (w.heat.analysis id).map HeatAnalysis.organizationId

/-! ## Rows -/

/-- A row of any table. An activity has no organization of its own and belongs to that of
its analysis. -/
inductive Row where
  | project (row : Project)
  | zone (row : Zone)
  | auditEvent (row : AuditEvent)
  | heatAnalysis (row : HeatAnalysis)
  | activity (organizationId : UUID) (row : FortyGuardActivity)
  | document (row : Document)
  | documentChunk (row : DocumentChunk)
  | intervention (row : Intervention)
  | interventionEvidence (row : InterventionEvidence)
  | portfolioRun (row : PortfolioRun)
  | portfolioAllocation (row : PortfolioAllocation)
  | verificationRun (row : VerificationRun)
  | agentRun (row : AgentRun)
  | agentEvent (row : AgentEvent)
  | agentApproval (row : AgentApproval)

def Row.organizationId : Row → UUID
  | .project row => row.organizationId
  | .zone row => row.organizationId
  | .auditEvent row => row.organizationId
  | .heatAnalysis row => row.organizationId
  | .activity organizationId _ => organizationId
  | .document row => row.organizationId
  | .documentChunk row => row.organizationId
  | .intervention row => row.organizationId
  | .interventionEvidence row => row.organizationId
  | .portfolioRun row => row.organizationId
  | .portfolioAllocation row => row.organizationId
  | .verificationRun row => row.organizationId
  | .agentRun row => row.organizationId
  | .agentEvent row => row.organizationId
  | .agentApproval row => row.organizationId

def projectRows (t : ProjectTables) : List Row :=
  t.projects.map .project ++ t.zones.map .zone ++ t.audits.map .auditEvent

def activityRow (t : Heat.HeatTables) (x : FortyGuardActivity) : Option Row :=
  (t.analysis x.analysisId).map fun a => .activity a.organizationId x

def heatRows (t : Heat.HeatTables) : List Row :=
  t.analyses.map .heatAnalysis ++ t.activities.filterMap (activityRow t) ++
    t.audits.map .auditEvent

def catalogueRows (t : CatalogueTables) : List Row :=
  t.documents.map .document ++ t.chunks.map .documentChunk ++
    t.interventions.map .intervention ++ t.evidence.map .interventionEvidence

def portfolioRows (t : PortfolioTables) : List Row :=
  t.runs.map .portfolioRun ++ t.allocations.map .portfolioAllocation

def verificationRows (t : VerificationTables) : List Row :=
  t.verifications.map .verificationRun

def agentRows (t : Agents.AgentTables) : List Row :=
  t.runs.map .agentRun ++ t.events.map .agentEvent ++ t.approvals.map .agentApproval ++
    t.audits.map .auditEvent

def Workspace.rows (w : Workspace) : List Row :=
  projectRows w.projects.toProjectTables ++ heatRows w.heat.toHeatTables ++
    catalogueRows w.catalogue.toCatalogueTables ++ portfolioRows w.portfolios.toPortfolioTables ++
    verificationRows w.verifications.toVerificationTables ++ agentRows w.agents.toAgentTables

end CoolProof.Workspaces
