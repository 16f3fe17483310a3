import CoolProof.AgentScope
import CoolProof.Workspace

/-! Who wrote a row. Whatever a call adds or changes, in any table, carries the organization
the call works for; so every row that is stored was written by a call of its organization. -/

namespace CoolProof.Workspaces
open Calendar JsonDocument Uuid Models Tables Documents Projects PortfolioRuns VerificationRuns
  HeatRequests

/-- The rows after a call, against those before. -/
abbrev Written (organizationId : UUID) (before after : List Row) : Prop :=
  WrittenBy Row.organizationId organizationId before after

/-! ## Table by table -/

theorem projectRows_written {s t : ProjectTables} {tenant : TenantContext}
    (writes : ProjectWrites s tenant t) :
    Written tenant.organizationId (projectRows s) (projectRows t) := by
  cases writes with
  | nothing => exact .refl _
  | project =>
    refine .append (.append (.map _ (.added ?_)) (.refl _)) (.map _ (.added ?_))
    · exact fun p new => by rw [List.mem_singleton.mp new]; rfl
    · exact fun e new => by rw [List.mem_singleton.mp new]; rfl
  | zone has =>
    refine .append (.append (.refl _) (.map _ (.added ?_))) (.map _ (.added ?_))
    · exact fun z new => by rw [List.mem_singleton.mp new]; rfl
    · exact fun e new => by rw [List.mem_singleton.mp new]; rfl

/-- The analyses after a write: the written row and old ones. -/
theorem mem_analyses_of_wrote {s t : Heat.HeatStore} {row : HeatAnalysis}
    {activity : Option FortyGuardActivity}
    (wrote : Heat.Wrote s.toHeatTables t.toHeatTables row activity) {a : HeatAnalysis}
    (member : a ∈ t.analyses) : a = row ∨ a ∈ s.analyses := by
  have found := t.analysis_of_mem member
  rw [wrote.analysis] at found
  split at found
  · exact .inl (Option.some.inj found).symm
  · exact .inr (find_some found).1

/-- The organization an analysis is stored under does not change. -/
theorem organization_of_rowWrite {projects : ProjectTables} {s : Heat.HeatStore}
    {organizationId : UUID} {t : Heat.HeatTables} {row : HeatAnalysis}
    {activity : Option FortyGuardActivity}
    (write : RowWrite projects s organizationId t row activity) {a : HeatAnalysis}
    (stored : a ∈ s.analyses) :
    ∃ b, t.analysis a.id = some b ∧ b.organizationId = a.organizationId := by
  have found := s.analysis_of_mem stored
  rw [write.wrote.analysis]
  by_cases same : a.id = row.id
  · refine ⟨row, if_pos same, ?_⟩
    rw [same] at found
    exact write.owner.trans (write.before a found).symm
  · exact ⟨a, by rw [if_neg same]; exact found, rfl⟩

theorem heatRows_written {projects : ProjectTables} {s t : Heat.HeatStore} {organizationId : UUID}
    (writes : HeatWrites projects s organizationId t) :
    Written organizationId (heatRows s.toHeatTables) (heatRows t.toHeatTables) := by
  cases writes with
  | nothing => exact .refl _
  | @wrote _ row activity events write audits about =>
    refine .append (.append (.map _ fun a member => ?_) fun r member => ?_) ?_
    · rcases mem_analyses_of_wrote write.wrote member with rfl | old
      · exact .inr write.owner
      · exact .inl old
    · obtain ⟨x, stored, made⟩ := List.mem_filterMap.mp member
      obtain ⟨a, owner, rfl⟩ := Option.map_eq_some_iff.mp made
      have found := t.activity_of_mem stored
      rw [write.wrote.analysis] at owner
      rw [write.wrote.activity] at found
      split at owner
      · rw [← Option.some.inj owner]
        exact .inr write.owner
      · rename_i other
        rw [if_neg other] at found
        refine .inl (List.mem_filterMap.mpr ⟨x, (find_some found).1, ?_⟩)
        rw [activityRow, owner]
        rfl
    · rw [audits]
      refine .map _ (.added fun e new => ?_)
      exact (about e new).organization.trans write.owner

theorem catalogueRows_written {ing : Ingestion} {projects : List Project} {s : CatalogueStore}
    {tenant : TenantContext} {t : CatalogueTables} (writes : Writes ing projects s tenant t) :
    Written tenant.organizationId (catalogueRows s.toCatalogueTables) (catalogueRows t) := by
  cases writes with
  | nothing => exact .refl _
  | uploaded found =>
    refine .append (.append (.append (.map _ (.added ?_)) (.refl _)) (.refl _)) (.refl _)
    exact fun d new => by rw [List.mem_singleton.mp new]; rfl
  | failed stored owner =>
    exact .append (.append (.append (.map _ (.updated owner)) (.refl _)) (.refl _)) (.refl _)
  | finalized stored owner valid storable =>
    refine .append (.append (.append (.map _ (.updated owner)) (.map _ ?_)) (.refl _))
      (.map _ (.of_subset fun _ => List.mem_of_mem_filter))
    refine (WrittenBy.of_subset fun _ => List.mem_of_mem_filter).trans (.added fun c new => ?_)
    obtain ⟨chunk, -, rfl⟩ := List.mem_map.mp new
    exact owner
  | intervention found =>
    refine .append (.append (.refl _) (.map _ (.added ?_))) (.refl _)
    exact fun i new => by rw [List.mem_singleton.mp new]; rfl
  | evidence found =>
    refine .append (.refl _) (.map _ (.added ?_))
    exact fun e new => by rw [List.mem_singleton.mp new]; rfl
  | removed evidenceId => exact .append (.refl _) (.map _ (.of_subset fun _ => List.mem_of_mem_filter))

theorem portfolioRows_written {projects : ProjectTables} {catalogue : List Intervention}
    {s t : PortfolioTables} {tenant : TenantContext}
    (writes : PortfolioWrites projects catalogue s tenant t) :
    Written tenant.organizationId (portfolioRows s) (portfolioRows t) := by
  cases writes with
  | nothing => exact .refl _
  | planned owner project has allocated =>
    refine .append (.map _ (.added ?_)) (.map _ (.added ?_))
    · exact fun run new => by rw [List.mem_singleton.mp new]; exact owner
    · exact fun a new => (allocated a new).1

theorem verificationRows_written {projects : ProjectTables} {runs : List PortfolioRun}
    {s t : VerificationTables} {tenant : TenantContext}
    (writes : VerificationWrites projects runs s tenant t) :
    Written tenant.organizationId (verificationRows s) (verificationRows t) := by
  cases writes with
  | nothing => exact .refl _
  | created owner sourced =>
    refine .map _ (.added ?_)
    exact fun v new => by rw [List.mem_singleton.mp new]; exact owner
  | @rewritten id loaded key own =>
    refine .map _ fun v member => ?_
    obtain ⟨old, stored, rfl⟩ := List.mem_map.mp member
    by_cases same : old.id = id
    · exact .inr ((withReport_organizationId _ _ _ old).trans (own old stored same))
    · rw [withReport_other loaded key same]
      exact .inl stored

/-! ## Agent runs -/

/-- The columns of a run that no transaction changes. -/
def runKeys (run : AgentRun) : UUID × UUID × Option UUID :=
  (run.id, run.organizationId, run.projectId)

theorem mergeRun_keys {loaded changed : AgentRun} {runs : List AgentRun}
    (unique : (runs.map AgentRun.id).Nodup) :
    (Agents.mergeRun loaded changed runs).map runKeys = runs.map runKeys := by
  unfold Agents.mergeRun
  split
  · rename_i stored found
    refine map_update_of_eq fun r member same => ?_
    have twin : r = stored := List.inj_on_of_nodup_map unique member (find_some found).1 same
    rw [twin]
    rfl
  · rfl

/-- A run that a transaction has changed has the keys it had. -/
theorem transact_keys (s : Agents.AgentStore) {run : AgentRun} (draft : Agents.Draft run) :
    (s.transact draft).runs.map runKeys = s.runs.map runKeys := mergeRun_keys s.primaryKey

theorem mergeRun_written {s : Agents.AgentStore} {loaded : AgentRun} (changed : AgentRun)
    (found : Agents.Loaded s loaded) :
    WrittenBy AgentRun.organizationId loaded.organizationId s.runs
      (Agents.mergeRun loaded changed s.runs) := by
  obtain ⟨stored, found, owner⟩ := found
  have found : find AgentRun.id loaded.id s.runs = some stored := found
  unfold Agents.mergeRun
  rw [found]
  exact .updated owner

theorem agentRows_transact {s : Agents.AgentStore} {run : AgentRun} {draft : Agents.Draft run}
    (loaded : Agents.Loaded s run) (own : draft.Own) :
    Written run.organizationId (agentRows s.toAgentTables)
      (agentRows (s.transact draft).toAgentTables) := by
  refine .append (.append (.append (.map _ (mergeRun_written _ loaded)) (.map _ (.added ?_)))
    (.map _ (.added ?_))) (.map _ (.added ?_))
  · exact fun e new => by rw [List.mem_singleton.mp new]; rfl
  · exact fun a new => (own.approval a (Option.mem_toList.mp new)).2
  · exact fun e new => (own.audit e (Option.mem_toList.mp new)).1

theorem agentRows_transacts {organizationId : UUID} {s t : Agents.AgentStore}
    (transacts : Agents.Transacts organizationId s t) :
    Written organizationId (agentRows s.toAgentTables) (agentRows t.toAgentTables) := by
  induction transacts with
  | refl => exact .refl _
  | cons loaded owner own _ ih =>
    have first := agentRows_transact loaded own
    rw [owner] at first
    exact first.trans ih

theorem agentRows_created {s t : Agents.AgentStore} {new : Agents.NewRun}
    (create : Agents.createRun s new = some t) :
    Written new.organizationId (agentRows s.toAgentTables) (agentRows t.toAgentTables) := by
  unfold Agents.createRun at create
  split at create
  · cases create
    refine .append (.append (.append (.map _ (.added ?_)) (.map _ (.added ?_))) (.refl _))
      (.refl _)
    · exact fun r last => by rw [List.mem_singleton.mp last]; rfl
    · exact fun e last => by rw [List.mem_singleton.mp last]; rfl
  · cases create

/-! ## Calls -/

section Component
variable {w : Workspace} {organizationId : UUID}

/-! A call that writes to one component leaves the rows of the others. -/

theorem rows_of_projects {projects : ProjectStore}
    (written : Written organizationId (projectRows w.projects.toProjectTables)
      (projectRows projects.toProjectTables)) :
    Written organizationId w.rows { w with projects := projects }.rows :=
  .append (.append (.append (.append (.append written (.refl _)) (.refl _)) (.refl _)) (.refl _))
    (.refl _)

theorem rows_of_heat {heat : Heat.HeatStore}
    (written : Written organizationId (heatRows w.heat.toHeatTables)
      (heatRows heat.toHeatTables)) :
    Written organizationId w.rows { w with heat := heat }.rows :=
  .append (.append (.append (.append (.append (.refl _) written) (.refl _)) (.refl _)) (.refl _))
    (.refl _)

theorem rows_of_catalogue {catalogue : CatalogueStore}
    (written : Written organizationId (catalogueRows w.catalogue.toCatalogueTables)
      (catalogueRows catalogue.toCatalogueTables)) :
    Written organizationId w.rows { w with catalogue := catalogue }.rows :=
  .append (.append (.append (.append (.refl _) written) (.refl _)) (.refl _)) (.refl _)

theorem rows_of_portfolios {portfolios : PortfolioStore}
    (written : Written organizationId (portfolioRows w.portfolios.toPortfolioTables)
      (portfolioRows portfolios.toPortfolioTables)) :
    Written organizationId w.rows { w with portfolios := portfolios }.rows :=
  .append (.append (.append (.refl _) written) (.refl _)) (.refl _)

theorem rows_of_verifications {verifications : VerificationStore}
    (written : Written organizationId (verificationRows w.verifications.toVerificationTables)
      (verificationRows verifications.toVerificationTables)) :
    Written organizationId w.rows { w with verifications := verifications }.rows :=
  .append (.append (.refl _) written) (.refl _)

theorem rows_of_agents {agents : Agents.AgentStore}
    (written : Written organizationId (agentRows w.agents.toAgentTables)
      (agentRows agents.toAgentTables)) :
    Written organizationId w.rows { w with agents := agents }.rows :=
  .append (.refl _) written

end Component

theorem serveRequest_written (dep : Deployment) (w : Workspace) (tenant : TenantContext)
    (request : WorkspaceRequest) :
    Written tenant.organizationId w.rows (serveRequest dep w tenant request).rows := by
  cases request with
  | createProject body newId now =>
    exact rows_of_projects (projectRows_written
      (createProject_writes dep.ingestion w.projects tenant body newId now))
  | createZone projectId body newId now =>
    exact rows_of_projects (projectRows_written
      (createZone_writes dep.ingestion w.projects tenant projectId body newId now))
  | createHeatAnalysis body env now =>
    exact rows_of_heat (heatRows_written (createHeatAnalysis_writes dep.heat
      w.projects.toProjectTables w.heat tenant body env now))
  | catalogue request =>
    exact rows_of_catalogue (catalogueRows_written
      (serveCatalogue_writes dep.ingestion w.projects.projects w.catalogue tenant request))
  | optimize request env =>
    exact rows_of_portfolios (portfolioRows_written (optimize_writes dep.optimizer
      w.projects.toProjectTables w.catalogue.interventions w.portfolios tenant request env))
  | createVerification request newId storage =>
    exact rows_of_verifications (verificationRows_written (createVerification_writes
      dep.verification w.projects.toProjectTables w.portfolios.runs w.verifications tenant request
      newId storage))
  | createReport verificationId storage =>
    exact rows_of_verifications (verificationRows_written (createReport_writes
      w.projects.toProjectTables w.portfolios.runs storage w.verifications tenant verificationId))
  | createReportAlias verificationId storage =>
    exact rows_of_verifications (verificationRows_written (createReportAlias_writes
      w.projects.toProjectTables w.portfolios.runs storage w.verifications tenant verificationId))
  | startAgentRun projectId inputData newId threadId now provider =>
    refine rows_of_agents ?_
    rcases Agents.startAgentRun_transacts dep.agents ⟨w.groundingTables, now, provider⟩ w.agents
      (startRequest tenant projectId inputData newId threadId) with same | ⟨made, create, -, rest⟩
    · rw [same]
      exact .refl _
    · exact (agentRows_created create).trans (agentRows_transacts rest)
  | approveAgentRun runId decision comment decidedAt now provider =>
    exact rows_of_agents (agentRows_transacts (Agents.approveAgentRun_transacts dep.agents
      ⟨w.groundingTables, now, provider⟩ w.agents
      (approvalRequest tenant runId decision comment) decidedAt))

/-- A poll of an analysis that is not stored changes nothing. -/
theorem poll_missing (svc : Heat.HeatService) {s : Heat.HeatStore} {id : UUID}
    (clock : Heat.PollClock) (answer : Except ProviderQuery.Raised Dict)
    (missing : s.analysis id = none) : Heat.poll svc id clock answer s = s := by
  simp [Heat.poll, missing]

/-- Every row that a call leaves was there before, or carries the organization of the call. -/
theorem serveCall_written (dep : Deployment) (w : Workspace) (call : Call) :
    ∀ r ∈ (serveCall dep w call).rows, r ∈ w.rows ∨
      call.organizationId w = some r.organizationId := by
  cases call with
  | request tenant request =>
    intro r member
    exact (serveRequest_written dep w tenant request r member).imp_right fun own =>
      congrArg some own.symm
  | poll id clock answer =>
    cases stored : w.heat.analysis id with
    | none =>
      have same : serveCall dep w (.poll id clock answer) = w := by
        rw [serveCall, poll_missing dep.heat clock answer stored]
      rw [same]
      exact fun r member => .inl member
    | some a =>
      have written := heatRows_written
        (poll_writes dep.heat w.projects.toProjectTables clock answer stored)
      have all : Written a.organizationId w.rows (serveCall dep w (.poll id clock answer)).rows :=
        rows_of_heat written
      intro r member
      refine (all r member).imp_right fun own => ?_
      rw [Call.organizationId, stored, own]
      rfl

end CoolProof.Workspaces
