import CoolProof.HeatSeparation
import CoolProof.RunSeparation

/-! Tenants side by side. Whatever other organizations ask for, the tables of one organization are
those that its own calls make, and its requests are answered as if it had the application to
itself. Two things are shared: ids are drawn from one space, so none may come twice, and the
breaker is one row, so a poll must meet it open in both runs or in neither. -/

namespace CoolProof.Workspaces
open Calendar JsonDocument Uuid Models Tables Slices Documents Projects PortfolioRuns
  VerificationRuns HeatRequests

/-! ## Answers -/

inductive Answer where
  | created (answer : Except Refusal UUID)
  | upload (answer : Except Refusal UploadOut)
  | finalized (answer : Except Refusal FinalizeOut)
  | removed (answer : Except Refusal Unit)
  | analysis (answer : Except Stopped (HeatAnalysis × Bool))
  | portfolio (answer : Except Stopped Dict)
  | verification (answer : Except Stopped VerificationOut)
  | report (answer : Except Stopped (UUID × String))
  | run (answer : Except Agents.Failure Agents.RunOut)
  | approval (answer : Except Agents.Failure Agents.ApprovalOut)

def answerCatalogue (ing : Ingestion) (projects : List Project) (s : CatalogueStore)
    (tenant : TenantContext) : CatalogueRequest → Answer
  | .createUpload bucket request newId =>
      .upload (createUpload ing bucket projects s tenant request newId).2
  | .finalize documentId request env => .finalized (finalize ing s tenant documentId request env).2
  | .createIntervention request newId => .created (createIntervention ing s tenant request newId).2
  | .addEvidence interventionId request newId now =>
      .created (addEvidence ing s tenant interventionId request newId now).2
  | .removeEvidence interventionId evidenceId =>
      .removed (removeEvidence ing s tenant interventionId evidenceId).2

/-- What a request of a tenant is answered with. -/
def answerRequest (dep : Deployment) (w : Workspace) (tenant : TenantContext) :
    WorkspaceRequest → Answer
  | .createProject body newId now =>
      .created (createProject dep.ingestion w.projects tenant body newId now).2
  | .createZone projectId body newId now =>
      .created (createZone dep.ingestion w.projects tenant projectId body newId now).2
  | .createHeatAnalysis body env now =>
      .analysis (createHeatAnalysis dep.heat w.projects.toProjectTables w.heat tenant body env now).2
  | .catalogue request =>
      answerCatalogue dep.ingestion w.projects.projects w.catalogue tenant request
  | .optimize request env =>
      .portfolio (optimize dep.optimizer w.projects.toProjectTables w.catalogue.interventions
        w.portfolios tenant request env).2
  | .createVerification request newId storage =>
      .verification (createVerification dep.verification w.projects.projects w.portfolios.runs
        w.verifications tenant request newId storage).2
  | .createReport verificationId storage =>
      .report (createReport storage w.verifications tenant verificationId).2
  | .createReportAlias verificationId storage =>
      .report (createReportAlias storage w.verifications tenant verificationId).2
  | .startAgentRun projectId inputData newId threadId now provider =>
      .run (Agents.startAgentRun dep.agents ⟨w.groundingTables, now, provider⟩ w.agents
        (startRequest tenant projectId inputData newId threadId)).2
  | .approveAgentRun runId decision comment decidedAt now provider =>
      .approval (Agents.approveAgentRun dep.agents ⟨w.groundingTables, now, provider⟩ w.agents
        (approvalRequest tenant runId decision comment) decidedAt).2

/-! ## Fresh ids -/

def CatalogueFresh (k : UUID) (s : CatalogueTables) : CatalogueRequest → Prop
  | .createUpload _ _ newId => ∀ d ∈ s.documents, d.id = newId → d.organizationId = k
  | .finalize _ _ env => ∀ c ∈ s.chunks, ∀ n, c.id = env.newIds n → c.organizationId = k
  | .createIntervention _ newId => ∀ i ∈ s.interventions, i.id = newId → i.organizationId = k
  | .addEvidence _ _ newId _ => ∀ e ∈ s.evidence, e.id = newId → e.organizationId = k
  | .removeEvidence _ _ => True

/-- No id that is drawn for the request is that of a row of another organization. -/
def Fresh (k : UUID) (w : Workspace) : WorkspaceRequest → Prop
  | .createProject _ newId _ => ∀ p ∈ w.projects.projects, p.id = newId → p.organizationId = k
  | .createZone _ _ newId _ => ∀ z ∈ w.projects.zones, z.id = newId → z.organizationId = k
  | .createHeatAnalysis _ env _ => SubmitFresh k w.heat.toHeatTables env
  | .catalogue request => CatalogueFresh k w.catalogue.toCatalogueTables request
  | .optimize _ env => OptimizeFresh k w.portfolios.toPortfolioTables env
  | .createVerification _ newId _ =>
      ∀ v ∈ w.verifications.verifications, v.id = newId → v.organizationId = k
  | .createReport .. | .createReportAlias .. => True
  | .startAgentRun _ _ newId _ _ _ => ∀ r ∈ w.agents.runs, r.id = newId → r.organizationId = k
  | .approveAgentRun .. => True

/-! ## One request -/

/-- The second workspace has the rows that the organization has in the first, and no others. -/
structure Sliced (k : UUID) (w v : Workspace) : Prop where
  projects : v.projects.toProjectTables = projectSlice k w.projects.toProjectTables
  heat : HeatAlone k w.heat.toHeatTables v.heat.toHeatTables
  catalogue : v.catalogue.toCatalogueTables = catalogueSlice k w.catalogue.toCatalogueTables
  portfolios : v.portfolios.toPortfolioTables = portfolioSlice k w.portfolios.toPortfolioTables
  verifications : v.verifications.toVerificationTables =
    verificationSlice k w.verifications.toVerificationTables
  agents : v.agents.toAgentTables = agentSlice k w.agents.toAgentTables

section Step

variable {k : UUID} {w v : Workspace}

theorem sliced_iff : Sliced k w v ↔ v.tables = w.slice k := by
  constructor
  · rintro ⟨projects, heat, catalogue, portfolios, verifications, agents⟩
    simp only [Workspace.tables, Workspace.slice, projects, heatAlone_iff.mp heat, catalogue,
      portfolios, verifications, agents]
  · intro same
    exact ⟨congrArg TenantTables.projects same, heatAlone_iff.mpr (congrArg TenantTables.heat same),
      congrArg TenantTables.catalogue same, congrArg TenantTables.portfolios same,
      congrArg TenantTables.verifications same, congrArg TenantTables.agents same⟩

theorem groundingTables_slice (sliced : Sliced k w v) :
    v.groundingTables = Grounding.tenantView k w.groundingTables := by
  have projects := congrArg ProjectTables.projects sliced.projects
  have runs := congrArg PortfolioTables.runs sliced.portfolios
  have interventions := congrArg CatalogueTables.interventions sliced.catalogue
  have evidence := congrArg CatalogueTables.evidence sliced.catalogue
  have documents := congrArg CatalogueTables.documents sliced.catalogue
  have chunks := congrArg CatalogueTables.chunks sliced.catalogue
  simp only [Workspace.groundingTables, projects, sliced.heat.analyses, runs, interventions,
    evidence, documents, chunks]
  rfl

theorem serveCatalogue_alone (ing : Ingestion) {projects : ProjectTables} {s t : CatalogueStore}
    {tenant : TenantContext} (owner : tenant.organizationId = k)
    (before : t.toCatalogueTables = catalogueSlice k s.toCatalogueTables)
    (integrity : CatalogueIntegrity projects s.toCatalogueTables)
    (made : KeysMade s.toCatalogueTables) (request : CatalogueRequest)
    (fresh : CatalogueFresh k s.toCatalogueTables request) :
    (serveCatalogue ing (slice Project.organizationId k projects.projects) t tenant
        request).toCatalogueTables =
      catalogueSlice k (serveCatalogue ing projects.projects s tenant request).toCatalogueTables ∧
    answerCatalogue ing (slice Project.organizationId k projects.projects) t tenant request =
      answerCatalogue ing projects.projects s tenant request := by
  cases request with
  | createUpload bucket request newId =>
    exact (createUpload_alone owner before integrity bucket request made fresh).imp_right
      (congrArg Answer.upload)
  | finalize documentId request env =>
    exact (finalize_alone owner before integrity documentId request env fresh).imp_right
      (congrArg Answer.finalized)
  | createIntervention request newId =>
    exact (createIntervention_alone owner before integrity request fresh).imp_right
      (congrArg Answer.created)
  | addEvidence interventionId request newId now =>
    exact (addEvidence_alone owner before integrity interventionId request now fresh).imp_right
      (congrArg Answer.created)
  | removeEvidence interventionId evidenceId =>
    exact (removeEvidence_alone owner before integrity interventionId evidenceId).imp_right
      (congrArg Answer.removed)

theorem serveRequest_alone (dep : Deployment) (integrity : Integrity w)
    (made : KeysMade w.catalogue.toCatalogueTables) (sliced : Sliced k w v)
    {tenant : TenantContext} (owner : tenant.organizationId = k) (request : WorkspaceRequest)
    (fresh : Fresh k w request) :
    Sliced k (serveRequest dep w tenant request) (serveRequest dep v tenant request) ∧
      answerRequest dep v tenant request = answerRequest dep w tenant request := by
  have projects := congrArg ProjectTables.projects sliced.projects
  cases request with
  | createProject body newId now =>
    obtain ⟨kept, same⟩ := createProject_alone dep.ingestion owner sliced.projects
      integrity.projects body now fresh
    exact ⟨{ sliced with projects := kept }, congrArg Answer.created same⟩
  | createZone projectId body newId now =>
    obtain ⟨kept, same⟩ := createZone_alone dep.ingestion owner sliced.projects
      integrity.projects projectId body now fresh
    exact ⟨{ sliced with projects := kept }, congrArg Answer.created same⟩
  | createHeatAnalysis body env now =>
    obtain ⟨kept, same⟩ := createHeatAnalysis_alone dep.heat w.projects.toProjectTables
      sliced.heat owner body now fresh
    rw [← sliced.projects] at kept same
    exact ⟨{ sliced with heat := kept }, congrArg Answer.analysis same⟩
  | catalogue request =>
    obtain ⟨kept, same⟩ := serveCatalogue_alone dep.ingestion owner sliced.catalogue
      integrity.catalogue made request fresh
    rw [show slice Project.organizationId k w.projects.projects = v.projects.projects from
      projects.symm] at kept same
    exact ⟨{ sliced with catalogue := kept }, same⟩
  | optimize request env =>
    obtain ⟨kept, same⟩ := optimize_alone sliced.portfolios integrity.portfolios dep.optimizer
      owner request fresh
    have interventions := congrArg CatalogueTables.interventions sliced.catalogue
    rw [← sliced.projects, show slice Intervention.organizationId k w.catalogue.interventions =
      v.catalogue.interventions from interventions.symm] at kept same
    exact ⟨{ sliced with portfolios := kept }, congrArg Answer.portfolio same⟩
  | createVerification request newId storage =>
    obtain ⟨kept, same⟩ := createVerification_alone sliced.verifications dep.verification
      w.projects.projects w.portfolios.runs owner request storage fresh
    have runs := congrArg PortfolioTables.runs sliced.portfolios
    rw [show slice Project.organizationId k w.projects.projects = v.projects.projects from
      projects.symm, show slice PortfolioRun.organizationId k w.portfolios.runs =
      v.portfolios.runs from runs.symm] at kept same
    exact ⟨{ sliced with verifications := kept }, congrArg Answer.verification same⟩
  | createReport verificationId storage =>
    obtain ⟨kept, same⟩ := createReport_alone sliced.verifications storage owner verificationId
    exact ⟨{ sliced with verifications := kept }, congrArg Answer.report same⟩
  | createReportAlias verificationId storage =>
    obtain ⟨kept, same⟩ := createReportAlias_alone sliced.verifications storage owner
      verificationId
    exact ⟨{ sliced with verifications := kept }, congrArg Answer.report same⟩
  | startAgentRun projectId inputData newId threadId now provider =>
    have sees := groundingTables_slice sliced
    have env : Agents.Surroundings.mk v.groundingTables now provider =
        ⟨Grounding.tenantView k w.groundingTables, now, provider⟩ := by rw [sees]
    obtain ⟨kept, same⟩ := startAgentRun_slice dep.agents
      ⟨w.groundingTables, now, provider⟩ env
      ⟨sliced.agents, integrity.agents.event⟩
      (startRequest tenant projectId inputData newId threadId) owner fresh
    exact ⟨{ sliced with agents := kept.tables }, congrArg Answer.run same⟩
  | approveAgentRun runId decision comment decidedAt now provider =>
    have sees := groundingTables_slice sliced
    have env : Agents.Surroundings.mk v.groundingTables now provider =
        ⟨Grounding.tenantView k w.groundingTables, now, provider⟩ := by rw [sees]
    obtain ⟨kept, same⟩ := approveAgentRun_slice dep.agents
      ⟨w.groundingTables, now, provider⟩ env
      ⟨sliced.agents, integrity.agents.event⟩
      (approvalRequest tenant runId decision comment) owner decidedAt
    exact ⟨{ sliced with agents := kept.tables }, congrArg Answer.approval same⟩

end Step

/-! ## Runs -/

theorem keysMade_update {s : CatalogueStore} {document changed : Document}
    (stored : s.document document.id = some document) (made : KeysMade s.toCatalogueTables)
    (keys : documentKeys changed = documentKeys document) (key : changed.s3Key = document.s3Key) :
    ∀ d ∈ update Document.id changed s.documents,
      ∃ filename, d.s3Key = s3ObjectKey d.organizationId d.id filename := by
  intro d member
  rcases mem_update member with rfl | ⟨old, -⟩
  · rw [key, show d.id = document.id from congrArg Prod.fst keys,
      show d.organizationId = document.organizationId from
        congrArg (fun columns => columns.2.1) keys]
    exact made document (find_some stored).1
  · exact made d old

/-- The key of an object names the organization and the document for good. -/
theorem keysMade_writes {ing : Ingestion} {projects : List Project} {s : CatalogueStore}
    {tenant : TenantContext} {t : CatalogueTables} (writes : Writes ing projects s tenant t)
    (made : KeysMade s.toCatalogueTables) : KeysMade t := by
  cases writes with
  | nothing | intervention | evidence | removed => exact made
  | uploaded =>
    intro d member
    rcases List.mem_append.mp member with old | added
    · exact made d old
    · rw [List.mem_singleton.mp added]
      exact ⟨_, rfl⟩
  | failed stored => exact keysMade_update stored made rfl rfl
  | finalized stored => exact keysMade_update stored made rfl rfl

theorem serveCall_keysMade (dep : Deployment) {w : Workspace} (call : Call)
    (made : KeysMade w.catalogue.toCatalogueTables) :
    KeysMade (serveCall dep w call).catalogue.toCatalogueTables := by
  cases call with
  | request tenant request =>
    cases request with
    | catalogue request =>
      exact keysMade_writes
        (serveCatalogue_writes dep.ingestion w.projects.projects w.catalogue tenant request) made
    | _ => exact made
  | poll id clock answer => exact made

/-- The calls of one tenant: its requests, and the polls of the worker. -/
def Call.forTenant (k : UUID) : Call → Bool
  | .request tenant _ => tenant.organizationId = k
  | .poll _ _ _ => true

/-- What the tenants share does not come between them: a request draws ids that no other
organization has, and a poll of an analysis meets the same breaker. -/
def Undisturbed (k : UUID) (w v : Workspace) : Call → Prop
  | .request tenant request => tenant.organizationId = k → Fresh k w request
  | .poll id clock _ => ∀ a, w.heat.analysis id = some a → a.organizationId = k →
      Heat.circuitOpen v.heat.circuit clock.now = Heat.circuitOpen w.heat.circuit clock.now

/-- The relation that the run of all and the run of one keep. -/
structure Separate (k : UUID) (w v : Workspace) : Prop where
  integrity : Integrity w
  made : KeysMade w.catalogue.toCatalogueTables
  sliced : Sliced k w v

theorem separate_empty (k : UUID) : Separate k Workspace.empty Workspace.empty where
  integrity := integrity_empty
  made := fun _ member => absurd member List.not_mem_nil
  sliced := sliced_iff.mpr rfl

theorem Separate.own {dep : Deployment} {k : UUID} {w v : Workspace} {call : Call}
    (separate : Separate k w v) (undisturbed : Undisturbed k w v call)
    (mine : call.forTenant k = true) : Separate k (serveCall dep w call) (serveCall dep v call) where
  integrity := serveCall_integrity dep call separate.integrity
  made := serveCall_keysMade dep call separate.made
  sliced := by
    cases call with
    | request tenant request =>
      have owner : tenant.organizationId = k := of_decide_eq_true mine
      exact (serveRequest_alone dep separate.integrity separate.made separate.sliced owner request
        (undisturbed owner)).1
    | poll id clock answer =>
      exact { separate.sliced with
        heat := poll_alone dep.heat id clock answer separate.sliced.heat undisturbed }

theorem Separate.other {dep : Deployment} {k : UUID} {w v : Workspace} {call : Call}
    (separate : Separate k w v) (mine : call.forTenant k = false) :
    Separate k (serveCall dep w call) v where
  integrity := serveCall_integrity dep call separate.integrity
  made := serveCall_keysMade dep call separate.made
  sliced := by
    have left := serveCall_other dep separate.integrity call (k := k) fun same => by
      cases call with
      | request tenant request => exact of_decide_eq_false mine (Option.some.inj same)
      | poll id clock answer => cases mine
    exact sliced_iff.mpr ((sliced_iff.mp separate.sliced).trans left.symm)

/-- The two runs stay related. -/
theorem separate_serveCalls (dep : Deployment) (k : UUID) (calls : List Call)
    (undisturbed : Guarded (serveCall dep) (serveCall dep) (Call.forTenant k) (Undisturbed k)
      Workspace.empty Workspace.empty calls) :
    Separate k (serveCalls dep calls) (serveCalls dep (calls.filter (Call.forTenant k))) :=
  sliced_foldl (fun _ _ _ separate => separate.own) (fun _ _ _ separate _ => separate.other)
    (separate_empty k) calls undisturbed

theorem serveCalls_append (dep : Deployment) (calls more : List Call) :
    serveCalls dep (calls ++ more) = more.foldl (serveCall dep) (serveCalls dep calls) :=
  List.foldl_append

theorem foldl_integrity (dep : Deployment) {w : Workspace} (integrity : Integrity w)
    (more : List Call) : Integrity (more.foldl (serveCall dep) w) := by
  induction more generalizing w with
  | nil => exact integrity
  | cons call more ih => exact ih (serveCall_integrity dep call integrity)

/-- From any state that keeps the references, calls for others leave the slice. -/
theorem foldl_other (dep : Deployment) {k : UUID} {w : Workspace} (integrity : Integrity w)
    (more : List Call) (others : ∀ before call after, more = before ++ call :: after →
      call.organizationId (before.foldl (serveCall dep) w) ≠ some k) :
    (more.foldl (serveCall dep) w).slice k = w.slice k := by
  induction more using List.reverseRecOn with
  | nil => rfl
  | append_singleton more call ih =>
    have last := others more call [] rfl
    have kept := ih fun before e after split =>
      others before e (after ++ [call]) (by rw [split, List.append_assoc, List.cons_append])
    rw [List.foldl_append]
    exact (serveCall_other dep (foldl_integrity dep integrity more) call last).trans kept

/-- Calls that work for other organizations leave every row of an organization as it was: none is
added, changed, deleted or moved in any table. -/
theorem slice_untouched (dep : Deployment) (k : UUID) (calls more : List Call)
    (others : ∀ before call after, more = before ++ call :: after →
      call.organizationId (serveCalls dep (calls ++ before)) ≠ some k) :
    (serveCalls dep (calls ++ more)).slice k = (serveCalls dep calls).slice k := by
  rw [serveCalls_append]
  refine foldl_other dep (integrity_serveCalls dep calls) more fun before call after split => ?_
  rw [← serveCalls_append]
  exact others before call after split

/-- Libraries that do next to nothing. -/
def plainDeployment : Deployment where
  heat := Heat.sampleService
  ingestion := ⟨fun _ => none, id, fun _ => [], fun _ => "", fun _ => true⟩
  optimizer := ⟨⟨fun _ => 0, fun _ => .one⟩, id, fun _ => .infeasible⟩
  verification := ⟨⟨fun _ => 0, fun _ => .one⟩, id, fun _ => .error .other⟩
  agents := ⟨⟨fun _ => "", id⟩, fun _ _ => true,
    fun nodes channels => nodes.foldlM (fun raw node => node raw) channels⟩

/-- The second city adds a project, and asks in vain for a zone in that of the first. -/
theorem slice_untouched_riverside :
    (serveCalls plainDeployment ([.request ⟨1, 10, .admin⟩ (.createProject ⟨"Riverside", none⟩ 11 0)] ++
        [.request ⟨2, 20, .admin⟩ (.createProject ⟨"Riverside", none⟩ 21 1),
          .request ⟨2, 20, .admin⟩ (.createZone 11 ⟨"Quay", []⟩ 22 2)])).slice 1 =
      (serveCalls plainDeployment
        [.request ⟨1, 10, .admin⟩ (.createProject ⟨"Riverside", none⟩ 11 0)]).slice 1 := by
  refine slice_untouched plainDeployment 1 _ _ fun before call after split => ?_
  have listed : call ∈ [Call.request ⟨2, 20, .admin⟩ (.createProject ⟨"Riverside", none⟩ 21 1),
      .request ⟨2, 20, .admin⟩ (.createZone 11 ⟨"Quay", []⟩ 22 2)] := by
    rw [split]
    exact List.mem_append_right _ List.mem_cons_self
  rcases List.mem_pair.mp listed with rfl | rfl
  · exact fun same => absurd (Option.some.inj same) (by decide)
  · exact fun same => absurd (Option.some.inj same) (by decide)

/-- A tenant among others has the tables and gets the answers that it would have and get alone. -/
theorem tenant_separation (dep : Deployment) (k : UUID) (calls : List Call)
    (undisturbed : Guarded (serveCall dep) (serveCall dep) (Call.forTenant k) (Undisturbed k)
      Workspace.empty Workspace.empty calls) :
    (serveCalls dep calls).slice k =
        (serveCalls dep (calls.filter (Call.forTenant k))).tables ∧
    ∀ before tenant request after, calls = before ++ .request tenant request :: after →
      tenant.organizationId = k →
      answerRequest dep (serveCalls dep before) tenant request =
        answerRequest dep (serveCalls dep (before.filter (Call.forTenant k))) tenant request := by
  refine ⟨(sliced_iff.mp (separate_serveCalls dep k calls undisturbed).sliced).symm,
    fun before tenant request after split owner => ?_⟩
  rw [split] at undisturbed
  have separate := separate_serveCalls dep k before undisturbed.earlier
  exact (serveRequest_alone dep separate.integrity separate.made separate.sliced owner request
    (undisturbed before (.request tenant request) after rfl owner)).2.symm

/-! ### Two cities with a project of one name -/

def acceptedAt (at_ : Instant) (newId : UUID) : Heat.SubmitEnv :=
  ⟨newId, at_, at_, at_, at_, .ok "activity", le_rfl, le_rfl⟩

/-- The second city has a project of the same name, and asks for the first one's zone. -/
def twoCities : List Call :=
  [.request ⟨1, 10, .admin⟩ (.createProject ⟨"Riverside", none⟩ 11 (seconds 1)),
   .request ⟨2, 20, .admin⟩ (.createProject ⟨"Riverside", none⟩ 21 (seconds 2)),
   .request ⟨1, 10, .admin⟩ (.createZone 11 ⟨"Quay", []⟩ 12 (seconds 3)),
   .request ⟨2, 20, .admin⟩ (.createZone 11 ⟨"Quay", []⟩ 22 (seconds 4)),
   .request ⟨1, 10, .admin⟩ (.createHeatAnalysis ⟨11, 12, []⟩ (acceptedAt (seconds 5) 13) (seconds 5)),
   .request ⟨2, 20, .admin⟩ (.createHeatAnalysis ⟨11, 12, []⟩ (acceptedAt (seconds 6) 23) (seconds 6)),
   .poll 13 (Heat.tickClock 7) (.ok Heat.completedActivity)]

theorem twoCities_undisturbed : Guarded (serveCall plainDeployment) (serveCall plainDeployment)
    (Call.forTenant 1) (Undisturbed 1) Workspace.empty Workspace.empty twoCities := by
  refine .cons (fun _ => ?_) (.cons (fun other => ?_) (.cons (fun _ => ?_) (.cons (fun other => ?_)
    (.cons (fun _ => ?_) (.cons (fun other => ?_) (.cons (fun _ _ _ => ?_) guarded_nil))))))
  · exact fun _ member => absurd member List.not_mem_nil
  · exact absurd other (by decide)
  · dsimp only [Fresh]
    decide
  · exact absurd other (by decide)
  · dsimp only [Fresh, SubmitFresh, ActivityFresh]
    decide +kernel
  · exact absurd other (by decide)
  · decide +kernel

/-- One analysis, answered, in either run, while the store of both has two projects. -/
theorem tenant_separation_twoCities :
    (serveCalls plainDeployment twoCities).slice 1 =
        (serveCalls plainDeployment (twoCities.filter (Call.forTenant 1))).tables ∧
      (serveCalls plainDeployment twoCities).projects.projects.length = 2 ∧
      ((serveCalls plainDeployment twoCities).slice 1).heat.analyses.map HeatAnalysis.status =
        [.succeeded] :=
  ⟨(tenant_separation plainDeployment 1 twoCities twoCities_undisturbed).1, by decide +kernel,
    by decide +kernel⟩

end CoolProof.Workspaces
