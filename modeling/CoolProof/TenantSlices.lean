import CoolProof.Library.Slices
import CoolProof.TenantIntegrity

/-! The tables of one tenant inside the tables of all. The slice of an organization is its
rows, table by table; the breaker row of the provider belongs to no organization and is left
out. A call leaves the slice of every other organization as it was. -/

namespace CoolProof.Workspaces
open Calendar JsonDocument Uuid Models Tables Slices Documents Projects PortfolioRuns
  VerificationRuns HeatRequests

/-! ## Slices -/

def projectSlice (k : UUID) (t : ProjectTables) : ProjectTables where
  projects := slice Project.organizationId k t.projects
  zones := slice Zone.organizationId k t.zones
  audits := slice AuditEvent.organizationId k t.audits

/-- An activity belongs to the organization of its analysis. -/
def activityOwner (t : Heat.HeatTables) (x : FortyGuardActivity) : Option UUID :=
  (t.analysis x.analysisId).map HeatAnalysis.organizationId

def heatSlice (k : UUID) (t : Heat.HeatTables) : Heat.HeatTables where
  analyses := slice HeatAnalysis.organizationId k t.analyses
  activities := slice (activityOwner t) (some k) t.activities
  circuit := none
  audits := slice AuditEvent.organizationId k t.audits

def catalogueSlice (k : UUID) (t : CatalogueTables) : CatalogueTables where
  documents := slice Document.organizationId k t.documents
  chunks := slice DocumentChunk.organizationId k t.chunks
  interventions := slice Intervention.organizationId k t.interventions
  evidence := slice InterventionEvidence.organizationId k t.evidence

def portfolioSlice (k : UUID) (t : PortfolioTables) : PortfolioTables where
  runs := slice PortfolioRun.organizationId k t.runs
  allocations := slice PortfolioAllocation.organizationId k t.allocations

def verificationSlice (k : UUID) (t : VerificationTables) : VerificationTables where
  verifications := slice VerificationRun.organizationId k t.verifications

def agentSlice (k : UUID) (t : Agents.AgentTables) : Agents.AgentTables where
  runs := slice AgentRun.organizationId k t.runs
  events := slice AgentEvent.organizationId k t.events
  approvals := slice AgentApproval.organizationId k t.approvals
  audits := slice AuditEvent.organizationId k t.audits

/-- All tables, without the breaker row. -/
structure TenantTables where
  projects : ProjectTables
  heat : Heat.HeatTables
  catalogue : CatalogueTables
  portfolios : PortfolioTables
  verifications : VerificationTables
  agents : Agents.AgentTables

def Workspace.tables (w : Workspace) : TenantTables where
  projects := w.projects.toProjectTables
  heat := { w.heat.toHeatTables with circuit := none }
  catalogue := w.catalogue.toCatalogueTables
  portfolios := w.portfolios.toPortfolioTables
  verifications := w.verifications.toVerificationTables
  agents := w.agents.toAgentTables

def Workspace.slice (k : UUID) (w : Workspace) : TenantTables where
  projects := projectSlice k w.projects.toProjectTables
  heat := heatSlice k w.heat.toHeatTables
  catalogue := catalogueSlice k w.catalogue.toCatalogueTables
  portfolios := portfolioSlice k w.portfolios.toPortfolioTables
  verifications := verificationSlice k w.verifications.toVerificationTables
  agents := agentSlice k w.agents.toAgentTables

/-! ## Rows of others -/

section Others

variable {k : UUID}

theorem projectSlice_other {s t : ProjectTables} {tenant : TenantContext}
    (writes : ProjectWrites s tenant t) (other : tenant.organizationId ≠ k) :
    projectSlice k t = projectSlice k s := by
  cases writes with
  | nothing => rfl
  | @project body newId now =>
    have projects : slice Project.organizationId k (s.projects ++ [newProject tenant body newId]) =
        slice Project.organizationId k s.projects := slice_concat_other other
    have audits : slice AuditEvent.organizationId k (s.audits ++
        [auditEvent tenant "project.created" "project" newId [] now]) =
        slice AuditEvent.organizationId k s.audits := slice_concat_other other
    simp only [projectSlice, withProject, projects, audits]
  | @zone projectId body newId now has =>
    have zones : slice Zone.organizationId k (s.zones ++ [newZone tenant projectId body newId]) =
        slice Zone.organizationId k s.zones := slice_concat_other other
    have audits : slice AuditEvent.organizationId k (s.audits ++
        [auditEvent tenant "zone.created" "zone" newId
          [("project_id", .str (Uuid.toString projectId))] now]) =
        slice AuditEvent.organizationId k s.audits := slice_concat_other other
    simp only [projectSlice, withZone, zones, audits]

/-! Documents, interventions and evidence: a transaction whose tables leave the slice does so
whether or not the database takes it. -/

theorem save_other {β : Type} {s : CatalogueStore} {t : CatalogueTables}
    (left : catalogueSlice k t = catalogueSlice k s.toCatalogueTables) (ing : Ingestion)
    (texts : List String) (answer : Except Refusal β) :
    catalogueSlice k (s.save ing texts t answer).1.toCatalogueTables =
      catalogueSlice k s.toCatalogueTables := by
  rcases save_cases s ing texts t answer with same | same
  · rw [same, left]
  · rw [same]

/-- A document of the tenant is written back. -/
theorem documents_other {s : CatalogueStore} {tenant : TenantContext} {document : Document}
    (other : tenant.organizationId ≠ k) (stored : s.document document.id = some document)
    (owner : document.organizationId = tenant.organizationId) (changed : Document)
    (keys : documentKeys changed = documentKeys document) :
    slice Document.organizationId k (update Document.id changed s.documents) =
      slice Document.organizationId k s.documents := by
  have id : changed.id = document.id := congrArg Prod.fst keys
  have organization : changed.organizationId = document.organizationId :=
    congrArg (fun columns => columns.2.1) keys
  refine slice_update_other (by rw [organization, owner]; exact other) fun r member same => ?_
  have twin : r = document := List.inj_on_of_nodup_map s.wf.documentId member
    (find_some stored).1 (same.trans id)
  rw [twin, owner]
  exact other

/-- The chunks of a document, and the evidence on them, are the organization's that has the
document. -/
theorem finalizedTables_other {ing : Ingestion} {projects : ProjectTables} {s : CatalogueStore}
    {tenant : TenantContext} {document : Document} (other : tenant.organizationId ≠ k)
    (integrity : CatalogueIntegrity projects s.toCatalogueTables)
    (stored : s.document document.id = some document)
    (owner : document.organizationId = tenant.organizationId) (content : Bytes)
    (chunks : List PageText) (newIds : Nat → UUID) :
    catalogueSlice k (finalizedTables ing s.toCatalogueTables document content chunks newIds) =
      catalogueSlice k s.toCatalogueTables := by
  have documents := documents_other other stored owner
    (finalizedDocument ing document content chunks) rfl
  have ownChunk : ∀ c ∈ s.chunks, c.documentId = document.id →
      c.organizationId = tenant.organizationId := by
    intro c member same
    obtain ⟨d, inTable, id, organization⟩ := integrity.chunk c member
    have twin : d = document := List.inj_on_of_nodup_map s.wf.documentId inTable
      (find_some stored).1 (id.trans same)
    rw [← organization, twin, owner]
  have added : ∀ c ∈ chunks.zipIdx.map (newChunk ing document newIds), c.organizationId ≠ k := by
    intro c member
    obtain ⟨chunk, -, rfl⟩ := List.mem_map.mp member
    exact fun same => other (owner.symm.trans same)
  have kept : slice DocumentChunk.organizationId k
      (s.chunks.filter fun c => c.documentId ≠ document.id) =
      slice DocumentChunk.organizationId k s.chunks :=
    slice_kept fun c member mine => decide_eq_true fun same =>
      other ((ownChunk c member same).symm.trans mine)
  have evidence : slice InterventionEvidence.organizationId k (s.evidence.filter fun e =>
        !s.chunks.any fun c => c.id = e.chunkId && c.documentId = document.id) =
      slice InterventionEvidence.organizationId k s.evidence := by
    refine slice_kept fun e member mine => ?_
    rw [Bool.not_eq_true', List.any_eq_false]
    intro c inTable cited
    have same : c.id = e.chunkId ∧ c.documentId = document.id := by simpa using cited
    obtain ⟨c', inTable', id, -, organization⟩ := (integrity.evidence e member).chunk
    have twin : c' = c := List.inj_on_of_nodup_map s.wf.chunkId inTable' inTable
      (id.trans same.1.symm)
    rw [twin, ownChunk c inTable same.2, mine] at organization
    exact other organization
  simp only [catalogueSlice, finalizedTables, documents, slice_added_other added, kept, evidence]

theorem failedTables_other {s : CatalogueStore} {tenant : TenantContext} {document : Document}
    (other : tenant.organizationId ≠ k) (stored : s.document document.id = some document)
    (owner : document.organizationId = tenant.organizationId) :
    catalogueSlice k { s.toCatalogueTables with
      documents := update Document.id { document with status := .failed } s.documents } =
      catalogueSlice k s.toCatalogueTables := by
  have documents := documents_other other stored owner { document with status := .failed } rfl
  simp only [catalogueSlice, documents]

theorem finalizeContent_other (ing : Ingestion) {projects : ProjectTables} {s : CatalogueStore}
    {tenant : TenantContext} {document : Document} (other : tenant.organizationId ≠ k)
    (integrity : CatalogueIntegrity projects s.toCatalogueTables)
    (stored : s.document document.id = some document)
    (owner : document.organizationId = tenant.organizationId) (content : Bytes)
    (newIds : Nat → UUID) : catalogueSlice k
      (finalizeContent ing s tenant document content newIds).1.toCatalogueTables =
      catalogueSlice k s.toCatalogueTables := by
  unfold finalizeContent
  split
  · exact save_other (failedTables_other other stored owner) ing _ _
  · exact save_other (finalizedTables_other other integrity stored owner content _ newIds) ing _ _

theorem finalize_other (ing : Ingestion) {projects : ProjectTables} {s : CatalogueStore}
    {tenant : TenantContext} (other : tenant.organizationId ≠ k)
    (integrity : CatalogueIntegrity projects s.toCatalogueTables) (documentId : UUID)
    (request : FinalizeDocumentRequest) (env : FinalizeEnv) : catalogueSlice k
      (finalize ing s tenant documentId request env).1.toCatalogueTables =
      catalogueSlice k s.toCatalogueTables := by
  unfold finalize
  split
  · rfl
  split
  · rfl
  cases found : s.document documentId with
  | none => rfl
  | some document =>
    have stored : s.document document.id = some document := (find_some found).2 ▸ found
    dsimp only
    split
    · rfl
    rename_i owner
    have owner := not_not.mp owner
    cases request.text with
    | some text => exact finalizeContent_other ing other integrity stored owner _ _
    | none =>
      dsimp only
      split
      · rfl
      cases env.fetched with
      | none => exact save_other (failedTables_other other stored owner) ing _ _
      | some content => exact finalizeContent_other ing other integrity stored owner _ _

theorem serveCatalogue_other (ing : Ingestion) {projects : ProjectTables} {s : CatalogueStore}
    {tenant : TenantContext} (other : tenant.organizationId ≠ k)
    (integrity : CatalogueIntegrity projects s.toCatalogueTables) (request : CatalogueRequest) :
    catalogueSlice k (serveCatalogue ing projects.projects s tenant request).toCatalogueTables =
      catalogueSlice k s.toCatalogueTables := by
  cases request with
  | createUpload bucket request newId =>
    have documents : slice Document.organizationId k
        (s.documents ++ [newDocument tenant request newId]) =
        slice Document.organizationId k s.documents := slice_concat_other other
    simp only [serveCatalogue]
    unfold createUpload
    split
    · rfl
    split
    · rfl
    split
    · rfl
    split
    · rfl
    · exact save_other (by simp only [catalogueSlice, documents]) ing _ _
  | finalize documentId request env => exact finalize_other ing other integrity _ _ _
  | createIntervention request newId =>
    have interventions : slice Intervention.organizationId k
        (s.interventions ++ [newIntervention tenant request newId]) =
        slice Intervention.organizationId k s.interventions := slice_concat_other other
    simp only [serveCatalogue]
    unfold createIntervention
    split
    · rfl
    split
    · rfl
    split
    · rfl
    · exact save_other (by simp only [catalogueSlice, interventions]) ing _ _
  | addEvidence interventionId request newId now =>
    have evidence : slice InterventionEvidence.organizationId k
        (s.evidence ++ [newEvidence tenant interventionId request newId now]) =
        slice InterventionEvidence.organizationId k s.evidence := slice_concat_other other
    simp only [serveCatalogue]
    unfold addEvidence
    split
    · rfl
    split
    · rfl
    split
    · rfl
    · exact save_other (by simp only [catalogueSlice, evidence]) ing _ _
  | removeEvidence interventionId evidenceId =>
    simp only [serveCatalogue]
    unfold removeEvidence
    split
    · rfl
    cases found : find InterventionEvidence.id evidenceId s.evidence with
    | none => rfl
    | some e =>
      dsimp only
      split
      · rfl
      · rename_i accepted
        obtain ⟨inTable, id⟩ := find_some found
        have owner : e.organizationId = tenant.organizationId :=
          not_not.mp (not_or.mp accepted).2
        have evidence : slice InterventionEvidence.organizationId k
            (s.evidence.filter fun x => x.id ≠ evidenceId) =
            slice InterventionEvidence.organizationId k s.evidence := by
          refine slice_kept fun x member mine => decide_eq_true fun same => ?_
          have twin : x = e := List.inj_on_of_nodup_map s.wf.evidenceId member inTable
            (same.trans id.symm)
          rw [twin, owner] at mine
          exact other mine
        exact save_other (by simp only [catalogueSlice, evidence]) ing _ _

/-! Heat analyses. -/

theorem activityOwner_insertAnalysis {t : Heat.HeatTables} {row : HeatAnalysis}
    {x : FortyGuardActivity} (stored : (t.analysis x.analysisId).isSome) :
    activityOwner (t.insertAnalysis row) x = activityOwner t x := by
  obtain ⟨a, found⟩ := Option.isSome_iff_exists.mp stored
  simp [activityOwner, found]

theorem activityOwner_putAnalysis {t : Heat.HeatTables} {row : HeatAnalysis}
    (same : ∀ a, t.analysis row.id = some a → a.organizationId = row.organizationId)
    (x : FortyGuardActivity) : activityOwner (t.putAnalysis row) x = activityOwner t x := by
  unfold activityOwner
  rw [Heat.HeatTables.analysis_putAnalysis]
  split
  · rename_i about
    cases found : t.analysis x.analysisId with
    | none => rfl
    | some a => simp [same a (about ▸ found)]
  · rfl

theorem insertAnalysis_other {t : Heat.HeatTables} {row : HeatAnalysis}
    (owned : ∀ x ∈ t.activities, (t.analysis x.analysisId).isSome)
    (other : row.organizationId ≠ k) : heatSlice k (t.insertAnalysis row) = heatSlice k t := by
  have analyses : slice HeatAnalysis.organizationId k (t.analyses ++ [row]) =
      slice HeatAnalysis.organizationId k t.analyses := slice_concat_other other
  have activities : slice (activityOwner (t.insertAnalysis row)) (some k) t.activities =
      slice (activityOwner t) (some k) t.activities :=
    slice_congr fun x member => activityOwner_insertAnalysis (owned x member)
  unfold heatSlice
  rw [show (t.insertAnalysis row).analyses = t.analyses ++ [row] from rfl, analyses,
    show (t.insertAnalysis row).activities = t.activities from rfl, activities]
  rfl

theorem putAnalysis_other {t : Heat.HeatTables} {row : HeatAnalysis}
    (same : ∀ a ∈ t.analyses, a.id = row.id → a.organizationId = row.organizationId)
    (other : row.organizationId ≠ k) : heatSlice k (t.putAnalysis row) = heatSlice k t := by
  have analyses : slice HeatAnalysis.organizationId k (update HeatAnalysis.id row t.analyses) =
      slice HeatAnalysis.organizationId k t.analyses :=
    slice_update_other other fun a member hit mine => other ((same a member hit).symm.trans mine)
  have activities : slice (activityOwner (t.putAnalysis row)) (some k) t.activities =
      slice (activityOwner t) (some k) t.activities :=
    slice_congr fun x _ => activityOwner_putAnalysis
      (fun a found => same a (find_some found).1 (find_some found).2) x
  unfold heatSlice
  rw [show (t.putAnalysis row).analyses = update HeatAnalysis.id row t.analyses from rfl, analyses,
    show (t.putAnalysis row).activities = t.activities from rfl, activities]
  rfl

theorem putActivity_other {t : Heat.HeatTables} {x : FortyGuardActivity}
    (other : activityOwner t x ≠ some k) : heatSlice k (t.putActivity x) = heatSlice k t := by
  have sameOwner : ∀ y : FortyGuardActivity, y.analysisId = x.analysisId →
      activityOwner t y ≠ some k := fun y same => by
    rw [activityOwner, same]
    exact other
  have activities : slice (activityOwner t) (some k)
      (upsert FortyGuardActivity.analysisId x t.activities) =
      slice (activityOwner t) (some k) t.activities := by
    unfold upsert
    split
    · exact slice_update_other other fun y _ same => sameOwner y same
    · exact slice_concat_other other
  unfold heatSlice
  rw [show (t.putActivity x).activities = upsert FortyGuardActivity.analysisId x t.activities
    from rfl]
  exact congrArg (fun rows => Heat.HeatTables.mk _ rows none _) activities

theorem commitOr_other {s : Heat.HeatStore} {new : Heat.HeatTables}
    (left : heatSlice k new = heatSlice k s.toHeatTables) (outcome : Heat.SubmitOutcome) :
    heatSlice k (Heat.commitOr s new outcome).store.toHeatTables = heatSlice k s.toHeatTables := by
  unfold Heat.commitOr
  split
  · rename_i t committed
    rw [Heat.HeatStore.commit_some committed]
    exact left
  · rfl

/-- A row of the tenant's is written back with its activity. -/
theorem putBoth_other {t : Heat.HeatTables} {row : HeatAnalysis} {x : FortyGuardActivity}
    (same : ∀ a ∈ t.analyses, a.id = row.id → a.organizationId = row.organizationId)
    (other : row.organizationId ≠ k) (about : x.analysisId = row.id) :
    heatSlice k ((t.putAnalysis row).putActivity x) = heatSlice k t := by
  refine (putActivity_other ?_).trans (putAnalysis_other same other)
  rw [activityOwner, about, Heat.HeatTables.analysis_putAnalysis, if_pos rfl, Option.map_map]
  cases t.analysis row.id with
  | none => simp
  | some a => simpa using other

theorem finishSubmit_other {req : Heat.SubmitRequest} {s : Heat.HeatStore}
    {tables : Heat.HeatTables} {analysis : HeatAnalysis} (env : Heat.SubmitEnv) (existing : Bool)
    (same : ∀ a ∈ tables.analyses, a.id = analysis.id →
      a.organizationId = analysis.organizationId)
    (other : analysis.organizationId ≠ k)
    (left : heatSlice k tables = heatSlice k s.toHeatTables) :
    heatSlice k (Heat.finishSubmit req env s tables analysis existing).store.toHeatTables =
      heatSlice k s.toHeatTables := by
  have put : ∀ row : HeatAnalysis, row.id = analysis.id →
      row.organizationId = analysis.organizationId →
      heatSlice k (tables.putAnalysis row) = heatSlice k s.toHeatTables ∧
      ∀ x : FortyGuardActivity, x.analysisId = row.id →
        heatSlice k ((tables.putAnalysis row).putActivity x) = heatSlice k s.toHeatTables := by
    intro row id owner
    have same : ∀ a ∈ tables.analyses, a.id = row.id → a.organizationId = row.organizationId :=
      fun a member hit => (same a member (hit.trans id)).trans owner.symm
    have other : row.organizationId ≠ k := owner ▸ other
    exact ⟨(putAnalysis_other same other).trans left,
      fun x about => (putBoth_other same other about).trans left⟩
  unfold Heat.finishSubmit
  split
  · rfl
  · rename_i exc _
    split
    · exact commitOr_other (put (Heat.withError analysis exc) rfl rfl).1 _
    · exact commitOr_other (put (Heat.markFailed analysis exc) rfl rfl).1 _
  · rename_i activityId _
    exact commitOr_other ((put (Heat.requeue req activityId analysis) rfl rfl).2 _ rfl) _

theorem submit_other (svc : Heat.HeatService) {req : Heat.SubmitRequest} (env : Heat.SubmitEnv)
    (s : Heat.HeatStore) (other : req.organizationId ≠ k) :
    heatSlice k (Heat.submit svc req env s).store.toHeatTables = heatSlice k s.toHeatTables := by
  unfold Heat.submit
  split
  · rename_i existing found
    obtain ⟨stored, owner, -⟩ := Heat.byKey_some found
    split
    · rfl
    · refine finishSubmit_other env true (fun a member hit => ?_) (owner ▸ other) rfl
      rw [List.inj_on_of_nodup_map s.wf.analysisId member stored hit]
  · dsimp only
    split
    · rename_i flushed committed
      have fresh := Heat.HeatTables.analysis_of_flush committed
      have owned : ∀ x ∈ s.activities, (s.analysis x.analysisId).isSome := by
        intro x member
        obtain ⟨a, stored, same⟩ := List.mem_map.mp (s.wf.activityOwner x member)
        rw [← same, s.analysis_of_mem stored]
        rfl
      refine finishSubmit_other env false (fun a member hit => ?_) other
        (insertAnalysis_other owned other)
      rcases List.mem_append.mp member with old | new
      · exact absurd hit (find_eq_none.mp fresh a old)
      · rw [List.mem_singleton.mp new]
    · rfl

theorem createHeatAnalysis_other (svc : Heat.HeatService) (projects : ProjectTables)
    (s : Heat.HeatStore) {tenant : TenantContext} (other : tenant.organizationId ≠ k)
    (body : Heat.HeatAnalysisCreate) (env : Heat.SubmitEnv) (now : Instant) :
    heatSlice k (createHeatAnalysis svc projects s tenant body env now).1.toHeatTables =
      heatSlice k s.toHeatTables := by
  unfold createHeatAnalysis
  split
  · rfl
  split
  · rfl
  rename_i zone found
  have submitted : heatSlice k (Heat.submit svc
      (Heat.createRequest tenant.organizationId body zone) env s).store.toHeatTables =
      heatSlice k s.toHeatTables := submit_other svc env s other
  dsimp only
  split
  · exact submitted
  · rename_i analysis answered
    refine Eq.trans ?_ submitted
    have audits : ∀ rows : List AuditEvent, slice AuditEvent.organizationId k (rows ++
        [auditEvent tenant "heat_analysis.requested" "heat_analysis" analysis.id
          [("zone_id", .str (Uuid.toString body.zoneId))] now]) =
        slice AuditEvent.organizationId k rows := fun _ => slice_concat_other other
    exact congrArg (Heat.HeatTables.mk _ _ none) (audits _)
  · exact submitted
  · exact submitted
  · exact submitted

/-- A poll keeps the activity of its analysis. -/
theorem pollBody_activity (svc : Heat.HeatService) (clock : Heat.PollClock) (m : Heat.PollMemory)
    (seen : Except ProviderQuery.FortyGuardError Dict) :
    ∀ x ∈ (Heat.pollBody svc clock m seen).1.activity, ∃ y ∈ m.activity,
      x.analysisId = y.analysisId := by
  rcases Heat.pollBody_ends svc clock m seen with ⟨raw, status, result, -, -, ends⟩ | ⟨exc, -, ends⟩
  · rw [ends]
    intro x made
    obtain ⟨y, loaded, rfl⟩ := Option.map_eq_some_iff.mp made
    exact ⟨y, loaded, rfl⟩
  · rw [ends]
    unfold Heat.pollFailed
    dsimp only
    split
    · rename_i y retried
      intro x made
      rw [← Option.mem_some_iff.mp made]
      exact ⟨y, (Option.filter_eq_some_iff.mp retried).1, rfl⟩
    · exact fun x loaded => ⟨x, loaded, rfl⟩

theorem putPoll_other {t : Heat.HeatTables} {m : Heat.PollMemory} {events : List AuditEvent}
    (same : ∀ a ∈ t.analyses, a.id = m.analysis.id →
      a.organizationId = m.analysis.organizationId)
    (other : m.analysis.organizationId ≠ k)
    (about : ∀ x ∈ m.activity, x.analysisId = m.analysis.id)
    (audits : ∀ e ∈ events, e.organizationId = m.analysis.organizationId) :
    heatSlice k (t.putPoll m events) = heatSlice k t := by
  have recorded : slice AuditEvent.organizationId k (t.audits ++ events) =
      slice AuditEvent.organizationId k t.audits :=
    slice_added_other fun e member => (audits e member).symm ▸ other
  obtain ⟨row, activity, circuit⟩ := m
  cases activity with
  | none =>
    change { heatSlice k (t.putAnalysis row) with
      audits := slice AuditEvent.organizationId k (t.audits ++ events) } = heatSlice k t
    rw [putAnalysis_other same other, recorded]
    rfl
  | some x =>
    change { heatSlice k ((t.putAnalysis row).putActivity x) with
      audits := slice AuditEvent.organizationId k (t.audits ++ events) } = heatSlice k t
    rw [putBoth_other same other (about x rfl), recorded]
    rfl

theorem poll_other (svc : Heat.HeatService) (id : UUID) (clock : Heat.PollClock)
    (answer : Except ProviderQuery.Raised Dict) (s : Heat.HeatStore)
    (other : ∀ a, s.analysis id = some a → a.organizationId ≠ k) :
    heatSlice k (Heat.poll svc id clock answer s).toHeatTables = heatSlice k s.toHeatTables := by
  unfold Heat.poll
  split
  · rename_i a seen stored arrived
    split
    · rfl
    rename_i live
    have live : Heat.suppressed a s.circuit clock.now = false := Bool.eq_false_of_not_eq_true live
    have sameId : a.id = id := (find_some stored).2
    have write := Heat.pollBody_cases svc clock stored live arrived
    have events := pollBody_about svc clock ⟨a, s.activity a.id, s.circuit⟩ seen
      (rfl : a.id = a.id) rfl
    have activity := pollBody_activity svc clock ⟨a, s.activity a.id, s.circuit⟩ seen
    rw [← sameId]
    dsimp only
    generalize Heat.pollBody svc clock ⟨a, s.activity a.id, s.circuit⟩ seen = body at *
    obtain ⟨m, recorded⟩ := body
    obtain ⟨rowId, owner, -, -⟩ := poll_place write
    cases committed : Heat.HeatStore.commit (s.putPoll m recorded) with
    | none => rfl
    | some t =>
      rw [Option.getD_some, Heat.HeatStore.commit_some committed]
      refine putPoll_other (fun b member hit => ?_) (owner ▸ other a stored) (fun x made => ?_)
        fun e member => (events e member).organization.trans owner.symm
      · have twin : b = a := List.inj_on_of_nodup_map s.wf.analysisId member (find_some stored).1
          (hit.trans rowId)
        rw [twin, owner]
      · obtain ⟨y, loaded, same⟩ := activity x made
        rw [same, (find_some loaded).2]
        exact rowId.symm
  · rfl

/-! Portfolios, verification runs and agent runs. -/

theorem portfolioSlice_other {projects : ProjectTables} {catalogue : List Intervention}
    {s t : PortfolioTables} {tenant : TenantContext}
    (writes : PortfolioWrites projects catalogue s tenant t) (other : tenant.organizationId ≠ k) :
    portfolioSlice k t = portfolioSlice k s := by
  cases writes with
  | nothing => rfl
  | @planned run allocations projectId owner project has allocated =>
    have runs : slice PortfolioRun.organizationId k (s.runs ++ [run]) =
        slice PortfolioRun.organizationId k s.runs := slice_concat_other (owner ▸ other)
    have rows : slice PortfolioAllocation.organizationId k (s.allocations ++ allocations) =
        slice PortfolioAllocation.organizationId k s.allocations :=
      slice_added_other fun a member => (allocated a member).1.symm ▸ other
    simp only [portfolioSlice, withRun, runs, rows]

theorem verificationSlice_other {projects : ProjectTables} {runs : List PortfolioRun}
    {s t : VerificationTables} {tenant : TenantContext}
    (writes : VerificationWrites projects runs s tenant t) (other : tenant.organizationId ≠ k) :
    verificationSlice k t = verificationSlice k s := by
  cases writes with
  | nothing => rfl
  | @created run owner sourced =>
    have rows : slice VerificationRun.organizationId k (s.verifications ++ [run]) =
        slice VerificationRun.organizationId k s.verifications :=
      slice_concat_other (owner ▸ other)
    simp only [verificationSlice, VerificationTables.insert, rows]
  | @rewritten id loaded key own =>
    have rows : slice VerificationRun.organizationId k
        (s.verifications.map (withReport id loaded key)) =
        slice VerificationRun.organizationId k s.verifications := by
      refine slice_map_other (fun v _ => withReport_organizationId id loaded key v)
        fun v member mine => withReport_other loaded key fun same => ?_
      exact other ((own v member same).symm.trans mine)
    simp only [verificationSlice, rows]

theorem agentSlice_transact {s : Agents.AgentStore} {run : AgentRun} {draft : Agents.Draft run}
    (loaded : Agents.Loaded s run) (own : draft.Own) (other : run.organizationId ≠ k) :
    agentSlice k (s.transact draft).toAgentTables = agentSlice k s.toAgentTables := by
  obtain ⟨stored, found, owner⟩ := loaded
  have runs : slice AgentRun.organizationId k (Agents.mergeRun run draft.changed s.runs) =
      slice AgentRun.organizationId k s.runs := by
    unfold Agents.mergeRun
    rw [show find AgentRun.id run.id s.runs = some stored from found]
    refine slice_update_other (owner ▸ other) fun r member same => ?_
    have twin : r = stored := List.inj_on_of_nodup_map s.primaryKey member (find_some found).1 same
    rw [twin, owner]
    exact other
  have events : slice AgentEvent.organizationId k
      (s.events ++ [draft.event (s.nextSequence run.id)]) =
      slice AgentEvent.organizationId k s.events := slice_concat_other other
  have approvals : slice AgentApproval.organizationId k (s.approvals ++ draft.approval.toList) =
      slice AgentApproval.organizationId k s.approvals :=
    slice_added_other fun a member => (own.approval a (Option.mem_toList.mp member)).2 ▸ other
  have audits : slice AuditEvent.organizationId k (s.audits ++ draft.audit.toList) =
      slice AuditEvent.organizationId k s.audits :=
    slice_added_other fun e member => (own.audit e (Option.mem_toList.mp member)).1 ▸ other
  simp only [agentSlice, Agents.AgentStore.transact, Agents.AgentStore.commit, runs, events,
    approvals, audits]

theorem agentSlice_transacts {organizationId : UUID} {s t : Agents.AgentStore}
    (transacts : Agents.Transacts organizationId s t) (other : organizationId ≠ k) :
    agentSlice k t.toAgentTables = agentSlice k s.toAgentTables := by
  induction transacts with
  | refl => rfl
  | cons loaded owner own _ ih => exact ih.trans (agentSlice_transact loaded own (owner ▸ other))

theorem agentSlice_created {s t : Agents.AgentStore} {new : Agents.NewRun}
    (create : Agents.createRun s new = some t) (other : new.organizationId ≠ k) :
    agentSlice k t.toAgentTables = agentSlice k s.toAgentTables := by
  unfold Agents.createRun at create
  split at create
  · cases create
    have runs : slice AgentRun.organizationId k (s.runs ++ [new.row]) =
        slice AgentRun.organizationId k s.runs := slice_concat_other other
    have events : slice AgentEvent.organizationId k
        (s.events ++ [(Agents.created new.row).event (s.nextSequence new.id)]) =
        slice AgentEvent.organizationId k s.events := slice_concat_other other
    simp only [agentSlice, runs, events]
  · cases create

end Others

/-! ## Calls -/

theorem serveRequest_other (dep : Deployment) {w : Workspace} (integrity : Integrity w)
    {tenant : TenantContext} (request : WorkspaceRequest) {k : UUID}
    (other : tenant.organizationId ≠ k) :
    (serveRequest dep w tenant request).slice k = w.slice k := by
  cases request with
  | createProject body newId now =>
    have left := projectSlice_other
      (createProject_writes dep.ingestion w.projects tenant body newId now) other
    simp only [Workspace.slice, serveRequest, left]
  | createZone projectId body newId now =>
    have left := projectSlice_other
      (createZone_writes dep.ingestion w.projects tenant projectId body newId now) other
    simp only [Workspace.slice, serveRequest, left]
  | createHeatAnalysis body env now =>
    have left := createHeatAnalysis_other dep.heat w.projects.toProjectTables w.heat other body env
      now
    simp only [Workspace.slice, serveRequest, left]
  | catalogue request =>
    have left := serveCatalogue_other dep.ingestion other integrity.catalogue request
    simp only [Workspace.slice, serveRequest, left]
  | optimize request env =>
    have left := portfolioSlice_other (optimize_writes dep.optimizer w.projects.toProjectTables
      w.catalogue.interventions w.portfolios tenant request env) other
    simp only [Workspace.slice, serveRequest, left]
  | createVerification request newId storage =>
    have left := verificationSlice_other (createVerification_writes dep.verification
      w.projects.toProjectTables w.portfolios.runs w.verifications tenant request newId storage)
      other
    simp only [Workspace.slice, serveRequest, left]
  | createReport verificationId storage =>
    have left := verificationSlice_other (createReport_writes w.projects.toProjectTables
      w.portfolios.runs storage w.verifications tenant verificationId) other
    simp only [Workspace.slice, serveRequest, left]
  | createReportAlias verificationId storage =>
    have left := verificationSlice_other (createReportAlias_writes w.projects.toProjectTables
      w.portfolios.runs storage w.verifications tenant verificationId) other
    simp only [Workspace.slice, serveRequest, left]
  | startAgentRun projectId inputData newId threadId now provider =>
    have left : agentSlice k (serveRequest dep w tenant (.startAgentRun projectId inputData newId
        threadId now provider)).agents.toAgentTables = agentSlice k w.agents.toAgentTables := by
      dsimp only [serveRequest]
      rcases Agents.startAgentRun_transacts dep.agents ⟨w.groundingTables, now, provider⟩ w.agents
        (startRequest tenant projectId inputData newId threadId) with
        same | ⟨made, create, -, rest⟩
      · rw [same]
      · exact (agentSlice_transacts rest other).trans (agentSlice_created create other)
    simp only [Workspace.slice, left]
    rfl
  | approveAgentRun runId decision comment decidedAt now provider =>
    have left := agentSlice_transacts (Agents.approveAgentRun_transacts dep.agents
      ⟨w.groundingTables, now, provider⟩ w.agents
      (approvalRequest tenant runId decision comment) decidedAt) other
    simp only [Workspace.slice, serveRequest, left]

theorem serveCall_other (dep : Deployment) {w : Workspace} (integrity : Integrity w) (call : Call)
    {k : UUID} (other : call.organizationId w ≠ some k) :
    (serveCall dep w call).slice k = w.slice k := by
  cases call with
  | request tenant request =>
    exact serveRequest_other dep integrity request fun same => other (congrArg some same)
  | poll id clock answer =>
    have left := poll_other dep.heat id clock answer w.heat (k := k) fun a stored owner =>
      other (by rw [Call.organizationId, stored, ← owner]; rfl)
    simp only [Workspace.slice, serveCall, left]

end CoolProof.Workspaces
