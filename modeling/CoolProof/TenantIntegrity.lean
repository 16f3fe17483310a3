import CoolProof.TenantRows

/-! Referential integrity by tenant. Each table refers to rows of its own organization only,
in every state that calls reach; and a zone is referred to together with its project, a
chunk together with its document. -/

namespace CoolProof.Workspaces
open Calendar JsonDocument Uuid Models Tables Documents Projects PortfolioRuns VerificationRuns
  HeatRequests

/-! ## References -/

/-- The organization has the document. -/
def HasDocument (t : CatalogueTables) (organizationId id : UUID) : Prop :=
  ∃ d ∈ t.documents, d.id = id ∧ d.organizationId = organizationId

/-- The organization has the chunk, in the document. -/
def HasChunk (t : CatalogueTables) (organizationId documentId id : UUID) : Prop :=
  ∃ c ∈ t.chunks, c.id = id ∧ c.documentId = documentId ∧ c.organizationId = organizationId

/-- The organization has the run. -/
def HasRun (t : Agents.AgentTables) (organizationId id : UUID) : Prop :=
  ∃ r ∈ t.runs, r.id = id ∧ r.organizationId = organizationId

structure ProjectIntegrity (t : ProjectTables) : Prop where
  zone : ∀ z ∈ t.zones, t.HasProject z.organizationId z.projectId
  audit : ∀ e ∈ t.audits,
    (∃ p ∈ t.projects, e.resourceType = "project" ∧ e.resourceId = Uuid.toString p.id ∧
      p.organizationId = e.organizationId) ∨
    ∃ z ∈ t.zones, e.resourceType = "zone" ∧ e.resourceId = Uuid.toString z.id ∧
      z.organizationId = e.organizationId

structure HeatIntegrity (projects : ProjectTables) (t : Heat.HeatTables) : Prop where
  project : ∀ a ∈ t.analyses, projects.HasProject a.organizationId a.projectId
  zone : ∀ a ∈ t.analyses, projects.HasZone a.organizationId a.projectId a.zoneId
  activity : ∀ x ∈ t.activities, ∃ a ∈ t.analyses, a.id = x.analysisId
  audit : ∀ e ∈ t.audits, ∃ a ∈ t.analyses, About a e

/-- What evidence refers to. -/
structure Cites (t : CatalogueTables) (e : InterventionEvidence) : Prop where
  intervention : HasIntervention t.interventions e.organizationId e.interventionId
  document : HasDocument t e.organizationId e.documentId
  chunk : HasChunk t e.organizationId e.documentId e.chunkId

structure CatalogueIntegrity (projects : ProjectTables) (t : CatalogueTables) : Prop where
  document : ∀ d ∈ t.documents, ∀ p ∈ d.projectId, projects.HasProject d.organizationId p
  chunk : ∀ c ∈ t.chunks, HasDocument t c.organizationId c.documentId
  intervention : ∀ i ∈ t.interventions, ∀ d ∈ i.evidenceDocumentId,
    HasDocument t i.organizationId d
  evidence : ∀ e ∈ t.evidence, Cites t e

/-- An allocation is of a run of its organization, to a zone of the project of the run. -/
structure Allocated (projects : ProjectTables) (runs : List PortfolioRun)
    (a : PortfolioAllocation) : Prop where
  run : ∃ run ∈ runs, run.id = a.portfolioRunId ∧ run.organizationId = a.organizationId ∧
    ∃ p ∈ run.projectId, projects.HasZone a.organizationId p a.zoneId

structure PortfolioIntegrity (projects : ProjectTables) (catalogue : List Intervention)
    (t : PortfolioTables) : Prop where
  project : ∀ r ∈ t.runs, ∀ p ∈ r.projectId, projects.HasProject r.organizationId p
  allocation : ∀ a ∈ t.allocations, Allocated projects t.runs a
  intervention : ∀ a ∈ t.allocations,
    HasIntervention catalogue a.organizationId a.interventionId

structure AgentIntegrity (projects : ProjectTables) (t : Agents.AgentTables) : Prop where
  project : ∀ r ∈ t.runs, ∀ p ∈ r.projectId, projects.HasProject r.organizationId p
  event : ∀ e ∈ t.events, HasRun t e.organizationId e.runId
  approval : ∀ a ∈ t.approvals, HasRun t a.organizationId a.runId
  audit : ∀ e ∈ t.audits, ∃ r ∈ t.runs, e.resourceType = "agent_run" ∧
    e.resourceId = Uuid.toString r.id ∧ r.organizationId = e.organizationId

structure Integrity (w : Workspace) : Prop where
  projects : ProjectIntegrity w.projects.toProjectTables
  heat : HeatIntegrity w.projects.toProjectTables w.heat.toHeatTables
  catalogue : CatalogueIntegrity w.projects.toProjectTables w.catalogue.toCatalogueTables
  portfolios : PortfolioIntegrity w.projects.toProjectTables w.catalogue.interventions
    w.portfolios.toPortfolioTables
  verifications : ∀ v ∈ w.verifications.verifications,
    Sourced w.projects.toProjectTables w.portfolios.runs v
  agents : AgentIntegrity w.projects.toProjectTables w.agents.toAgentTables

/-! ## Rows that others refer to stay -/

section Kept

variable {s t : ProjectTables} (grown : s.Kept t)
include grown

theorem HeatIntegrity.kept {h : Heat.HeatTables} (integrity : HeatIntegrity s h) :
    HeatIntegrity t h :=
  { integrity with
    project := fun a member => grown.project (integrity.project a member)
    zone := fun a member => grown.zone (integrity.zone a member) }

theorem CatalogueIntegrity.kept {c : CatalogueTables} (integrity : CatalogueIntegrity s c) :
    CatalogueIntegrity t c :=
  { integrity with
    document := fun d member p named => grown.project (integrity.document d member p named) }

theorem Allocated.kept {runs runs' : List PortfolioRun} (more : runs ⊆ runs')
    {a : PortfolioAllocation} (allocated : Allocated s runs a) : Allocated t runs' a := by
  obtain ⟨run, stored, same, owner, p, named, zone⟩ := allocated.run
  exact ⟨run, more stored, same, owner, p, named, grown.zone zone⟩

theorem PortfolioIntegrity.kept {catalogue : List Intervention} {p : PortfolioTables}
    (integrity : PortfolioIntegrity s catalogue p) : PortfolioIntegrity t catalogue p :=
  { integrity with
    project := fun r member q named => grown.project (integrity.project r member q named)
    allocation := fun a member =>
      (integrity.allocation a member).kept grown (List.Subset.refl p.runs) }

theorem AgentIntegrity.kept {a : Agents.AgentTables} (integrity : AgentIntegrity s a) :
    AgentIntegrity t a :=
  { integrity with
    project := fun r member p named => grown.project (integrity.project r member p named) }

end Kept

/-! ## Projects -/

theorem projectIntegrity_writes {s t : ProjectTables} {tenant : TenantContext}
    (writes : ProjectWrites s tenant t) (integrity : ProjectIntegrity s) : ProjectIntegrity t := by
  have kept := writes.kept
  have old : ∀ e ∈ s.audits,
      (∃ p ∈ t.projects, e.resourceType = "project" ∧ e.resourceId = Uuid.toString p.id ∧
        p.organizationId = e.organizationId) ∨
      ∃ z ∈ t.zones, e.resourceType = "zone" ∧ e.resourceId = Uuid.toString z.id ∧
        z.organizationId = e.organizationId := by
    intro e member
    rcases integrity.audit e member with ⟨p, stored, about⟩ | ⟨z, stored, about⟩
    · exact .inl ⟨p, kept.projects stored, about⟩
    · exact .inr ⟨z, kept.zones stored, about⟩
  cases writes with
  | nothing => exact integrity
  | @project body newId now =>
    refine ⟨fun z member => kept.project (integrity.zone z member), fun e member => ?_⟩
    rcases List.mem_append.mp member with before | new
    · exact old e before
    · rw [List.mem_singleton.mp new]
      exact .inl ⟨newProject tenant body newId, List.mem_concat_self, rfl, rfl, rfl⟩
  | @zone projectId body newId now has =>
    refine ⟨fun z member => ?_, fun e member => ?_⟩
    · rcases List.mem_append.mp member with before | new
      · exact kept.project (integrity.zone z before)
      · rw [List.mem_singleton.mp new]
        exact has
    · rcases List.mem_append.mp member with before | new
      · exact old e before
      · rw [List.mem_singleton.mp new]
        exact .inr ⟨newZone tenant projectId body newId, List.mem_concat_self, rfl, rfl, rfl⟩

/-! ## Heat analyses -/

theorem heatIntegrity_writes {projects : ProjectTables} {s t : Heat.HeatStore}
    {organizationId : UUID} (writes : HeatWrites projects s organizationId t)
    (integrity : HeatIntegrity projects s.toHeatTables) :
    HeatIntegrity projects t.toHeatTables := by
  cases writes with
  | nothing => exact integrity
  | @wrote _ row activity events write audits about =>
    have place : projects.HasProject row.organizationId row.projectId ∧
        projects.HasZone row.organizationId row.projectId row.zoneId := by
      cases write.placed with
      | checked project zone => exact ⟨project, zone⟩
      | @kept a stored owner project zone =>
        rw [owner, project, zone]
        exact ⟨integrity.project a stored, integrity.zone a stored⟩
    refine ⟨fun a member => ?_, fun a member => ?_, fun x member => ?_, fun e member => ?_⟩
    · rcases mem_analyses_of_wrote write.wrote member with rfl | old
      · exact place.1
      · exact integrity.project a old
    · rcases mem_analyses_of_wrote write.wrote member with rfl | old
      · exact place.2
      · exact integrity.zone a old
    · exact List.mem_map.mp (t.wf.activityOwner x member)
    · rw [audits] at member
      rcases List.mem_append.mp member with old | new
      · obtain ⟨a, stored, subject⟩ := integrity.audit e old
        obtain ⟨b, found, owner⟩ := organization_of_rowWrite write stored
        obtain ⟨member, same⟩ := Heat.HeatTables.analysis_mem found
        exact ⟨b, member, subject.organization.trans owner.symm, subject.resourceType,
          by rw [same]; exact subject.resourceId⟩
      · have found : t.analysis row.id = some row := by
          rw [write.wrote.analysis, if_pos rfl]
        exact ⟨row, (find_some found).1, about e new⟩

/-! ## Documents, interventions and evidence -/

/-- The columns of a document that no finalisation changes. -/
def documentKeys (d : Document) : UUID × UUID × Option UUID :=
  (d.id, d.organizationId, d.projectId)

theorem update_documentKeys {s : CatalogueStore} {d : Document} (changed : Document)
    (stored : s.document d.id = some d) (same : documentKeys changed = documentKeys d) :
    (update Document.id changed s.documents).map documentKeys = s.documents.map documentKeys := by
  refine map_update_of_eq fun r member hit => ?_
  have id : changed.id = d.id := congrArg Prod.fst same
  have twin : r = d := List.inj_on_of_nodup_map s.wf.documentId member (find_some stored).1
    (hit.trans id)
  rw [twin, same]

theorem HasDocument.of_keys {s t : CatalogueTables}
    (same : t.documents.map documentKeys = s.documents.map documentKeys)
    {organizationId id : UUID} (has : HasDocument s organizationId id) :
    HasDocument t organizationId id :=
  exists_of_map_eq documentKeys (fun keys => keys.1 = id ∧ keys.2.1 = organizationId) same has

theorem documents_of_keys {projects : ProjectTables} {s t : CatalogueTables}
    (same : t.documents.map documentKeys = s.documents.map documentKeys)
    (integrity : CatalogueIntegrity projects s) :
    ∀ d ∈ t.documents, ∀ p ∈ d.projectId, projects.HasProject d.organizationId p :=
  forall_of_map_eq documentKeys (fun keys => ∀ p ∈ keys.2.2, projects.HasProject keys.2.1 p) same
    integrity.document

theorem HasDocument.added {t : CatalogueTables} {organizationId id : UUID} {new : List Document}
    (has : HasDocument t organizationId id) :
    HasDocument { t with documents := t.documents ++ new } organizationId id := by
  obtain ⟨d, stored, same⟩ := has
  exact ⟨d, List.mem_append_left _ stored, same⟩

theorem hasDocument_of_found {t : CatalogueTables} {organizationId id : UUID}
    {documentId : Option UUID} (found : t.documentFound organizationId documentId = true)
    (named : documentId = some id) : HasDocument t organizationId id := by
  rw [named, CatalogueTables.documentFound, Option.any_eq_true] at found
  obtain ⟨d, stored, owner⟩ := found
  exact ⟨d, (find_some stored).1, (find_some stored).2, of_decide_eq_true owner⟩

/-- What `add_evidence` checks. -/
theorem cites_of_found {t : CatalogueTables} {organizationId interventionId : UUID}
    {request : EvidenceRequest}
    (found : t.sourceFound organizationId interventionId request = true) :
    HasIntervention t.interventions organizationId interventionId ∧
      HasDocument t organizationId request.documentId ∧
      HasChunk t organizationId request.documentId request.chunkId := by
  unfold CatalogueTables.sourceFound at found
  split at found
  · rename_i i d c intervention document chunk
    obtain ⟨inTable, sameI⟩ := find_some intervention
    obtain ⟨inDocuments, sameD⟩ := find_some document
    obtain ⟨inChunks, sameC⟩ := find_some chunk
    have owners : i.organizationId = organizationId ∧ d.organizationId = organizationId ∧
        c.organizationId = organizationId ∧ c.documentId = d.id := by simpa using found
    exact ⟨⟨i, inTable, sameI, owners.1⟩, ⟨d, inDocuments, sameD, owners.2.1⟩,
      ⟨c, inChunks, sameC, owners.2.2.2.trans sameD, owners.2.2.1⟩⟩
  · cases found

/-- A finalisation deletes the evidence on the chunks it deletes. -/
theorem cites_finalized {ing : Ingestion} {s : CatalogueStore} {document : Document}
    {content : Bytes} {chunks : List PageText} {newIds : Nat → UUID} {e : InterventionEvidence}
    (keys : (finalizedTables ing s.toCatalogueTables document content chunks
      newIds).documents.map documentKeys = s.documents.map documentKeys)
    (left : e ∈ (finalizedTables ing s.toCatalogueTables document content chunks newIds).evidence)
    (cites : Cites s.toCatalogueTables e) :
    Cites (finalizedTables ing s.toCatalogueTables document content chunks newIds) e := by
  obtain ⟨-, uncited⟩ := List.mem_filter.mp left
  obtain ⟨c, stored, same, owner, organization⟩ := cites.chunk
  have other : c.documentId ≠ document.id := other_of_uncited uncited stored same
  exact ⟨cites.intervention, cites.document.of_keys keys,
    ⟨c, List.mem_append_left _ (List.mem_filter.mpr ⟨stored, decide_eq_true other⟩), same, owner,
      organization⟩⟩

theorem catalogueIntegrity_writes {ing : Ingestion} {projects : ProjectTables}
    {s : CatalogueStore} {tenant : TenantContext} {t : CatalogueTables}
    (writes : Writes ing projects.projects s tenant t)
    (integrity : CatalogueIntegrity projects s.toCatalogueTables) :
    CatalogueIntegrity projects t := by
  cases writes with
  | nothing => exact integrity
  | @uploaded request newId found =>
    refine ⟨fun d member p named => ?_, fun c member => (integrity.chunk c member).added,
      fun i member d named => (integrity.intervention i member d named).added,
      fun e member => ?_⟩
    · rcases List.mem_append.mp member with old | new
      · exact integrity.document d old p named
      · rw [List.mem_singleton.mp new] at named ⊢
        exact ProjectTables.hasProject_of_found found named
    · have cites := integrity.evidence e member
      exact ⟨cites.intervention, cites.document.added, cites.chunk⟩
  | @failed document stored owner =>
    have keys := update_documentKeys { document with status := .failed } stored rfl
    refine ⟨documents_of_keys keys integrity, fun c member =>
      (integrity.chunk c member).of_keys keys, fun i member d named =>
      (integrity.intervention i member d named).of_keys keys, fun e member => ?_⟩
    have cites := integrity.evidence e member
    exact ⟨cites.intervention, cites.document.of_keys keys, cites.chunk⟩
  | @finalized document content chunks newIds stored owner valid storable =>
    have keys : (finalizedTables ing s.toCatalogueTables document content chunks
        newIds).documents.map documentKeys = s.documents.map documentKeys :=
      update_documentKeys (finalizedDocument ing document content chunks) stored rfl
    refine ⟨documents_of_keys keys integrity, fun c member => ?_, fun i member d named =>
      (integrity.intervention i member d named).of_keys keys, fun e member =>
      cites_finalized keys member (integrity.evidence e (List.mem_of_mem_filter member))⟩
    rcases List.mem_append.mp member with old | new
    · exact (integrity.chunk c (List.mem_of_mem_filter old)).of_keys keys
    · obtain ⟨chunk, -, rfl⟩ := List.mem_map.mp new
      have has : HasDocument s.toCatalogueTables document.organizationId document.id :=
        ⟨document, (find_some stored).1, rfl, rfl⟩
      exact has.of_keys keys
  | @intervention request newId found =>
    refine ⟨integrity.document, integrity.chunk, fun i member d named => ?_, fun e member => ?_⟩
    · rcases List.mem_append.mp member with old | new
      · exact integrity.intervention i old d named
      · rw [List.mem_singleton.mp new] at named ⊢
        exact hasDocument_of_found found named
    · have cites := integrity.evidence e member
      exact ⟨cites.intervention.kept (List.subset_append_left _ _), cites.document, cites.chunk⟩
  | @evidence interventionId request newId now found =>
    refine ⟨integrity.document, integrity.chunk, integrity.intervention, fun e member => ?_⟩
    rcases List.mem_append.mp member with old | new
    · exact ⟨(integrity.evidence e old).intervention, (integrity.evidence e old).document,
        (integrity.evidence e old).chunk⟩
    · rw [List.mem_singleton.mp new]
      obtain ⟨intervention, document, chunk⟩ := cites_of_found found
      exact ⟨intervention, document, chunk⟩
  | removed evidenceId =>
    refine ⟨integrity.document, integrity.chunk, integrity.intervention, fun e member => ?_⟩
    have cites := integrity.evidence e (List.mem_of_mem_filter member)
    exact ⟨cites.intervention, cites.document, cites.chunk⟩

theorem interventions_kept {ing : Ingestion} {projects : List Project} {s : CatalogueStore}
    {tenant : TenantContext} {t : CatalogueTables} (writes : Writes ing projects s tenant t) :
    s.interventions ⊆ t.interventions := by
  cases writes with
  | intervention found => exact List.subset_append_left _ _
  | nothing | uploaded | failed | finalized | evidence | removed => exact List.Subset.refl _

/-! ## Portfolios -/

theorem portfolioIntegrity_writes {projects : ProjectTables} {catalogue : List Intervention}
    {s t : PortfolioTables} {tenant : TenantContext}
    (writes : PortfolioWrites projects catalogue s tenant t)
    (integrity : PortfolioIntegrity projects catalogue s) :
    PortfolioIntegrity projects catalogue t := by
  cases writes with
  | nothing => exact integrity
  | @planned run allocations projectId owner project has allocated =>
    have kept : projects.Kept projects := .refl projects
    refine ⟨fun r member p named => ?_, fun a member => ?_, fun a member => ?_⟩
    · rcases List.mem_append.mp member with old | new
      · exact integrity.project r old p named
      · rw [List.mem_singleton.mp new] at named ⊢
        rw [project] at named
        rw [owner, ← Option.mem_some_iff.mp named]
        exact has
    · rcases List.mem_append.mp member with old | new
      · exact (integrity.allocation a old).kept kept (List.subset_append_left _ _)
      · obtain ⟨own, ofRun, zone, -⟩ := allocated a new
        exact ⟨run, List.mem_concat_self, ofRun.symm, owner.trans own.symm, projectId, project,
          own.symm ▸ zone⟩
    · rcases List.mem_append.mp member with old | new
      · exact integrity.intervention a old
      · obtain ⟨own, -, -, intervention⟩ := allocated a new
        exact own.symm ▸ intervention

theorem runs_kept {projects : ProjectTables} {catalogue : List Intervention}
    {s t : PortfolioTables} {tenant : TenantContext}
    (writes : PortfolioWrites projects catalogue s tenant t) : s.runs ⊆ t.runs := by
  cases writes with
  | nothing => exact List.Subset.refl _
  | planned owner project has allocated => exact List.subset_append_left _ _

/-! ## Verification runs -/

theorem sourced_writes {projects : ProjectTables} {runs : List PortfolioRun}
    {s t : VerificationTables} {tenant : TenantContext}
    (writes : VerificationWrites projects runs s tenant t)
    (sourced : ∀ v ∈ s.verifications, Sourced projects runs v) :
    ∀ v ∈ t.verifications, Sourced projects runs v := by
  cases writes with
  | nothing => exact sourced
  | created owner checked =>
    intro v member
    rcases List.mem_append.mp member with old | new
    · exact sourced v old
    · rw [List.mem_singleton.mp new]
      exact checked
  | rewritten own =>
    intro v member
    obtain ⟨old, stored, rfl⟩ := List.mem_map.mp member
    exact (sourced old stored).withReport _ _ _

/-! ## Agent runs -/

theorem HasRun.of_keys {s t : Agents.AgentTables} (same : t.runs.map runKeys = s.runs.map runKeys)
    {organizationId id : UUID} (has : HasRun s organizationId id) : HasRun t organizationId id :=
  exists_of_map_eq runKeys (fun keys => keys.1 = id ∧ keys.2.1 = organizationId) same has

theorem agentIntegrity_transact {projects : ProjectTables} {s : Agents.AgentStore}
    {run : AgentRun} {draft : Agents.Draft run} (loaded : Agents.Loaded s run) (own : draft.Own)
    (integrity : AgentIntegrity projects s.toAgentTables) :
    AgentIntegrity projects (s.transact draft).toAgentTables := by
  have keys := transact_keys s draft
  have known : HasRun s.toAgentTables run.organizationId run.id := by
    obtain ⟨stored, found, owner⟩ := loaded
    exact ⟨stored, (find_some found).1, (find_some found).2, owner⟩
  refine ⟨?_, fun e member => ?_, fun a member => ?_, fun e member => ?_⟩
  · exact forall_of_map_eq runKeys (fun keys => ∀ p ∈ keys.2.2, projects.HasProject keys.2.1 p) keys
      integrity.project
  · rcases List.mem_append.mp member with old | new
    · exact (integrity.event e old).of_keys keys
    · rw [List.mem_singleton.mp new]
      exact known.of_keys keys
  · rcases List.mem_append.mp member with old | new
    · exact (integrity.approval a old).of_keys keys
    · obtain ⟨ofRun, owner⟩ := own.approval a (Option.mem_toList.mp new)
      rw [ofRun, owner]
      exact known.of_keys keys
  · have subject : ∃ r ∈ s.runs, e.resourceType = "agent_run" ∧
        e.resourceId = Uuid.toString r.id ∧ r.organizationId = e.organizationId := by
      rcases List.mem_append.mp member with old | new
      · exact integrity.audit e old
      · obtain ⟨owner, kind, text⟩ := own.audit e (Option.mem_toList.mp new)
        obtain ⟨r, stored, same, organization⟩ := known
        exact ⟨r, stored, kind, by rw [same]; exact text, organization.trans owner.symm⟩
    exact exists_of_map_eq runKeys (fun keys => e.resourceType = "agent_run" ∧
      e.resourceId = Uuid.toString keys.1 ∧ keys.2.1 = e.organizationId) keys subject

theorem agentIntegrity_transacts {projects : ProjectTables} {organizationId : UUID}
    {s t : Agents.AgentStore} (transacts : Agents.Transacts organizationId s t)
    (integrity : AgentIntegrity projects s.toAgentTables) :
    AgentIntegrity projects t.toAgentTables := by
  induction transacts with
  | refl => exact integrity
  | cons loaded owner own _ ih => exact ih (agentIntegrity_transact loaded own integrity)

theorem HasRun.added {s t : Agents.AgentTables} {new : List AgentRun}
    (runs : t.runs = s.runs ++ new) {organizationId id : UUID}
    (has : HasRun s organizationId id) : HasRun t organizationId id := by
  obtain ⟨r, stored, same⟩ := has
  exact ⟨r, runs ▸ List.mem_append_left _ stored, same⟩

theorem agentIntegrity_created {projects : ProjectTables} {s t : Agents.AgentStore}
    {new : Agents.NewRun} (create : Agents.createRun s new = some t)
    (project : ∀ p ∈ new.projectId, projects.HasProject new.organizationId p)
    (integrity : AgentIntegrity projects s.toAgentTables) :
    AgentIntegrity projects t.toAgentTables := by
  unfold Agents.createRun at create
  split at create
  · cases create
    refine ⟨fun r member p named => ?_, fun e member => ?_, fun a member =>
      (integrity.approval a member).added rfl, fun e member => ?_⟩
    · rcases List.mem_append.mp member with old | last
      · exact integrity.project r old p named
      · rw [List.mem_singleton.mp last] at named ⊢
        exact project p named
    · rcases List.mem_append.mp member with old | last
      · exact (integrity.event e old).added rfl
      · rw [List.mem_singleton.mp last]
        exact ⟨new.row, List.mem_concat_self, rfl, rfl⟩
    · obtain ⟨r, stored, subject⟩ := integrity.audit e member
      exact ⟨r, List.mem_append_left _ stored, subject⟩
  · cases create

/-! ## Calls -/

theorem Integrity.projectWrites {w : Workspace} {tenant : TenantContext} (integrity : Integrity w)
    {p : ProjectStore} (writes : ProjectWrites w.projects.toProjectTables tenant p.toProjectTables) :
    Integrity { w with projects := p } where
  projects := projectIntegrity_writes writes integrity.projects
  heat := integrity.heat.kept writes.kept
  catalogue := integrity.catalogue.kept writes.kept
  portfolios := integrity.portfolios.kept writes.kept
  verifications v member := (integrity.verifications v member).kept writes.kept (List.Subset.refl _)
  agents := integrity.agents.kept writes.kept

/-- A catalogue row keeps what other tables refer to. -/
theorem Integrity.catalogueWrites {w : Workspace} {ing : Ingestion} {tenant : TenantContext}
    (integrity : Integrity w) {t : CatalogueStore}
    (writes : Writes ing w.projects.projects w.catalogue tenant t.toCatalogueTables) :
    Integrity { w with catalogue := t } :=
  { integrity with
    catalogue := catalogueIntegrity_writes writes integrity.catalogue
    portfolios := { integrity.portfolios with
      intervention := fun a member =>
        (integrity.portfolios.intervention a member).kept (interventions_kept writes) } }

theorem serveRequest_integrity (dep : Deployment) {w : Workspace} (tenant : TenantContext)
    (request : WorkspaceRequest) (integrity : Integrity w) :
    Integrity (serveRequest dep w tenant request) := by
  cases request with
  | createProject body newId now =>
    exact integrity.projectWrites
      (createProject_writes dep.ingestion w.projects tenant body newId now)
  | createZone projectId body newId now =>
    exact integrity.projectWrites
      (createZone_writes dep.ingestion w.projects tenant projectId body newId now)
  | createHeatAnalysis body env now =>
    have writes := createHeatAnalysis_writes dep.heat w.projects.toProjectTables w.heat tenant
      body env now
    exact { integrity with heat := heatIntegrity_writes writes integrity.heat }
  | catalogue request =>
    exact integrity.catalogueWrites
      (serveCatalogue_writes dep.ingestion w.projects.projects w.catalogue tenant request)
  | optimize request env =>
    have writes := optimize_writes dep.optimizer w.projects.toProjectTables
      w.catalogue.interventions w.portfolios tenant request env
    exact { integrity with
      portfolios := portfolioIntegrity_writes writes integrity.portfolios
      verifications := fun v member => (integrity.verifications v member).kept
        (.refl w.projects.toProjectTables) (runs_kept writes) }
  | createVerification request newId storage =>
    have writes := createVerification_writes dep.verification w.projects.toProjectTables
      w.portfolios.runs w.verifications tenant request newId storage
    exact { integrity with verifications := sourced_writes writes integrity.verifications }
  | createReport verificationId storage =>
    have writes := createReport_writes w.projects.toProjectTables w.portfolios.runs storage
      w.verifications tenant verificationId
    exact { integrity with verifications := sourced_writes writes integrity.verifications }
  | createReportAlias verificationId storage =>
    have writes := createReportAlias_writes w.projects.toProjectTables w.portfolios.runs storage
      w.verifications tenant verificationId
    exact { integrity with verifications := sourced_writes writes integrity.verifications }
  | startAgentRun projectId inputData newId threadId now provider =>
    refine { integrity with agents := ?_ }
    dsimp only [serveRequest]
    rcases Agents.startAgentRun_transacts dep.agents ⟨w.groundingTables, now, provider⟩ w.agents
      (startRequest tenant projectId inputData newId threadId) with
      same | ⟨made, create, found, rest⟩
    · rw [same]
      exact integrity.agents
    · refine agentIntegrity_transacts rest
        (agentIntegrity_created create (fun p named => ?_) integrity.agents)
      have named : projectId = some p := named
      have known : projectFound w.projects.projects tenant.organizationId projectId = true := by
        rw [named] at found ⊢
        exact found
      exact ProjectTables.hasProject_of_found known named
  | approveAgentRun runId decision comment decidedAt now provider =>
    refine { integrity with agents := ?_ }
    exact agentIntegrity_transacts (Agents.approveAgentRun_transacts dep.agents
      ⟨w.groundingTables, now, provider⟩ w.agents
      (approvalRequest tenant runId decision comment) decidedAt) integrity.agents

theorem serveCall_integrity (dep : Deployment) {w : Workspace} (call : Call)
    (integrity : Integrity w) : Integrity (serveCall dep w call) := by
  cases call with
  | request tenant request => exact serveRequest_integrity dep tenant request integrity
  | poll id clock answer =>
    refine { integrity with heat := ?_ }
    dsimp only [serveCall]
    cases stored : w.heat.analysis id with
    | none =>
      rw [poll_missing dep.heat clock answer stored]
      exact integrity.heat
    | some a =>
      exact heatIntegrity_writes
        (poll_writes dep.heat w.projects.toProjectTables clock answer stored) integrity.heat

theorem integrity_empty : Integrity Workspace.empty where
  projects := by
    constructor <;> simp [Workspace.empty, ProjectStore.empty]
  heat := by
    constructor <;> simp [Workspace.empty, Heat.HeatStore.empty]
  catalogue := by
    constructor <;> simp [Workspace.empty, CatalogueStore.empty]
  portfolios := by
    constructor <;> simp [Workspace.empty, PortfolioStore.empty]
  verifications := by simp [Workspace.empty, VerificationStore.empty]
  agents := by
    constructor <;> simp [Workspace.empty, Agents.AgentStore.empty]

theorem integrity_serveCalls (dep : Deployment) (calls : List Call) :
    Integrity (serveCalls dep calls) := by
  induction calls using List.reverseRecOn with
  | nil => exact integrity_empty
  | append_singleton calls call ih =>
    rw [serveCalls, List.foldl_append]
    exact serveCall_integrity dep call ih

/-- After any calls of any tenants and of the worker: every reference stays inside one
organization, and every row was last written by a call of the organization it carries. -/
theorem tenant_integrity (dep : Deployment) (calls : List Call) :
    Integrity (serveCalls dep calls) ∧
    ∀ r ∈ (serveCalls dep calls).rows, ∃ before call after, calls = before ++ call :: after ∧
      r ∉ (serveCalls dep before).rows ∧
      (∀ since, since <+: after → r ∈ (serveCalls dep (before ++ call :: since)).rows) ∧
      call.organizationId (serveCalls dep before) = some r.organizationId := by
  refine ⟨integrity_serveCalls dep calls, fun r member => ?_⟩
  have absent : r ∉ Workspace.empty.rows := by
    simp [Workspace.rows, Workspace.empty, projectRows, heatRows, catalogueRows, portfolioRows,
      verificationRows, agentRows, ProjectStore.empty, Heat.HeatStore.empty, CatalogueStore.empty,
      PortfolioStore.empty, VerificationStore.empty, Agents.AgentStore.empty]
  obtain ⟨before, call, after, rfl, missing, since⟩ :=
    Runs.foldl_began (p := fun w : Workspace => r ∈ w.rows) calls absent member
  refine ⟨before, call, after, rfl, missing, since, ?_⟩
  have written := since [] List.nil_prefix
  rw [List.foldl_append] at written
  exact (serveCall_written dep (serveCalls dep before) call r written).resolve_left missing

end CoolProof.Workspaces
