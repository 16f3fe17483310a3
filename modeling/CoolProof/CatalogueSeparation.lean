import CoolProof.ObjectKeys
import CoolProof.TenantSlices

/-! Projects, documents and the catalogue of one tenant among others. A request does to the
slice of its organization what it does in tables that have this organization alone, and gives
the same answer, as long as no id that is drawn for it is already that of a row of another. -/

namespace CoolProof.Workspaces
open Calendar JsonDocument Uuid Models Tables Slices Documents Projects PortfolioRuns
  VerificationRuns HeatRequests

section Alone

variable {k : UUID}

/-! ## Projects -/

/-- A foreign key inside the slice. -/
theorem hasProject_slice {t : ProjectTables} {id : UUID} (has : t.HasProject k id) :
    id ∈ (projectSlice k t).projects.map Project.id := by
  obtain ⟨p, stored, same, owner⟩ := has
  exact same ▸ List.mem_map_of_mem (mem_slice.mpr ⟨stored, owner⟩)

theorem projectConstraints_iff {s : ProjectStore} {t : ProjectTables} {tenant : TenantContext}
    (owner : tenant.organizationId = k) (writes : ProjectWrites s.toProjectTables tenant t)
    (integrity : ProjectIntegrity s.toProjectTables)
    (projectIds : Apart Project.organizationId (fun p q => p.id ≠ q.id) t.projects)
    (zoneIds : Apart Zone.organizationId (fun z z' => z.id ≠ z'.id) t.zones) :
    t.Constraints ↔ (projectSlice k t).Constraints := by
  have after := projectIntegrity_writes writes integrity
  have others : ∀ j, j ≠ k → projectSlice j t = projectSlice j s.toProjectTables :=
    fun j differ => projectSlice_other writes fun same => differ (same.symm.trans owner)
  have projects := fun j differ => congrArg ProjectTables.projects (others j differ)
  have zones := fun j differ => congrArg ProjectTables.zones (others j differ)
  have ids := nodup_slice_iff projectIds projects s.wf.projectId
  have names : Apart Project.organizationId
      (fun p q => (p.organizationId, p.name) ≠ (q.organizationId, q.name)) t.projects :=
    fun p _ q _ differ same => differ (congrArg Prod.fst same)
  have zoneKeys := nodup_slice_iff zoneIds zones s.wf.zoneId
  have zoneNames : (t.projects.map Project.id).Nodup → Apart Zone.organizationId
      (fun z z' => (z.projectId, z.name) ≠ (z'.projectId, z'.name)) t.zones := by
    intro unique z member z' member' differ same
    obtain ⟨p, stored, id, organization⟩ := after.zone z member
    obtain ⟨p', stored', id', organization'⟩ := after.zone z' member'
    have twin : p = p' := List.inj_on_of_nodup_map unique stored stored'
      (id.trans ((congrArg Prod.fst same).trans id'.symm))
    exact differ (organization.symm.trans ((congrArg Project.organizationId twin).trans
      organization'))
  have refers : ∀ z ∈ (projectSlice k t).zones,
      z.projectId ∈ (projectSlice k t).projects.map Project.id := by
    intro z member
    obtain ⟨stored, mine⟩ := mem_slice.mp member
    exact hasProject_slice (mine ▸ after.zone z stored)
  constructor
  · intro all
    exact ⟨ids.mp all.projectId, (nodup_slice_iff names projects s.wf.projectName).mp
      all.projectName, zoneKeys.mp all.zoneId, (nodup_slice_iff (zoneNames all.projectId) zones
      s.wf.zoneName).mp all.zoneName, refers⟩
  · intro own
    have unique := ids.mpr own.projectId
    refine ⟨unique, (nodup_slice_iff names projects s.wf.projectName).mpr own.projectName,
      zoneKeys.mpr own.zoneId, (nodup_slice_iff (zoneNames unique) zones
      s.wf.zoneName).mpr own.zoneName, fun z member => ?_⟩
    obtain ⟨p, stored, id, -⟩ := after.zone z member
    exact id ▸ List.mem_map_of_mem stored

theorem projectSave_alone {β : Type} {s t : ProjectStore} {s' t' : ProjectTables}
    (before : t.toProjectTables = projectSlice k s.toProjectTables)
    (new : t' = projectSlice k s') (taken : s'.Constraints ↔ t'.Constraints) (ing : Ingestion)
    (texts : List String) (answer : Except Refusal β) :
    (t.save ing texts t' answer).1.toProjectTables =
        projectSlice k (s.save ing texts s' answer).1.toProjectTables ∧
      (t.save ing texts t' answer).2 = (s.save ing texts s' answer).2 := by
  unfold ProjectStore.save
  by_cases valid : s'.Constraints ∧ texts.all ing.storable = true
  · rw [dif_pos valid, dif_pos ⟨taken.mp valid.1, valid.2⟩]
    exact ⟨new, rfl⟩
  · rw [dif_neg valid, dif_neg fun other => valid ⟨taken.mpr other.1, other.2⟩]
    exact ⟨before, rfl⟩

theorem createProject_alone (ing : Ingestion) {s t : ProjectStore} {tenant : TenantContext}
    (owner : tenant.organizationId = k)
    (before : t.toProjectTables = projectSlice k s.toProjectTables)
    (integrity : ProjectIntegrity s.toProjectTables) (body : ProjectCreate) {newId : UUID}
    (now : Instant) (fresh : ∀ p ∈ s.projects, p.id = newId → p.organizationId = k) :
    (createProject ing t tenant body newId now).1.toProjectTables =
        projectSlice k (createProject ing s tenant body newId now).1.toProjectTables ∧
      (createProject ing t tenant body newId now).2 =
        (createProject ing s tenant body newId now).2 := by
  have new : withProject t.toProjectTables tenant body newId now =
      projectSlice k (withProject s.toProjectTables tenant body newId now) := by
    have projects : slice Project.organizationId k (s.projects ++ [newProject tenant body newId]) =
        slice Project.organizationId k s.projects ++ [newProject tenant body newId] :=
      slice_concat owner
    have audits : slice AuditEvent.organizationId k (s.audits ++
        [auditEvent tenant "project.created" "project" newId [] now]) =
        slice AuditEvent.organizationId k s.audits ++
          [auditEvent tenant "project.created" "project" newId [] now] := slice_concat owner
    rw [before]
    simp only [withProject, projectSlice, projects, audits]
  have ids : Apart Project.organizationId (fun p q => p.id ≠ q.id)
      (s.projects ++ [newProject tenant body newId]) := apart_concat s.wf.projectId owner fresh
  have writes : ProjectWrites s.toProjectTables tenant
      (withProject s.toProjectTables tenant body newId now) := .project
  have taken := projectConstraints_iff owner writes integrity ids (apart_of_nodup s.wf.zoneId)
  unfold createProject
  split
  · exact ⟨before, rfl⟩
  split
  · exact ⟨before, rfl⟩
  · rw [new]
    exact projectSave_alone before rfl taken ing _ _

theorem projectFound_slice {rows : List Project} (id : Option UUID) :
    projectFound (slice Project.organizationId k rows) k id = projectFound rows k id := by
  cases id with
  | none => rfl
  | some id => exact any_slice fun p _ kept => of_decide_eq_true (Bool.and_eq_true_iff.mp kept).2

theorem createZone_alone (ing : Ingestion) {s t : ProjectStore} {tenant : TenantContext}
    (owner : tenant.organizationId = k)
    (before : t.toProjectTables = projectSlice k s.toProjectTables)
    (integrity : ProjectIntegrity s.toProjectTables) (projectId : UUID) (body : ZoneCreate)
    {newId : UUID} (now : Instant) (fresh : ∀ z ∈ s.zones, z.id = newId → z.organizationId = k) :
    (createZone ing t tenant projectId body newId now).1.toProjectTables =
        projectSlice k (createZone ing s tenant projectId body newId now).1.toProjectTables ∧
      (createZone ing t tenant projectId body newId now).2 =
        (createZone ing s tenant projectId body newId now).2 := by
  have new : withZone t.toProjectTables tenant projectId body newId now =
      projectSlice k (withZone s.toProjectTables tenant projectId body newId now) := by
    have zones : slice Zone.organizationId k (s.zones ++ [newZone tenant projectId body newId]) =
        slice Zone.organizationId k s.zones ++ [newZone tenant projectId body newId] :=
      slice_concat owner
    have audits : slice AuditEvent.organizationId k (s.audits ++
        [auditEvent tenant "zone.created" "zone" newId
          [("project_id", .str (Uuid.toString projectId))] now]) =
        slice AuditEvent.organizationId k s.audits ++
          [auditEvent tenant "zone.created" "zone" newId
            [("project_id", .str (Uuid.toString projectId))] now] := slice_concat owner
    rw [before]
    simp only [withZone, projectSlice, zones, audits]
  have ids : Apart Zone.organizationId (fun z z' => z.id ≠ z'.id)
      (s.zones ++ [newZone tenant projectId body newId]) := apart_concat s.wf.zoneId owner fresh
  have found : projectFound t.projects tenant.organizationId (some projectId) =
      projectFound s.projects tenant.organizationId (some projectId) := by
    rw [before, owner]
    exact projectFound_slice _
  unfold createZone
  rw [found]
  split
  · exact ⟨before, rfl⟩
  split
  · exact ⟨before, rfl⟩
  split
  · exact ⟨before, rfl⟩
  · rename_i known
    have has := ProjectTables.hasProject_of_found (by simpa using known) rfl
    have writes : ProjectWrites s.toProjectTables tenant
        (withZone s.toProjectTables tenant projectId body newId now) := .zone has
    have taken := projectConstraints_iff owner writes integrity (apart_of_nodup s.wf.projectId) ids
    rw [new]
    exact projectSave_alone before rfl taken ing _ _

/-! ## Documents, interventions and evidence -/

/-- The primary keys, and the object keys, of different organizations differ. -/
structure KeysApart (t : CatalogueTables) : Prop where
  documentIds : Apart Document.organizationId (fun d e => d.id ≠ e.id) t.documents
  objectKeys : Apart Document.organizationId (fun d e => d.s3Key ≠ e.s3Key) t.documents
  chunkIds : Apart DocumentChunk.organizationId (fun c d => c.id ≠ d.id) t.chunks
  interventionIds : Apart Intervention.organizationId (fun i j => i.id ≠ j.id) t.interventions
  evidenceIds : Apart InterventionEvidence.organizationId (fun e f => e.id ≠ f.id) t.evidence

theorem keysApart (s : CatalogueStore) : KeysApart s.toCatalogueTables where
  documentIds := apart_of_nodup s.wf.documentId
  objectKeys := apart_of_nodup s.wf.objectKey
  chunkIds := apart_of_nodup s.wf.chunkId
  interventionIds := apart_of_nodup s.wf.interventionId
  evidenceIds := apart_of_nodup s.wf.evidenceId

theorem hasDocument_slice {t : CatalogueTables} {id : UUID} (has : HasDocument t k id) :
    id ∈ (catalogueSlice k t).documents.map Document.id := by
  obtain ⟨d, stored, same, owner⟩ := has
  exact same ▸ List.mem_map_of_mem (mem_slice.mpr ⟨stored, owner⟩)

/-- What the slice of an organization refers to is in the slice. -/
theorem refers_slice {projects : ProjectTables} {t : CatalogueTables}
    (integrity : CatalogueIntegrity projects t) :
    (∀ c ∈ (catalogueSlice k t).chunks,
      c.documentId ∈ (catalogueSlice k t).documents.map Document.id) ∧
    (∀ i ∈ (catalogueSlice k t).interventions, ∀ d ∈ i.evidenceDocumentId,
      d ∈ (catalogueSlice k t).documents.map Document.id) ∧
    (∀ e ∈ (catalogueSlice k t).evidence,
      e.interventionId ∈ (catalogueSlice k t).interventions.map Intervention.id) ∧
    (∀ e ∈ (catalogueSlice k t).evidence,
      e.documentId ∈ (catalogueSlice k t).documents.map Document.id) ∧
    ∀ e ∈ (catalogueSlice k t).evidence,
      e.chunkId ∈ (catalogueSlice k t).chunks.map DocumentChunk.id := by
  refine ⟨fun c member => ?_, fun i member d named => ?_, fun e member => ?_, fun e member => ?_,
    fun e member => ?_⟩
  · obtain ⟨stored, mine⟩ := mem_slice.mp member
    exact hasDocument_slice (mine ▸ integrity.chunk c stored)
  · obtain ⟨stored, mine⟩ := mem_slice.mp member
    exact hasDocument_slice (mine ▸ integrity.intervention i stored d named)
  · obtain ⟨stored, mine⟩ := mem_slice.mp member
    obtain ⟨i, inTable, same, owner⟩ := (integrity.evidence e stored).intervention
    exact same ▸ List.mem_map_of_mem (mem_slice.mpr ⟨inTable, owner.trans mine⟩)
  · obtain ⟨stored, mine⟩ := mem_slice.mp member
    exact hasDocument_slice (mine ▸ (integrity.evidence e stored).document)
  · obtain ⟨stored, mine⟩ := mem_slice.mp member
    obtain ⟨c, inTable, same, -, owner⟩ := (integrity.evidence e stored).chunk
    exact same ▸ List.mem_map_of_mem (mem_slice.mpr ⟨inTable, owner.trans mine⟩)

/-- The database takes new tables of a tenant when it would take the tenant's slice alone. -/
theorem catalogueConstraints_iff {projects : ProjectTables} {s : CatalogueStore}
    {t : CatalogueTables} (after : CatalogueIntegrity projects t) (apart : KeysApart t)
    (others : ∀ j, j ≠ k → catalogueSlice j t = catalogueSlice j s.toCatalogueTables) :
    t.Constraints ↔ (catalogueSlice k t).Constraints := by
  have documents := fun j differ => congrArg CatalogueTables.documents (others j differ)
  have chunks := fun j differ => congrArg CatalogueTables.chunks (others j differ)
  have interventions := fun j differ => congrArg CatalogueTables.interventions (others j differ)
  have evidence := fun j differ => congrArg CatalogueTables.evidence (others j differ)
  have documentIds := nodup_slice_iff apart.documentIds documents s.wf.documentId
  have objectKeys := nodup_slice_iff apart.objectKeys documents s.wf.objectKey
  have chunkIds := nodup_slice_iff apart.chunkIds chunks s.wf.chunkId
  have interventionIds := nodup_slice_iff apart.interventionIds interventions s.wf.interventionId
  have evidenceIds := nodup_slice_iff apart.evidenceIds evidence s.wf.evidenceId
  -- a chunk has the organization of its document
  have ordinals : (t.documents.map Document.id).Nodup → Apart DocumentChunk.organizationId
      (fun c d => (c.documentId, c.ordinal) ≠ (d.documentId, d.ordinal)) t.chunks := by
    intro unique c member c' member' differ same
    obtain ⟨d, stored, id, organization⟩ := after.chunk c member
    obtain ⟨d', stored', id', organization'⟩ := after.chunk c' member'
    have twin : d = d' := List.inj_on_of_nodup_map unique stored stored'
      (id.trans ((congrArg Prod.fst same).trans id'.symm))
    exact differ (organization.symm.trans ((congrArg Document.organizationId twin).trans
      organization'))
  have cited : Apart InterventionEvidence.organizationId
      (fun e f => evidenceKey e ≠ evidenceKey f) t.evidence :=
    fun e _ f _ differ same => differ (congrArg Prod.fst same)
  have cites := nodup_slice_iff cited evidence s.wf.evidenceUnique
  obtain ⟨ofChunk, ofIntervention, citing, citesDocument, citesChunk⟩ := refers_slice after (k := k)
  constructor
  · intro all
    exact ⟨documentIds.mp all.documentId, objectKeys.mp all.objectKey, chunkIds.mp all.chunkId,
      (nodup_slice_iff (ordinals all.documentId) chunks s.wf.chunkOrdinal).mp all.chunkOrdinal,
      ofChunk, interventionIds.mp all.interventionId, ofIntervention,
      evidenceIds.mp all.evidenceId, cites.mp all.evidenceUnique, citing, citesDocument,
      citesChunk⟩
  · intro own
    have unique := documentIds.mpr own.documentId
    have named : ∀ {organizationId id}, HasDocument t organizationId id →
        id ∈ t.documents.map Document.id := by
      rintro organizationId id ⟨d, stored, same, -⟩
      exact same ▸ List.mem_map_of_mem stored
    refine ⟨unique, objectKeys.mpr own.objectKey, chunkIds.mpr own.chunkId,
      (nodup_slice_iff (ordinals unique) chunks s.wf.chunkOrdinal).mpr own.chunkOrdinal,
      fun c member => named (after.chunk c member), interventionIds.mpr own.interventionId,
      fun i member d asked => named (after.intervention i member d asked),
      evidenceIds.mpr own.evidenceId, cites.mpr own.evidenceUnique, fun e member => ?_,
      fun e member => named (after.evidence e member).document, fun e member => ?_⟩
    · obtain ⟨i, stored, same, -⟩ := (after.evidence e member).intervention
      exact same ▸ List.mem_map_of_mem stored
    · obtain ⟨c, stored, same, -, -⟩ := (after.evidence e member).chunk
      exact same ▸ List.mem_map_of_mem stored

theorem catalogueSave_alone {β : Type} {s t : CatalogueStore} {s' t' : CatalogueTables}
    (before : t.toCatalogueTables = catalogueSlice k s.toCatalogueTables)
    (new : t' = catalogueSlice k s') (taken : s'.Constraints ↔ t'.Constraints) (ing : Ingestion)
    (texts : List String) (answer : Except Refusal β) :
    (t.save ing texts t' answer).1.toCatalogueTables =
        catalogueSlice k (s.save ing texts s' answer).1.toCatalogueTables ∧
      (t.save ing texts t' answer).2 = (s.save ing texts s' answer).2 := by
  unfold CatalogueStore.save
  by_cases valid : s'.Constraints ∧ texts.all ing.storable = true
  · rw [dif_pos valid, dif_pos ⟨taken.mp valid.1, valid.2⟩]
    exact ⟨new, rfl⟩
  · rw [dif_neg valid, dif_neg fun other => valid ⟨taken.mpr other.1, other.2⟩]
    exact ⟨before, rfl⟩

/-! ## Requests -/

/-- Each object key was made for its document. -/
def KeysMade (t : CatalogueTables) : Prop :=
  ∀ d ∈ t.documents, ∃ filename, d.s3Key = s3ObjectKey d.organizationId d.id filename

theorem s3ObjectKey_organization {o d o' d' : UUID} {filename filename' : String}
    (same : s3ObjectKey o d filename = s3ObjectKey o' d' filename') : o = o' := by
  by_contra differ
  have different : (o, d) ≠ (o', d') := fun pairs => differ (congrArg Prod.fst pairs)
  have keys : normalKey o d filename = normalKey o' d' filename' := by
    rw [normalKey, normalKey, same]
  exact differ ((normalKey_eq_iff different filename filename').mp keys).1

section Requests

variable {ing : Ingestion} {projects : ProjectTables} {s t : CatalogueStore}
  {tenant : TenantContext} (owner : tenant.organizationId = k)
  (before : t.toCatalogueTables = catalogueSlice k s.toCatalogueTables)
  (integrity : CatalogueIntegrity projects s.toCatalogueTables)

include owner before integrity

/-- New rows of the tenant. -/
theorem rows_alone {β : Type} {new : CatalogueTables}
    (writes : Writes ing projects.projects s tenant new) (apart : KeysApart new)
    (others : ∀ j, tenant.organizationId ≠ j →
      catalogueSlice j new = catalogueSlice j s.toCatalogueTables)
    (texts : List String) (answer : Except Refusal β) :
    (t.save ing texts (catalogueSlice k new) answer).1.toCatalogueTables =
        catalogueSlice k (s.save ing texts new answer).1.toCatalogueTables ∧
      (t.save ing texts (catalogueSlice k new) answer).2 = (s.save ing texts new answer).2 :=
  catalogueSave_alone before rfl (catalogueConstraints_iff
    (catalogueIntegrity_writes writes integrity) apart fun j differ =>
      others j fun same => differ (same.symm.trans owner)) ing texts answer

theorem createUpload_alone (bucket : Bool) (request : CreateDocumentRequest) {newId : UUID}
    (made : KeysMade s.toCatalogueTables)
    (fresh : ∀ d ∈ s.documents, d.id = newId → d.organizationId = k) :
    (createUpload ing bucket (slice Project.organizationId k projects.projects) t tenant request
        newId).1.toCatalogueTables =
      catalogueSlice k (createUpload ing bucket projects.projects s tenant request
        newId).1.toCatalogueTables ∧
    (createUpload ing bucket (slice Project.organizationId k projects.projects) t tenant request
        newId).2 = (createUpload ing bucket projects.projects s tenant request newId).2 := by
  have found : projectFound (slice Project.organizationId k projects.projects)
      tenant.organizationId request.projectId =
      projectFound projects.projects tenant.organizationId request.projectId := by
    rw [owner]
    exact projectFound_slice _
  unfold createUpload
  rw [found]
  split
  · exact ⟨before, rfl⟩
  split
  · exact ⟨before, rfl⟩
  split
  · exact ⟨before, rfl⟩
  split
  · exact ⟨before, rfl⟩
  rename_i known
  have own : (newDocument tenant request newId).organizationId = k := owner
  have new : { t.toCatalogueTables with
      documents := t.documents ++ [newDocument tenant request newId] } =
      catalogueSlice k { s.toCatalogueTables with
        documents := s.documents ++ [newDocument tenant request newId] } := by
    rw [before]
    simp only [catalogueSlice, slice_concat own]
  have apart : KeysApart { s.toCatalogueTables with
      documents := s.documents ++ [newDocument tenant request newId] } :=
    { keysApart s with
      documentIds := apart_concat s.wf.documentId own fresh
      objectKeys := apart_concat s.wf.objectKey own fun d member same => by
        obtain ⟨filename, key⟩ := made d member
        exact (s3ObjectKey_organization (key.symm.trans same)).trans owner }
  dsimp only
  rw [new]
  refine rows_alone owner before integrity (.uploaded (by simpa using known)) apart
    (fun j other => ?_) _ _
  have documents : slice Document.organizationId j
      (s.documents ++ [newDocument tenant request newId]) =
      slice Document.organizationId j s.documents := slice_concat_other other
  simp only [catalogueSlice, documents]

omit integrity in
theorem documentFound_slice (id : Option UUID) :
    t.documentFound tenant.organizationId id = s.documentFound tenant.organizationId id := by
  cases id with
  | none => rfl
  | some id =>
    rw [CatalogueTables.documentFound, CatalogueTables.documentFound, before, owner]
    rw [CatalogueTables.document, catalogueSlice, find_slice s.wf.documentId]
    change ((s.document id).filter _).any _ = (s.document id).any _
    cases s.document id with
    | none => rfl
    | some d => by_cases mine : d.organizationId = k <;> simp [Option.filter, mine]

theorem createIntervention_alone (request : InterventionRequest) {newId : UUID}
    (fresh : ∀ i ∈ s.interventions, i.id = newId → i.organizationId = k) :
    (createIntervention ing t tenant request newId).1.toCatalogueTables =
      catalogueSlice k (createIntervention ing s tenant request newId).1.toCatalogueTables ∧
    (createIntervention ing t tenant request newId).2 =
      (createIntervention ing s tenant request newId).2 := by
  unfold createIntervention
  rw [documentFound_slice owner before request.evidenceDocumentId]
  split
  · exact ⟨before, rfl⟩
  split
  · exact ⟨before, rfl⟩
  split
  · exact ⟨before, rfl⟩
  rename_i known
  have own : (newIntervention tenant request newId).organizationId = k := owner
  have new : { t.toCatalogueTables with
      interventions := t.interventions ++ [newIntervention tenant request newId] } =
      catalogueSlice k { s.toCatalogueTables with
        interventions := s.interventions ++ [newIntervention tenant request newId] } := by
    rw [before]
    simp only [catalogueSlice, slice_concat own]
  rw [new]
  refine rows_alone owner before integrity (.intervention (by simpa using known))
    { keysApart s with interventionIds := apart_concat s.wf.interventionId own fresh }
    (fun j other => ?_) _ _
  have interventions : slice Intervention.organizationId j
      (s.interventions ++ [newIntervention tenant request newId]) =
      slice Intervention.organizationId j s.interventions := slice_concat_other other
  simp only [catalogueSlice, interventions]

omit integrity in
theorem sourceFound_slice (interventionId : UUID) (request : EvidenceRequest) :
    t.sourceFound tenant.organizationId interventionId request =
      s.sourceFound tenant.organizationId interventionId request := by
  have intervention : find Intervention.id interventionId
      (slice Intervention.organizationId k s.interventions) =
      (find Intervention.id interventionId s.interventions).filter fun i =>
        i.organizationId = k := find_slice s.wf.interventionId interventionId
  have document : find Document.id request.documentId
      (slice Document.organizationId k s.documents) =
      (find Document.id request.documentId s.documents).filter fun d => d.organizationId = k :=
    find_slice s.wf.documentId request.documentId
  have chunk : find DocumentChunk.id request.chunkId
      (slice DocumentChunk.organizationId k s.chunks) =
      (find DocumentChunk.id request.chunkId s.chunks).filter fun c => c.organizationId = k :=
    find_slice s.wf.chunkId request.chunkId
  unfold CatalogueTables.sourceFound CatalogueTables.document
  rw [before, owner]
  dsimp only [catalogueSlice]
  rw [intervention, document, chunk]
  cases find Intervention.id interventionId s.interventions with
  | none => rfl
  | some i =>
    cases find Document.id request.documentId s.documents with
    | none => by_cases ofTenant : i.organizationId = k <;> simp [Option.filter, ofTenant]
    | some d =>
      cases find DocumentChunk.id request.chunkId s.chunks with
      | none =>
        by_cases ofTenant : i.organizationId = k <;> by_cases mine : d.organizationId = k <;>
          simp [Option.filter, ofTenant, mine]
      | some c =>
        by_cases ofTenant : i.organizationId = k <;> by_cases mine : d.organizationId = k <;>
          by_cases own : c.organizationId = k <;> simp [Option.filter, ofTenant, mine, own]

theorem addEvidence_alone (interventionId : UUID) (request : EvidenceRequest) {newId : UUID}
    (now : Instant) (fresh : ∀ e ∈ s.evidence, e.id = newId → e.organizationId = k) :
    (addEvidence ing t tenant interventionId request newId now).1.toCatalogueTables =
      catalogueSlice k
        (addEvidence ing s tenant interventionId request newId now).1.toCatalogueTables ∧
    (addEvidence ing t tenant interventionId request newId now).2 =
      (addEvidence ing s tenant interventionId request newId now).2 := by
  unfold addEvidence
  rw [sourceFound_slice owner before interventionId request]
  split
  · exact ⟨before, rfl⟩
  split
  · exact ⟨before, rfl⟩
  split
  · exact ⟨before, rfl⟩
  rename_i known
  have own : (newEvidence tenant interventionId request newId now).organizationId = k := owner
  have new : { t.toCatalogueTables with
      evidence := t.evidence ++ [newEvidence tenant interventionId request newId now] } =
      catalogueSlice k { s.toCatalogueTables with
        evidence := s.evidence ++ [newEvidence tenant interventionId request newId now] } := by
    rw [before]
    simp only [catalogueSlice, slice_concat own]
  rw [new]
  refine rows_alone owner before integrity (.evidence (by simpa using known))
    { keysApart s with evidenceIds := apart_concat s.wf.evidenceId own fresh }
    (fun j other => ?_) _ _
  have evidence : slice InterventionEvidence.organizationId j
      (s.evidence ++ [newEvidence tenant interventionId request newId now]) =
      slice InterventionEvidence.organizationId j s.evidence := slice_concat_other other
  simp only [catalogueSlice, evidence]

theorem removeEvidence_alone (interventionId evidenceId : UUID) :
    (removeEvidence ing t tenant interventionId evidenceId).1.toCatalogueTables =
      catalogueSlice k
        (removeEvidence ing s tenant interventionId evidenceId).1.toCatalogueTables ∧
    (removeEvidence ing t tenant interventionId evidenceId).2 =
      (removeEvidence ing s tenant interventionId evidenceId).2 := by
  have looked : find InterventionEvidence.id evidenceId t.evidence =
      (find InterventionEvidence.id evidenceId s.evidence).filter fun e =>
        e.organizationId = k := by
    rw [before]
    exact find_slice s.wf.evidenceId evidenceId
  unfold removeEvidence
  rw [looked]
  split
  · exact ⟨before, rfl⟩
  cases found : find InterventionEvidence.id evidenceId s.evidence with
  | none => exact ⟨before, rfl⟩
  | some e =>
    by_cases mine : e.organizationId = k
    · rw [Option.filter_some, if_pos (decide_eq_true mine)]
      dsimp only
      split
      · exact ⟨before, rfl⟩
      have new : { t.toCatalogueTables with
          evidence := t.evidence.filter fun x => x.id ≠ evidenceId } =
          catalogueSlice k { s.toCatalogueTables with
            evidence := s.evidence.filter fun x => x.id ≠ evidenceId } := by
        rw [before]
        simp only [catalogueSlice, slice_filter]
      have apart : KeysApart { s.toCatalogueTables with
          evidence := s.evidence.filter fun x => x.id ≠ evidenceId } :=
        { keysApart s with
          evidenceIds := apart_of_nodup (s.wf.evidenceId.sublist (List.filter_sublist.map _)) }
      rw [new]
      refine rows_alone owner before integrity (.removed evidenceId) apart (fun j other => ?_) _ _
      have evidence : slice InterventionEvidence.organizationId j
          (s.evidence.filter fun x => x.id ≠ evidenceId) =
          slice InterventionEvidence.organizationId j s.evidence := by
        refine slice_kept fun x member ofOther => decide_eq_true fun same => other ?_
        have twin : x = e := List.inj_on_of_nodup_map s.wf.evidenceId member (find_some found).1
          (same.trans (find_some found).2.symm)
        rw [← ofOther, twin, mine, owner]
      simp only [catalogueSlice, evidence]
    · rw [Option.filter_some, if_neg (by simpa using mine)]
      dsimp only
      rw [if_pos (.inr (owner ▸ mine))]
      exact ⟨before, rfl⟩

omit owner integrity in
theorem document_slice (id : UUID) :
    t.document id = (s.document id).filter fun d => d.organizationId = k := by
  rw [CatalogueTables.document, before]
  exact find_slice s.wf.documentId id

omit integrity in
/-- A document of the tenant is written back. -/
theorem update_alone {document : Document} (changed : Document)
    (stored : s.document document.id = some document)
    (mine : document.organizationId = tenant.organizationId)
    (keys : documentKeys changed = documentKeys document) :
    slice Document.organizationId k (update Document.id changed s.documents) =
      update Document.id changed t.documents := by
  have id : changed.id = document.id := congrArg Prod.fst keys
  have organization : changed.organizationId = document.organizationId :=
    congrArg (fun columns => columns.2.1) keys
  rw [before]
  refine slice_update (organization.trans (mine.trans owner)) fun r member same => ?_
  have twin : r = document := List.inj_on_of_nodup_map s.wf.documentId member
    (find_some stored).1 (same.trans id)
  rw [twin, mine, owner]

/-- The evidence that finalising deletes cites chunks of the tenant. -/
theorem finalizedTables_alone {document : Document} (stored : s.document document.id = some document)
    (mine : document.organizationId = tenant.organizationId) (content : Bytes)
    (chunks : List PageText) (newIds : Nat → UUID) :
    finalizedTables ing t.toCatalogueTables document content chunks newIds =
      catalogueSlice k (finalizedTables ing s.toCatalogueTables document content chunks newIds) := by
  have documents := update_alone owner before
    (finalizedDocument ing document content chunks) stored mine rfl
  have added : ∀ c ∈ chunks.zipIdx.map (newChunk ing document newIds), c.organizationId = k := by
    intro c member
    obtain ⟨chunk, -, rfl⟩ := List.mem_map.mp member
    exact mine.trans owner
  have cited : ∀ e : InterventionEvidence,
      (t.chunks.any fun c => c.id = e.chunkId && c.documentId = document.id) =
        s.chunks.any fun c => c.id = e.chunkId && c.documentId = document.id := by
    intro e
    rw [before]
    refine any_slice fun c member kept => ?_
    have same : c.documentId = document.id := of_decide_eq_true (Bool.and_eq_true_iff.mp kept).2
    obtain ⟨d, inTable, id, organization⟩ := integrity.chunk c member
    have twin : d = document := List.inj_on_of_nodup_map s.wf.documentId inTable
      (find_some stored).1 (id.trans same)
    rw [← organization, twin, mine, owner]
  simp only [catalogueSlice, finalizedTables, documents, cited, slice_added added, slice_filter]
  rw [before]
  rfl

omit owner before integrity in
/-- Writing a document back leaves the keys of all documents. -/
theorem keysApart_update {document : Document} (changed : Document)
    (stored : s.document document.id = some document) (id : changed.id = document.id)
    (key : changed.s3Key = document.s3Key) : KeysApart { s.toCatalogueTables with
      documents := update Document.id changed s.documents } := by
  have keys : (update Document.id changed s.documents).map Document.s3Key =
      s.documents.map Document.s3Key := by
    refine map_update_of_eq fun r member same => ?_
    have twin : r = document := List.inj_on_of_nodup_map s.wf.documentId member
      (find_some stored).1 (same.trans id)
    rw [key, twin]
  exact { keysApart s with
    documentIds := apart_of_nodup (by rw [map_update]; exact s.wf.documentId)
    objectKeys := apart_of_nodup (by rw [keys]; exact s.wf.objectKey) }

theorem markFailed_alone {document : Document} (stored : s.document document.id = some document)
    (mine : document.organizationId = tenant.organizationId) (error : Refusal) :
    (t.markFailed ing document error).1.toCatalogueTables =
        catalogueSlice k (s.markFailed ing document error).1.toCatalogueTables ∧
      (t.markFailed ing document error).2 = (s.markFailed ing document error).2 := by
  have documents := update_alone owner before { document with status := .failed } stored mine
    rfl
  have new : { t.toCatalogueTables with
      documents := update Document.id { document with status := .failed } t.documents } =
      catalogueSlice k { s.toCatalogueTables with
        documents := update Document.id { document with status := .failed } s.documents } := by
    simp only [catalogueSlice, documents]
    rw [before]
    rfl
  unfold CatalogueStore.markFailed
  rw [new]
  exact rows_alone owner before integrity (.failed stored mine) (keysApart_update _ stored rfl rfl)
    (fun j other => failedTables_other other stored mine) _ _

theorem finalizeContent_alone {document : Document}
    (stored : s.document document.id = some document)
    (mine : document.organizationId = tenant.organizationId) (content : Bytes)
    {newIds : Nat → UUID}
    (fresh : ∀ c ∈ s.chunks, ∀ n, c.id = newIds n → c.organizationId = k) :
    (finalizeContent ing t tenant document content newIds).1.toCatalogueTables =
        catalogueSlice k (finalizeContent ing s tenant document content newIds).1.toCatalogueTables ∧
      (finalizeContent ing t tenant document content newIds).2 =
        (finalizeContent ing s tenant document content newIds).2 := by
  unfold finalizeContent
  cases valid : validatedChunks ing tenant document content with
  | error text => exact markFailed_alone owner before integrity stored mine _
  | ok chunks =>
    dsimp only
    rw [finalizedTables_alone owner before integrity stored mine]
    have kept : ((s.chunks.filter fun c => c.documentId ≠ document.id).map
        DocumentChunk.id).Nodup := s.wf.chunkId.sublist (List.filter_sublist.map _)
    have updated := keysApart_update (finalizedDocument ing document content chunks)
      stored rfl rfl
    have apart : KeysApart
        (finalizedTables ing s.toCatalogueTables document content chunks newIds) :=
      { updated with
        chunkIds := by
          refine apart_added kept (k := k) (fun c member => ?_) fun c member c' member' same => ?_
          · obtain ⟨chunk, -, rfl⟩ := List.mem_map.mp member
            exact mine.trans owner
          · obtain ⟨chunk, -, rfl⟩ := List.mem_map.mp member'
            exact fresh c (List.mem_of_mem_filter member) _ same
        interventionIds := updated.interventionIds
        evidenceIds := apart_of_nodup (s.wf.evidenceId.sublist (List.filter_sublist.map _)) }
    -- the texts are checked on both sides, so only tables that the database may take count
    by_cases storable : (chunks.map Prod.snd).all ing.storable = true
    · exact rows_alone owner before integrity (.finalized stored mine valid storable) apart
        (fun j other => finalizedTables_other other integrity stored mine content chunks newIds) _ _
    · have refused : ∀ (u : CatalogueStore) (new : CatalogueTables)
          (answer : Except Refusal FinalizeOut),
          u.save ing (chunks.map Prod.snd) new answer = (u, .error .database) :=
        fun u new answer => dif_neg fun valid => storable valid.2
      rw [refused, refused]
      exact ⟨before, rfl⟩

theorem finalize_alone (documentId : UUID) (request : FinalizeDocumentRequest) (env : FinalizeEnv)
    (fresh : ∀ c ∈ s.chunks, ∀ n, c.id = env.newIds n → c.organizationId = k) :
    (finalize ing t tenant documentId request env).1.toCatalogueTables =
        catalogueSlice k (finalize ing s tenant documentId request env).1.toCatalogueTables ∧
      (finalize ing t tenant documentId request env).2 =
        (finalize ing s tenant documentId request env).2 := by
  unfold finalize
  rw [document_slice before documentId]
  split
  · exact ⟨before, rfl⟩
  split
  · exact ⟨before, rfl⟩
  cases found : s.document documentId with
  | none => exact ⟨before, rfl⟩
  | some document =>
    by_cases mine : document.organizationId = tenant.organizationId
    · have stored : s.document document.id = some document := (find_some found).2 ▸ found
      rw [Option.filter_some, if_pos (decide_eq_true (mine.trans owner))]
      dsimp only
      rw [if_neg (not_not.mpr mine), if_neg (not_not.mpr mine)]
      cases request.text with
      | some text => exact finalizeContent_alone owner before integrity stored mine _ fresh
      | none =>
        dsimp only
        split
        · exact ⟨before, rfl⟩
        cases env.fetched with
        | none => exact markFailed_alone owner before integrity stored mine _
        | some content => exact finalizeContent_alone owner before integrity stored mine _ fresh
    · rw [Option.filter_some, if_neg (by simpa using fun same => mine (same.trans owner.symm))]
      dsimp only
      rw [if_pos mine]
      exact ⟨before, rfl⟩

end Requests

end Alone

end CoolProof.Workspaces
