import CoolProof.Catalogue

/-! Projects and their zones, and the requests that create them. Rows are added and never
changed, so whatever refers to one goes on referring to the same. -/

namespace CoolProof.Projects
open Calendar JsonDocument Uuid Models Tables Documents

/-! ## Tables -/

/-- The audit events are those of the requests below. -/
structure ProjectTables where
  projects : List Project
  zones : List Zone
  audits : List AuditEvent

/-- Primary keys, unique constraints and the foreign key of a zone. -/
structure ProjectTables.Constraints (t : ProjectTables) : Prop where
  projectId : (t.projects.map Project.id).Nodup
  projectName : (t.projects.map fun p => (p.organizationId, p.name)).Nodup
  zoneId : (t.zones.map Zone.id).Nodup
  zoneName : (t.zones.map fun z => (z.projectId, z.name)).Nodup
  zoneProject : ∀ z ∈ t.zones, z.projectId ∈ t.projects.map Project.id

theorem ProjectTables.constraints_iff (t : ProjectTables) : t.Constraints ↔
    (t.projects.map Project.id).Nodup ∧
    (t.projects.map fun p => (p.organizationId, p.name)).Nodup ∧
    (t.zones.map Zone.id).Nodup ∧ (t.zones.map fun z => (z.projectId, z.name)).Nodup ∧
    ∀ z ∈ t.zones, z.projectId ∈ t.projects.map Project.id :=
  ⟨fun ⟨a, b, c, d, e⟩ => ⟨a, b, c, d, e⟩, fun ⟨a, b, c, d, e⟩ => ⟨a, b, c, d, e⟩⟩

instance (t : ProjectTables) : Decidable t.Constraints :=
  decidable_of_iff _ t.constraints_iff.symm

structure ProjectStore extends ProjectTables where
  wf : toProjectTables.Constraints

def ProjectStore.empty : ProjectStore where
  projects := []
  zones := []
  audits := []
  wf := by
    constructor <;> simp

/-- A commit of new tables with the texts that are new in them. -/
def ProjectStore.save {β : Type} (s : ProjectStore) (ing : Ingestion) (texts : List String)
    (t : ProjectTables) (answer : Except Refusal β) : ProjectStore × Except Refusal β :=
  if wf : t.Constraints ∧ texts.all ing.storable = true then (⟨t, wf.1⟩, answer)
  else (s, .error .database)

/-! ## Requests -/

/-- `record_audit_event` by a tenant's user. -/
def auditEvent (tenant : TenantContext) (eventType resourceType : String) (resourceId : UUID)
    (metadata : Dict) (now : Instant) : AuditEvent where
  organizationId := tenant.organizationId
  actorUserId := some tenant.userId
  eventType := eventType
  resourceType := resourceType
  resourceId := Uuid.toString resourceId
  metadata := metadata
  occurredAt := now

/-- The description is checked; no other request reads it. -/
structure ProjectCreate where
  name : String
  description : Option String

def ProjectCreate.validBody (body : ProjectCreate) : Bool :=
  (1 ≤ body.name.length && body.name.length ≤ 200) && (body.description.getD "").length ≤ 2000

structure ZoneCreate where
  name : String
  geometry : Dict

def ZoneCreate.validBody (body : ZoneCreate) : Bool :=
  1 ≤ body.name.length && body.name.length ≤ 200

def newProject (tenant : TenantContext) (body : ProjectCreate) (id : UUID) : Project :=
  ⟨id, tenant.organizationId, body.name, body.description⟩

def newZone (tenant : TenantContext) (projectId : UUID) (body : ZoneCreate) (id : UUID) : Zone :=
  ⟨id, tenant.organizationId, projectId, body.name, body.geometry⟩

def withProject (t : ProjectTables) (tenant : TenantContext) (body : ProjectCreate)
    (newId : UUID) (now : Instant) : ProjectTables :=
  { t with
    projects := t.projects ++ [newProject tenant body newId]
    audits := t.audits ++ [auditEvent tenant "project.created" "project" newId [] now] }

def withZone (t : ProjectTables) (tenant : TenantContext) (projectId : UUID) (body : ZoneCreate)
    (newId : UUID) (now : Instant) : ProjectTables :=
  { t with
    zones := t.zones ++ [newZone tenant projectId body newId]
    audits := t.audits ++ [auditEvent tenant "zone.created" "zone" newId
      [("project_id", .str (Uuid.toString projectId))] now] }

/-- `create_project` -/
def createProject (ing : Ingestion) (s : ProjectStore) (tenant : TenantContext)
    (body : ProjectCreate) (newId : UUID) (now : Instant) : ProjectStore × Except Refusal UUID :=
  if !mayWrite tenant then (s, .error insufficientRole)
  else if !body.validBody then (s, .error .invalidBody)
  else s.save ing (body.name :: body.description.toList)
    (withProject s.toProjectTables tenant body newId now) (.ok newId)

/-- `create_zone` -/
def createZone (ing : Ingestion) (s : ProjectStore) (tenant : TenantContext) (projectId : UUID)
    (body : ZoneCreate) (newId : UUID) (now : Instant) : ProjectStore × Except Refusal UUID :=
  if !mayWrite tenant then (s, .error insufficientRole)
  else if !body.validBody then (s, .error .invalidBody)
  else if !projectFound s.projects tenant.organizationId (some projectId) then
    (s, .error (.apiError 404 "project_not_found" "Project was not found"))
  else s.save ing [body.name] (withZone s.toProjectTables tenant projectId body newId now)
    (.ok newId)

/-! ## Rows that are referred to -/

/-- The organization has the project. -/
def ProjectTables.HasProject (t : ProjectTables) (organizationId id : UUID) : Prop :=
  ∃ p ∈ t.projects, p.id = id ∧ p.organizationId = organizationId

/-- The organization has the zone, in the project. -/
def ProjectTables.HasZone (t : ProjectTables) (organizationId projectId id : UUID) : Prop :=
  ∃ z ∈ t.zones, z.id = id ∧ z.projectId = projectId ∧ z.organizationId = organizationId

theorem ProjectTables.hasProject_of_found {t : ProjectTables} {organizationId id : UUID}
    {projectId : Option UUID} (found : projectFound t.projects organizationId projectId = true)
    (named : projectId = some id) : t.HasProject organizationId id := by
  rw [named, projectFound, List.any_eq_true] at found
  obtain ⟨p, stored, same⟩ := found
  exact ⟨p, stored, by simpa using same⟩

/-- No row of the first tables is lost or changed in the second. -/
structure ProjectTables.Kept (s t : ProjectTables) : Prop where
  projects : s.projects ⊆ t.projects
  zones : s.zones ⊆ t.zones

theorem ProjectTables.Kept.refl (t : ProjectTables) : t.Kept t := ⟨fun _ => id, fun _ => id⟩

theorem ProjectTables.Kept.project {s t : ProjectTables} (kept : s.Kept t)
    {organizationId id : UUID} (has : s.HasProject organizationId id) :
    t.HasProject organizationId id := by
  obtain ⟨p, stored, same⟩ := has
  exact ⟨p, kept.projects stored, same⟩

theorem ProjectTables.Kept.zone {s t : ProjectTables} (kept : s.Kept t)
    {organizationId projectId id : UUID} (has : s.HasZone organizationId projectId id) :
    t.HasZone organizationId projectId id := by
  obtain ⟨z, stored, same⟩ := has
  exact ⟨z, kept.zones stored, same⟩

/-! ## What a request writes -/

/-- The tables a request of a tenant may commit, with what it checked. -/
inductive ProjectWrites (s : ProjectTables) (tenant : TenantContext) : ProjectTables → Prop where
  | nothing : ProjectWrites s tenant s
  | project {body newId now} : ProjectWrites s tenant (withProject s tenant body newId now)
  | zone {projectId body newId now} : s.HasProject tenant.organizationId projectId →
      ProjectWrites s tenant (withZone s tenant projectId body newId now)

theorem ProjectWrites.save {β : Type} {s : ProjectStore} {tenant : TenantContext}
    {t : ProjectTables} (writes : ProjectWrites s.toProjectTables tenant t) (ing : Ingestion)
    (texts : List String) (answer : Except Refusal β) :
    ProjectWrites s.toProjectTables tenant (s.save ing texts t answer).1.toProjectTables := by
  unfold ProjectStore.save
  split
  · exact writes
  · exact .nothing

theorem createProject_writes (ing : Ingestion) (s : ProjectStore) (tenant : TenantContext)
    (body : ProjectCreate) (newId : UUID) (now : Instant) :
    ProjectWrites s.toProjectTables tenant
      (createProject ing s tenant body newId now).1.toProjectTables := by
  unfold createProject
  split
  · exact .nothing
  split
  · exact .nothing
  · exact ProjectWrites.project.save ing _ _

theorem createZone_writes (ing : Ingestion) (s : ProjectStore) (tenant : TenantContext)
    (projectId : UUID) (body : ZoneCreate) (newId : UUID) (now : Instant) :
    ProjectWrites s.toProjectTables tenant
      (createZone ing s tenant projectId body newId now).1.toProjectTables := by
  unfold createZone
  split
  · exact .nothing
  split
  · exact .nothing
  split
  · exact .nothing
  · rename_i found
    have has := ProjectTables.hasProject_of_found (by simpa using found) rfl
    exact (ProjectWrites.zone has).save ing _ _

theorem ProjectWrites.kept {s t : ProjectTables} {tenant : TenantContext}
    (writes : ProjectWrites s tenant t) : s.Kept t := by
  cases writes with
  | nothing => exact .refl s
  | project => exact ⟨List.subset_append_left _ _, fun _ => id⟩
  | zone has => exact ⟨fun _ => id, List.subset_append_left _ _⟩

end CoolProof.Projects
