import CoolProof.Authentication
import CoolProof.TenantSeparation

/-! Who may change what. Requests arrive with headers, memberships come and go, and the worker
polls; the tables of an organization only change through a poll of one of its analyses or at
the hands of a user who is, at that moment, a member of it in a role that the route admits. -/

namespace CoolProof.Workspaces
open Calendar JsonDocument Uuid Models Tables Slices Documents Projects PortfolioRuns
  VerificationRuns HeatRequests Authentication

/-! ## The site -/

/-- Users with their memberships, and the tables of all organizations. -/
structure Site where
  directory : Directory
  workspace : Workspace

/-- A request with its headers and what `jwt.decode` makes of a token at that time, a poll, or
an operator's change of users and memberships. -/
inductive SiteEvent where
  | http (jwt : Jwt) (headers : AuthHeaders) (request : WorkspaceRequest)
  | poll (id : UUID) (clock : Heat.PollClock) (answer : Except ProviderQuery.Raised Dict)
  | administer (directory : Directory)

/-- `get_tenant_context`, with the principal it depends on. -/
def resolveTenant (dep : Deployment) (settings : Settings) (directory : Directory) (jwt : Jwt)
    (headers : AuthHeaders) : Except Stopped TenantContext :=
  match getPrincipal settings dep.ingestion.casefold jwt headers with
  | .error e => .error e
  | .ok principal => getTenantContext directory principal headers.organizationId

def serveSite (dep : Deployment) (settings : Settings) (site : Site) : SiteEvent → Site
  | .http jwt headers request =>
      match resolveTenant dep settings site.directory jwt headers with
      | .error _ => site
      | .ok tenant => { site with workspace := serveRequest dep site.workspace tenant request }
  | .poll id clock answer =>
      { site with workspace := serveCall dep site.workspace (.poll id clock answer) }
  | .administer directory => { site with directory := directory }

/-- Events one after another, from empty tables. -/
def serveEvents (dep : Deployment) (settings : Settings) (directory : Directory)
    (events : List SiteEvent) : Site :=
  events.foldl (serveSite dep settings) ⟨directory, Workspace.empty⟩

/-! ## Roles -/

/-- The roles that the route of a request admits. -/
def WorkspaceRequest.roles : WorkspaceRequest → List Role
  | .approveAgentRun .. => [.manager, .admin]
  | _ => [.analyst, .manager, .admin]

/-- A request in a role that its route does not admit changes nothing. -/
theorem serveRequest_unadmitted (dep : Deployment) (w : Workspace) {tenant : TenantContext}
    {request : WorkspaceRequest} (refused : tenant.role ∉ request.roles) :
    serveRequest dep w tenant request = w := by
  have denied : tenant.role ∉ [Role.analyst, .manager, .admin] → (!mayWrite tenant) = true := by
    intro role
    rw [mayWrite, Bool.not_eq_true', ← Bool.not_eq_true, List.contains_iff_mem]
    exact role
  cases request with
  | createProject body newId now =>
    rw [serveRequest, createProject, if_pos (denied refused)]
  | createZone projectId body newId now =>
    rw [serveRequest, createZone, if_pos (denied refused)]
  | createHeatAnalysis body env now =>
    rw [serveRequest, createHeatAnalysis, if_pos (denied refused)]
  | catalogue request =>
    cases request with
    | createUpload bucket request newId =>
      rw [serveRequest, serveCatalogue, createUpload, if_pos (denied refused)]
    | finalize documentId request env =>
      rw [serveRequest, serveCatalogue, finalize, if_pos (denied refused)]
    | createIntervention request newId =>
      rw [serveRequest, serveCatalogue, createIntervention, if_pos (denied refused)]
    | addEvidence interventionId request newId now =>
      rw [serveRequest, serveCatalogue, addEvidence, if_pos (denied refused)]
    | removeEvidence interventionId evidenceId =>
      rw [serveRequest, serveCatalogue, removeEvidence, if_pos (denied refused)]
  | optimize request env =>
    rw [serveRequest, optimize, if_pos (denied refused)]
  | createVerification request newId storage =>
    rw [serveRequest, createVerification, if_pos (denied refused)]
  | createReport verificationId storage =>
    rw [serveRequest, createReport, if_pos (denied refused)]
  | createReportAlias verificationId storage =>
    rw [serveRequest, createReportAlias, if_pos (denied refused)]
  | startAgentRun projectId inputData newId threadId now provider =>
    have role : (startRequest tenant projectId inputData newId threadId).role ∉
        [Role.analyst, .manager, .admin] := refused
    rw [serveRequest, Agents.startAgentRun, Agents.startWith, if_pos role]
  | approveAgentRun runId decision comment decidedAt now provider =>
    have role : (approvalRequest tenant runId decision comment).reviewerRole ∉
        [Role.manager, .admin] := refused
    rw [serveRequest, Agents.approveAgentRun, Agents.approveWith, if_pos role]

/-! ## Changes -/

/-- The event has a claim on the organization: a poll of one of its analyses, or a request of an
identified user who is a member, in a role that the route admits, and who asks for this
organization. -/
def Entitled (settings : Settings) (k : UUID) (site : Site) : SiteEvent → Prop
  | .http jwt headers request => headers.organizationId = some (some k) ∧ ∃ tenant subject,
      Identified settings jwt headers subject ∧
      Member site.directory.toDirectoryTables subject tenant ∧
      tenant.organizationId = k ∧ tenant.role ∈ request.roles
  | .poll id _ _ => ∃ a, site.workspace.heat.analysis id = some a ∧ a.organizationId = k
  | .administer _ => False

section Change

variable {dep : Deployment} {settings : Settings} {site : Site}

theorem resolveTenant_ok {jwt : Jwt} {headers : AuthHeaders} {tenant : TenantContext}
    (accepted : resolveTenant dep settings site.directory jwt headers = .ok tenant) :
    headers.organizationId = some (some tenant.organizationId) ∧ ∃ subject,
      Identified settings jwt headers subject ∧
      Member site.directory.toDirectoryTables subject tenant := by
  unfold resolveTenant at accepted
  split at accepted
  · cases accepted
  · rename_i principal named
    obtain ⟨asked, member, -⟩ := (getTenantContext_ok_iff _ _ _ _).mp accepted
    exact ⟨asked, principal.subject, identified_of_getPrincipal named, member⟩

theorem serveSite_integrity (event : SiteEvent) (integrity : Integrity site.workspace) :
    Integrity (serveSite dep settings site event).workspace := by
  cases event with
  | http jwt headers request =>
    dsimp only [serveSite]
    split
    · exact integrity
    · exact serveRequest_integrity dep _ request integrity
  | poll id clock answer => exact serveCall_integrity dep (.poll id clock answer) integrity
  | administer directory => exact integrity

/-- An event without a claim leaves the organization's rows. -/
theorem serveSite_untouched {k : UUID} {event : SiteEvent} (integrity : Integrity site.workspace)
    (without : ¬Entitled settings k site event) :
    (serveSite dep settings site event).workspace.slice k = site.workspace.slice k := by
  cases event with
  | http jwt headers request =>
    dsimp only [serveSite]
    split
    · rfl
    rename_i tenant accepted
    obtain ⟨asked, subject, identified, member⟩ := resolveTenant_ok accepted
    by_cases here : tenant.organizationId = k
    · rw [serveRequest_unadmitted dep _ fun admitted => without
        ⟨here ▸ asked, tenant, subject, identified, member, here, admitted⟩]
    · exact serveRequest_other dep integrity request here
  | poll id clock answer =>
    refine serveCall_other dep integrity (.poll id clock answer) fun same => without ?_
    obtain ⟨a, stored, owner⟩ := Option.map_eq_some_iff.mp same
    exact ⟨a, stored, owner⟩
  | administer directory => rfl

theorem serveEvents_integrity (dep : Deployment) (settings : Settings) (directory : Directory)
    (events : List SiteEvent) : Integrity (serveEvents dep settings directory events).workspace := by
  induction events using List.reverseRecOn with
  | nil => exact integrity_empty
  | append_singleton events event ih =>
    rw [serveEvents, List.foldl_append]
    exact serveSite_integrity event ih

end Change

/-- Whatever is different about an organization's rows since some point, an event with a claim on
the organization, at the time it came, has happened since. -/
theorem changed_by_entitled (dep : Deployment) (settings : Settings) (directory : Directory)
    (k : UUID) (events more : List SiteEvent)
    (changed : (serveEvents dep settings directory (events ++ more)).workspace.slice k ≠
      (serveEvents dep settings directory events).workspace.slice k) :
    ∃ before event after, more = before ++ event :: after ∧
      Entitled settings k (serveEvents dep settings directory (events ++ before)) event := by
  have split : ∀ rest, serveEvents dep settings directory (events ++ rest) =
      rest.foldl (serveSite dep settings) (serveEvents dep settings directory events) :=
    fun rest => List.foldl_append
  rw [split] at changed
  obtain ⟨before, event, after, rfl, kept, since⟩ := Runs.foldl_began
    (p := fun site : Site => site.workspace.slice k ≠
      (serveEvents dep settings directory events).workspace.slice k) more (fun differ => differ rfl)
    changed
  refine ⟨before, event, after, rfl, ?_⟩
  by_contra without
  have differs := since [] List.nil_prefix
  rw [List.foldl_append] at differs
  refine differs (Eq.trans ?_ (not_not.mp kept))
  rw [split] at without
  refine serveSite_untouched ?_ without
  rw [← split]
  exact serveEvents_integrity dep settings directory (events ++ before)

/-- One organization, whose analyst signs in through Cognito. -/
def cityDirectory : Directory where
  organizations := [⟨1, "City"⟩]
  users := [⟨10, "ana", none⟩]
  memberships := [⟨1, 10, .analyst⟩]
  wf := by constructor <;> decide

def deployedSettings : Settings :=
  ⟨" Production", none, none, none, some "https://issuer/", none, none, true⟩

/-- Any token is taken for the analyst's. -/
def analystToken : Jwt :=
  ⟨fun _ _ _ _ => .ok ⟨some "ana", [("token_use", .str "access")]⟩⟩

def analystHeaders : AuthHeaders := ⟨some "Bearer token", some "admin", some "admin", some (some 1)⟩

def analystRequest : SiteEvent :=
  .http analystToken analystHeaders (.createProject ⟨"Riverside", none⟩ 11 0)

theorem changed_by_entitled_analyst : ∃ before event after,
    [analystRequest] = before ++ event :: after ∧
      Entitled deployedSettings 1
        (serveEvents plainDeployment deployedSettings cityDirectory ([] ++ before)) event :=
  changed_by_entitled plainDeployment deployedSettings cityDirectory 1 [] [analystRequest]
    fun same => absurd (congrArg (fun t => t.projects.projects.length) same) (by decide +kernel)

end CoolProof.Workspaces
