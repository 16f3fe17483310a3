import CoolProof.HeatHistory
import CoolProof.PersistedReferences

/-! Heat analyses and the projects they are handed out to. A row is cached per
organization and provider query, and carries the project and zone of the submission that
last bought it; grounding reads it for one project only. -/

namespace CoolProof.Heat
open Calendar JsonDocument Uuid Models ProviderQuery Tables Runs

/-! ## Requests of one organization -/

structure HeatAnalysisCreate where
  projectId : UUID
  zoneId : UUID
  parameters : Dict

/-- `_zone` -/
def findZone (projects : List Project) (zones : List Zone) (organizationId : UUID)
    (body : HeatAnalysisCreate) : Option Zone :=
  let project := projects.find? fun p =>
    p.id = body.projectId && p.organizationId = organizationId
  let zone := zones.find? fun z => z.id = body.zoneId &&
    (z.projectId = body.projectId && z.organizationId = organizationId)
  if project.isSome then zone else none

/-- The submission `create_heat_analysis` makes for a validated zone. -/
def createRequest (organizationId : UUID) (body : HeatAnalysisCreate) (zone : Zone) :
    SubmitRequest :=
  ⟨organizationId, body.projectId, body.zoneId, requestPayload zone.geometry body.parameters⟩

/-- An analysis as it was returned, with the project and zone it was asked for. -/
structure HandedOut where
  projectId : UUID
  zoneId : UUID
  analysis : HeatAnalysis
deriving DecidableEq

def SubmitOutcome.handedOut (projectId zoneId : UUID) : SubmitOutcome → List HandedOut
  | .returned analysis _ => [⟨projectId, zoneId, analysis⟩]
  | _ => []

/-- The organization, its projects and its zones. -/
structure Tenant where
  organizationId : UUID
  projects : List Project
  zones : List Zone

inductive ScopeOp where
  | create (body : HeatAnalysisCreate) (env : SubmitEnv)
  | poll (id : UUID) (clock : PollClock) (answer : Except Raised Dict)

/-- The store and what has been handed out so far. -/
structure ScopeState where
  store : HeatStore
  handedOut : List HandedOut

def scopeNext (svc : HeatService) (tenant : Tenant) (op : ScopeOp) (c : ScopeState) :
    ScopeState :=
  match op with
  | .create body env =>
      match findZone tenant.projects tenant.zones tenant.organizationId body with
      | some zone =>
          let submitted := submit svc (createRequest tenant.organizationId body zone) env c.store
          ⟨submitted.store,
            c.handedOut ++ submitted.outcome.handedOut body.projectId body.zoneId⟩
      | none => c
  | .poll id clock answer => ⟨poll svc id clock answer c.store, c.handedOut⟩

/-- Grounding a run of the project on the analysis meets no project mismatch. -/
def Usable (s : HeatStore) (organizationId projectId id : UUID) : Prop :=
  ∀ (t : Grounding.GroundingTables) (now : Instant), t.heatAnalyses = s.analyses →
    Grounding.resolveHeat t organizationId (some projectId) [Grounding.uuidText id] now ≠
      .error ⟨"heat_analysis_project_mismatch"⟩

/-- Everything handed out was for the project and zone it was asked for, and is still of
use to that project. -/
def InScope (tenant : Tenant) (c : ScopeState) : Prop :=
  ∀ h ∈ c.handedOut, h.analysis.projectId = h.projectId ∧ h.analysis.zoneId = h.zoneId ∧
    Usable c.store tenant.organizationId h.projectId h.analysis.id

/-! ## Usable analyses -/

theorem selectHeat_id {s : HeatStore} {t : Grounding.GroundingTables}
    (tables : t.heatAnalyses = s.analyses) (organizationId projectId id : UUID) :
    Grounding.selectHeat t organizationId (some projectId) (some id) =
      (s.analysis id).filter fun a => a.organizationId = organizationId := by
  have keyed : ∀ a ∈ s.analyses, (decide (a.organizationId = organizationId) &&
      Grounding.requested (some id) (some projectId) a.id (some a.projectId)) = true →
      a.id = id := by simp [Grounding.requested]
  unfold Grounding.selectHeat
  rw [tables, first_key s.wf.analysisId keyed]
  change (s.analysis id).filter _ = _
  cases stored : s.analysis id with
  | none => rfl
  | some a => simp [Option.filter, Grounding.requested, (HeatTables.analysis_mem stored).2]

/-- A stored analysis is of use to the project it carries and to no other. -/
theorem usable_iff (s : HeatStore) (organizationId projectId id : UUID) :
    Usable s organizationId projectId id ↔
      ∀ a, s.analysis id = some a → a.organizationId = organizationId →
        a.projectId = projectId := by
  have resolved : ∀ (t : Grounding.GroundingTables) now, t.heatAnalyses = s.analyses →
      Grounding.resolveHeat t organizationId (some projectId) [Grounding.uuidText id] now =
        Grounding.resolveRow (some id) "heat_analysis_reference_not_found"
          "heat_analysis_project_mismatch" (Grounding.heatMismatch (some projectId))
          (Grounding.heatSummary now)
          ((s.analysis id).filter fun a => a.organizationId = organizationId) := by
    intro t now tables
    have reference : Grounding.firstReference "heat_analysis" [Grounding.uuidText id] =
        .ok (some id) := by
      simp [Grounding.firstReference, Grounding.uuid, Grounding.uuidOf_uuidText, Except.map]
    rw [Grounding.resolveHeat, reference, ← selectHeat_id tables]
    rfl
  constructor
  · intro usable a stored owner
    have fine := usable ⟨[], s.analyses, [], [], [], [], []⟩ 0 rfl
    rw [resolved _ _ rfl, stored] at fine
    by_contra other
    simp [Grounding.resolveRow, Option.filter, owner, Grounding.heatMismatch, other] at fine
  · intro own t now tables
    rw [resolved t now tables]
    cases stored : s.analysis id with
    | none => simp [Grounding.resolveRow]
    | some a =>
      by_cases owner : a.organizationId = organizationId
      · simp [Grounding.resolveRow, Option.filter, owner, Grounding.heatMismatch,
          own a stored owner]
      · simp [Grounding.resolveRow, Option.filter, owner]

/-! ## How a submission ends -/

/-- The commit of a refresh. -/
def refreshTables (req : SubmitRequest) (env : SubmitEnv) (s : HeatStore) (activityId : String)
    (row : HeatAnalysis) : HeatTables :=
  (s.putAnalysis (requeue req activityId row)).putActivity
    (queuedActivity row.id activityId env.dueAt (s.activity row.id))

/-- The stored row is the answer: it is fresh, or stands in for an unavailable provider. -/
def AnswersStored (env : SubmitEnv) (row : HeatAnalysis) : Prop :=
  isFresh row env.now = true ∨
    (∃ exc, env.answer = .error (.fortyGuard exc)) ∧ row.result.isSome = true

/-- The provider accepts a new activity for an expired row, and the commit is admitted. -/
def Refreshes (req : SubmitRequest) (env : SubmitEnv) (s : HeatStore) (row : HeatAnalysis) :
    Prop :=
  isFresh row env.now = false ∧
    ∃ activityId, env.answer = .ok activityId ∧
      (refreshTables req env s activityId row).Constraints

/-- No stored row answers the submission or is refreshed by it. -/
def Unanswered (svc : HeatService) (req : SubmitRequest) (env : SubmitEnv) (s : HeatStore) :
    Prop :=
  ∀ row, s.byKey req.organizationId (svc.key req) = some row →
    ¬AnswersStored env row ∧ ¬Refreshes req env s row

def SubmitOutcome.silent (outcome : SubmitOutcome) : Prop :=
  ∀ analysis cached, outcome ≠ .returned analysis cached

/-- Every way a submission can end: what it stored and what it returned. -/
inductive SubmitEnd (svc : HeatService) (req : SubmitRequest) (env : SubmitEnv) (s : HeatStore) :
    Submitted → Prop where
  | cached {row} : s.byKey req.organizationId (svc.key req) = some row →
      isFresh row env.now = true → SubmitEnd svc req env s ⟨s, .returned row true, false⟩
  | stale {row exc t} : s.byKey req.organizationId (svc.key req) = some row →
      AnswersStored env row → Wrote s.toHeatTables t.toHeatTables (withError row exc)
        (s.activity row.id) →
      SubmitEnd svc req env s ⟨t, .returned (withError row exc) true, true⟩
  | refreshed {row activityId activity t} :
      s.byKey req.organizationId (svc.key req) = some row → Refreshes req env s row →
      Wrote s.toHeatTables t.toHeatTables (requeue req activityId row) activity →
      SubmitEnd svc req env s ⟨t, .returned (requeue req activityId row) false, true⟩
  | inserted {row activityId activity t} :
      s.byKey req.organizationId (svc.key req) = none → s.analysis row.id = none →
      row.organizationId = req.organizationId →
      Wrote s.toHeatTables t.toHeatTables (requeue req activityId row) activity →
      SubmitEnd svc req env s ⟨t, .returned (requeue req activityId row) false, true⟩
  | refused {row exc t} : Opens svc req env s row → Unanswered svc req env s →
      Wrote s.toHeatTables t.toHeatTables (markFailed row exc) (s.activity row.id) →
      SubmitEnd svc req env s ⟨t, .raised (.fortyGuard exc), true⟩
  | nothing {outcome called} : outcome.silent → Unanswered svc req env s →
      SubmitEnd svc req env s ⟨s, outcome, called⟩

theorem commitOr_ends (s : HeatStore) (new : HeatTables) (outcome : SubmitOutcome) :
    (∃ t : HeatStore, t.toHeatTables = new ∧ commitOr s new outcome = ⟨t, outcome, true⟩) ∨
      (¬new.Constraints ∧ commitOr s new outcome = ⟨s, .integrityError, true⟩) := by
  by_cases valid : new.Constraints
  · obtain ⟨t, committed, tables⟩ := HeatStore.commit_of new valid
    exact .inl ⟨t, tables, by rw [commitOr, committed]⟩
  · exact .inr ⟨valid, by simp [commitOr, HeatStore.commit, valid]⟩

theorem integrityError_silent : SubmitOutcome.integrityError.silent := by
  intro _ _ h
  cases h

theorem raised_silent (exc : Raised) : (SubmitOutcome.raised exc).silent := by
  intro _ _ h
  cases h

/-- Writing a stored row back with another error breaks no constraint. -/
theorem withError_constraints (s : HeatStore) {row : HeatAnalysis}
    (stored : s.analysis row.id = some row) (exc : FortyGuardError) :
    (s.putAnalysis (withError row exc)).Constraints :=
  s.wf.of_keys (putAnalysis_keys s stored rfl) rfl

theorem submit_ends_stored (svc : HeatService) {req : SubmitRequest} {env : SubmitEnv}
    {s : HeatStore} {row : HeatAnalysis}
    (stored : s.byKey req.organizationId (svc.key req) = some row)
    (expired : isFresh row env.now = false) :
    SubmitEnd svc req env s (finishSubmit req env s s.toHeatTables row true) := by
  have found := s.analysis_of_mem (byKey_some stored).1
  have opens : Opens svc req env s row := .inl ⟨stored, expired⟩
  have written : ∀ changed : HeatAnalysis, changed.id = row.id →
      Wrote s.toHeatTables (s.putAnalysis changed) changed (s.activity row.id) := by
    intro changed same
    rw [← same] at found ⊢
    exact wrote_putAnalysis (by simp [found]) (fun _ _ => rfl) (fun _ => rfl)
  have unanswered : ¬AnswersStored env row → ¬Refreshes req env s row →
      Unanswered svc req env s := by
    intro silent refreshes r again
    rw [stored] at again
    exact Option.some.inj again ▸ ⟨silent, refreshes⟩
  unfold finishSubmit
  cases answer : env.answer with
  | error raised =>
    have refreshes : ¬Refreshes req env s row := by simp [Refreshes, answer]
    cases raised with
    | valueError text =>
      have silent : ¬AnswersStored env row := by simp [AnswersStored, expired, answer]
      exact .nothing (raised_silent _) (unanswered silent refreshes)
    | fortyGuard exc =>
      dsimp only
      cases result : row.result.isSome with
      | true =>
        have answers : AnswersStored env row := .inr ⟨⟨exc, answer⟩, result⟩
        rcases commitOr_ends s (s.putAnalysis (withError row exc))
          (.returned (withError row exc) true) with ⟨t, tables, done⟩ | ⟨invalid, _⟩
        · simp only [Bool.true_and, if_true, done]
          exact .stale stored answers (tables ▸ written (withError row exc) rfl)
        · exact absurd (withError_constraints s found exc) invalid
      | false =>
        have silent : ¬AnswersStored env row := by simp [AnswersStored, expired, result]
        simp only [Bool.and_false, Bool.false_eq_true, if_false]
        rcases commitOr_ends s (s.putAnalysis (markFailed row exc))
          (.raised (.fortyGuard exc)) with ⟨t, tables, done⟩ | ⟨_, done⟩
        · rw [done]
          exact .refused opens (unanswered silent refreshes)
            (tables ▸ written (markFailed row exc) rfl)
        · rw [done]
          exact .nothing integrityError_silent (unanswered silent refreshes)
  | ok activityId =>
    dsimp only
    rcases commitOr_ends s (refreshTables req env s activityId row)
      (.returned (requeue req activityId row) false) with ⟨t, tables, done⟩ | ⟨invalid, done⟩
    · have valid : (refreshTables req env s activityId row).Constraints := tables ▸ t.wf
      have wrote := (written (requeue req activityId row) rfl).putActivity
        (x := queuedActivity row.id activityId env.dueAt (s.activity row.id)) rfl
      change SubmitEnd svc req env s (commitOr s (refreshTables req env s activityId row) _)
      rw [done]
      exact .refreshed stored ⟨expired, activityId, answer, valid⟩ (by rw [tables]; exact wrote)
    · have silent : ¬AnswersStored env row := by simp [AnswersStored, expired, answer]
      have refreshes : ¬Refreshes req env s row := by simp [Refreshes, answer, invalid]
      change SubmitEnd svc req env s (commitOr s (refreshTables req env s activityId row) _)
      rw [done]
      exact .nothing integrityError_silent (unanswered silent refreshes)

theorem submit_ends_new (svc : HeatService) {req : SubmitRequest} {env : SubmitEnv}
    {s : HeatStore} (missing : s.byKey req.organizationId (svc.key req) = none)
    (fresh : s.analysis env.newId = none) :
    SubmitEnd svc req env s (finishSubmit req env s
      (s.insertAnalysis (newAnalysis req (svc.key req) env.newId env.createdAt))
      (newAnalysis req (svc.key req) env.newId env.createdAt) false) := by
  have unanswered : Unanswered svc req env s := by
    intro r again
    rw [missing] at again
    cases again
  unfold finishSubmit
  generalize made : newAnalysis req (svc.key req) env.newId env.createdAt = row
  have own : row.id = env.newId := by rw [← made, newAnalysis_id]
  have opens : Opens svc req env s row := .inr ⟨missing, own ▸ fresh, made.symm⟩
  have written : ∀ changed : HeatAnalysis, changed.id = row.id →
      Wrote s.toHeatTables ((s.insertAnalysis row).putAnalysis changed) changed
        (s.activity row.id) := by
    intro changed same
    rw [← same]
    refine wrote_putAnalysis (by simp [same]) (fun k other => ?_) (fun _ => rfl)
    have differs : row.id ≠ k := fun eq => other (same.trans eq).symm
    simp [differs]
  cases answer : env.answer with
  | error raised =>
    cases raised with
    | valueError text => exact .nothing (raised_silent _) unanswered
    | fortyGuard exc =>
      simp only [Bool.false_and, Bool.false_eq_true, if_false]
      rcases commitOr_ends s ((s.insertAnalysis row).putAnalysis (markFailed row exc))
        (.raised (.fortyGuard exc)) with ⟨t, tables, done⟩ | ⟨_, done⟩
      · rw [done]
        exact .refused opens unanswered (tables ▸ written (markFailed row exc) rfl)
      · rw [done]
        exact .nothing integrityError_silent unanswered
  | ok activityId =>
    dsimp only
    rcases commitOr_ends s (((s.insertAnalysis row).putAnalysis (requeue req activityId row)).putActivity
      (queuedActivity row.id activityId env.dueAt (s.activity row.id)))
      (.returned (requeue req activityId row) false) with ⟨t, tables, done⟩ | ⟨_, done⟩
    · have wrote := (written (requeue req activityId row) rfl).putActivity
        (x := queuedActivity row.id activityId env.dueAt (s.activity row.id)) rfl
      have owner : row.organizationId = req.organizationId := by rw [← made]; rfl
      simp only [requeue_id, HeatTables.activity_insertAnalysis, done]
      exact .inserted missing (own ▸ fresh) owner (by rw [tables]; exact wrote)
    · simp only [requeue_id, HeatTables.activity_insertAnalysis, done]
      exact .nothing integrityError_silent unanswered

theorem submit_ends (svc : HeatService) (req : SubmitRequest) (env : SubmitEnv) (s : HeatStore) :
    SubmitEnd svc req env s (submit svc req env s) := by
  unfold submit
  cases stored : s.byKey req.organizationId (svc.key req) with
  | some row =>
    dsimp only
    cases fresh : isFresh row env.now with
    | true => exact .cached stored fresh
    | false => exact submit_ends_stored svc stored fresh
  | none =>
    dsimp only
    split
    · rename_i flushed committed
      exact submit_ends_new svc stored (HeatTables.analysis_of_flush committed)
    · exact .nothing integrityError_silent fun row again => by simp [stored] at again

/-! ## What a row carries -/

/-- The organization and project of a row, and whether it was ever bought. -/
def scopeOf (a : HeatAnalysis) : UUID × UUID × Bool :=
  (a.organizationId, a.projectId, a.providerActivityId.isSome || a.expiresAt.isSome)

def carried (s : HeatStore) (id : UUID) : Option (UUID × UUID × Bool) :=
  (s.analysis id).map scopeOf

theorem usable_iff_carried (s : HeatStore) (organizationId projectId id : UUID) :
    Usable s organizationId projectId id ↔
      ∀ project bought, carried s id = some (organizationId, project, bought) →
        project = projectId := by
  rw [usable_iff]
  unfold carried
  constructor
  · intro own project bought carries
    obtain ⟨a, stored, scope⟩ := Option.map_eq_some_iff.mp carries
    rw [← own a stored (congrArg Prod.fst scope)]
    exact (congrArg (fun x => x.2.1) scope).symm
  · intro own a stored owner
    exact own a.projectId _ (by rw [stored, ← owner]; rfl)

theorem carried_of_byKey {s : HeatStore} {organizationId : UUID} {key : String}
    {row : HeatAnalysis} (stored : s.byKey organizationId key = some row) :
    carried s row.id = some (organizationId, row.projectId,
      row.providerActivityId.isSome || row.expiresAt.isSome) := by
  obtain ⟨member, owner, _⟩ := byKey_some stored
  rw [carried, s.analysis_of_mem member, ← owner]
  rfl

theorem Wrote.carried {s t : HeatStore} {row : HeatAnalysis} {activity : Option FortyGuardActivity}
    (wrote : Wrote s.toHeatTables t.toHeatTables row activity) (id : UUID) :
    carried t id = if id = row.id then some (scopeOf row) else carried s id := by
  unfold Heat.carried
  rw [wrote.analysis]
  split <;> rfl

/-- A row written back with what it carried before leaves every row carrying the same. -/
theorem Wrote.carried_same {s t : HeatStore} {row old : HeatAnalysis}
    {activity : Option FortyGuardActivity}
    (wrote : Wrote s.toHeatTables t.toHeatTables row activity)
    (stored : s.analysis row.id = some old) (scope : scopeOf row = scopeOf old) (id : UUID) :
    Heat.carried t id = Heat.carried s id := by
  rw [wrote.carried]
  split
  · rename_i same
    rw [same, Heat.carried, stored, Option.map_some, scope]
  · rfl

/-- A bought activity moves its row to the project that bought it. -/
theorem Wrote.carried_requeue {s t : HeatStore} {req : SubmitRequest} {activityId : String}
    {row : HeatAnalysis} {activity : Option FortyGuardActivity} {organizationId projectId : UUID}
    (wrote : Wrote s.toHeatTables t.toHeatTables (requeue req activityId row) activity)
    (owner : row.organizationId = organizationId) (project : req.projectId = projectId) :
    Heat.carried t row.id = some (organizationId, projectId, true) := by
  have own : row.id = (requeue req activityId row).id := rfl
  rw [wrote.carried, if_pos own, ← owner, ← project]
  rfl

/-- A poll moves no analysis, and polls only what was bought. -/
theorem OpWrite.poll_scope {svc : HeatService} {s : HeatStore} {id : UUID} {clock : PollClock}
    {answer : Except Raised Dict} {a row : HeatAnalysis} {activity : Option FortyGuardActivity}
    (write : OpWrite svc s (.poll id clock answer) a row activity) : scopeOf row = scopeOf a := by
  have bought : ∀ circuit, suppressed a circuit clock.now = false →
      a.providerActivityId.isSome = true := by
    intro circuit live
    cases provider : a.providerActivityId with
    | none => simp [suppressed, provider] at live
    | some activityId => rfl
  cases write with
  | answered _ live _ =>
    have some := bought _ live
    unfold answeredAnalysis
    split <;> simp [scopeOf, some]
  | retried _ _ _ _ => rfl
  | gaveUp _ _ _ _ => rfl

theorem poll_carried (svc : HeatService) (id : UUID) (clock : PollClock)
    (answer : Except Raised Dict) (s : HeatStore) (k : UUID) :
    carried (poll svc id clock answer s) k = carried s k := by
  rcases poll_cases svc id clock answer s with same | ⟨a, row, activity, write, wrote⟩
  · rw [same]
  · have stored := write.poll_keys.1
    rw [← (HeatTables.analysis_mem stored).2, ← write.id] at stored
    exact wrote.carried_same stored write.poll_scope k

/-! ## Scope along a run -/

/-- A row of the tenant that was bought was handed out for the project it carries, and
whatever was handed out is stored as the tenant's. -/
structure Recorded (tenant : Tenant) (c : ScopeState) : Prop where
  bought : ∀ id project, carried c.store id = some (tenant.organizationId, project, true) →
    ∃ h ∈ c.handedOut, h.analysis.id = id ∧ h.projectId = project
  stored : ∀ h ∈ c.handedOut, ∃ project bought,
    carried c.store h.analysis.id = some (tenant.organizationId, project, bought)

/-- A stored row answers a request only for its own project and zone, and is refreshed
only for its own project. -/
def OwnScope (svc : HeatService) (tenant : Tenant) (s : HeatStore) : ScopeOp → Prop
  | .poll _ _ _ => True
  | .create body env => ∀ zone row,
      findZone tenant.projects tenant.zones tenant.organizationId body = some zone →
      s.byKey tenant.organizationId (svc.key (createRequest tenant.organizationId body zone)) =
        some row →
      (AnswersStored env row → row.projectId = body.projectId ∧ row.zoneId = body.zoneId) ∧
        (Refreshes (createRequest tenant.organizationId body zone) env s row →
          row.projectId = body.projectId)

def ScopeStep (svc : HeatService) (tenant : Tenant) (c : ScopeState) (op : ScopeOp)
    (d : ScopeState) : Prop := d = scopeNext svc tenant op c

theorem Recorded.of_carried {tenant : Tenant} {s t : HeatStore} {handedOut : List HandedOut}
    (recorded : Recorded tenant ⟨s, handedOut⟩) (same : ∀ id, carried t id = carried s id) :
    Recorded tenant ⟨t, handedOut⟩ where
  bought id project carries := recorded.bought id project (same id ▸ carries)
  stored h member := by
    obtain ⟨project, bought, carries⟩ := recorded.stored h member
    exact ⟨project, bought, (same _).trans carries⟩

theorem inScope_of_carried {tenant : Tenant} {s t : HeatStore} {handedOut : List HandedOut}
    (same : ∀ h ∈ handedOut, carried t h.analysis.id = carried s h.analysis.id) :
    InScope tenant ⟨t, handedOut⟩ ↔ InScope tenant ⟨s, handedOut⟩ := by
  refine forall₂_congr fun h member => ?_
  rw [usable_iff_carried, usable_iff_carried, same h member]

/-- One more analysis is handed out. -/
theorem inScope_hand {tenant : Tenant} {t : HeatStore} {handedOut : List HandedOut}
    {h : HandedOut} : InScope tenant ⟨t, handedOut ++ [h]⟩ ↔ InScope tenant ⟨t, handedOut⟩ ∧
      h.analysis.projectId = h.projectId ∧ h.analysis.zoneId = h.zoneId ∧
        Usable t tenant.organizationId h.projectId h.analysis.id := by
  simp only [InScope, List.mem_append, List.mem_singleton, or_imp, forall_and, forall_eq]
  tauto

theorem Recorded.hand {tenant : Tenant} {s t : HeatStore} {handedOut : List HandedOut}
    (recorded : Recorded tenant ⟨s, handedOut⟩) {h : HandedOut} {project : UUID} {bought : Bool}
    (others : ∀ id, id ≠ h.analysis.id → carried t id = carried s id)
    (own : carried t h.analysis.id = some (tenant.organizationId, project, bought))
    (handed : bought = true → carried t h.analysis.id = carried s h.analysis.id ∨
      h.projectId = project) :
    Recorded tenant ⟨t, handedOut ++ [h]⟩ where
  bought id other carries := by
    by_cases same : id = h.analysis.id
    · subst same
      have carries : carried t h.analysis.id = some (tenant.organizationId, other, true) := carries
      rw [own] at carries
      cases carries
      rcases handed rfl with before | mine
      · obtain ⟨g, member, hit⟩ := recorded.bought h.analysis.id _ (before ▸ own)
        exact ⟨g, List.mem_append_left _ member, hit⟩
      · exact ⟨h, by simp, rfl, mine⟩
    · obtain ⟨g, member, hit⟩ := recorded.bought id other ((others id same) ▸ carries)
      exact ⟨g, List.mem_append_left _ member, hit⟩
  stored g member := by
    by_cases same : g.analysis.id = h.analysis.id
    · exact ⟨project, bought, same ▸ own⟩
    · have old : g ∈ handedOut := by
        rcases List.mem_append.mp member with old | new
        · exact old
        · rw [List.mem_singleton.mp new] at same
          exact absurd rfl same
      obtain ⟨p, b, carries⟩ := recorded.stored g old
      exact ⟨p, b, (others _ same).trans carries⟩

theorem scopeNext_unknown {svc : HeatService} {tenant : Tenant} {body : HeatAnalysisCreate}
    {env : SubmitEnv} (c : ScopeState)
    (zone : findZone tenant.projects tenant.zones tenant.organizationId body = none) :
    scopeNext svc tenant (.create body env) c = c := by
  simp [scopeNext, zone]

theorem scopeNext_create {svc : HeatService} {tenant : Tenant} {body : HeatAnalysisCreate}
    {env : SubmitEnv} {found : Zone} (c : ScopeState)
    (zone : findZone tenant.projects tenant.zones tenant.organizationId body = some found) :
    scopeNext svc tenant (.create body env) c =
      ⟨(submit svc (createRequest tenant.organizationId body found) env c.store).store,
        c.handedOut ++ (submit svc (createRequest tenant.organizationId body found) env
          c.store).outcome.handedOut body.projectId body.zoneId⟩ := by
  simp [scopeNext, zone]

theorem SubmitOutcome.silent.handedOut {outcome : SubmitOutcome} (silent : outcome.silent)
    (projectId zoneId : UUID) : outcome.handedOut projectId zoneId = [] := by
  cases outcome with
  | returned analysis cached => exact absurd rfl (silent analysis cached)
  | raised | integrityError => rfl

/-- A refused submission stores its row as it carried before, or one that was never bought
under a new id. -/
theorem Opens.refused {svc : HeatService} {req : SubmitRequest} {env : SubmitEnv}
    {s t : HeatStore} {row : HeatAnalysis} {exc : FortyGuardError}
    {activity : Option FortyGuardActivity} (opens : Opens svc req env s row)
    (wrote : Wrote s.toHeatTables t.toHeatTables (markFailed row exc) activity) :
    (∀ id, carried t id = carried s id) ∨
      (carried s row.id = none ∧ (∀ id, id ≠ row.id → carried t id = carried s id) ∧
        carried t row.id = some (req.organizationId, req.projectId, false)) := by
  rcases opens with ⟨stored, _⟩ | ⟨_, missing, made⟩
  · have found := s.analysis_of_mem (byKey_some stored).1
    exact .inl (wrote.carried_same found rfl)
  · refine .inr ⟨by rw [carried, missing]; rfl, fun id other => ?_, ?_⟩
    · have differs : id ≠ (markFailed row exc).id := other
      rw [wrote.carried, if_neg differs]
    · have own : row.id = (markFailed row exc).id := rfl
      rw [wrote.carried, if_pos own, made]
      rfl

/-- Nobody holds a row under an id that is not taken. -/
theorem not_held_of_missing {tenant : Tenant} {s : HeatStore} {handedOut : List HandedOut}
    {id : UUID} (recorded : Recorded tenant ⟨s, handedOut⟩) (missing : carried s id = none) :
    ∀ h ∈ handedOut, h.analysis.id ≠ id := by
  rintro h member rfl
  obtain ⟨p, b, carries⟩ := recorded.stored h member
  rw [missing] at carries
  cases carries

theorem recorded_unbought {tenant : Tenant} {s t : HeatStore} {handedOut : List HandedOut}
    (recorded : Recorded tenant ⟨s, handedOut⟩) {id organizationId project : UUID}
    (missing : carried s id = none) (others : ∀ k, k ≠ id → carried t k = carried s k)
    (own : carried t id = some (organizationId, project, false)) :
    Recorded tenant ⟨t, handedOut⟩ where
  bought k other carries := by
    have differs : k ≠ id := by
      rintro rfl
      have carries : carried t k = some (tenant.organizationId, other, true) := carries
      rw [own] at carries
      cases carries
    exact recorded.bought k other ((others k differs) ▸ carries)
  stored h member := by
    obtain ⟨p, b, carries⟩ := recorded.stored h member
    have differs := not_held_of_missing recorded missing h member
    exact ⟨p, b, (others _ differs).trans carries⟩

theorem recorded_step {svc : HeatService} {tenant : Tenant} {c d : ScopeState} {op : ScopeOp}
    (recorded : Recorded tenant c) (step : ScopeStep svc tenant c op d) : Recorded tenant d := by
  subst step
  obtain ⟨s, handedOut⟩ := c
  cases op with
  | poll id clock answer => exact recorded.of_carried (poll_carried svc id clock answer s)
  | create body env =>
    cases zone : findZone tenant.projects tenant.zones tenant.organizationId body with
    | none =>
      rw [scopeNext_unknown _ zone]
      exact recorded
    | some found =>
      rw [scopeNext_create _ zone]
      generalize request : createRequest tenant.organizationId body found = req
      have org : req.organizationId = tenant.organizationId := by rw [← request]; rfl
      have project : req.projectId = body.projectId := by rw [← request]; rfl
      have ends := submit_ends svc req env s
      dsimp only
      generalize submit svc req env s = submitted at ends
      cases ends with
      | @cached row stored fresh =>
        rw [org] at stored
        exact recorded.hand (fun _ _ => rfl) (carried_of_byKey stored) (fun _ => .inl rfl)
      | @stale row exc t stored answers wrote =>
        have found := s.analysis_of_mem (byKey_some stored).1
        have same := wrote.carried_same found rfl
        rw [org] at stored
        have own := (same row.id).trans (carried_of_byKey stored)
        exact recorded.hand (fun id _ => same id) own (fun _ => .inl (same _))
      | @refreshed row activityId activity t stored refreshes wrote =>
        have owner := (byKey_some stored).2.1
        exact recorded.hand (fun id other => (wrote.carried id).trans (if_neg other))
          (wrote.carried_requeue (owner.trans org) project) (fun _ => .inr rfl)
      | @inserted row activityId activity t missing fresh owner wrote =>
        exact recorded.hand (fun id other => (wrote.carried id).trans (if_neg other))
          (wrote.carried_requeue (owner.trans org) project) (fun _ => .inr rfl)
      | @refused row exc t opens unanswered wrote =>
        rw [(raised_silent _).handedOut, List.append_nil]
        rcases opens.refused wrote with same | ⟨missing, others, own⟩
        · exact recorded.of_carried same
        · exact recorded_unbought recorded missing others own
      | @nothing outcome called silent unanswered =>
        rw [silent.handedOut, List.append_nil]
        exact recorded

theorem ownScope_unknown {svc : HeatService} {tenant : Tenant} {s : HeatStore}
    {body : HeatAnalysisCreate} {env : SubmitEnv}
    (zone : findZone tenant.projects tenant.zones tenant.organizationId body = none) :
    OwnScope svc tenant s (.create body env) := by
  intro found row other
  rw [zone] at other
  cases other

theorem ownScope_unanswered {svc : HeatService} {tenant : Tenant} {s : HeatStore}
    {body : HeatAnalysisCreate} {env : SubmitEnv} {found : Zone}
    (zone : findZone tenant.projects tenant.zones tenant.organizationId body = some found)
    (unanswered : Unanswered svc (createRequest tenant.organizationId body found) env s) :
    OwnScope svc tenant s (.create body env) := by
  intro other row same stored
  rw [zone] at same
  cases same
  have silent := unanswered row stored
  exact ⟨fun answers => absurd answers silent.1, fun refreshes => absurd refreshes silent.2⟩

theorem ownScope_stored {svc : HeatService} {tenant : Tenant} {s : HeatStore}
    {body : HeatAnalysisCreate} {env : SubmitEnv} {found : Zone} {row : HeatAnalysis}
    (zone : findZone tenant.projects tenant.zones tenant.organizationId body = some found)
    (stored : s.byKey tenant.organizationId
      (svc.key (createRequest tenant.organizationId body found)) = some row) :
    OwnScope svc tenant s (.create body env) ↔
      (AnswersStored env row → row.projectId = body.projectId ∧ row.zoneId = body.zoneId) ∧
        (Refreshes (createRequest tenant.organizationId body found) env s row →
          row.projectId = body.projectId) := by
  constructor
  · exact fun own => own found row zone stored
  · intro own other r same again
    rw [zone] at same
    cases same
    rw [stored] at again
    cases again
    exact own

/-- A row is not both the answer and bought anew. -/
theorem AnswersStored.not_refreshes {req : SubmitRequest} {env : SubmitEnv} {s : HeatStore}
    {row : HeatAnalysis} (answers : AnswersStored env row) : ¬Refreshes req env s row := by
  rintro ⟨expired, activityId, ok, _⟩
  rcases answers with fresh | ⟨⟨exc, error⟩, _⟩
  · rw [expired] at fresh
    cases fresh
  · rw [ok] at error
    cases error

theorem usable_of_carried {s : HeatStore} {organizationId projectId id : UUID} {bought : Bool}
    (own : carried s id = some (organizationId, projectId, bought)) :
    ∀ project, Usable s organizationId project id ↔ projectId = project := by
  intro project
  rw [usable_iff_carried]
  constructor
  · exact fun usable => usable projectId bought own
  · intro same other b carries
    rw [own] at carries
    cases carries
    exact same

/-- An answer from a stored row is in scope exactly when the row is. -/
theorem inScope_answer {tenant : Tenant} {s t : HeatStore} {handedOut : List HandedOut}
    {row answer : HeatAnalysis} {projectId zoneId : UUID} {bought : Bool}
    (inScope : InScope tenant ⟨s, handedOut⟩) (same : ∀ id, carried t id = carried s id)
    (columns : answer.id = row.id ∧ answer.projectId = row.projectId ∧
      answer.zoneId = row.zoneId)
    (own : carried t row.id = some (tenant.organizationId, row.projectId, bought)) :
    InScope tenant ⟨t, handedOut ++ [⟨projectId, zoneId, answer⟩]⟩ ↔
      row.projectId = projectId ∧ row.zoneId = zoneId := by
  obtain ⟨id, project, zone⟩ := columns
  have kept : InScope tenant ⟨t, handedOut⟩ :=
    (inScope_of_carried fun h _ => same h.analysis.id).mpr inScope
  rw [inScope_hand]
  dsimp only
  rw [id, usable_of_carried own, project, zone]
  tauto

/-- A bought row is in scope exactly when it was handed out to no other project. -/
theorem inScope_bought {tenant : Tenant} {s t : HeatStore} {handedOut : List HandedOut}
    {req : SubmitRequest} {activityId : String} {row : HeatAnalysis} {projectId zoneId : UUID}
    (inScope : InScope tenant ⟨s, handedOut⟩)
    (others : ∀ id, id ≠ row.id → carried t id = carried s id)
    (own : carried t row.id = some (tenant.organizationId, projectId, true))
    (project : req.projectId = projectId) (zone : req.zoneId = zoneId) :
    InScope tenant ⟨t, handedOut ++ [⟨projectId, zoneId, requeue req activityId row⟩]⟩ ↔
      ∀ h ∈ handedOut, h.analysis.id = row.id → h.projectId = projectId := by
  have fresh : Usable t tenant.organizationId projectId (requeue req activityId row).id :=
    (usable_of_carried own projectId).mpr rfl
  rw [inScope_hand]
  constructor
  · rintro ⟨kept, _⟩ h member same
    have usable := (kept h member).2.2
    rw [same, usable_of_carried own] at usable
    exact usable.symm
  · intro mine
    refine ⟨fun h member => ?_, project, zone, fresh⟩
    obtain ⟨p, z, usable⟩ := inScope h member
    refine ⟨p, z, ?_⟩
    by_cases same : h.analysis.id = row.id
    · rw [same, usable_of_carried own]
      exact (mine h member same).symm
    · have untouched : carried t h.analysis.id = carried s h.analysis.id := others _ same
      rw [usable_iff_carried] at usable ⊢
      rw [untouched]
      exact usable

/-- A bought row was handed out, and to the project it carries only. -/
theorem holders_iff {tenant : Tenant} {s : HeatStore} {handedOut : List HandedOut}
    {row : HeatAnalysis} (recorded : Recorded tenant ⟨s, handedOut⟩)
    (inScope : InScope tenant ⟨s, handedOut⟩)
    (bought : carried s row.id = some (tenant.organizationId, row.projectId, true))
    (projectId : UUID) :
    (∀ h ∈ handedOut, h.analysis.id = row.id → h.projectId = projectId) ↔
      row.projectId = projectId := by
  obtain ⟨h, held, id, scope⟩ := recorded.bought row.id row.projectId bought
  constructor
  · exact fun mine => scope ▸ mine h held id
  · intro same g member hit
    have usable := (inScope g member).2.2
    rw [hit, usable_of_carried bought] at usable
    exact usable ▸ same

/-- A row whose error is noted is in scope for an answer exactly when it was. -/
theorem inScope_stale {tenant : Tenant} {s t : HeatStore} {handedOut : List HandedOut}
    {row : HeatAnalysis} {exc : FortyGuardError} {activity : Option FortyGuardActivity}
    {key : String} {projectId zoneId : UUID} (inScope : InScope tenant ⟨s, handedOut⟩)
    (stored : s.byKey tenant.organizationId key = some row)
    (wrote : Wrote s.toHeatTables t.toHeatTables (withError row exc) activity) :
    InScope tenant ⟨t, handedOut ++ [⟨projectId, zoneId, withError row exc⟩]⟩ ↔
      row.projectId = projectId ∧ row.zoneId = zoneId := by
  have found := s.analysis_of_mem (byKey_some stored).1
  have same := wrote.carried_same found rfl
  exact inScope_answer inScope same ⟨rfl, rfl, rfl⟩ ((same row.id).trans (carried_of_byKey stored))

/-- An expired row was bought, so somebody holds it for the project it carries. -/
theorem carried_of_refreshes {tenant : Tenant} {req : SubmitRequest} {env : SubmitEnv}
    {s : HeatStore} {row : HeatAnalysis} {key : String}
    (stored : s.byKey tenant.organizationId key = some row) (refreshes : Refreshes req env s row) :
    carried s row.id = some (tenant.organizationId, row.projectId, true) := by
  have expired := refreshes.1
  have expires : row.expiresAt.isSome = true := by
    cases expiry : row.expiresAt with
    | none => simp [isFresh, expiry] at expired
    | some at_ => rfl
  rw [carried_of_byKey stored, expires, Bool.or_true]

theorem inScope_refused {svc : HeatService} {tenant : Tenant} {req : SubmitRequest}
    {env : SubmitEnv} {s t : HeatStore} {handedOut : List HandedOut} {row : HeatAnalysis}
    {exc : FortyGuardError} {activity : Option FortyGuardActivity}
    (recorded : Recorded tenant ⟨s, handedOut⟩) (inScope : InScope tenant ⟨s, handedOut⟩)
    (opens : Opens svc req env s row)
    (wrote : Wrote s.toHeatTables t.toHeatTables (markFailed row exc) activity) :
    InScope tenant ⟨t, handedOut⟩ := by
  refine (inScope_of_carried fun h member => ?_).mpr inScope
  rcases opens.refused wrote with same | ⟨missing, others, own⟩
  · exact same _
  · exact others _ (not_held_of_missing recorded missing h member)

/-- What one operation must meet to keep everything handed out in scope. -/
theorem inScope_step {svc : HeatService} {tenant : Tenant} {c d : ScopeState} {op : ScopeOp}
    (recorded : Recorded tenant c) (inScope : InScope tenant c)
    (step : ScopeStep svc tenant c op d) : InScope tenant d ↔ OwnScope svc tenant c.store op := by
  subst step
  obtain ⟨s, handedOut⟩ := c
  cases op with
  | poll id clock answer =>
    have kept := (inScope_of_carried fun h (_ : h ∈ handedOut) =>
      poll_carried svc id clock answer s h.analysis.id).mpr inScope
    exact iff_of_true kept trivial
  | create body env =>
    cases zone : findZone tenant.projects tenant.zones tenant.organizationId body with
    | none =>
      rw [scopeNext_unknown _ zone]
      exact iff_of_true inScope (ownScope_unknown zone)
    | some found =>
      have meets := @ownScope_stored svc tenant s body env found
      have idle := @ownScope_unanswered svc tenant s body env found zone
      rw [scopeNext_create _ zone]
      generalize request : createRequest tenant.organizationId body found = req at *
      have org : req.organizationId = tenant.organizationId := by rw [← request]; rfl
      have project : req.projectId = body.projectId := by rw [← request]; rfl
      have place : req.zoneId = body.zoneId := by rw [← request]; rfl
      have ends := submit_ends svc req env s
      dsimp only
      generalize submit svc req env s = submitted at ends
      cases ends with
      | @cached row stored fresh =>
        have answers : AnswersStored env row := .inl fresh
        rw [org] at stored
        rw [meets zone stored]
        have own := carried_of_byKey stored
        refine (inScope_answer inScope (fun _ => rfl) ⟨rfl, rfl, rfl⟩ own).trans ?_
        simp [answers, answers.not_refreshes]
      | @stale row exc t stored answers wrote =>
        rw [org] at stored
        rw [meets zone stored]
        refine (inScope_stale inScope stored wrote).trans ?_
        simp [answers, answers.not_refreshes]
      | @refreshed row activityId activity t stored refreshes wrote =>
        obtain ⟨member, owner, _⟩ := byKey_some stored
        have answers : ¬AnswersStored env row := fun a => a.not_refreshes refreshes
        have others : ∀ id, id ≠ row.id → carried t id = carried s id :=
          fun id other => (wrote.carried id).trans (if_neg other)
        have own := wrote.carried_requeue (owner.trans org) project
        rw [org] at stored
        have before := carried_of_refreshes stored refreshes
        rw [meets zone stored]
        refine (inScope_bought inScope others own project place).trans ?_
        simp only [answers, false_imp_iff, true_and, refreshes, forall_const]
        exact holders_iff recorded inScope before body.projectId
      | @inserted row activityId activity t missing fresh owner wrote =>
        have others : ∀ id, id ≠ row.id → carried t id = carried s id :=
          fun id other => (wrote.carried id).trans (if_neg other)
        have own := wrote.carried_requeue (owner.trans org) project
        refine iff_of_true ((inScope_bought inScope others own project place).mpr ?_)
          (idle fun r stored => by simp [missing] at stored)
        have missing : carried s row.id = none := by
          rw [carried, fresh]
          rfl
        exact fun g member hit => absurd hit (not_held_of_missing recorded missing g member)
      | @refused row exc t opens unanswered wrote =>
        rw [(raised_silent _).handedOut, List.append_nil]
        exact iff_of_true (inScope_refused recorded inScope opens wrote) (idle unanswered)
      | @nothing outcome called silent unanswered =>
        rw [silent.handedOut, List.append_nil]
        exact iff_of_true inScope (idle unanswered)

def scopeStart : ScopeState := ⟨HeatStore.empty, []⟩

/-- Every analysis handed out to a project is for it and stays usable by it, throughout a
history, exactly when no row of one project or zone answers or is refreshed for another. -/
theorem handed_out_in_scope_iff (svc : HeatService) (tenant : Tenant)
    {transitions : List (Transition ScopeState ScopeOp)} {final : ScopeState}
    (run : Run (ScopeStep svc tenant) scopeStart transitions final) :
    (∀ c ∈ visited scopeStart transitions, InScope tenant c) ↔
      ∀ x ∈ transitions, OwnScope svc tenant x.source.store x.label := by
  refine run.visited_iff_steps (Recorded tenant) (InScope tenant)
    (fun _ _ _ recorded step => recorded_step recorded step)
    (fun _ _ _ recorded inScope step => inScope_step recorded inScope step) ?_ ?_
  · refine ⟨fun id project carries => ?_, fun h member => ?_⟩
    · cases carries
    · cases member
  · intro h member
    cases member

/-! ## Two projects over one area -/

def square : Dict := [("type", .str "Polygon")]

/-- An organization with two projects that each drew the same zone. -/
def sharedArea : Tenant where
  organizationId := 1
  projects := [⟨2, 1, "North", none⟩, ⟨4, 1, "South", none⟩]
  zones := [⟨3, 1, 2, "Square", square⟩, ⟨5, 1, 4, "Square", square⟩]

/-- A request for a zone at second `at_` that the provider accepts. -/
def sampleCreate (projectId zoneId : UUID) (at_ : Nat) (activityId : String) : ScopeOp :=
  .create ⟨projectId, zoneId, []⟩ ⟨7, seconds at_, seconds at_, seconds at_, seconds at_,
    .ok activityId, Int.le_refl _, Int.le_refl _⟩

theorem handed_out_in_scope_iff_shared :
    (∀ c ∈ visited scopeStart (trace (scopeNext sampleService sharedArea) scopeStart
        [sampleCreate 2 3 0 "first", sampleCreate 4 5 1 "second"]), InScope sharedArea c) ↔
      ∀ x ∈ trace (scopeNext sampleService sharedArea) scopeStart
          [sampleCreate 2 3 0 "first", sampleCreate 4 5 1 "second"],
        OwnScope sampleService sharedArea x.source.store x.label :=
  handed_out_in_scope_iff sampleService sharedArea
    (run_trace (scopeNext sampleService sharedArea) scopeStart _)

/-- The second project is handed the analysis of the first. -/
theorem shared_area_out_of_scope : ¬∀ (svc : HeatService) (tenant : Tenant)
    (transitions : List (Transition ScopeState ScopeOp)) (final : ScopeState),
    Run (ScopeStep svc tenant) scopeStart transitions final →
      ∀ c ∈ visited scopeStart transitions, InScope tenant c := by
  intro kept
  have run := run_trace (scopeNext sampleService sharedArea) scopeStart
    [sampleCreate 2 3 0 "first", sampleCreate 4 5 1 "second"]
  have inScope := kept sampleService sharedArea _ _ run _
    (List.mem_cons_of_mem _ (List.mem_cons_of_mem _ List.mem_cons_self))
  have scopes : ∀ pair ∈ [((2 : UUID), (2 : UUID)), (2, 4)], pair.1 = pair.2 := by
    intro pair member
    have listed : pair ∈ (scopeNext sampleService sharedArea (sampleCreate 4 5 1 "second")
        (scopeNext sampleService sharedArea (sampleCreate 2 3 0 "first") scopeStart)).handedOut.map
          fun h => (h.analysis.projectId, h.projectId) := member
    obtain ⟨h, held, rfl⟩ := List.mem_map.mp listed
    exact (inScope h held).1
  have same : (2 : UUID) = 4 := scopes (2, 4) (List.mem_cons_of_mem _ List.mem_cons_self)
  exact absurd same (by decide)

end CoolProof.Heat
