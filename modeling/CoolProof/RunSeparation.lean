import CoolProof.CatalogueSeparation

/-! Portfolio runs, verification runs and agent runs of one tenant among others. Each reads rows
of its organization only, numbers its events by the events of its own run, and is kept where it
would be kept alone. -/

namespace CoolProof.Workspaces
open Calendar JsonDocument Loops Uuid Models Tables Slices Documents Projects PortfolioRuns
  VerificationRuns HeatRequests

section Alone

variable {k : UUID}

/-! ## Portfolios -/

theorem projectZones_slice {t : ProjectTables} (projectId : UUID) (ids : List UUID) :
    projectZones (projectSlice k t) k projectId ids = projectZones t k projectId ids :=
  filter_slice fun _ _ kept => of_decide_eq_true
    (Bool.and_eq_true_iff.mp (Bool.and_eq_true_iff.mp kept).2).2

theorem activeInterventions_slice (catalogue : List Intervention) (ids : List UUID) :
    activeInterventions (slice Intervention.organizationId k catalogue) k ids =
      activeInterventions catalogue k ids :=
  filter_slice fun _ _ kept => of_decide_eq_true
    (Bool.and_eq_true_iff.mp (Bool.and_eq_true_iff.mp kept).2).1

/-- No id drawn for a portfolio run or an allocation is that of another organization's row. -/
def OptimizeFresh (k : UUID) (s : PortfolioTables) (env : OptimizeEnv) : Prop :=
  (∀ r ∈ s.runs, r.id = env.newId → r.organizationId = k) ∧
    ∀ a ∈ s.allocations, ∀ n, a.id = env.newIds n → a.organizationId = k

section Portfolio

variable {projects : ProjectTables} {catalogue : List Intervention} {s t : PortfolioStore}
  (before : t.toPortfolioTables = portfolioSlice k s.toPortfolioTables)
  (integrity : PortfolioIntegrity projects catalogue s.toPortfolioTables)

include before integrity

theorem withRun_alone {β : Type} {run : PortfolioRun} {allocations : List PortfolioAllocation}
    (own : run.organizationId = k)
    (allocated : ∀ a ∈ allocations, a.organizationId = k ∧ a.portfolioRunId = run.id)
    (freshRun : ∀ r ∈ s.runs, r.id = run.id → r.organizationId = k)
    (freshRows : ∀ r ∈ s.allocations, ∀ a ∈ allocations, r.id = a.id → r.organizationId = k)
    (answer : β) :
    (t.save (withRun t.toPortfolioTables run allocations) answer).1.toPortfolioTables =
        portfolioSlice k
          (s.save (withRun s.toPortfolioTables run allocations) answer).1.toPortfolioTables ∧
      (t.save (withRun t.toPortfolioTables run allocations) answer).2 =
        (s.save (withRun s.toPortfolioTables run allocations) answer).2 := by
  have runs : slice PortfolioRun.organizationId k (s.runs ++ [run]) =
      slice PortfolioRun.organizationId k s.runs ++ [run] := slice_concat own
  have rows : slice PortfolioAllocation.organizationId k (s.allocations ++ allocations) =
      slice PortfolioAllocation.organizationId k s.allocations ++ allocations :=
    slice_added fun a member => (allocated a member).1
  have new : withRun t.toPortfolioTables run allocations =
      portfolioSlice k (withRun s.toPortfolioTables run allocations) := by
    rw [before]
    simp only [withRun, portfolioSlice, runs, rows]
  have otherRuns : ∀ j, j ≠ k → slice PortfolioRun.organizationId j (s.runs ++ [run]) =
      slice PortfolioRun.organizationId j s.runs := fun j differ =>
    slice_concat_other fun same => differ (same.symm.trans own)
  have otherRows : ∀ j, j ≠ k →
      slice PortfolioAllocation.organizationId j (s.allocations ++ allocations) =
        slice PortfolioAllocation.organizationId j s.allocations := fun j differ =>
    slice_added_other fun a member same => differ (same.symm.trans (allocated a member).1)
  have runIds := nodup_slice_iff (apart_concat s.wf.runId own freshRun) otherRuns s.wf.runId
  have rowIds := nodup_slice_iff (apart_added s.wf.allocationId
    (fun a member => (allocated a member).1) freshRows) otherRows s.wf.allocationId
  have refers : ∀ a ∈ s.allocations ++ allocations, ∃ r ∈ s.runs ++ [run],
      r.id = a.portfolioRunId ∧ r.organizationId = a.organizationId := by
    intro a member
    rcases List.mem_append.mp member with old | added
    · obtain ⟨r, stored, same, owner, -⟩ := (integrity.allocation a old).run
      exact ⟨r, List.mem_append_left _ stored, same, owner⟩
    · exact ⟨run, List.mem_concat_self, (allocated a added).2.symm,
        own.trans (allocated a added).1.symm⟩
  have taken : (withRun s.toPortfolioTables run allocations).Constraints ↔
      (withRun t.toPortfolioTables run allocations).Constraints := by
    rw [new]
    constructor
    · intro all
      refine ⟨runIds.mp all.runId, rowIds.mp all.allocationId, fun a member => ?_⟩
      obtain ⟨stored, mine⟩ := mem_slice.mp member
      obtain ⟨r, inTable, same, owner⟩ := refers a stored
      exact same ▸ List.mem_map_of_mem (mem_slice.mpr ⟨inTable, owner.trans mine⟩)
    · intro alone
      refine ⟨runIds.mpr alone.runId, rowIds.mpr alone.allocationId, fun a member => ?_⟩
      obtain ⟨r, inTable, same, -⟩ := refers a member
      exact same ▸ List.mem_map_of_mem inTable
  unfold PortfolioStore.save
  by_cases valid : (withRun s.toPortfolioTables run allocations).Constraints
  · rw [dif_pos valid, dif_pos (taken.mp valid)]
    exact ⟨new, rfl⟩
  · rw [dif_neg valid, dif_neg fun other => valid (taken.mpr other)]
    exact ⟨before, rfl⟩

theorem optimize_alone (opt : Optimizer) {tenant : TenantContext}
    (owner : tenant.organizationId = k) (request : OptimizeRequest) {env : OptimizeEnv}
    (fresh : OptimizeFresh k s.toPortfolioTables env) :
    (optimize opt (projectSlice k projects) (slice Intervention.organizationId k catalogue) t
        tenant request env).1.toPortfolioTables =
      portfolioSlice k (optimize opt projects catalogue s tenant request env).1.toPortfolioTables ∧
    (optimize opt (projectSlice k projects) (slice Intervention.organizationId k catalogue) t
        tenant request env).2 = (optimize opt projects catalogue s tenant request env).2 := by
  have found : projectFound (slice Project.organizationId k projects.projects) k
      (some request.projectId) = projectFound projects.projects k (some request.projectId) :=
    projectFound_slice _
  have zones := projectZones_slice (k := k) (t := projects) request.projectId
    (request.zones.map ZoneInput.zoneId)
  have interventions := activeInterventions_slice (k := k) catalogue
    (request.interventions.map InterventionInput.interventionId)
  unfold optimize
  dsimp only
  rw [owner, zones, interventions, show (projectSlice k projects).projects =
    slice Project.organizationId k projects.projects from rfl, found]
  split
  · exact ⟨before, rfl⟩
  split
  · exact ⟨before, rfl⟩
  split
  · exact ⟨before, rfl⟩
  split
  · exact ⟨before, rfl⟩
  split
  · exact ⟨before, rfl⟩
  split
  · exact ⟨before, rfl⟩
  split
  · exact ⟨before, rfl⟩
  unfold runOptimizer
  split
  · exact ⟨before, rfl⟩
  split
  · exact ⟨before, rfl⟩
  rename_i result _
  split
  · exact ⟨before, rfl⟩
  rename_i allocations made
  have drawn : ∀ a ∈ allocations, (∃ n, a.id = env.newIds n) ∧
      a.organizationId = tenant.organizationId ∧ a.portfolioRunId = env.newId := by
    intro a member
    obtain ⟨listed, -, read⟩ := mem_of_mapM_ok made a member
    obtain ⟨id, organization, run, -, -⟩ := newAllocation_ids read
    exact ⟨⟨_, id⟩, organization, run⟩
  refine withRun_alone before integrity owner (fun a member => ?_) fresh.1
    (fun r stored a member same => ?_) _
  · exact ⟨(drawn a member).2.1.trans owner, (drawn a member).2.2⟩
  · obtain ⟨n, id⟩ := (drawn a member).1
    exact fresh.2 r stored n (same.trans id)

end Portfolio

/-! ## Verification runs -/

theorem portfolioRefused_slice {runs : List PortfolioRun} (request : VerificationRequest) :
    portfolioRefused (slice PortfolioRun.organizationId k runs) k request =
      portfolioRefused runs k request := by
  have found : ∀ id, (slice PortfolioRun.organizationId k runs).find? (fun r =>
      r.id = id && r.organizationId = k) = runs.find? fun r => r.id = id && r.organizationId = k :=
    fun id => find?_slice fun r _ kept => of_decide_eq_true (Bool.and_eq_true_iff.mp kept).2
  simp only [portfolioRefused, found]

theorem getTenantVerification_slice (t : VerificationTables) (tenant : TenantContext)
    (id : UUID) :
    getTenantVerification (verificationSlice tenant.organizationId t) tenant id =
      getTenantVerification t tenant id := by
  unfold getTenantVerification
  rw [verificationSlice, find?_slice]
  exact fun v _ kept => of_decide_eq_true (Bool.and_eq_true_iff.mp kept).2

theorem getRun_slice (s : VerificationStore) (tenant : TenantContext) (id : UUID) :
    getRun (verificationSlice tenant.organizationId s.toVerificationTables) tenant id =
      getRun s.toVerificationTables tenant id := by
  have looked : find VerificationRun.id id
      (slice VerificationRun.organizationId tenant.organizationId s.verifications) =
      (find VerificationRun.id id s.verifications).filter fun r =>
        r.organizationId = tenant.organizationId := find_slice s.wf.verificationId id
  change find VerificationRun.id id (verificationSlice tenant.organizationId
    s.toVerificationTables).verifications = _ at looked
  unfold getRun
  cases found : find VerificationRun.id id s.verifications with
  | none =>
    rw [found] at looked
    rw [show s.verifications.find? _ = none from found, show List.find? _ _ = none from looked]
  | some run =>
    rw [found, Option.filter_some] at looked
    rw [show s.verifications.find? _ = some run from found]
    by_cases mine : run.organizationId = tenant.organizationId
    · rw [if_pos (decide_eq_true mine)] at looked
      rw [show List.find? _ _ = some run from looked]
    · rw [if_neg (by simpa using mine)] at looked
      rw [show List.find? _ _ = none from looked]
      exact (if_pos mine).symm

section Verification

variable {s t : VerificationStore}
  (before : t.toVerificationTables = verificationSlice k s.toVerificationTables)

/-- A stored run takes the key of its report. -/
theorem put_constraints (s : VerificationStore) {run : VerificationRun}
    (stored : run ∈ s.verifications) (key : Option String) :
    (s.put { run with reportS3Key := key }).Constraints := by
  have keys : (update VerificationRun.id { run with reportS3Key := key } s.verifications).map
      bodyKey = s.verifications.map bodyKey := by
    refine map_update_of_eq fun r member same => ?_
    rw [List.inj_on_of_nodup_map s.wf.verificationId member stored same]
    rfl
  have ids : (update VerificationRun.id { run with reportS3Key := key } s.verifications).map
      VerificationRun.id = s.verifications.map VerificationRun.id := map_update ..
  exact ⟨ids.symm ▸ s.wf.verificationId, keys.symm ▸ s.wf.idempotency⟩

include before

theorem storeReport_alone (storage : ReportStorage) (tenant : TenantContext)
    {run : VerificationRun} (stored : run ∈ s.verifications) (own : run.organizationId = k) :
    (storeReport storage t tenant run).1.toVerificationTables =
        verificationSlice k (storeReport storage s tenant run).1.toVerificationTables ∧
      (storeReport storage t tenant run).2 = (storeReport storage s tenant run).2 := by
  have storedAlone : run ∈ t.verifications := by
    rw [before]
    exact mem_slice.mpr ⟨stored, own⟩
  unfold storeReport VerificationStore.commit
  split
  · exact ⟨before, rfl⟩
  rename_i key _
  rw [dif_pos (put_constraints s stored key), dif_pos (put_constraints t storedAlone key)]
  refine ⟨?_, rfl⟩
  have rows : slice VerificationRun.organizationId k
      (update VerificationRun.id { run with reportS3Key := key } s.verifications) =
      update VerificationRun.id { run with reportS3Key := key } t.verifications := by
    rw [before]
    refine slice_update own fun r member same => ?_
    rw [List.inj_on_of_nodup_map s.wf.verificationId member stored same, own]
  simp only [verificationSlice, VerificationTables.put, rows]

theorem insertVerification_alone (storage : ReportStorage) (tenant : TenantContext)
    {run : VerificationRun} (own : run.organizationId = k)
    (fresh : ∀ v ∈ s.verifications, v.id = run.id → v.organizationId = k) :
    (insertVerification storage t tenant run).1.toVerificationTables =
        verificationSlice k (insertVerification storage s tenant run).1.toVerificationTables ∧
      (insertVerification storage t tenant run).2 =
        (insertVerification storage s tenant run).2 := by
  have new : t.insert run = verificationSlice k (s.insert run) := by
    have rows : slice VerificationRun.organizationId k (s.verifications ++ [run]) =
        slice VerificationRun.organizationId k s.verifications ++ [run] := slice_concat own
    rw [before]
    simp only [verificationSlice, VerificationTables.insert, rows]
  have others : ∀ j, j ≠ k → slice VerificationRun.organizationId j (s.verifications ++ [run]) =
      slice VerificationRun.organizationId j s.verifications := fun j differ =>
    slice_concat_other fun same => differ (same.symm.trans own)
  have ids := nodup_slice_iff (apart_concat s.wf.verificationId own fresh) others
    s.wf.verificationId
  have bodies : Apart VerificationRun.organizationId (fun v w => bodyKey v ≠ bodyKey w)
      (s.verifications ++ [run]) := fun v _ w _ differ same => differ (congrArg Prod.fst same)
  have keys := nodup_slice_iff bodies others s.wf.idempotency
  have taken : (s.insert run).Constraints ↔ (t.insert run).Constraints := by
    rw [new]
    exact ⟨fun all => ⟨ids.mp all.verificationId, keys.mp all.idempotency⟩,
      fun alone => ⟨ids.mpr alone.verificationId, keys.mpr alone.idempotency⟩⟩
  unfold insertVerification VerificationStore.commit
  by_cases valid : (s.insert run).Constraints
  · rw [dif_pos valid, dif_pos (taken.mp valid)]
    exact storeReport_alone (s := ⟨s.insert run, valid⟩) (t := ⟨t.insert run, taken.mp valid⟩) new
      storage tenant List.mem_concat_self own
  · rw [dif_neg valid, dif_neg fun other => valid (taken.mpr other)]
    exact ⟨before, rfl⟩

theorem createVerification_alone (svc : VerificationService) (projects : List Project)
    (runs : List PortfolioRun) {tenant : TenantContext} (owner : tenant.organizationId = k)
    (request : VerificationRequest) {newId : UUID} (storage : ReportStorage)
    (fresh : ∀ v ∈ s.verifications, v.id = newId → v.organizationId = k) :
    (createVerification svc (slice Project.organizationId k projects)
        (slice PortfolioRun.organizationId k runs) t tenant request newId
        storage).1.toVerificationTables =
      verificationSlice k (createVerification svc projects runs s tenant request newId
        storage).1.toVerificationTables ∧
    (createVerification svc (slice Project.organizationId k projects)
        (slice PortfolioRun.organizationId k runs) t tenant request newId storage).2 =
      (createVerification svc projects runs s tenant request newId storage).2 := by
  have existing : ∀ key, find bodyKey (k, key) t.verifications =
      find bodyKey (k, key) s.verifications := by
    intro key
    rw [before]
    exact find?_slice fun v _ hit => congrArg Prod.fst (of_decide_eq_true hit)
  unfold createVerification
  rw [owner, projectFound_slice, portfolioRefused_slice, existing]
  split
  · exact ⟨before, rfl⟩
  split
  · exact ⟨before, rfl⟩
  split
  · exact ⟨before, rfl⟩
  split
  · exact ⟨before, rfl⟩
  split
  · exact ⟨before, rfl⟩
  split
  · exact ⟨before, rfl⟩
  · exact ⟨before, rfl⟩
  · exact insertVerification_alone before storage tenant owner fresh

/-- The key of a report is written in the slice, and the request is answered alike. -/
theorem materializeReport_alone (storage : ReportStorage) (tenant : TenantContext)
    (run : VerificationRun) :
    (materializeReport storage t tenant run).1.toVerificationTables =
        verificationSlice k (materializeReport storage s tenant run).1.toVerificationTables ∧
      (materializeReport storage t tenant run).2 = (materializeReport storage s tenant run).2 := by
  unfold materializeReport
  split
  · exact ⟨before, rfl⟩
  · exact ⟨before, rfl⟩
  · rename_i key written
    refine ⟨?_, rfl⟩
    have rows : slice VerificationRun.organizationId k
        (s.verifications.map (withReport run.id run.reportS3Key (some key))) =
        (slice VerificationRun.organizationId k s.verifications).map
          (withReport run.id run.reportS3Key (some key)) :=
      slice_map fun v _ => withReport_organizationId run.id run.reportS3Key (some key) v
    simp only [verificationSlice, VerificationStore.setReport, rows, before]

theorem createReport_alone (storage : ReportStorage) {tenant : TenantContext}
    (owner : tenant.organizationId = k) (id : UUID) :
    (createReport storage t tenant id).1.toVerificationTables =
        verificationSlice k (createReport storage s tenant id).1.toVerificationTables ∧
      (createReport storage t tenant id).2 = (createReport storage s tenant id).2 := by
  have looked : getRun t.toVerificationTables tenant id =
      getRun s.toVerificationTables tenant id := by
    rw [before, ← owner]
    exact getRun_slice s tenant id
  unfold createReport
  rw [looked]
  split
  · exact ⟨before, rfl⟩
  cases getRun s.toVerificationTables tenant id with
  | error e => exact ⟨before, rfl⟩
  | ok run => exact materializeReport_alone before storage tenant run

theorem createReportAlias_alone (storage : ReportStorage) {tenant : TenantContext}
    (owner : tenant.organizationId = k) (id : UUID) :
    (createReportAlias storage t tenant id).1.toVerificationTables =
        verificationSlice k (createReportAlias storage s tenant id).1.toVerificationTables ∧
      (createReportAlias storage t tenant id).2 = (createReportAlias storage s tenant id).2 := by
  have looked : getTenantVerification t.toVerificationTables tenant id =
      getTenantVerification s.toVerificationTables tenant id := by
    rw [before, ← owner]
    exact getTenantVerification_slice s.toVerificationTables tenant id
  unfold createReportAlias
  rw [looked]
  split
  · exact ⟨before, rfl⟩
  cases getTenantVerification s.toVerificationTables tenant id with
  | error e => exact ⟨before, rfl⟩
  | ok run => exact materializeReport_alone before storage tenant run

end Verification

/-! ## Agent runs -/

/-- Events have the organization of their run. -/
def EventsOwned (s : Agents.AgentTables) : Prop :=
  ∀ e ∈ s.events, ∃ r ∈ s.runs, r.id = e.runId ∧ r.organizationId = e.organizationId

/-- The tables of the agents of one organization. -/
structure AgentAlone (k : UUID) (s t : Agents.AgentStore) : Prop where
  tables : t.toAgentTables = agentSlice k s.toAgentTables
  events : EventsOwned s.toAgentTables

theorem find_run_slice {s t : Agents.AgentStore} (alone : AgentAlone k s t) (id : UUID) :
    t.run id = (s.run id).filter fun r => r.organizationId = k := by
  rw [Agents.AgentTables.run, alone.tables]
  exact find_slice s.primaryKey id

/-- The next number of a run's events, which are all in the slice. -/
theorem nextSequence_slice {s t : Agents.AgentStore} (alone : AgentAlone k s t) {id : UUID}
    (mine : ∀ r ∈ s.runs, r.id = id → r.organizationId = k) :
    t.nextSequence id = s.nextSequence id := by
  have own : t.events.filter (fun e => e.runId = id) = s.events.filter fun e => e.runId = id := by
    rw [alone.tables]
    refine filter_slice fun e member about => ?_
    obtain ⟨r, stored, same, owner⟩ := alone.events e member
    rw [← owner]
    exact mine r stored (same.trans (of_decide_eq_true about))
  rw [Agents.AgentTables.nextSequence, Agents.AgentTables.nextSequence, own]

theorem eventsOwned_transact {s : Agents.AgentStore} (events : EventsOwned s.toAgentTables)
    {run : AgentRun} (loaded : Agents.Loaded s run) (draft : Agents.Draft run) :
    EventsOwned (s.transact draft).toAgentTables := by
  have named : ∀ id organizationId : UUID,
      (∃ r ∈ s.runs, r.id = id ∧ r.organizationId = organizationId) →
      ∃ r ∈ (s.transact draft).runs, r.id = id ∧ r.organizationId = organizationId :=
    fun id organizationId => exists_of_map_eq runKeys
      (fun keys => keys.1 = id ∧ keys.2.1 = organizationId) (transact_keys s draft)
  intro e member
  rcases List.mem_append.mp member with old | added
  · exact named _ _ (events e old)
  · rw [List.mem_singleton.mp added]
    obtain ⟨stored, found, owner⟩ := loaded
    exact named _ _ ⟨stored, (find_some found).1, (find_some found).2, owner⟩

theorem AgentAlone.transact {s t : Agents.AgentStore} (alone : AgentAlone k s t) {run : AgentRun}
    (loaded : Agents.Loaded s run) (mine : run.organizationId = k) {draft : Agents.Draft run}
    (own : draft.Own) : AgentAlone k (s.transact draft) (t.transact draft) := by
  refine ⟨?_, eventsOwned_transact alone.events loaded draft⟩
  obtain ⟨stored, found, owner⟩ := loaded
  have foundAlone : find AgentRun.id run.id t.runs = some stored := by
    refine (find_run_slice alone run.id).trans ?_
    rw [found, Option.filter_some, if_pos (decide_eq_true (owner.trans mine))]
  have sole : ∀ r ∈ s.runs, r.id = run.id → r.organizationId = k := by
    intro r member same
    rw [List.inj_on_of_nodup_map s.primaryKey member (find_some found).1
      (same.trans (find_some found).2.symm), owner, mine]
  have runs : slice AgentRun.organizationId k (Agents.mergeRun run draft.changed s.runs) =
      Agents.mergeRun run draft.changed t.runs := by
    unfold Agents.mergeRun
    rw [show find AgentRun.id run.id s.runs = some stored from found, foundAlone, alone.tables]
    exact slice_update (owner.trans mine) fun r member same =>
      sole r member (same.trans (find_some found).2)
  have events : slice AgentEvent.organizationId k
      (s.events ++ [draft.event (s.nextSequence run.id)]) =
      slice AgentEvent.organizationId k s.events ++ [draft.event (s.nextSequence run.id)] :=
    slice_concat mine
  have approvals : slice AgentApproval.organizationId k (s.approvals ++ draft.approval.toList) =
      slice AgentApproval.organizationId k s.approvals ++ draft.approval.toList :=
    slice_added fun a member => (own.approval a (Option.mem_toList.mp member)).2.trans mine
  have audits : slice AuditEvent.organizationId k (s.audits ++ draft.audit.toList) =
      slice AuditEvent.organizationId k s.audits ++ draft.audit.toList :=
    slice_added fun e member => (own.audit e (Option.mem_toList.mp member)).1.trans mine
  simp only [agentSlice, Agents.AgentStore.transact, Agents.AgentStore.commit, runs, events,
    approvals, audits, nextSequence_slice alone sole]
  rw [alone.tables]
  rfl

theorem createRun_slice {s t : Agents.AgentStore} (before : AgentAlone k s t)
    (new : Agents.NewRun) (mine : new.organizationId = k)
    (fresh : ∀ r ∈ s.runs, r.id = new.id → r.organizationId = k) :
    (Agents.createRun s new = none ∧ Agents.createRun t new = none) ∨
      ∃ made madeAlone, Agents.createRun s new = some made ∧
        Agents.createRun t new = some madeAlone ∧ AgentAlone k made madeAlone := by
  have looked := find_run_slice before new.id
  cases found : s.run new.id with
  | some r =>
    obtain ⟨stored, same⟩ := find_some found
    rw [found, Option.filter_some, if_pos (decide_eq_true (fresh r stored same))] at looked
    exact .inl ⟨dif_neg (by simp [found]), dif_neg (by simp [looked])⟩
  | none =>
    rw [found, Option.filter_none] at looked
    refine .inr ⟨_, _, dif_pos found, dif_pos looked, ?_, ?_⟩
    · have unnamed : ∀ r ∈ s.runs, r.id = new.id → r.organizationId = k :=
        fun r stored same => absurd same (find_eq_none.mp found r stored)
      have runs : slice AgentRun.organizationId k (s.runs ++ [new.row]) =
          slice AgentRun.organizationId k s.runs ++ [new.row] := slice_concat mine
      have events : slice AgentEvent.organizationId k
          (s.events ++ [(Agents.created new.row).event (s.nextSequence new.id)]) =
          slice AgentEvent.organizationId k s.events ++
            [(Agents.created new.row).event (s.nextSequence new.id)] := slice_concat mine
      simp only [agentSlice, runs, events, nextSequence_slice before unnamed]
      rw [before.tables]
      rfl
    · intro e member
      rcases List.mem_append.mp member with old | added
      · obtain ⟨r, stored, same⟩ := before.events e old
        exact ⟨r, List.mem_append_left _ stored, same⟩
      · rw [List.mem_singleton.mp added]
        exact ⟨new.row, List.mem_concat_self, rfl, rfl⟩

/-! ## Executions -/

section Execution

variable (rt : Agents.Runtime) (env : Agents.Surroundings) {alone : Agents.Surroundings}
  (sees : alone = { env with tables := Grounding.tenantView k env.tables })

theorem completeNodes_slice (state : Agents.CoolProofState) (names : List String)
    {s t : Agents.AgentStore} {run : AgentRun} (before : AgentAlone k s t)
    (loaded : Agents.Loaded s run) (mine : run.organizationId = k) :
    AgentAlone k (Agents.completeNodes state names s run).1
        (Agents.completeNodes state names t run).1 ∧
      (Agents.completeNodes state names t run).2 = (Agents.completeNodes state names s run).2 := by
  induction names generalizing s t run with
  | nil => exact ⟨before, rfl⟩
  | cons name names ih =>
    have own : (Agents.completeNode state.dump name run).Own :=
      Agents.Draft.own_progress _ _ _ _ _ rfl
    exact ih (before.transact loaded mine own) (loaded.transact own) mine

include sees

/-- The graph is grounded in the rows of the organization. -/
theorem runGraph_slice (run : AgentRun) (mine : run.organizationId = k)
    (state : Agents.CoolProofState) : Agents.runGraph rt alone run state =
      Agents.runGraph rt env run state := by
  unfold Agents.runGraph
  rw [sees, ← mine]
  dsimp only
  rw [Grounding.resolveGrounding_view]

theorem executeRun_slice {s t : Agents.AgentStore} {run : AgentRun} (before : AgentAlone k s t)
    (loaded : Agents.Loaded s run) (mine : run.organizationId = k) :
    AgentAlone k (Agents.executeRun rt env s run).1 (Agents.executeRun rt alone t run).1 ∧
      (Agents.executeRun rt alone t run).2 = (Agents.executeRun rt env s run).2 := by
  have starts : (Agents.startExecution run).Own := Agents.Draft.own_progress _ _ _ _ _ rfl
  have running := loaded.transact starts
  have started := before.transact loaded mine starts
  unfold Agents.executeRun
  dsimp only
  split
  · exact ⟨started, rfl⟩
  rename_i state _
  rw [runGraph_slice rt env sees (Agents.startExecution run).changed mine state]
  split
  · exact ⟨started.transact running mine (Agents.Draft.own_progress _ _ _ _ _ rfl), rfl⟩
  · rename_i final _
    obtain ⟨-, last, owner⟩ := Agents.completeNodes_transacts final Agents.agentNames running
    obtain ⟨written, same⟩ := completeNodes_slice final Agents.agentNames started running mine
    rw [same]
    exact ⟨written.transact last (owner.trans mine) (Agents.Draft.own_progress _ _ _ _ _ rfl), rfl⟩

theorem startAgentRun_slice {s t : Agents.AgentStore} (before : AgentAlone k s t)
    (request : Agents.StartRequest) (mine : request.organizationId = k)
    (fresh : ∀ r ∈ s.runs, r.id = request.id → r.organizationId = k) :
    AgentAlone k (Agents.startAgentRun rt env s request).1
        (Agents.startAgentRun rt alone t request).1 ∧
      (Agents.startAgentRun rt alone t request).2 = (Agents.startAgentRun rt env s request).2 := by
  have found : Agents.projectFound alone.tables request.organizationId request.projectId =
      Agents.projectFound env.tables request.organizationId request.projectId := by
    rw [sees, mine]
    cases request.projectId with
    | none => rfl
    | some id =>
      exact any_slice fun p _ kept => of_decide_eq_true (Bool.and_eq_true_iff.mp kept).2
  unfold Agents.startAgentRun Agents.startWith
  rw [found]
  split
  · exact ⟨before, rfl⟩
  split
  · exact ⟨before, rfl⟩
  rcases createRun_slice before request.toNewRun mine fresh with
    ⟨refused, refusedAlone⟩ | ⟨made, madeAlone, create, createAlone, after⟩
  · rw [refused, refusedAlone]
    exact ⟨before, rfl⟩
  · rw [create, createAlone]
    have loaded : Agents.Loaded made request.row :=
      ⟨request.row, by rw [(Agents.createRun_some create).2.1]; exact if_pos rfl, rfl⟩
    obtain ⟨executed, same⟩ := executeRun_slice rt env sees after loaded mine
    exact ⟨executed, congrArg (Except.map Agents.runOut) same⟩

theorem approveAgentRun_slice {s t : Agents.AgentStore} (before : AgentAlone k s t)
    (request : Agents.ApprovalRequest) (mine : request.organizationId = k) (now : Instant) :
    AgentAlone k (Agents.approveAgentRun rt env s request now).1
        (Agents.approveAgentRun rt alone t request now).1 ∧
      (Agents.approveAgentRun rt alone t request now).2 =
        (Agents.approveAgentRun rt env s request now).2 := by
  have looked := find_run_slice before request.runId
  unfold Agents.approveAgentRun Agents.approveWith
  split
  · exact ⟨before, rfl⟩
  rename_i allowed
  split
  · exact ⟨before, rfl⟩
  cases found : s.run request.runId with
  | none =>
    rw [found] at looked
    rw [looked]
    exact ⟨before, rfl⟩
  | some run =>
    by_cases own : run.organizationId = k
    · rw [found, Option.filter_some, if_pos (decide_eq_true own)] at looked
      rw [looked]
      dsimp only
      cases decided : Agents.decideRun run request now with
      | error e => exact ⟨before, rfl⟩
      | ok draft =>
        obtain ⟨ofRun, -⟩ := Agents.decideRun_own decided
        have loaded : Agents.Loaded s run :=
          ⟨run, by rw [(find_some found).2]; exact found, rfl⟩
        have decides := before.transact loaded own ofRun
        have after := loaded.transact ofRun
        have organization := ofRun.organization.trans own
        dsimp only
        split
        · obtain ⟨executed, same⟩ := executeRun_slice rt env sees decides after organization
          exact ⟨executed, congrArg (Except.map _) same⟩
        split
        · split
          · exact ⟨decides, rfl⟩
          · rename_i final finalized
            have finalizes : final.Own := by
              unfold Agents.finalizeApprovedRun at finalized
              split at finalized
              · cases finalized
                exact Agents.Draft.own_progress _ _ _ _ _ rfl
              · cases finalized
            exact ⟨decides.transact after organization finalizes, rfl⟩
        · exact ⟨decides, rfl⟩
    · -- a run of others is as good as none, and answered so
      rw [found, Option.filter_some, if_neg (by simpa using own)] at looked
      rw [looked]
      dsimp only
      have reviewer : ¬(request.reviewerRole ≠ .manager ∧ request.reviewerRole ≠ .admin) := by
        simpa [not_and_or] using allowed
      have refused : Agents.decideRun run request now =
          .error ⟨404, "agent_run_not_found", "Agent run was not found"⟩ := by
        unfold Agents.decideRun
        rw [if_neg reviewer, if_pos fun same => own (same.trans mine)]
      rw [refused]
      exact ⟨before, rfl⟩

end Execution

end Alone

end CoolProof.Workspaces
