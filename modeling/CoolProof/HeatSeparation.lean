import CoolProof.TenantSlices

/-! Heat analyses of one tenant among others. A submission and a poll do to the analyses of their
organization what they do where these are the only ones, if no id that the database or the
provider draws is already that of another organization, and if the breaker stands the same: its
row is the one that all organizations share. -/

namespace CoolProof.Workspaces
open Calendar JsonDocument Uuid Models Tables Slices Documents Projects PortfolioRuns
  VerificationRuns HeatRequests

/-- The analyses of one organization with their activities and events, whatever the breaker. -/
structure HeatAlone (k : UUID) (s t : Heat.HeatTables) : Prop where
  analyses : t.analyses = slice HeatAnalysis.organizationId k s.analyses
  activities : t.activities = slice (activityOwner s) (some k) s.activities
  audits : t.audits = slice AuditEvent.organizationId k s.audits

theorem heatAlone_iff {k : UUID} {s t : Heat.HeatTables} :
    HeatAlone k s t ↔ { t with circuit := none } = heatSlice k s := by
  constructor
  · rintro ⟨analyses, activities, audits⟩
    simp only [heatSlice, analyses, activities, audits]
  · intro same
    exact ⟨congrArg Heat.HeatTables.analyses same, congrArg Heat.HeatTables.activities same,
      congrArg Heat.HeatTables.audits same⟩

section Alone

variable {k : UUID}

namespace HeatAlone

variable {s t : Heat.HeatTables} (alone : HeatAlone k s t)

include alone

/-- Rows of others change nothing. -/
theorem other {s' : Heat.HeatTables} (left : heatSlice k s' = heatSlice k s) :
    HeatAlone k s' t :=
  heatAlone_iff.mpr ((heatAlone_iff.mp alone).trans left.symm)

theorem analysis (unique : (s.analyses.map HeatAnalysis.id).Nodup) (id : UUID) :
    t.analysis id = (s.analysis id).filter fun a => a.organizationId = k := by
  rw [Heat.HeatTables.analysis, alone.analyses]
  exact find_slice unique id

theorem activity {a : HeatAnalysis} (stored : s.analysis a.id = some a)
    (mine : a.organizationId = k) : t.activity a.id = s.activity a.id := by
  rw [Heat.HeatTables.activity, alone.activities]
  refine find?_slice fun x _ about => ?_
  rw [activityOwner, of_decide_eq_true about, stored, Option.map_some, mine]

theorem byKey (key : String) : t.byKey k key = s.byKey k key := by
  rw [Heat.HeatTables.byKey, alone.analyses]
  exact first_slice fun a kept => of_decide_eq_true (Bool.and_eq_true_iff.mp kept).1

theorem insertAnalysis {row : HeatAnalysis}
    (owned : ∀ x ∈ s.activities, (s.analysis x.analysisId).isSome)
    (mine : row.organizationId = k) : HeatAlone k (s.insertAnalysis row) (t.insertAnalysis row) where
  analyses := by
    rw [Heat.HeatTables.insertAnalysis, Heat.HeatTables.insertAnalysis, alone.analyses]
    exact (slice_concat mine).symm
  activities := by
    rw [show (t.insertAnalysis row).activities = t.activities from rfl, alone.activities]
    exact (slice_congr fun x member => activityOwner_insertAnalysis (owned x member)).symm
  audits := alone.audits

theorem putAnalysis (row : HeatAnalysis)
    (before : ∀ a ∈ s.analyses, a.id = row.id → a.organizationId = k)
    (mine : row.organizationId = k) : HeatAlone k (s.putAnalysis row) (t.putAnalysis row) where
  analyses := by
    rw [Heat.HeatTables.putAnalysis, Heat.HeatTables.putAnalysis, alone.analyses]
    exact (slice_update mine before).symm
  activities := by
    rw [show (t.putAnalysis row).activities = t.activities from rfl, alone.activities]
    refine (slice_congr fun x _ => activityOwner_putAnalysis (fun a found => ?_) x).symm
    obtain ⟨member, same⟩ := Heat.HeatTables.analysis_mem found
    rw [before a member same, mine]
  audits := alone.audits

theorem putActivity {x : FortyGuardActivity} (mine : activityOwner s x = some k) :
    HeatAlone k (s.putActivity x) (t.putActivity x) where
  analyses := alone.analyses
  activities := by
    rw [Heat.HeatTables.putActivity, Heat.HeatTables.putActivity, alone.activities]
    refine (slice_upsert mine fun y _ about => ?_).symm
    rw [← mine, activityOwner, about]
    rfl
  audits := alone.audits

end HeatAlone

/-! ## Constraints -/

/-- What the provider and the database number for different organizations differs. -/
structure HeatKeysApart (t : Heat.HeatTables) : Prop where
  ids : Apart HeatAnalysis.organizationId (fun a b => a.id ≠ b.id) t.analyses
  providers : Apart HeatAnalysis.organizationId
    (fun a b => ∀ p ∈ a.providerActivityId, ∀ q ∈ b.providerActivityId, p ≠ q) t.analyses
  activities : Apart (activityOwner t)
    (fun x y => x.providerActivityId ≠ y.providerActivityId) t.activities

instance : Std.Symm fun a b : HeatAnalysis =>
    ∀ p ∈ a.providerActivityId, ∀ q ∈ b.providerActivityId, p ≠ q :=
  ⟨fun _ _ differ p named q named' => (differ q named' p named).symm⟩

theorem heatKeysApart {t : Heat.HeatTables} (wf : t.Constraints) : HeatKeysApart t where
  ids := apart_of_nodup wf.analysisId
  providers := apart_of_pairwise (List.pairwise_filterMap.mp wf.providerActivity)
  activities := apart_of_nodup wf.activityProvider

/-- The database takes new tables of a tenant when it would take the tenant's slice alone. -/
theorem heatConstraints_iff {s : Heat.HeatTables} {s' t' : Heat.HeatTables} (wf : s.Constraints)
    (alone : HeatAlone k s' t') (apart : HeatKeysApart s')
    (others : ∀ j, j ≠ k → heatSlice j s' = heatSlice j s)
    (owned : ∀ x ∈ s'.activities, x.analysisId ∈ s'.analyses.map HeatAnalysis.id) :
    s'.Constraints ↔ t'.Constraints := by
  have analyses := fun j differ => congrArg Heat.HeatTables.analyses (others j differ)
  have ids := nodup_slice_iff apart.ids analyses wf.analysisId
  have keys : Apart HeatAnalysis.organizationId (fun a b =>
      (a.organizationId, a.idempotencyKey) ≠ (b.organizationId, b.idempotencyKey)) s'.analyses :=
    fun a _ b _ differ same => differ (congrArg Prod.fst same)
  have idempotency := nodup_slice_iff keys analyses wf.idempotency
  have providers : (s'.analyses.filterMap HeatAnalysis.providerActivityId).Nodup ↔
      (t'.analyses.filterMap HeatAnalysis.providerActivityId).Nodup := by
    have pairs : ∀ rows : List HeatAnalysis, (rows.filterMap HeatAnalysis.providerActivityId).Nodup ↔
        rows.Pairwise fun a b => ∀ p ∈ a.providerActivityId, ∀ q ∈ b.providerActivityId, p ≠ q :=
      fun rows => List.pairwise_filterMap
    rw [pairs, pairs, alone.analyses]
    refine pairwise_slice_iff apart.providers fun j differ => ?_
    rw [show slice HeatAnalysis.organizationId j s'.analyses =
      slice HeatAnalysis.organizationId j s.analyses from analyses j differ]
    exact ((pairs _).mp wf.providerActivity).sublist List.filter_sublist
  -- an activity has the owner of its analysis, so no activity is without
  have activities : ∀ {κ : Type} (key : FortyGuardActivity → κ),
      Apart (activityOwner s') (fun x y => key x ≠ key y) s'.activities →
      (s.activities.map key).Nodup →
      ((s'.activities.map key).Nodup ↔ (t'.activities.map key).Nodup) := by
    intro κ key differ unique
    have pairs : ∀ rows : List FortyGuardActivity,
        (rows.map key).Nodup ↔ rows.Pairwise fun x y => key x ≠ key y :=
      fun rows => List.pairwise_map
    rw [pairs, pairs, alone.activities]
    refine pairwise_slice_iff differ fun owner other => ?_
    cases owner with
    | none =>
      rw [slice_none fun x member => ?_]
      · exact .nil
      · obtain ⟨a, stored, same⟩ := List.mem_map.mp (owned x member)
        rw [activityOwner, Heat.HeatTables.analysis]
        cases found : find HeatAnalysis.id x.analysisId s'.analyses with
        | none => exact absurd same (find_eq_none.mp found a stored)
        | some a => simp
    | some j =>
      have same := congrArg Heat.HeatTables.activities
        (others j fun same => other (congrArg some same))
      rw [show slice (activityOwner s') (some j) s'.activities =
        slice (activityOwner s) (some j) s.activities from same]
      exact ((pairs _).mp unique).sublist List.filter_sublist
  have perAnalysis := activities FortyGuardActivity.analysisId
    (fun x _ y _ differ same => differ (by rw [activityOwner, same]; rfl)) wf.activityAnalysis
  have perProvider := activities FortyGuardActivity.providerActivityId
    apart.activities wf.activityProvider
  have refers : ∀ x ∈ t'.activities, x.analysisId ∈ t'.analyses.map HeatAnalysis.id := by
    intro x member
    rw [alone.activities] at member
    obtain ⟨a, found, mine⟩ := Option.map_eq_some_iff.mp (mem_slice.mp member).2
    obtain ⟨stored, same⟩ := Heat.HeatTables.analysis_mem found
    rw [alone.analyses, ← same]
    exact List.mem_map_of_mem (mem_slice.mpr ⟨stored, mine⟩)
  rw [← alone.analyses] at ids idempotency
  exact ⟨fun all => ⟨ids.mp all.analysisId, idempotency.mp all.idempotency,
    providers.mp all.providerActivity, perAnalysis.mp all.activityAnalysis,
    perProvider.mp all.activityProvider, refers⟩,
    fun own => ⟨ids.mpr own.analysisId, idempotency.mpr own.idempotency,
      providers.mpr own.providerActivity, perAnalysis.mpr own.activityAnalysis,
      perProvider.mpr own.activityProvider, owned⟩⟩

/-! ## Submissions -/

/-- The provider's activity is not that of another organization. -/
def ActivityFresh (k : UUID) (s : Heat.HeatTables) (activityId : String) : Prop :=
  (∀ a ∈ s.analyses, a.providerActivityId = some activityId → a.organizationId = k) ∧
    ∀ x ∈ s.activities, x.providerActivityId = activityId → activityOwner s x = some k

def SubmitFresh (k : UUID) (s : Heat.HeatTables) (env : Heat.SubmitEnv) : Prop :=
  (∀ a ∈ s.analyses, a.id = env.newId → a.organizationId = k) ∧
    ∀ activityId ∈ env.answer.toOption, ActivityFresh k s activityId

structure SubmittedAlone (k : UUID) (a b : Heat.Submitted) : Prop where
  store : HeatAlone k a.store.toHeatTables b.store.toHeatTables
  outcome : b.outcome = a.outcome
  called : b.called = a.called

theorem commitOr_alone {s t : Heat.HeatStore} {s' t' : Heat.HeatTables}
    (before : HeatAlone k s.toHeatTables t.toHeatTables) (new : HeatAlone k s' t')
    (taken : s'.Constraints ↔ t'.Constraints) (outcome : Heat.SubmitOutcome) :
    SubmittedAlone k (Heat.commitOr s s' outcome) (Heat.commitOr t t' outcome) := by
  unfold Heat.commitOr Heat.HeatStore.commit
  by_cases valid : s'.Constraints
  · rw [dif_pos valid, dif_pos (taken.mp valid)]
    exact ⟨new, rfl, rfl⟩
  · rw [dif_neg valid, dif_neg fun other => valid (taken.mpr other)]
    exact ⟨before, rfl, rfl⟩

section Submit

variable {s t tables tables' : Heat.HeatStore} {analysis : HeatAnalysis}
  (opened : HeatAlone k tables.toHeatTables tables'.toHeatTables)
  (stored : analysis ∈ tables.analyses) (mine : analysis.organizationId = k)

include opened stored mine

/-- A row of the tenant's is written back, and no column changes that a constraint mentions. -/
theorem putAnalysis_alone (before : HeatAlone k s.toHeatTables t.toHeatTables)
    (row : HeatAnalysis) (keys : Heat.analysisKeys row = Heat.analysisKeys analysis)
    (outcome : Heat.SubmitOutcome) :
    SubmittedAlone k (Heat.commitOr s (tables.putAnalysis row) outcome)
      (Heat.commitOr t (tables'.putAnalysis row) outcome) := by
  have id := Heat.analysisKeys_id keys
  have organization : row.organizationId = k :=
    (congrArg (fun columns => columns.2.1) keys).trans mine
  have found := tables.analysis_of_mem stored
  have foundAlone : tables'.analysis analysis.id = some analysis := by
    rw [opened.analysis tables.wf.analysisId, found, Option.filter_some,
      if_pos (decide_eq_true mine)]
  have same : ∀ a ∈ tables.analyses, a.id = row.id → a.organizationId = k := by
    intro a member hit
    rw [List.inj_on_of_nodup_map tables.wf.analysisId member stored (hit.trans id), mine]
  exact commitOr_alone before (opened.putAnalysis row same organization)
    (iff_of_true (tables.wf.of_keys (Heat.putAnalysis_keys tables found keys) rfl)
      (tables'.wf.of_keys (Heat.putAnalysis_keys tables' foundAlone keys) rfl)) outcome

/-- A row of the tenant's is written back with an activity that the provider has just made. -/
theorem requeue_alone (before : HeatAlone k s.toHeatTables t.toHeatTables)
    (others : ∀ j, j ≠ k → heatSlice j tables.toHeatTables = heatSlice j s.toHeatTables)
    (req : Heat.SubmitRequest) {activityId : String}
    (fresh : ActivityFresh k tables.toHeatTables activityId) {x : FortyGuardActivity}
    (about : x.analysisId = analysis.id) (named : x.providerActivityId = activityId)
    (outcome : Heat.SubmitOutcome) :
    SubmittedAlone k
      (Heat.commitOr s ((tables.putAnalysis (Heat.requeue req activityId analysis)).putActivity x)
        outcome)
      (Heat.commitOr t ((tables'.putAnalysis (Heat.requeue req activityId analysis)).putActivity x)
        outcome) := by
  have same : ∀ a ∈ tables.analyses, a.id = analysis.id →
      a.organizationId = analysis.organizationId := fun a member hit =>
    congrArg HeatAnalysis.organizationId
      (List.inj_on_of_nodup_map tables.wf.analysisId member stored hit)
  have owner : ∀ y : FortyGuardActivity, activityOwner
      (tables.putAnalysis (Heat.requeue req activityId analysis)) y =
      activityOwner tables.toHeatTables y := activityOwner_putAnalysis fun a found =>
    same a (Heat.HeatTables.analysis_mem found).1 (Heat.HeatTables.analysis_mem found).2
  have ownActivity : activityOwner tables.toHeatTables x = some k := by
    rw [activityOwner, about, tables.analysis_of_mem stored, Option.map_some, mine]
  have new := (opened.putAnalysis (Heat.requeue req activityId analysis)
    (fun a member hit => (same a member hit).trans mine) mine).putActivity
    ((owner x).trans ownActivity)
  have ids : (update HeatAnalysis.id (Heat.requeue req activityId analysis) tables.analyses).map
      HeatAnalysis.id = tables.analyses.map HeatAnalysis.id := map_update ..
  have held := heatKeysApart tables.wf
  have apart : HeatKeysApart
      ((tables.putAnalysis (Heat.requeue req activityId analysis)).putActivity x) := by
    refine ⟨apart_of_nodup (ids ▸ tables.wf.analysisId), fun a member b member' differ => ?_,
      fun y member z member' differ => ?_⟩
    · rcases mem_update member with rfl | ⟨old, -⟩
      · rcases mem_update member' with rfl | ⟨old', -⟩
        · exact absurd rfl differ
        · intro p asked q named same
          cases asked
          exact differ (mine.trans (fresh.1 b old' (same ▸ named)).symm)
      · rcases mem_update member' with rfl | ⟨old', -⟩
        · intro p named q asked same
          cases asked
          exact differ ((fresh.1 a old (same ▸ named)).trans mine.symm)
        · exact held.providers a old b old' differ
    · have owners : activityOwner tables.toHeatTables y ≠ activityOwner tables.toHeatTables z :=
        fun same => differ ((owner y).trans (same.trans (owner z).symm))
      rcases mem_upsert member with rfl | old
      · rcases mem_upsert member' with rfl | old'
        · exact absurd rfl owners
        · exact fun same => owners (ownActivity.trans
            (fresh.2 z old' (same.symm.trans named)).symm)
      · rcases mem_upsert member' with rfl | old'
        · exact fun same => owners ((fresh.2 y old (same.trans named)).trans ownActivity.symm)
        · exact held.activities y old z old' owners
  have owned : ∀ y ∈ ((tables.putAnalysis (Heat.requeue req activityId analysis)).putActivity
      x).activities, y.analysisId ∈ ((tables.putAnalysis (Heat.requeue req activityId
        analysis)).putActivity x).analyses.map HeatAnalysis.id := by
    intro y member
    change y.analysisId ∈ (update _ _ _).map HeatAnalysis.id
    rw [ids]
    rcases mem_upsert member with rfl | old
    · exact about ▸ List.mem_map_of_mem stored
    · exact tables.wf.activityOwner y old
  refine commitOr_alone before new (heatConstraints_iff s.wf new apart (fun j differ => ?_) owned)
    outcome
  have other : (Heat.requeue req activityId analysis).organizationId ≠ j :=
    fun same => differ (same.symm.trans mine)
  have put : heatSlice j ((tables.putAnalysis (Heat.requeue req activityId analysis)).putActivity
      x) = heatSlice j tables.toHeatTables := putBoth_other same other about
  exact put.trans (others j differ)

theorem finishSubmit_alone (before : HeatAlone k s.toHeatTables t.toHeatTables)
    (others : ∀ j, j ≠ k → heatSlice j tables.toHeatTables = heatSlice j s.toHeatTables)
    (req : Heat.SubmitRequest) (env : Heat.SubmitEnv)
    (fresh : ∀ activityId ∈ env.answer.toOption, ActivityFresh k tables.toHeatTables activityId)
    (existing : Bool) :
    SubmittedAlone k (Heat.finishSubmit req env s tables.toHeatTables analysis existing)
      (Heat.finishSubmit req env t tables'.toHeatTables analysis existing) := by
  unfold Heat.finishSubmit
  split
  · exact ⟨before, rfl, rfl⟩
  · rename_i exc _
    split
    · exact putAnalysis_alone opened stored mine before (Heat.withError analysis exc) rfl _
    · exact putAnalysis_alone opened stored mine before (Heat.markFailed analysis exc) rfl _
  · rename_i activityId answered
    dsimp only
    rw [Heat.requeue_id, opened.activity (tables.analysis_of_mem stored) mine]
    exact requeue_alone opened stored mine before others req
      (fresh activityId (by rw [answered]; rfl)) rfl rfl _

end Submit

theorem owned_activities (s : Heat.HeatStore) :
    ∀ x ∈ s.activities, (s.analysis x.analysisId).isSome := by
  intro x member
  obtain ⟨a, stored, same⟩ := List.mem_map.mp (s.wf.activityOwner x member)
  rw [← same, s.analysis_of_mem stored]
  rfl

/-- The flush of a new analysis, for which the provider has not answered yet. -/
theorem flush_alone {s t : Heat.HeatStore} (alone : HeatAlone k s.toHeatTables t.toHeatTables)
    {row : HeatAnalysis} (own : row.organizationId = k)
    (unanswered : row.providerActivityId = none)
    (fresh : ∀ a ∈ s.analyses, a.id = row.id → a.organizationId = k) :
    (s.insertAnalysis row).Constraints ↔ (t.insertAnalysis row).Constraints := by
  have owned := owned_activities s
  have held := heatKeysApart s.wf
  have apart : HeatKeysApart (s.insertAnalysis row) := by
    refine ⟨apart_concat s.wf.analysisId own fresh, fun a member b member' differ p asked q asked' =>
      ?_, fun x member y member' differ => ?_⟩
    · rcases List.mem_append.mp member with old | added
      · rcases List.mem_append.mp member' with old' | added'
        · exact held.providers a old b old' differ p asked q asked'
        · rw [List.mem_singleton.mp added', unanswered] at asked'
          cases asked'
      · rw [List.mem_singleton.mp added, unanswered] at asked
        cases asked
    · rw [activityOwner_insertAnalysis (owned x member),
        activityOwner_insertAnalysis (owned y member')] at differ
      exact held.activities x member y member' differ
  refine heatConstraints_iff s.wf (alone.insertAnalysis owned own) apart (fun j differ => ?_)
    fun x member => ?_
  · exact insertAnalysis_other owned fun same => differ (same.symm.trans own)
  · rw [Heat.HeatTables.insertAnalysis, List.map_append]
    exact List.mem_append_left _ (s.wf.activityOwner x member)

theorem submit_alone (svc : Heat.HeatService) {req : Heat.SubmitRequest} (env : Heat.SubmitEnv)
    {s t : Heat.HeatStore} (alone : HeatAlone k s.toHeatTables t.toHeatTables)
    (mine : req.organizationId = k) (fresh : SubmitFresh k s.toHeatTables env) :
    SubmittedAlone k (Heat.submit svc req env s) (Heat.submit svc req env t) := by
  have looked := alone.byKey (svc.key req)
  rw [← mine] at looked
  unfold Heat.submit
  rw [looked]
  split
  · rename_i existing found
    obtain ⟨stored, owner, -⟩ := Heat.byKey_some found
    split
    · exact ⟨alone, rfl, rfl⟩
    · exact finishSubmit_alone alone stored (owner.trans mine) alone (fun _ _ => rfl) req env
        fresh.2 true
  dsimp only
  generalize inserted : Heat.newAnalysis req (svc.key req) env.newId env.createdAt = row
  have own : row.organizationId = k := inserted ▸ mine
  have unanswered : row.providerActivityId = none := inserted ▸ rfl
  have taken := flush_alone alone own unanswered fun a member same =>
    fresh.1 a member (same.trans (inserted ▸ rfl))
  have owned := owned_activities s
  have new := alone.insertAnalysis owned own
  have others : ∀ j, j ≠ k → heatSlice j (s.insertAnalysis row) = heatSlice j s.toHeatTables :=
    fun j differ => insertAnalysis_other owned fun same => differ (same.symm.trans own)
  cases flushed : Heat.HeatStore.commit (s.insertAnalysis row) with
  | none =>
    have refused : Heat.HeatStore.commit (t.insertAnalysis row) = none := by
      refine dif_neg fun valid => ?_
      obtain ⟨u, committed, -⟩ := Heat.HeatStore.commit_of _ (taken.mpr valid)
      rw [flushed] at committed
      cases committed
    rw [refused]
    exact ⟨alone, rfl, rfl⟩
  | some u =>
    have tables := Heat.HeatStore.commit_some flushed
    obtain ⟨v, committed, tables'⟩ := Heat.HeatStore.commit_of _ (taken.mp (tables ▸ u.wf))
    rw [committed]
    dsimp only
    rw [← tables, ← tables']
    rw [← tables] at others new
    rw [← tables'] at new
    refine finishSubmit_alone new (tables ▸ List.mem_append_right _ (List.mem_singleton_self _)) own
      alone others req env (fun activityId answered => ?_) false
    obtain ⟨analyses, activities⟩ := fresh.2 activityId answered
    rw [tables]
    refine ⟨fun a member asked => ?_, fun x member asked => ?_⟩
    · rcases List.mem_append.mp member with old | added
      · exact analyses a old asked
      · exact List.mem_singleton.mp added ▸ own
    · rw [activityOwner_insertAnalysis (owned x member)]
      exact activities x member asked

/-! ## Requests and polls -/

theorem findZone_slice {t : ProjectTables} (body : Heat.HeatAnalysisCreate) :
    Heat.findZone (projectSlice k t).projects (projectSlice k t).zones k body =
      Heat.findZone t.projects t.zones k body := by
  have project : (projectSlice k t).projects.find? (fun p =>
      p.id = body.projectId && p.organizationId = k) =
      t.projects.find? fun p => p.id = body.projectId && p.organizationId = k :=
    find?_slice fun p _ kept => of_decide_eq_true (Bool.and_eq_true_iff.mp kept).2
  have zone : (projectSlice k t).zones.find? (fun z => z.id = body.zoneId &&
      (z.projectId = body.projectId && z.organizationId = k)) =
      t.zones.find? fun z => z.id = body.zoneId &&
        (z.projectId = body.projectId && z.organizationId = k) :=
    find?_slice fun z _ kept => of_decide_eq_true
      (Bool.and_eq_true_iff.mp (Bool.and_eq_true_iff.mp kept).2).2
  unfold Heat.findZone
  rw [project, zone]

theorem HeatAlone.record {s t : Heat.HeatStore} (alone : HeatAlone k s.toHeatTables t.toHeatTables)
    {event : AuditEvent} (mine : event.organizationId = k) :
    HeatAlone k (record s event).toHeatTables (record t event).toHeatTables where
  analyses := alone.analyses
  activities := alone.activities
  audits := by
    change t.audits ++ [event] = slice AuditEvent.organizationId k (s.audits ++ [event])
    rw [alone.audits]
    exact (slice_concat mine).symm

theorem createHeatAnalysis_alone (svc : Heat.HeatService) (projects : ProjectTables)
    {s t : Heat.HeatStore} (alone : HeatAlone k s.toHeatTables t.toHeatTables)
    {tenant : TenantContext} (owner : tenant.organizationId = k) (body : Heat.HeatAnalysisCreate)
    {env : Heat.SubmitEnv} (now : Instant) (fresh : SubmitFresh k s.toHeatTables env) :
    HeatAlone k (createHeatAnalysis svc projects s tenant body env now).1.toHeatTables
      (createHeatAnalysis svc (projectSlice k projects) t tenant body env now).1.toHeatTables ∧
    (createHeatAnalysis svc (projectSlice k projects) t tenant body env now).2 =
      (createHeatAnalysis svc projects s tenant body env now).2 := by
  have zone := findZone_slice (t := projects) (k := k) body
  rw [← owner] at zone
  unfold createHeatAnalysis
  rw [← owner, zone]
  rw [← owner] at alone fresh
  split
  · exact ⟨alone, rfl⟩
  split
  · exact ⟨alone, rfl⟩
  rename_i zone _
  have submitted := submit_alone svc env alone
    (rfl : (Heat.createRequest tenant.organizationId body zone).organizationId = _) fresh
  dsimp only
  rw [submitted.outcome]
  split
  · exact ⟨submitted.store, rfl⟩
  · exact ⟨submitted.store.record rfl, rfl⟩
  · exact ⟨submitted.store, rfl⟩
  · exact ⟨submitted.store, rfl⟩
  · exact ⟨submitted.store, rfl⟩

/-- The breaker row does not reach the analysis, its activity or the events. -/
theorem pollBody_circuit (svc : Heat.HeatService) (clock : Heat.PollClock) (a : HeatAnalysis)
    (x : Option FortyGuardActivity) (c c' : Option ProviderCircuit)
    (seen : Except ProviderQuery.FortyGuardError Dict) :
    ∃ circuit, Heat.pollBody svc clock ⟨a, x, c'⟩ seen =
      ({ (Heat.pollBody svc clock ⟨a, x, c⟩ seen).1 with circuit := circuit },
        (Heat.pollBody svc clock ⟨a, x, c⟩ seen).2) := by
  have failed : ∀ exc, ∃ circuit, Heat.pollFailed svc clock ⟨a, x, c'⟩ exc =
      ({ (Heat.pollFailed svc clock ⟨a, x, c⟩ exc).1 with circuit := circuit },
        (Heat.pollFailed svc clock ⟨a, x, c⟩ exc).2) := by
    intro exc
    refine ⟨some (Heat.failedCircuit clock c'), ?_⟩
    unfold Heat.pollFailed
    dsimp only
    split
    · rfl
    · rfl
  unfold Heat.pollBody
  cases seen with
  | error exc => exact failed exc
  | ok raw =>
    dsimp only
    split
    · exact failed _
    · exact ⟨c'.map fun _ => ⟨0, none, false⟩, rfl⟩

theorem putPoll_alone {s t : Heat.HeatTables} (alone : HeatAlone k s t) {m : Heat.PollMemory}
    (circuit : Option ProviderCircuit) {events : List AuditEvent} {a : HeatAnalysis}
    (stored : s.analysis m.analysis.id = some a)
    (before : ∀ r ∈ s.analyses, r.id = m.analysis.id → r.organizationId = k)
    (mine : m.analysis.organizationId = k) (about : ∀ x ∈ m.activity, x.analysisId = m.analysis.id)
    (audits : ∀ e ∈ events, e.organizationId = k) :
    HeatAlone k (s.putPoll m events) (t.putPoll { m with circuit := circuit } events) := by
  have recorded : t.audits ++ events = slice AuditEvent.organizationId k (s.audits ++ events) := by
    rw [alone.audits]
    exact (slice_added audits).symm
  have put := alone.putAnalysis m.analysis before mine
  obtain ⟨row, activity, c⟩ := m
  cases activity with
  | none => exact ⟨put.analyses, put.activities, recorded⟩
  | some x =>
    have owner : activityOwner (s.putAnalysis row) x = some k := by
      rw [activityOwner, about x rfl, Heat.HeatTables.analysis_putAnalysis, if_pos rfl, stored]
      exact congrArg some mine
    have both := put.putActivity owner
    exact ⟨both.analyses, both.activities, recorded⟩

/-- The tables after a poll that asked the provider. -/
theorem poll_tables (svc : Heat.HeatService) {s : Heat.HeatStore} {a : HeatAnalysis}
    (clock : Heat.PollClock) {answer : Except ProviderQuery.Raised Dict}
    {seen : Except ProviderQuery.FortyGuardError Dict} (stored : s.analysis a.id = some a)
    (live : Heat.suppressed a s.circuit clock.now = false) (arrived : Heat.caught answer = some seen) :
    (Heat.poll svc a.id clock answer s).toHeatTables =
      s.putPoll (Heat.pollBody svc clock ⟨a, s.activity a.id, s.circuit⟩ seen).1
        (Heat.pollBody svc clock ⟨a, s.activity a.id, s.circuit⟩ seen).2 := by
  have write := Heat.pollBody_cases svc clock stored live arrived
  obtain ⟨u, committed, tables⟩ := Heat.HeatStore.commit_of _ (write.poll_commits
    (Heat.pollBody svc clock ⟨a, s.activity a.id, s.circuit⟩ seen).2).1
  change Heat.HeatStore.commit (s.putPoll
    (Heat.pollBody svc clock ⟨a, s.activity a.id, s.circuit⟩ seen).1
    (Heat.pollBody svc clock ⟨a, s.activity a.id, s.circuit⟩ seen).2) = some u at committed
  simp only [Heat.poll, stored, arrived, live, Bool.false_eq_true, if_false, committed,
    Option.getD_some]
  exact tables

theorem poll_alone (svc : Heat.HeatService) (id : UUID) (clock : Heat.PollClock)
    (answer : Except ProviderQuery.Raised Dict) {s t : Heat.HeatStore}
    (alone : HeatAlone k s.toHeatTables t.toHeatTables)
    (breaker : ∀ a, s.analysis id = some a → a.organizationId = k →
      Heat.circuitOpen t.circuit clock.now = Heat.circuitOpen s.circuit clock.now) :
    HeatAlone k (Heat.poll svc id clock answer s).toHeatTables
      (Heat.poll svc id clock answer t).toHeatTables := by
  have looked := alone.analysis s.wf.analysisId id
  cases stored : s.analysis id with
  | none =>
    rw [stored] at looked
    rw [poll_missing svc clock answer stored, poll_missing svc clock answer looked]
    exact alone
  | some a =>
    rw [stored, Option.filter_some] at looked
    by_cases mine : a.organizationId = k
    · rw [if_pos (decide_eq_true mine)] at looked
      have same : Heat.suppressed a t.circuit clock.now = Heat.suppressed a s.circuit clock.now := by
        rw [Heat.suppressed, Heat.suppressed, breaker a stored mine]
      obtain ⟨member, rfl⟩ := Heat.HeatTables.analysis_mem stored
      cases arrived : Heat.caught answer with
      | none => simpa [Heat.poll, arrived] using alone
      | some seen =>
        cases live : Heat.suppressed a s.circuit clock.now with
        | true => simpa [Heat.poll, arrived, stored, looked, live, same] using alone
        | false =>
          rw [poll_tables svc clock stored live arrived,
            poll_tables svc clock looked (same.trans live) arrived, alone.activity stored mine]
          obtain ⟨circuit, body⟩ := pollBody_circuit svc clock a (s.activity a.id) s.circuit
            t.circuit seen
          rw [body]
          have write := Heat.pollBody_cases svc clock stored live arrived
          obtain ⟨rowId, owner, -, -⟩ := poll_place write
          refine putPoll_alone alone circuit (a := a) (by rw [rowId, stored]) (fun r inTable hit => ?_)
            (owner.trans mine) (fun x made => ?_) fun e recorded => ?_
          · rw [List.inj_on_of_nodup_map s.wf.analysisId inTable member (hit.trans rowId), mine]
          · obtain ⟨y, loaded, about⟩ := pollBody_activity svc clock _ seen x made
            rw [about, (find_some loaded).2]
            exact rowId.symm
          · exact (pollBody_about svc clock ⟨a, s.activity a.id, s.circuit⟩ seen rowId owner e
              recorded).organization.trans (owner.trans mine)
    · rw [if_neg (by simpa using mine)] at looked
      rw [poll_missing svc clock answer looked]
      refine alone.other (poll_other svc id clock answer s fun b found => ?_)
      rw [stored] at found
      exact Option.some.inj found ▸ mine

end Alone

end CoolProof.Workspaces
