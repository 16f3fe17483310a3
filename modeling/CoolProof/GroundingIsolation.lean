import CoolProof.Grounding

/-! Grounding sees one organization. Every query carries the organization in its
condition, so it reads the same from a database and from the part of it that belongs
to the organization. -/

namespace CoolProof.Grounding
open Calendar JsonDocument Tables Uuid Models

/-- The rows of one organization, each table in its own order. -/
def tenantView (organizationId : UUID) (t : GroundingTables) : GroundingTables where
  projects := t.projects.filter fun p => p.organizationId = organizationId
  heatAnalyses := t.heatAnalyses.filter fun a => a.organizationId = organizationId
  portfolioRuns := t.portfolioRuns.filter fun r => r.organizationId = organizationId
  interventions := t.interventions.filter fun i => i.organizationId = organizationId
  interventionEvidence :=
    t.interventionEvidence.filter fun e => e.organizationId = organizationId
  documents := t.documents.filter fun d => d.organizationId = organizationId
  documentChunks := t.documentChunks.filter fun c => c.organizationId = organizationId

theorem filter_within {ρ : Type} {keep view : ρ → Bool}
    (within : ∀ r, keep r = true → view r = true) (rows : List ρ) :
    (rows.filter view).filter keep = rows.filter keep := by
  rw [List.filter_filter]
  congr 1
  funext r
  cases kept : keep r with
  | false => rfl
  | true => simp [within r kept]

theorem resolveProject_view (t : GroundingTables) (organizationId : UUID)
    (projectId : Option UUID) : resolveProject (tenantView organizationId t) organizationId
      projectId = resolveProject t organizationId projectId := by
  cases projectId with
  | none => rfl
  | some id =>
    have found : (tenantView organizationId t).projects.find?
          (fun p => p.organizationId = organizationId && p.id = id) =
        t.projects.find? fun p => p.organizationId = organizationId && p.id = id := by
      rw [tenantView, List.find?_filter]
      congr 1
      funext p
      by_cases own : p.organizationId = organizationId <;> simp [own]
    simp only [resolveProject, found]

theorem selectHeat_view (t : GroundingTables) (organizationId : UUID)
    (projectId wanted : Option UUID) :
    selectHeat (tenantView organizationId t) organizationId projectId wanted =
      selectHeat t organizationId projectId wanted :=
  first_filter (fun _ kept => (Bool.and_eq_true_iff.mp kept).1) t.heatAnalyses

theorem selectPortfolio_view (t : GroundingTables) (organizationId : UUID)
    (projectId wanted : Option UUID) :
    selectPortfolio (tenantView organizationId t) organizationId projectId wanted =
      selectPortfolio t organizationId projectId wanted :=
  first_filter (fun _ kept => (Bool.and_eq_true_iff.mp kept).1) t.portfolioRuns

theorem selectInterventions_view (collate : String → String → Bool) (t : GroundingTables)
    (organizationId : UUID) (ids : List UUID) :
    selectInterventions collate (tenantView organizationId t) organizationId ids =
      selectInterventions collate t organizationId ids := by
  unfold selectInterventions tenantView
  rw [filter_within fun _ kept => (Bool.and_eq_true_iff.mp kept).1]

/-- All three tables of the evidence join are restricted to the organization. -/
theorem evidenceRows_view (t : GroundingTables) (organizationId interventionId : UUID) :
    evidenceRows (tenantView organizationId t) organizationId interventionId =
      evidenceRows t organizationId interventionId := by
  have evidence : (tenantView organizationId t).interventionEvidence.filter (fun e =>
        e.organizationId = organizationId && e.interventionId = interventionId) =
      t.interventionEvidence.filter fun e =>
        e.organizationId = organizationId && e.interventionId = interventionId :=
    filter_within (fun _ kept => (Bool.and_eq_true_iff.mp kept).1) _
  have documents : ∀ id, (tenantView organizationId t).documents.filter (fun d =>
        d.organizationId = organizationId && d.id = id) =
      t.documents.filter fun d => d.organizationId = organizationId && d.id = id :=
    fun _ => filter_within (fun _ kept => (Bool.and_eq_true_iff.mp kept).1) _
  have chunks : ∀ id, (tenantView organizationId t).documentChunks.filter (fun c =>
        c.organizationId = organizationId && c.id = id) =
      t.documentChunks.filter fun c => c.organizationId = organizationId && c.id = id :=
    fun _ => filter_within (fun _ kept => (Bool.and_eq_true_iff.mp kept).1) _
  simp only [evidenceRows, evidence, documents, chunks]

theorem resolveInterventions_view (collate : String → String → Bool) (t : GroundingTables)
    (organizationId : UUID) (refs : List Json) :
    resolveInterventions collate (tenantView organizationId t) organizationId refs =
      resolveInterventions collate t organizationId refs := by
  have summary : interventionSummary (tenantView organizationId t) organizationId =
      interventionSummary t organizationId := by
    funext i
    simp only [interventionSummary, evidenceRows_view]
  simp only [resolveInterventions, selectInterventions_view, summary]

/-- Grounding is a function of the tenant's own rows. -/
theorem resolveGrounding_view (collate : String → String → Bool) (t : GroundingTables)
    (organizationId : UUID) (projectId : Option UUID) (inputData : Dict) (now : Instant) :
    resolveGrounding collate (tenantView organizationId t) organizationId projectId inputData now =
      resolveGrounding collate t organizationId projectId inputData now := by
  simp only [resolveGrounding, resolveProject_view, resolveHeat, selectHeat_view,
    resolvePortfolio, selectPortfolio_view, resolveInterventions_view]

/-- Two databases that agree on the rows of an organization, and on the order in which they list
them, ground its runs alike, whatever rows others have. The order counts only between rows of one
time, which no column tells apart. -/
theorem grounding_tenant_isolated (collate : String → String → Bool) (s t : GroundingTables)
    (organizationId : UUID) (projectId : Option UUID) (inputData : Dict) (now : Instant)
    (agree : tenantView organizationId s = tenantView organizationId t) :
    resolveGrounding collate s organizationId projectId inputData now =
      resolveGrounding collate t organizationId projectId inputData now := by
  rw [← resolveGrounding_view collate s, ← resolveGrounding_view collate t, agree]

def noRows : GroundingTables := ⟨[], [], [], [], [], [], []⟩

/-- A succeeded analysis of an organization, under one id whatever the organization. -/
def sharedIdAnalysis (organizationId : UUID) (createdAt : Instant) : HeatAnalysis where
  id := 7
  organizationId := organizationId
  projectId := 3
  zoneId := 4
  idempotencyKey := ""
  requestPayload := []
  providerActivityId := none
  status := .succeeded
  result := some [("exposure_score", .int 1)]
  errorCode := none
  errorMessage := none
  sourceUpdatedAt := none
  expiresAt := none
  createdAt := createdAt

/-- Another organization's newer analysis under the requested id changes nothing. -/
theorem grounding_tenant_isolated_shared_id :
    resolveGrounding (fun _ _ => true) { noRows with heatAnalyses := [sharedIdAnalysis 1 0] } 1
        none [("heat_id", uuidText 7)] 0 =
      resolveGrounding (fun _ _ => true)
        { noRows with heatAnalyses := [sharedIdAnalysis 2 9, sharedIdAnalysis 1 0] } 1
        none [("heat_id", uuidText 7)] 0 :=
  grounding_tenant_isolated _ _ _ 1 none _ 0 rfl

end CoolProof.Grounding
