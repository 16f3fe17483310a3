import CoolProof.AuditTrail
import CoolProof.HeatSequential
import CoolProof.TenantSeparation

/-! What becomes of a stored row. Rows are added and rewritten, but only the analyses and their
activities, documents, verification runs, agent runs and the breaker row are, and there the
columns that name them stay; the two requests that delete take chunks and evidence of their own
organization, and nothing else is ever lost. -/

namespace CoolProof.Workspaces
open Calendar JsonDocument Uuid Models Tables Documents Projects PortfolioRuns VerificationRuns
  HeatRequests Runs Journal

/-! ## Heirs -/

/-- The columns of a document that an upload writes and no finalisation changes. -/
def uploadedColumns (d : Document) :
    UUID × UUID × Option UUID × String × String × String × Int :=
  (d.id, d.organizationId, d.projectId, d.filename, d.contentType, d.s3Key, d.version)

/-- All columns of a verification run but the key of its report. -/
def createdColumns (v : VerificationRun) :
    UUID × UUID × Option UUID × Option UUID × String × Dict :=
  (v.id, v.organizationId, v.projectId, v.portfolioRunId, v.idempotencyKey, v.resultJson)

/-- The columns of a run that are written when it is created and never again. -/
def startedColumns (r : AgentRun) : UUID × UUID × Option UUID × String × Dict :=
  (r.id, r.organizationId, r.projectId, r.threadId, r.inputJson)

/-- What a row may be rewritten to. -/
inductive Row.Becomes : Row → Row → Prop where
  | same (r : Row) : Becomes r r
  | heatAnalysis {a b} : Heat.fixedColumns b = Heat.fixedColumns a →
      Becomes (.heatAnalysis a) (.heatAnalysis b)
  | activity {organizationId x y} : y.analysisId = x.analysisId →
      Becomes (.activity organizationId x) (.activity organizationId y)
  | document {d e} : uploadedColumns e = uploadedColumns d → Becomes (.document d) (.document e)
  | verificationRun {v w} : createdColumns w = createdColumns v →
      Becomes (.verificationRun v) (.verificationRun w)
  | agentRun {r t} : startedColumns t = startedColumns r → Becomes (.agentRun r) (.agentRun t)

theorem Row.Becomes.trans {r r' r'' : Row} (first : r.Becomes r') (second : r'.Becomes r'') :
    r.Becomes r'' := by
  cases first with
  | same => exact second
  | heatAnalysis columns =>
    cases second with
    | same => exact .heatAnalysis columns
    | heatAnalysis columns' => exact .heatAnalysis (columns'.trans columns)
  | activity owner =>
    cases second with
    | same => exact .activity owner
    | activity owner' => exact .activity (owner'.trans owner)
  | document columns =>
    cases second with
    | same => exact .document columns
    | document columns' => exact .document (columns'.trans columns)
  | verificationRun columns =>
    cases second with
    | same => exact .verificationRun columns
    | verificationRun columns' => exact .verificationRun (columns'.trans columns)
  | agentRun columns =>
    cases second with
    | same => exact .agentRun columns
    | agentRun columns' => exact .agentRun (columns'.trans columns)

/-- The calls that delete the row: they are of its organization. -/
inductive Discards : Call → Row → Prop where
  | removed {tenant : TenantContext} {e : InterventionEvidence} : mayWrite tenant = true →
      e.organizationId = tenant.organizationId →
      Discards (.request tenant (.catalogue (.removeEvidence e.interventionId e.id)))
        (.interventionEvidence e)
  | chunk {tenant : TenantContext} {c : DocumentChunk} {request env} : mayWrite tenant = true →
      c.organizationId = tenant.organizationId →
      Discards (.request tenant (.catalogue (.finalize c.documentId request env)))
        (.documentChunk c)
  | citing {tenant : TenantContext} {e : InterventionEvidence} {request env} :
      mayWrite tenant = true → e.organizationId = tenant.organizationId →
      Discards (.request tenant (.catalogue (.finalize e.documentId request env)))
        (.interventionEvidence e)

/-- A row that can be deleted has never been rewritten. -/
theorem Discards.unchanged {call : Call} {r r' : Row} (discards : Discards call r')
    (becomes : r.Becomes r') : r = r' := by
  cases discards with
  | removed | chunk | citing =>
    cases becomes with
    | same => rfl

abbrev Retains (before after : List Row) : Prop :=
  Inherits Row.Becomes (fun _ => False) before after

theorem retains_refl (rows : List Row) : Retains rows rows :=
  .of_subset .same (List.Subset.refl rows)

/-- A table that is only added to. -/
theorem retains_grown {ρ : Type} (f : ρ → Row) {before after : List ρ}
    (kept : before ⊆ after) : Retains (before.map f) (after.map f) :=
  .of_subset .same (List.map_subset f kept)

/-- A table whose rows are kept as they are or lost. -/
theorem inherits_rows {ρ : Type} {lost : Row → Prop} (f : ρ → Row) {before after : List ρ}
    (kept : Inherits Eq (fun r => lost (f r)) before after) :
    Inherits Row.Becomes lost (before.map f) (after.map f) := by
  have lift : ∀ {r r' : ρ}, r = r' → Row.Becomes (f r) (f r') := by
    rintro r r' rfl
    exact .same _
  exact .map f lift kept

/-! ## Projects, portfolios and verifications -/

theorem projectRows_retained {s t : ProjectTables} {tenant : TenantContext}
    (writes : ProjectWrites s tenant t) : Retains (projectRows s) (projectRows t) := by
  cases writes with
  | nothing => exact retains_refl _
  | project =>
    exact .append (.append (retains_grown _ (List.subset_append_left _ _)) (retains_refl _))
      (retains_grown _ (List.subset_append_left _ _))
  | zone has =>
    exact .append (.append (retains_refl _) (retains_grown _ (List.subset_append_left _ _)))
      (retains_grown _ (List.subset_append_left _ _))

theorem portfolioRows_retained {projects : ProjectTables} {catalogue : List Intervention}
    {s t : PortfolioTables} {tenant : TenantContext}
    (writes : PortfolioWrites projects catalogue s tenant t) :
    Retains (portfolioRows s) (portfolioRows t) := by
  cases writes with
  | nothing => exact retains_refl _
  | planned owner project has allocated =>
    exact .append (retains_grown _ (List.subset_append_left _ _))
      (retains_grown _ (List.subset_append_left _ _))

theorem withReport_createdColumns (id : UUID) (loaded key : Option String)
    (v : VerificationRun) : createdColumns (withReport id loaded key v) = createdColumns v := by
  unfold withReport
  split
  · rfl
  · rfl

theorem verificationRows_retained {projects : ProjectTables} {runs : List PortfolioRun}
    {s t : VerificationTables} {tenant : TenantContext}
    (writes : VerificationWrites projects runs s tenant t) :
    Retains (verificationRows s) (verificationRows t) := by
  cases writes with
  | nothing => exact retains_refl _
  | created owner sourced => exact retains_grown _ (List.subset_append_left _ _)
  | rewritten own =>
    refine .map _ .verificationRun (.of_columns createdColumns ?_)
    rw [List.map_map]
    exact List.map_congr_left fun v _ => withReport_createdColumns _ _ _ v

/-! ## Heat analyses -/

theorem OpWrite.fixedColumns {svc : Heat.HeatService} {s : Heat.HeatStore} {op : Heat.HeatOp}
    {a row : HeatAnalysis} {activity : Option FortyGuardActivity}
    (write : Heat.OpWrite svc s op a row activity) :
    Heat.fixedColumns row = Heat.fixedColumns a := by
  cases write with
  | answered =>
    unfold Heat.answeredAnalysis
    dsimp only
    split
    · rfl
    · rfl
  | stale | refused | requeued | retried | gaveUp => rfl

/-- The row an operation works on is the stored one of its id, if there is one. -/
theorem OpWrite.stored {svc : Heat.HeatService} {s : Heat.HeatStore} {op : Heat.HeatOp}
    {a row b : HeatAnalysis} {activity : Option FortyGuardActivity}
    (write : Heat.OpWrite svc s op a row activity) (found : s.analysis a.id = some b) : b = a := by
  have opened : ∀ {req env}, Heat.Opens svc req env s a → b = a := by
    rintro req env (⟨byKey, -⟩ | ⟨-, missing, -⟩)
    · rw [s.analysis_of_mem (Heat.byKey_some byKey).1] at found
      exact (Option.some.inj found).symm
    · rw [missing] at found
      cases found
  have loaded : ∀ {id}, s.analysis id = some a → b = a := by
    intro id stored
    rw [s.analysis_of_mem (Heat.HeatTables.analysis_mem stored).1] at found
    exact (Option.some.inj found).symm
  cases write with
  | stale opens | refused opens | requeued opens => exact opened opens
  | answered stored | retried stored | gaveUp stored => exact loaded stored

theorem OpWrite.keeps_activity {svc : Heat.HeatService} {s : Heat.HeatStore} {op : Heat.HeatOp}
    {a row : HeatAnalysis} {activity : Option FortyGuardActivity}
    (write : Heat.OpWrite svc s op a row activity) (had : (s.activity a.id).isSome = true) :
    activity.isSome = true := by
  cases write with
  | stale | refused | gaveUp => exact had
  | requeued | retried => rfl
  | answered => rw [Option.isSome_map]; exact had

/-- An operation keeps the analyses, with their fixed columns, and their activities. -/
structure HeatKept (s t : Heat.HeatStore) : Prop where
  analyses : ∀ a ∈ s.analyses, ∃ b ∈ t.analyses, Heat.fixedColumns b = Heat.fixedColumns a
  activities : ∀ x ∈ s.activities, ∃ y ∈ t.activities, y.analysisId = x.analysisId

theorem heatKept_apply (svc : Heat.HeatService) (op : Heat.HeatOp) (s : Heat.HeatStore) :
    HeatKept s (Heat.apply svc op s) := by
  rcases Heat.apply_cases svc op s with same | ⟨a, row, activity, write, wrote⟩
  · rw [same]
    exact ⟨fun a member => ⟨a, member, rfl⟩, fun x member => ⟨x, member, rfl⟩⟩
  · generalize Heat.apply svc op s = t at wrote
    have sameId : row.id = a.id := write.id
    refine ⟨fun b member => ?_, fun x member => ?_⟩
    · have found := s.analysis_of_mem member
      by_cases written : b.id = row.id
      · have own : b = a := OpWrite.stored write (by rw [← sameId, ← written]; exact found)
        refine ⟨row, (Heat.HeatTables.analysis_mem
          (by rw [wrote.analysis]; exact if_pos rfl)).1, ?_⟩
        rw [own]
        exact OpWrite.fixedColumns write
      · have still : t.analysis b.id = some b := by
          rw [wrote.analysis, if_neg written]
          exact found
        exact ⟨b, (Heat.HeatTables.analysis_mem still).1, rfl⟩
    · have found := s.activity_of_mem member
      have left := wrote.activity x.analysisId
      split at left
      · rename_i written
        rw [written, sameId] at found
        have some_ := OpWrite.keeps_activity write (Option.isSome_iff_exists.mpr ⟨x, found⟩)
        obtain ⟨y, rfl⟩ := Option.isSome_iff_exists.mp some_
        exact ⟨y, Heat.HeatTables.activity_mem left⟩
      · rw [found] at left
        exact ⟨x, (Heat.HeatTables.activity_mem left).1, rfl⟩

theorem heatRows_retained {s t : Heat.HeatStore} (kept : HeatKept s t)
    (audits : s.audits <+: t.audits) :
    Retains (heatRows s.toHeatTables) (heatRows t.toHeatTables) := by
  refine .append (.append ?_ ?_) (retains_grown _ audits.subset)
  · exact .map _ .heatAnalysis fun a member => .inl (kept.analyses a member)
  · intro r member
    obtain ⟨x, stored, made⟩ := List.mem_filterMap.mp member
    obtain ⟨a, owner, rfl⟩ := Option.map_eq_some_iff.mp made
    obtain ⟨y, last, same⟩ := kept.activities x stored
    obtain ⟨inTable, ownId⟩ := Heat.HeatTables.analysis_mem owner
    obtain ⟨b, inLast, columns⟩ := kept.analyses a inTable
    have ids : b.id = y.analysisId := (congrArg Prod.fst columns).trans (ownId.trans same.symm)
    have organization : b.organizationId = a.organizationId := congrArg (·.2.1) columns
    have found : t.analysis y.analysisId = some b := ids ▸ t.analysis_of_mem inLast
    refine .inl ⟨.activity a.organizationId y, List.mem_filterMap.mpr ⟨y, last, ?_⟩,
      .activity same⟩
    rw [activityRow, found, Option.map_some, organization]

/-- A request for an analysis writes what a submission writes, and an audit event. -/
theorem heatKept_createHeatAnalysis (svc : Heat.HeatService) (projects : ProjectTables)
    (s : Heat.HeatStore) (tenant : TenantContext) (body : Heat.HeatAnalysisCreate)
    (env : Heat.SubmitEnv) (now : Instant) :
    HeatKept s (createHeatAnalysis svc projects s tenant body env now).1 := by
  have kept : HeatKept s s :=
    ⟨fun a member => ⟨a, member, rfl⟩, fun x member => ⟨x, member, rfl⟩⟩
  unfold createHeatAnalysis
  split
  · exact kept
  split
  · exact kept
  · rename_i zone found
    have submitted := heatKept_apply svc
      (.submit (Heat.createRequest tenant.organizationId body zone) env) s
    dsimp only
    split
    · exact submitted
    · exact ⟨submitted.analyses, submitted.activities⟩
    · exact submitted
    · exact submitted
    · exact submitted

/-- The breaker row, once it is stored, is rewritten and never deleted. -/
theorem poll_circuit (svc : Heat.HeatService) (s : Heat.HeatStore) (id : UUID)
    (clock : Heat.PollClock) (answer : Except ProviderQuery.Raised Dict)
    (had : s.circuit.isSome = true) : (Heat.poll svc id clock answer s).circuit.isSome = true := by
  cases ended : Heat.pollEnd s (.poll id clock answer) with
  | none => rwa [Heat.poll_silent svc ended]
  | some how =>
    obtain ⟨k, e⟩ := how
    obtain ⟨rfl, polled⟩ := Heat.poll_ended svc ended
    cases polled with
    | answered _ _ _ _ writes =>
      rw [writes.circuit]
      exact (Option.isSome_map).trans had
    | @error a exc _ _ _ writes =>
      rw [writes.circuit]
      unfold Heat.pollFailed
      dsimp only
      split
      · rfl
      · rfl

theorem createHeatAnalysis_circuit (svc : Heat.HeatService) (projects : ProjectTables)
    (s : Heat.HeatStore) (tenant : TenantContext) (body : Heat.HeatAnalysisCreate)
    (env : Heat.SubmitEnv) (now : Instant) :
    (createHeatAnalysis svc projects s tenant body env now).1.circuit = s.circuit := by
  unfold createHeatAnalysis
  split
  · rfl
  split
  · rfl
  · rename_i zone found
    have submitted :=
      Heat.submit_circuit svc (Heat.createRequest tenant.organizationId body zone) env s
    dsimp only
    split
    · exact submitted
    · exact submitted
    · exact submitted
    · exact submitted
    · exact submitted

/-! ## Documents, interventions and evidence -/

/-- What is left of the catalogue by a call. -/
abbrev CatalogueRetains (call : Call) (s t : CatalogueTables) : Prop :=
  Inherits Row.Becomes (Discards call) (catalogueRows s) (catalogueRows t)

theorem catalogueRows_grown {call : Call} {s t : CatalogueTables}
    (documents : s.documents ⊆ t.documents) (chunks : t.chunks = s.chunks)
    (interventions : s.interventions ⊆ t.interventions) (evidence : s.evidence ⊆ t.evidence) :
    CatalogueRetains call s t := by
  unfold CatalogueRetains catalogueRows
  rw [chunks]
  exact .weaken (.append (.append (.append (retains_grown _ documents) (retains_refl _))
    (retains_grown _ interventions)) (retains_grown _ evidence))

theorem catalogueRows_same {call : Call} (t : CatalogueTables) : CatalogueRetains call t t :=
  .weaken (retains_refl _)

theorem catalogueRows_save {β : Type} {call : Call} {s : CatalogueStore} {t : CatalogueTables}
    (retains : CatalogueRetains call s.toCatalogueTables t) (ing : Ingestion)
    (texts : List String) (answer : Except Refusal β) :
    CatalogueRetains call s.toCatalogueTables (s.save ing texts t answer).1.toCatalogueTables := by
  rcases save_cases s ing texts t answer with same | same
  · rw [same]
    exact retains
  · rw [same]
    exact catalogueRows_same _

/-- A document written back has the columns it was uploaded with. -/
theorem update_uploadedColumns {s : CatalogueStore} {d : Document} (changed : Document)
    (stored : s.document d.id = some d) (same : uploadedColumns changed = uploadedColumns d) :
    (update Document.id changed s.documents).map uploadedColumns =
      s.documents.map uploadedColumns := by
  refine map_update_of_eq fun r member hit => ?_
  have id : changed.id = d.id := congrArg Prod.fst same
  have twin : r = d := List.inj_on_of_nodup_map s.wf.documentId member (find_some stored).1
    (hit.trans id)
  rw [twin, same]

theorem markFailed_retained {call : Call} (ing : Ingestion) (s : CatalogueStore) {d : Document}
    (stored : s.document d.id = some d) (error : Refusal) :
    CatalogueRetains call s.toCatalogueTables
      (s.markFailed ing d error).1.toCatalogueTables := by
  refine catalogueRows_save ?_ ing _ _
  have columns := update_uploadedColumns { d with status := .failed } stored rfl
  exact .append (.append (.append (.map _ .document (.of_columns uploadedColumns columns))
    (.weaken (retains_refl _))) (.weaken (retains_refl _))) (.weaken (retains_refl _))

/-- A finalisation deletes the chunks of its document and the evidence on them. -/
theorem finalizedTables_retained {ing : Ingestion} {projects : ProjectTables} {s : CatalogueStore}
    {tenant : TenantContext} {d : Document} {content : Bytes} {chunks : List PageText}
    {newIds : Nat → UUID} {request : FinalizeDocumentRequest} {env : FinalizeEnv}
    (integrity : CatalogueIntegrity projects s.toCatalogueTables) (role : mayWrite tenant = true)
    (stored : s.document d.id = some d) (owner : d.organizationId = tenant.organizationId) :
    CatalogueRetains (.request tenant (.catalogue (.finalize d.id request env)))
      s.toCatalogueTables
      (finalizedTables ing s.toCatalogueTables d content chunks newIds) := by
  have columns := update_uploadedColumns (finalizedDocument ing d content chunks) stored rfl
  -- what the document has is of its organization
  have owns : ∀ {organizationId}, HasDocument s.toCatalogueTables organizationId d.id →
      organizationId = tenant.organizationId := by
    rintro organizationId ⟨d', member, same, of⟩
    rw [← of, ← owner]
    exact congrArg Document.organizationId (List.inj_on_of_nodup_map s.wf.documentId member
      (find_some stored).1 same)
  refine .append (.append (.append (.map _ .document (.of_columns uploadedColumns columns)) ?_)
    (.weaken (retains_refl _))) (inherits_rows _ (.of_filter (fun _ => rfl)
      fun e member cited => ?_))
  · refine inherits_rows _ fun c member => ?_
    by_cases own : c.documentId = d.id
    · have of := owns (own ▸ integrity.chunk c member)
      rw [← own]
      exact .inr (.chunk role of)
    · have kept : c ∈ s.chunks.filter fun c => c.documentId ≠ d.id :=
        List.mem_filter.mpr ⟨member, decide_eq_true own⟩
      exact .inl ⟨c, List.mem_append_left _ kept, rfl⟩
  · obtain ⟨c, inChunks, cites, own⟩ : ∃ c ∈ s.chunks, c.id = e.chunkId ∧
        c.documentId = d.id := by simpa using cited
    obtain ⟨c', inChunks', sameId, ofDocument, -⟩ := (integrity.evidence e member).chunk
    have twin : c' = c := List.inj_on_of_nodup_map s.wf.chunkId inChunks' inChunks
      (sameId.trans cites.symm)
    have ofD : e.documentId = d.id := by rw [← ofDocument, twin, own]
    have of := owns (ofD ▸ (integrity.evidence e member).document)
    rw [← ofD]
    exact .citing role of

theorem finalizeContent_retained {ing : Ingestion} {projects : ProjectTables} {s : CatalogueStore}
    {tenant : TenantContext} {d : Document} {request : FinalizeDocumentRequest} {env : FinalizeEnv}
    (integrity : CatalogueIntegrity projects s.toCatalogueTables) (role : mayWrite tenant = true)
    (stored : s.document d.id = some d) (owner : d.organizationId = tenant.organizationId)
    (content : Bytes) (newIds : Nat → UUID) :
    CatalogueRetains (.request tenant (.catalogue (.finalize d.id request env)))
      s.toCatalogueTables (finalizeContent ing s tenant d content newIds).1.toCatalogueTables := by
  unfold finalizeContent
  split
  · exact markFailed_retained ing s stored _
  · exact catalogueRows_save (finalizedTables_retained integrity role stored owner) ing _ _

theorem finalize_retained {ing : Ingestion} {projects : ProjectTables} {s : CatalogueStore}
    (integrity : CatalogueIntegrity projects s.toCatalogueTables) (tenant : TenantContext)
    (documentId : UUID) (request : FinalizeDocumentRequest) (env : FinalizeEnv) :
    CatalogueRetains (.request tenant (.catalogue (.finalize documentId request env)))
      s.toCatalogueTables (finalize ing s tenant documentId request env).1.toCatalogueTables := by
  unfold finalize
  split
  · exact catalogueRows_same _
  rename_i role
  have role : mayWrite tenant = true := by simpa using role
  split
  · exact catalogueRows_same _
  cases found : s.document documentId with
  | none => exact catalogueRows_same _
  | some d =>
    obtain rfl : d.id = documentId := (find_some found).2
    dsimp only
    split
    · exact catalogueRows_same _
    rename_i owner
    have owner := not_not.mp owner
    cases request.text with
    | some text => exact finalizeContent_retained integrity role found owner _ _
    | none =>
      dsimp only
      split
      · exact catalogueRows_same _
      cases env.fetched with
      | none => exact markFailed_retained ing s found _
      | some content => exact finalizeContent_retained integrity role found owner _ _

theorem removeEvidence_retained (ing : Ingestion) (s : CatalogueStore) (tenant : TenantContext)
    (interventionId evidenceId : UUID) :
    CatalogueRetains (.request tenant (.catalogue (.removeEvidence interventionId evidenceId)))
      s.toCatalogueTables
      (removeEvidence ing s tenant interventionId evidenceId).1.toCatalogueTables := by
  unfold removeEvidence
  split
  · exact catalogueRows_same _
  rename_i role
  cases found : find InterventionEvidence.id evidenceId s.evidence with
  | none => exact catalogueRows_same _
  | some e =>
    obtain ⟨member, rfl⟩ := find_some found
    dsimp only
    split
    · exact catalogueRows_same _
    rename_i own
    obtain ⟨of, owner⟩ : e.interventionId = interventionId ∧
        e.organizationId = tenant.organizationId := by simpa using own
    refine catalogueRows_save ?_ ing _ _
    refine .append (.weaken (retains_refl _)) (inherits_rows _ (.of_filter (fun _ => rfl)
      fun x listed dropped => ?_))
    have same : x = e := List.inj_on_of_nodup_map s.wf.evidenceId listed member
      (by simpa using dropped)
    rw [same, ← of]
    exact .removed (by simpa using role) owner

theorem serveCatalogue_retained {ing : Ingestion} {projects : ProjectTables} {s : CatalogueStore}
    (integrity : CatalogueIntegrity projects s.toCatalogueTables) (tenant : TenantContext)
    (request : CatalogueRequest) :
    CatalogueRetains (.request tenant (.catalogue request)) s.toCatalogueTables
      (serveCatalogue ing projects.projects s tenant request).toCatalogueTables := by
  cases request with
  | createUpload bucket request newId =>
    simp only [serveCatalogue]
    unfold createUpload
    split
    · exact catalogueRows_same _
    split
    · exact catalogueRows_same _
    split
    · exact catalogueRows_same _
    split
    · exact catalogueRows_same _
    · refine catalogueRows_save ?_ ing _ _
      exact catalogueRows_grown (List.subset_append_left _ _) rfl
        (List.Subset.refl _) (List.Subset.refl _)
  | finalize documentId request env => exact finalize_retained integrity tenant _ request env
  | createIntervention request newId =>
    simp only [serveCatalogue]
    unfold createIntervention
    split
    · exact catalogueRows_same _
    split
    · exact catalogueRows_same _
    split
    · exact catalogueRows_same _
    · refine catalogueRows_save ?_ ing _ _
      exact catalogueRows_grown (List.Subset.refl _) rfl
        (List.subset_append_left _ _) (List.Subset.refl _)
  | addEvidence interventionId request newId now =>
    simp only [serveCatalogue]
    unfold addEvidence
    split
    · exact catalogueRows_same _
    split
    · exact catalogueRows_same _
    split
    · exact catalogueRows_same _
    · refine catalogueRows_save ?_ ing _ _
      exact catalogueRows_grown (List.Subset.refl _) rfl
        (List.Subset.refl _) (List.subset_append_left _ _)
  | removeEvidence interventionId evidenceId => exact removeEvidence_retained ing s tenant _ _

/-! ## Agent runs -/

theorem mergeRun_startedColumns {loaded changed : AgentRun} {runs : List AgentRun}
    (unique : (runs.map AgentRun.id).Nodup) :
    (Agents.mergeRun loaded changed runs).map startedColumns = runs.map startedColumns := by
  unfold Agents.mergeRun
  split
  · rename_i stored found
    refine map_update_of_eq fun r member same => ?_
    have twin : r = stored := List.inj_on_of_nodup_map unique member (find_some found).1 same
    rw [twin]
    rfl
  · rfl

theorem agentRows_transact_retained (s : Agents.AgentStore) {run : AgentRun}
    (draft : Agents.Draft run) :
    Retains (agentRows s.toAgentTables) (agentRows (s.transact draft).toAgentTables) :=
  .append (.append (.append
    (.map _ .agentRun (.of_columns startedColumns (mergeRun_startedColumns s.primaryKey)))
    (retains_grown _ (List.subset_append_left _ _)))
    (retains_grown _ (List.subset_append_left _ _)))
    (retains_grown _ (List.subset_append_left _ _))

theorem agentRows_transacts_retained {organizationId : UUID} {s t : Agents.AgentStore}
    (transacts : Agents.Transacts organizationId s t) :
    Retains (agentRows s.toAgentTables) (agentRows t.toAgentTables) := by
  induction transacts with
  | refl => exact retains_refl _
  | cons loaded owner own _ ih => exact (agentRows_transact_retained _ _).trans .trans ih

theorem agentRows_created_retained {s t : Agents.AgentStore} {new : Agents.NewRun}
    (create : Agents.createRun s new = some t) :
    Retains (agentRows s.toAgentTables) (agentRows t.toAgentTables) := by
  unfold Agents.createRun at create
  split at create
  · cases create
    exact .append (.append (.append (retains_grown _ (List.subset_append_left _ _))
      (retains_grown _ (List.subset_append_left _ _))) (retains_refl _)) (retains_refl _)
  · cases create

/-! ## Calls -/

/-- The rows of a workspace, component by component. -/
theorem rows_inherited {lost : Row → Prop} {w v : Workspace}
    (projects : Inherits Row.Becomes lost (projectRows w.projects.toProjectTables)
      (projectRows v.projects.toProjectTables))
    (heat : Inherits Row.Becomes lost (heatRows w.heat.toHeatTables)
      (heatRows v.heat.toHeatTables))
    (catalogue : Inherits Row.Becomes lost (catalogueRows w.catalogue.toCatalogueTables)
      (catalogueRows v.catalogue.toCatalogueTables))
    (portfolios : Inherits Row.Becomes lost (portfolioRows w.portfolios.toPortfolioTables)
      (portfolioRows v.portfolios.toPortfolioTables))
    (verifications : Inherits Row.Becomes lost
      (verificationRows w.verifications.toVerificationTables)
      (verificationRows v.verifications.toVerificationTables))
    (agents : Inherits Row.Becomes lost (agentRows w.agents.toAgentTables)
      (agentRows v.agents.toAgentTables)) : Inherits Row.Becomes lost w.rows v.rows :=
  .append (.append (.append (.append (.append projects heat) catalogue) portfolios) verifications)
    agents

theorem serveRequest_inherits (dep : Deployment) {w : Workspace} (tenant : TenantContext)
    (request : WorkspaceRequest) (integrity : Integrity w) :
    Inherits Row.Becomes (Discards (.request tenant request)) w.rows
      (serveRequest dep w tenant request).rows := by
  have same : ∀ {rows}, Inherits Row.Becomes (Discards (.request tenant request)) rows rows :=
    .weaken (retains_refl _)
  cases request with
  | createProject body newId now =>
    exact rows_inherited (.weaken (projectRows_retained
      (createProject_writes dep.ingestion w.projects tenant body newId now))) same same same same
      same
  | createZone projectId body newId now =>
    exact rows_inherited (.weaken (projectRows_retained
      (createZone_writes dep.ingestion w.projects tenant projectId body newId now))) same same same
      same same
  | createHeatAnalysis body env now =>
    exact rows_inherited same (.weaken (heatRows_retained
      (heatKept_createHeatAnalysis dep.heat w.projects.toProjectTables w.heat tenant body env now)
      (createHeatAnalysis_advances w w dep.heat w.projects.toProjectTables w.heat tenant body env
        now).append)) same same same same
  | catalogue request =>
    exact rows_inherited same same
      (serveCatalogue_retained integrity.catalogue tenant request) same same same
  | optimize request env =>
    exact rows_inherited same same same (.weaken (portfolioRows_retained
      (optimize_writes dep.optimizer w.projects.toProjectTables w.catalogue.interventions
        w.portfolios tenant request env))) same same
  | createVerification request newId storage =>
    exact rows_inherited same same same same (.weaken (verificationRows_retained
      (createVerification_writes dep.verification w.projects.toProjectTables w.portfolios.runs
        w.verifications tenant request newId storage))) same
  | createReport verificationId storage =>
    exact rows_inherited same same same same (.weaken (verificationRows_retained
      (createReport_writes w.projects.toProjectTables w.portfolios.runs storage w.verifications
        tenant verificationId))) same
  | createReportAlias verificationId storage =>
    exact rows_inherited same same same same (.weaken (verificationRows_retained
      (createReportAlias_writes w.projects.toProjectTables w.portfolios.runs storage
        w.verifications tenant verificationId))) same
  | startAgentRun projectId inputData newId threadId now provider =>
    refine rows_inherited same same same same same (.weaken ?_)
    dsimp only [serveRequest]
    rcases Agents.startAgentRun_transacts dep.agents ⟨w.groundingTables, now, provider⟩ w.agents
      (startRequest tenant projectId inputData newId threadId) with
      same | ⟨made, create, -, rest⟩
    · rw [same]
      exact retains_refl _
    · exact (agentRows_created_retained create).trans .trans (agentRows_transacts_retained rest)
  | approveAgentRun runId decision comment decidedAt now provider =>
    exact rows_inherited same same same same same (.weaken (agentRows_transacts_retained
      (Agents.approveAgentRun_transacts dep.agents ⟨w.groundingTables, now, provider⟩ w.agents
        (approvalRequest tenant runId decision comment) decidedAt)))

theorem serveCall_inherits (dep : Deployment) {w : Workspace} (call : Call)
    (integrity : Integrity w) :
    Inherits Row.Becomes (Discards call) w.rows (serveCall dep w call).rows := by
  cases call with
  | request tenant request => exact serveRequest_inherits dep tenant request integrity
  | poll id clock answer =>
    have same : ∀ {rows}, Inherits Row.Becomes (Discards (.poll id clock answer)) rows rows :=
      .weaken (retains_refl _)
    exact rows_inherited same (.weaken (heatRows_retained
      (heatKept_apply dep.heat (.poll id clock answer) w.heat)
      (poll_advances dep.heat w w id clock answer).append)) same same same same

theorem serveCall_circuit (dep : Deployment) {w : Workspace} (call : Call)
    (had : w.heat.circuit.isSome = true) : (serveCall dep w call).heat.circuit.isSome = true := by
  cases call with
  | poll id clock answer => exact poll_circuit dep.heat w.heat id clock answer had
  | request tenant request =>
    cases request with
    | createHeatAnalysis body env now =>
      dsimp only [serveCall, serveRequest]
      rw [createHeatAnalysis_circuit]
      exact had
    | _ => exact had

theorem circuit_retained (dep : Deployment) (calls later : List Call)
    (had : (serveCalls dep calls).heat.circuit.isSome = true) :
    (serveCalls dep (calls ++ later)).heat.circuit.isSome = true := by
  induction later using List.reverseRecOn with
  | nil => rwa [List.append_nil]
  | append_singleton later call ih =>
    rw [← List.append_assoc, serveCalls, List.foldl_concat]
    exact serveCall_circuit dep call ih

theorem row_retained (dep : Deployment) (calls later : List Call) {r : Row}
    (stored : r ∈ (serveCalls dep calls).rows) :
    (∃ r' ∈ (serveCalls dep (calls ++ later)).rows, r.Becomes r') ∨
    ∃ before call after, later = before ++ call :: after ∧
      r ∈ (serveCalls dep (calls ++ before)).rows ∧ Discards call r := by
  induction later using List.reverseRecOn with
  | nil => exact .inl ⟨r, by rwa [List.append_nil], .same r⟩
  | append_singleton later call ih =>
    rcases ih with ⟨r', member, becomes⟩ | ⟨before, discarder, after, rfl, there, discards⟩
    · have next := serveCall_inherits dep call (integrity_serveCalls dep (calls ++ later))
      rcases next r' member with ⟨r'', last, rewritten⟩ | discards
      · refine .inl ⟨r'', ?_, becomes.trans rewritten⟩
        rw [← List.append_assoc, serveCalls, List.foldl_append]
        exact last
      · obtain rfl := discards.unchanged becomes
        exact .inr ⟨later, call, [], rfl, member, discards⟩
    · exact .inr ⟨before, discarder, after ++ [call], by simp, there, discards⟩

/-- Whatever is called later, a stored row is there as it was or rewritten in the columns that
do not name it; or one of the later calls deleted it, which was evidence or a chunk of the
organization of that call. The breaker row is never deleted. -/
theorem rows_retained (dep : Deployment) (calls later : List Call) :
    (∀ r ∈ (serveCalls dep calls).rows,
      (∃ r' ∈ (serveCalls dep (calls ++ later)).rows, r.Becomes r') ∨
      ∃ before call after, later = before ++ call :: after ∧
        r ∈ (serveCalls dep (calls ++ before)).rows ∧ Discards call r) ∧
    ((serveCalls dep calls).heat.circuit.isSome = true →
      (serveCalls dep (calls ++ later)).heat.circuit.isSome = true) :=
  ⟨fun _ stored => row_retained dep calls later stored, circuit_retained dep calls later⟩

/-- A project is there after a zone of it was made and analysed. -/
theorem rows_retained_riverside :
    (∃ r' ∈ (serveCalls plainDeployment (twoCities.take 1 ++ twoCities.drop 1)).rows,
      Row.Becomes (.project ⟨11, 1, "Riverside", none⟩) r') ∨
    ∃ before call after, twoCities.drop 1 = before ++ call :: after ∧
      Row.project ⟨11, 1, "Riverside", none⟩ ∈
        (serveCalls plainDeployment (twoCities.take 1 ++ before)).rows ∧
      Discards call (.project ⟨11, 1, "Riverside", none⟩) := by
  refine (rows_retained plainDeployment (twoCities.take 1) (twoCities.drop 1)).1 _ ?_
  have stored : (⟨11, 1, "Riverside", none⟩ : Project) ∈
      (serveCalls plainDeployment (twoCities.take 1)).projects.projects := by decide +kernel
  exact List.mem_append_left _ (List.mem_append_left _ (List.mem_append_left _
    (List.mem_append_left _ (List.mem_append_left _ (List.mem_append_left _
      (List.mem_append_left _ (List.mem_map_of_mem stored)))))))

end CoolProof.Workspaces
