import CoolProof.EventFrames
import CoolProof.HeatRetention
import CoolProof.ReportArtifacts
import CoolProof.SearchDeterminism
import CoolProof.TenantSeparation

/-! What the members of an organization read. Some selects name the organization; others name a
row by its id and rely on the references between the rows: the events of a run, the document and
the chunk of an evidence. Either way an answer is made from the slice of the organization. -/

namespace CoolProof.Workspaces
open Calendar JsonDocument Uuid Models Tables Slices Documents Projects PortfolioRuns
  VerificationRuns HeatRequests

/-! ## Reads -/

/-- What reads take from the database and from libraries besides the rows. -/
structure Retrieval where
  ranking : Ranking
  postgresql : Bool
  embedText : String → List FloatLiteral
  orderByName : List Intervention → List Intervention
  -- the rows of one transaction have one `created_at`
  orderByCreation : List PortfolioAllocation → List PortfolioAllocation

inductive ReadRequest where
  | listProjects
  | listZones (projectId : UUID)
  | getHeatAnalysis (id : UUID) (now : Instant)
  | listDocuments
  | searchDocuments (text : String) (projectId : Option UUID) (limit : Nat)
  | listInterventions
  | listEvidence (interventionId : UUID)
  | getPortfolioRun (id : UUID)
  | getVerification (id : UUID) (storage : ReportStorage)
  | getReportAlias (id : UUID) (storage : ReportStorage)
  | getAgentRun (id : UUID)
  | agentEvents (id : UUID) (after : Nat)

inductive Reading where
  | rows (rows : List Dict)
  | row (row : Dict)
  | citations (citations : List Citation)
  | verification (out : VerificationOut)
  | run (out : Agents.RunOut)
  | stream (texts : List String)

def notFound (code message : String) : Stopped := .refused (.apiError 404 code message)

section Projects

def projectOut (p : Project) : Dict :=
  [("id", .str (Uuid.toString p.id)), ("name", .str p.name),
   ("description", (p.description.map Json.str).getD .null)]

def zoneOut (z : Zone) : Dict :=
  [("id", .str (Uuid.toString z.id)), ("project_id", .str (Uuid.toString z.projectId)),
   ("name", .str z.name), ("geometry", .obj z.geometry)]

/-- Rows stand in the order of their creation, and the latest comes first. -/
def listProjects (t : ProjectTables) (k : UUID) : List Dict :=
  ((t.projects.filter fun p => p.organizationId = k).reverse).map projectOut

def listZones (t : ProjectTables) (k projectId : UUID) : Except Stopped (List Dict) :=
  if projectFound t.projects k (some projectId) then
    .ok ((t.zones.filter fun z => z.projectId = projectId && z.organizationId = k).map zoneOut)
  else .error (notFound "project_not_found" "Project was not found")

end Projects

def getHeatAnalysis (t : Heat.HeatTables) (k id : UUID) (now : Instant) : Except Stopped Dict :=
  match t.analyses.find? fun a => a.id = id && a.organizationId = k with
  | some a => .ok (Heat.heatOut a false now)
  | none => .error (notFound "heat_analysis_not_found" "Heat analysis was not found")

section Catalogue

def DocumentStatus.value : DocumentStatus → String
  | .pending => "pending"
  | .ready => "ready"
  | .failed => "failed"

def documentOut (d : Document) : Dict :=
  [("document_id", .str (Uuid.toString d.id)), ("filename", .str d.filename),
   ("content_type", .str d.contentType), ("status", .str (DocumentStatus.value d.status)),
   ("project_id", optionalUuid d.projectId),
   ("sha256", if d.status = .ready then .str d.sha256 else .null)]

def listDocuments (t : CatalogueTables) (k : UUID) : List Dict :=
  ((t.documents.filter fun d => d.organizationId = k).reverse).map documentOut

/-- `Query(min_length=1, max_length=1000)` and `Query(ge=1, le=50)` -/
def searchDocuments (r : Retrieval) (t : CatalogueTables) (k : UUID) (text : String)
    (projectId : Option UUID) (limit : Nat) : Except Stopped (List Citation) :=
  if 1 ≤ text.length && text.length ≤ 1000 && 1 ≤ limit && limit ≤ 50 then
    .ok (search r.ranking r.postgresql t ⟨k, text, some (r.embedText text), limit, projectId⟩)
  else .error (.refused .invalidBody)

def interventionOut (i : Intervention) : Dict :=
  [("intervention_id", .str (Uuid.toString i.id)), ("name", .str i.name),
   ("category", .str i.category), ("unit_cost", .float i.unitCost),
   ("cooling_score", .float i.coolingScore),
   ("eligible_land_uses", .arr (i.eligibleLandUses.map .str)),
   ("evidence_document_id", optionalUuid i.evidenceDocumentId)]

def listInterventions (r : Retrieval) (t : CatalogueTables) (k : UUID) : List Dict :=
  (r.orderByName (t.interventions.filter fun i => i.organizationId = k && i.active)).map
    interventionOut

/-- Evidence with its document and its chunk, which are joined by their ids alone. -/
def sources (t : CatalogueTables) (e : InterventionEvidence) :
    List (InterventionEvidence × Document × DocumentChunk) :=
  (t.documents.filter fun d => d.id = e.documentId).flatMap fun d =>
    (t.chunks.filter fun c => c.id = e.chunkId).map fun c => (e, d, c)

def evidenceOut (row : InterventionEvidence × Document × DocumentChunk) : Dict :=
  [("evidence_id", .str (Uuid.toString row.1.id)),
   ("document_id", .str (Uuid.toString row.2.1.id)),
   ("chunk_id", .str (Uuid.toString row.2.2.id)), ("filename", .str row.2.1.filename),
   ("page_number", (row.2.2.pageNumber.map Json.int).getD .null), ("claim", .str row.1.claim),
   ("excerpt", .str row.2.2.text),
   ("source_label", (row.1.sourceLabel.map Json.str).getD .null)]

def byCreation (a b : InterventionEvidence × Document × DocumentChunk) : Prop :=
  a.1.createdAt ≤ b.1.createdAt

instance : DecidableRel byCreation := fun a b =>
  inferInstanceAs (Decidable (a.1.createdAt ≤ b.1.createdAt))

def evidenceOf (t : CatalogueTables) (k interventionId : UUID) : List InterventionEvidence :=
  t.evidence.filter fun e => e.interventionId = interventionId && e.organizationId = k

/-- `session.get` names the intervention only. -/
def listEvidence (t : CatalogueTables) (k interventionId : UUID) : Except Stopped (List Dict) :=
  match find Intervention.id interventionId t.interventions with
  | none => .error (.refused (.httpException 404 "Intervention not found"))
  | some i =>
      if i.organizationId ≠ k then
        .error (.refused (.httpException 404 "Intervention not found"))
      else .ok ((((evidenceOf t k interventionId).flatMap (sources t)).insertionSort
        byCreation).map evidenceOut)

end Catalogue

section Portfolios

def allocationOut (a : PortfolioAllocation) : Json :=
  .obj [("zone_id", .str (Uuid.toString a.zoneId)),
    ("intervention_id", .str (Uuid.toString a.interventionId)), ("units", .int a.quantity),
    ("cost", .float a.cost)]

def getPortfolioRun (orderByCreation : List PortfolioAllocation → List PortfolioAllocation)
    (t : PortfolioTables) (k id : UUID) : Except Stopped Dict :=
  match t.runs.find? fun r => r.id = id && r.organizationId = k with
  | none => .error (notFound "portfolio_run_not_found" "Portfolio run was not found")
  | some run => .ok
      [("portfolio_run_id", .str (Uuid.toString run.id)),
       ("project_id", optionalUuid run.projectId), ("budget", .float run.budget),
       ("status", .str "completed"), ("result", run.resultJson),
       ("allocations", .arr ((orderByCreation (t.allocations.filter fun a =>
          a.portfolioRunId = run.id && a.organizationId = k)).map allocationOut))]

end Portfolios

section AgentRuns

def findRun (t : Agents.AgentTables) (k id : UUID) : Except Stopped AgentRun :=
  match t.runs.find? fun r => r.id = id && r.organizationId = k with
  | none => .error (notFound "agent_run_not_found" "Agent run was not found")
  | some run => .ok run

def getAgentRun (t : Agents.AgentTables) (k id : UUID) : Except Stopped Agents.RunOut :=
  (findRun t k id).map Agents.runOut

def bySequence (a b : AgentEvent) : Prop := a.sequence ≤ b.sequence

instance : DecidableRel bySequence := fun a b =>
  inferInstanceAs (Decidable (a.sequence ≤ b.sequence))

/-- `stream_events` names the run only. -/
def streamEvents (t : Agents.AgentTables) (run : AgentRun) (after : Nat) : List AgentEvent :=
  ((t.eventsOf run.id).filter fun e => after < e.sequence).insertionSort bySequence

def agentEvents (t : Agents.AgentTables) (k id : UUID) (after : Nat) :
    Except Stopped (List String) :=
  (findRun t k id).map fun run => Agents.agentEvents (streamEvents t run after)

end AgentRuns

/-- What a member of an organization is answered; every role may read. -/
def answerRead (r : Retrieval) (t : TenantTables) (tenant : TenantContext) :
    ReadRequest → Except Stopped Reading
  | .listProjects => .ok (.rows (listProjects t.projects tenant.organizationId))
  | .listZones projectId => (listZones t.projects tenant.organizationId projectId).map .rows
  | .getHeatAnalysis id now => (getHeatAnalysis t.heat tenant.organizationId id now).map .row
  | .listDocuments => .ok (.rows (listDocuments t.catalogue tenant.organizationId))
  | .searchDocuments text projectId limit =>
      (searchDocuments r t.catalogue tenant.organizationId text projectId limit).map .citations
  | .listInterventions => .ok (.rows (listInterventions r t.catalogue tenant.organizationId))
  | .listEvidence interventionId =>
      (listEvidence t.catalogue tenant.organizationId interventionId).map .rows
  | .getPortfolioRun id =>
      (getPortfolioRun r.orderByCreation t.portfolios tenant.organizationId id).map .row
  | .getVerification id storage =>
      (getVerification storage t.verifications tenant id).map .verification
  | .getReportAlias id storage =>
      (getReportAlias storage t.verifications tenant id).map .verification
  | .getAgentRun id => (getAgentRun t.agents tenant.organizationId id).map .run
  | .agentEvents id after => (agentEvents t.agents tenant.organizationId id after).map .stream

/-! ## Slices -/

section Slice

variable {k : UUID}

theorem listZones_slice (t : ProjectTables) (projectId : UUID) :
    listZones (projectSlice k t) k projectId = listZones t k projectId := by
  unfold listZones
  rw [projectSlice, projectFound_slice, filter_slice]
  exact fun z _ kept => of_decide_eq_true (Bool.and_eq_true_iff.mp kept).2

theorem getHeatAnalysis_slice (t : Heat.HeatTables) (id : UUID) (now : Instant) :
    getHeatAnalysis (heatSlice k t) k id now = getHeatAnalysis t k id now := by
  unfold getHeatAnalysis
  rw [heatSlice, find?_slice]
  exact fun a _ kept => of_decide_eq_true (Bool.and_eq_true_iff.mp kept).2

theorem joined_slice (t : CatalogueTables) {keep : DocumentChunk → Document → Bool}
    (own : ∀ c d, keep c d = true → c.organizationId = k ∧ d.organizationId = k) :
    joined (catalogueSlice k t) keep = joined t keep := by
  unfold joined
  rw [catalogueSlice, flatMap_slice]
  · refine List.flatMap_congr fun c _ => congrArg (List.map _) (filter_slice fun d _ kept => ?_)
    exact (own c d (Bool.and_eq_true_iff.mp kept).2).2
  · intro c _ other
    rw [List.map_eq_nil_iff, List.filter_eq_nil_iff]
    exact fun d _ kept => other (own c d (Bool.and_eq_true_iff.mp kept).2).1

theorem search_slice (rk : Ranking) (postgresql : Bool) (t : CatalogueTables)
    (query : RetrievalQuery) (mine : query.organizationId = k) :
    search rk postgresql (catalogueSlice k t) query = search rk postgresql t query := by
  have rows : readyRows (catalogueSlice k t) query = readyRows t query := by
    refine joined_slice t fun c d kept => ?_
    simp only [ofTenant, Bool.and_eq_true, decide_eq_true_eq] at kept
    exact ⟨kept.1.1.trans mine, kept.1.2.1.trans mine⟩
  have portable : portableSearch rk (catalogueSlice k t) query = portableSearch rk t query := by
    unfold portableSearch
    rw [show joined (catalogueSlice k t) _ = joined t _ from rows]
  unfold search
  rw [nativeSearch_none, nativeSearch_none, portable]

theorem searchDocuments_slice (r : Retrieval) (t : CatalogueTables) (text : String)
    (projectId : Option UUID) (limit : Nat) :
    searchDocuments r (catalogueSlice k t) k text projectId limit =
      searchDocuments r t k text projectId limit := by
  have same := search_slice (k := k) r.ranking r.postgresql t
    ⟨k, text, some (r.embedText text), limit, projectId⟩ rfl
  unfold searchDocuments
  rw [same]

/-- Evidence is joined with a document and a chunk of its own organization. -/
theorem sources_slice {projects : ProjectTables} (s : CatalogueStore)
    (integrity : CatalogueIntegrity projects s.toCatalogueTables) {e : InterventionEvidence}
    (stored : e ∈ s.evidence) (mine : e.organizationId = k) :
    sources (catalogueSlice k s.toCatalogueTables) e = sources s.toCatalogueTables e := by
  obtain ⟨-, ⟨d, inDocuments, document, owner⟩, c, inChunks, chunk, -, owner'⟩ :=
    integrity.evidence e stored
  have documents : ∀ d' ∈ s.documents, decide (d'.id = e.documentId) = true →
      d'.organizationId = k := by
    intro d' member same
    rw [List.inj_on_of_nodup_map s.wf.documentId member inDocuments
      ((of_decide_eq_true same).trans document.symm), owner, mine]
  have chunks : ∀ c' ∈ s.chunks, decide (c'.id = e.chunkId) = true →
      c'.organizationId = k := by
    intro c' member same
    rw [List.inj_on_of_nodup_map s.wf.chunkId member inChunks
      ((of_decide_eq_true same).trans chunk.symm), owner', mine]
  unfold sources
  rw [catalogueSlice, filter_slice documents, filter_slice chunks]

theorem listEvidence_slice {projects : ProjectTables} (s : CatalogueStore)
    (integrity : CatalogueIntegrity projects s.toCatalogueTables) (interventionId : UUID) :
    listEvidence (catalogueSlice k s.toCatalogueTables) k interventionId =
      listEvidence s.toCatalogueTables k interventionId := by
  have evidence : evidenceOf (catalogueSlice k s.toCatalogueTables) k interventionId =
      evidenceOf s.toCatalogueTables k interventionId :=
    filter_slice fun e _ kept => of_decide_eq_true (Bool.and_eq_true_iff.mp kept).2
  have rows : (evidenceOf s.toCatalogueTables k interventionId).flatMap
        (sources (catalogueSlice k s.toCatalogueTables)) =
      (evidenceOf s.toCatalogueTables k interventionId).flatMap
        (sources s.toCatalogueTables) := by
    refine List.flatMap_congr fun e member => ?_
    obtain ⟨stored, kept⟩ := List.mem_filter.mp member
    exact sources_slice s integrity stored (of_decide_eq_true (Bool.and_eq_true_iff.mp kept).2)
  unfold listEvidence
  rw [show (catalogueSlice k s.toCatalogueTables).interventions =
    slice Intervention.organizationId k s.interventions from rfl,
    find_slice s.wf.interventionId, evidence, rows]
  cases find Intervention.id interventionId s.interventions with
  | none => rfl
  | some i =>
    rw [Option.filter_some]
    by_cases mine : i.organizationId = k
    · rw [if_pos (decide_eq_true mine)]
    · rw [if_neg (by simpa using mine)]
      exact (if_pos mine).symm

theorem getPortfolioRun_slice (order : List PortfolioAllocation → List PortfolioAllocation)
    (t : PortfolioTables) (id : UUID) :
    getPortfolioRun order (portfolioSlice k t) k id = getPortfolioRun order t k id := by
  unfold getPortfolioRun
  rw [portfolioSlice, find?_slice]
  · split
    · rfl
    · rw [filter_slice]
      exact fun a _ kept => of_decide_eq_true (Bool.and_eq_true_iff.mp kept).2
  · exact fun r _ kept => of_decide_eq_true (Bool.and_eq_true_iff.mp kept).2

theorem findRun_slice (t : Agents.AgentTables) (id : UUID) :
    findRun (agentSlice k t) k id = findRun t k id := by
  unfold findRun
  rw [agentSlice, find?_slice]
  exact fun r _ kept => of_decide_eq_true (Bool.and_eq_true_iff.mp kept).2

/-- The events of a run are of the organization that has the run. -/
theorem agentEvents_slice {projects : ProjectTables} (s : Agents.AgentStore)
    (integrity : AgentIntegrity projects s.toAgentTables) (id : UUID) (after : Nat) :
    agentEvents (agentSlice k s.toAgentTables) k id after =
      agentEvents s.toAgentTables k id after := by
  have events : ∀ run, findRun s.toAgentTables k id = .ok run →
      (agentSlice k s.toAgentTables).eventsOf run.id = s.eventsOf run.id := by
    intro run found
    unfold findRun at found
    split at found
    · cases found
    · rename_i stored
      cases found
      obtain ⟨-, mine⟩ : run.id = id ∧ run.organizationId = k := by
        simpa using List.find?_some stored
      refine filter_slice fun e member about => ?_
      obtain ⟨r, inTable, same, owner⟩ := integrity.event e member
      rw [← owner, List.inj_on_of_nodup_map s.primaryKey inTable
        (List.mem_of_find?_eq_some stored) (same.trans (of_decide_eq_true about)), mine]
  unfold agentEvents
  rw [findRun_slice]
  cases found : findRun s.toAgentTables k id with
  | error e => rfl
  | ok run => simp only [Except.map, streamEvents, events run found]

/-- An answer is made from the rows of the organization. -/
theorem answerRead_slice (r : Retrieval) {w : Workspace} (integrity : Integrity w)
    (tenant : TenantContext) (request : ReadRequest) :
    answerRead r (w.slice tenant.organizationId) tenant request =
      answerRead r w.tables tenant request := by
  cases request with
  | listProjects =>
    refine congrArg (fun rows => Except.ok (Reading.rows rows)) (congrArg
      (fun rows => List.map projectOut (List.reverse rows)) (filter_slice fun p _ kept => ?_))
    exact of_decide_eq_true kept
  | listZones projectId =>
    exact congrArg (Except.map _) (listZones_slice w.projects.toProjectTables projectId)
  | getHeatAnalysis id now =>
    exact congrArg (Except.map _) (getHeatAnalysis_slice w.heat.toHeatTables id now)
  | listDocuments =>
    refine congrArg (fun rows => Except.ok (Reading.rows rows)) (congrArg
      (fun rows => List.map documentOut (List.reverse rows)) (filter_slice fun d _ kept => ?_))
    exact of_decide_eq_true kept
  | searchDocuments text projectId limit =>
    exact congrArg (Except.map _)
      (searchDocuments_slice r w.catalogue.toCatalogueTables text projectId limit)
  | listInterventions =>
    refine congrArg (fun rows => Except.ok (Reading.rows rows)) (congrArg
      (fun rows => List.map interventionOut (r.orderByName rows)) (filter_slice fun i _ kept => ?_))
    exact of_decide_eq_true (Bool.and_eq_true_iff.mp kept).1
  | listEvidence interventionId =>
    exact congrArg (Except.map _)
      (listEvidence_slice w.catalogue integrity.catalogue interventionId)
  | getPortfolioRun id =>
    exact congrArg (Except.map _)
      (getPortfolioRun_slice r.orderByCreation w.portfolios.toPortfolioTables id)
  | getVerification id storage =>
    exact congrArg (fun found => Except.map _ (found >>= response storage))
      (getRun_slice w.verifications tenant id)
  | getReportAlias id storage =>
    exact congrArg (fun found => Except.map _ (found >>= response storage))
      (getTenantVerification_slice w.verifications.toVerificationTables tenant id)
  | getAgentRun id =>
    exact congrArg (fun found => Except.map _ (Except.map _ found))
      (findRun_slice w.agents.toAgentTables id)
  | agentEvents id after =>
    exact congrArg (Except.map _) (agentEvents_slice w.agents integrity.agents id after)

end Slice

/-! ## Runs -/

/-- The tables of a run of one tenant are its slice. -/
theorem slice_alone (dep : Deployment) (k : UUID) (calls : List Call)
    (undisturbed : Guarded (serveCall dep) (serveCall dep) (Call.forTenant k) (Undisturbed k)
      Workspace.empty Workspace.empty calls) :
    (serveCalls dep calls).slice k = (serveCalls dep (calls.filter (Call.forTenant k))).tables :=
  (sliced_iff.mp (separate_serveCalls dep k calls undisturbed).sliced).symm

/-- What a member reads does not depend on other organizations: in any state it is answered from
the organization's rows as if there were no others; calls of others change no answer; and under
fresh ids and one state of the breaker each answer is the one of the organization's own calls. -/
theorem reads_separate (dep : Deployment) (r : Retrieval) (tenant : TenantContext)
    (request : ReadRequest) :
    (∀ calls, answerRead r (serveCalls dep calls).tables tenant request =
      answerRead r ((serveCalls dep calls).slice tenant.organizationId) tenant request) ∧
    (∀ calls more, (∀ before call after, more = before ++ call :: after →
        call.organizationId (serveCalls dep (calls ++ before)) ≠ some tenant.organizationId) →
      answerRead r (serveCalls dep (calls ++ more)).tables tenant request =
        answerRead r (serveCalls dep calls).tables tenant request) ∧
    ∀ calls, Guarded (serveCall dep) (serveCall dep) (Call.forTenant tenant.organizationId)
        (Undisturbed tenant.organizationId) Workspace.empty Workspace.empty calls →
      answerRead r (serveCalls dep calls).tables tenant request =
        answerRead r (serveCalls dep
          (calls.filter (Call.forTenant tenant.organizationId))).tables tenant request := by
  have sliced : ∀ calls, answerRead r (serveCalls dep calls).tables tenant request =
      answerRead r ((serveCalls dep calls).slice tenant.organizationId) tenant request :=
    fun calls => (answerRead_slice r (integrity_serveCalls dep calls) tenant request).symm
  refine ⟨sliced, fun calls more others => ?_, fun calls undisturbed => ?_⟩
  · rw [sliced, sliced, slice_untouched dep tenant.organizationId calls more others]
  · rw [sliced, slice_alone dep tenant.organizationId calls undisturbed]

def plainRetrieval : Retrieval where
  ranking := ⟨id, id, fun _ _ _ _ => none, fun _ _ => none⟩
  postgresql := false
  embedText _ := []
  orderByName := id
  orderByCreation := id

/-- A viewer of the first city reads of one project, and of its analysis, in either run. -/
theorem reads_separate_twoCities :
    answerRead plainRetrieval (serveCalls plainDeployment twoCities).tables ⟨1, 11, .viewer⟩
        (.getHeatAnalysis 13 (seconds 8)) =
      answerRead plainRetrieval (serveCalls plainDeployment
        (twoCities.filter (Call.forTenant 1))).tables ⟨1, 11, .viewer⟩
        (.getHeatAnalysis 13 (seconds 8)) ∧
    listProjects (serveCalls plainDeployment twoCities).projects.toProjectTables 1 =
      [[("id", .str (Uuid.toString 11)), ("name", .str "Riverside"), ("description", .null)]] :=
  ⟨(reads_separate plainDeployment plainRetrieval ⟨1, 11, .viewer⟩
      (.getHeatAnalysis 13 (seconds 8))).2.2 twoCities twoCities_undisturbed, by decide +kernel⟩

end CoolProof.Workspaces
