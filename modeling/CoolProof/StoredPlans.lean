import CoolProof.PairConstraints
import CoolProof.TenantReads

/-! Plans read back. What `optimize` answers is stored as a run with its allocations; the ids go
through their texts and back. No later call touches either, so every member of the organization
reads the answered plan from then on. -/

namespace CoolProof.Workspaces
open Calendar JsonDocument Uuid Models Tables Loops Documents Projects PortfolioRuns
  VerificationRuns HeatRequests

/-! ## Plans that are stored -/

section Stored
variable (order : List PortfolioAllocation → List PortfolioAllocation)

/-- A run that is stored is read as before: the new runs and allocations have other ids. -/
theorem getPortfolioRun_writes {projects : ProjectTables} {catalogue : List Intervention}
    {s : PortfolioTables} {t : PortfolioStore} {tenant : TenantContext}
    (writes : PortfolioWrites projects catalogue s tenant t.toPortfolioTables) {id : UUID}
    (stored : id ∈ s.runs.map PortfolioRun.id) (k : UUID) :
    getPortfolioRun order t.toPortfolioTables k id = getPortfolioRun order s k id := by
  have wf := t.wf
  generalize t.toPortfolioTables = u at writes wf
  cases writes with
  | nothing => rfl
  | @planned run allocations projectId owner project has allocated =>
    have other : run.id ≠ id := by
      have unique := wf.runId
      rw [withRun, List.map_append, List.nodup_append] at unique
      exact fun same => unique.2.2 id stored run.id List.mem_cons_self same.symm
    have runs : (s.runs ++ [run]).find? (fun r => r.id = id && r.organizationId = k) =
        s.runs.find? fun r => r.id = id && r.organizationId = k := by
      rw [List.find?_append]
      simp [other]
    unfold getPortfolioRun withRun
    dsimp only
    rw [runs]
    cases found : s.runs.find? fun r => r.id = id && r.organizationId = k with
    | none => rfl
    | some r =>
      have named : r.id = id := by
        have kept := List.find?_some found
        exact of_decide_eq_true (Bool.and_eq_true_iff.mp kept).1
      have none_ : (allocations.filter fun a =>
          a.portfolioRunId = r.id && a.organizationId = k) = [] := by
        refine List.filter_eq_nil_iff.mpr fun a new kept => ?_
        have ofRun : a.portfolioRunId = run.id := (allocated a new).2.1
        have same : a.portfolioRunId = r.id :=
          of_decide_eq_true (Bool.and_eq_true_iff.mp kept).1
        exact other (ofRun.symm.trans (same.trans named))
      dsimp only
      rw [List.filter_append, none_, List.append_nil]

theorem getPortfolioRun_serveCall (dep : Deployment) (w : Workspace) (call : Call) {id : UUID}
    (stored : id ∈ w.portfolios.runs.map PortfolioRun.id) (k : UUID) :
    getPortfolioRun order (serveCall dep w call).portfolios.toPortfolioTables k id =
      getPortfolioRun order w.portfolios.toPortfolioTables k id ∧
    id ∈ (serveCall dep w call).portfolios.runs.map PortfolioRun.id := by
  cases call with
  | poll => exact ⟨rfl, stored⟩
  | request tenant request =>
    cases request with
    | optimize request env =>
      have writes := optimize_writes dep.optimizer w.projects.toProjectTables
        w.catalogue.interventions w.portfolios tenant request env
      exact ⟨getPortfolioRun_writes order writes stored k,
        List.map_subset _ (runs_kept writes) stored⟩
    | createProject | createZone | createHeatAnalysis | catalogue | createVerification
    | createReport | createReportAlias | startAgentRun | approveAgentRun => exact ⟨rfl, stored⟩

/-- A run is read as it was stored, whatever is called since. -/
theorem getPortfolioRun_later (dep : Deployment) (w : Workspace) (later : List Call) {id : UUID}
    (stored : id ∈ w.portfolios.runs.map PortfolioRun.id) (k : UUID) :
    getPortfolioRun order (later.foldl (serveCall dep) w).portfolios.toPortfolioTables k id =
      getPortfolioRun order w.portfolios.toPortfolioTables k id := by
  induction later generalizing w with
  | nil => rfl
  | cons call later ih =>
    obtain ⟨same, still⟩ := getPortfolioRun_serveCall order dep w call stored k
    exact (ih (serveCall dep w call) still).trans same

end Stored

/-! ## Plans that are answered -/

/-- The part of an answered allocation that has a row. -/
def storedPart (allocation : Json) : Json :=
  .obj (((Json.asDict allocation).getD []).filter fun entry =>
    ["zone_id", "intervention_id", "units", "cost"].contains entry.1)

/-- The ids of an allocation are texts of ids. -/
theorem allocated_texts {floats : Floats} {casefold : String → String}
    {solve : BinaryProgram.Program Portfolio.Key ℚ → BinaryProgram.Outcome Portfolio.Key ℚ}
    {found : List Intervention} {request : OptimizeRequest} {arguments : Portfolio.Request}
    {result : Portfolio.PortfolioResult}
    (made : portfolioRequest floats found request = .ok arguments)
    (solved : Portfolio.optimizePortfolio casefold solve arguments = .ok result) :
    ∀ a ∈ result.allocations, ∃ zoneId interventionId,
      a.zoneId = Uuid.toString zoneId ∧ a.interventionId = Uuid.toString interventionId := by
  intro a member
  obtain ⟨⟨demand, inZones, zoneText⟩, spec, inSpecs, specText⟩ :=
    allocated_of_optimizePortfolio solved a member
  obtain ⟨zones, specs⟩ := portfolioRequest_ids made
  rw [zones] at inZones
  obtain ⟨zone, -, rfl⟩ := List.mem_map.mp inZones
  obtain ⟨item, -, itemText⟩ := specs spec inSpecs
  exact ⟨zone.zoneId, item.interventionId, zoneText.symm, specText.symm.trans itemText⟩

/-- An allocation is read from its row with the texts it was answered with. -/
theorem allocationOut_newAllocation {floats : Floats} {tenant : TenantContext} {env : OptimizeEnv}
    {a : Portfolio.Allocation × Nat} {row : PortfolioAllocation}
    (made : newAllocation floats tenant env a = .ok row) {zoneId interventionId : UUID}
    (zone : a.1.zoneId = Uuid.toString zoneId)
    (intervention : a.1.interventionId = Uuid.toString interventionId) :
    allocationOut row = storedPart (allocationJson floats a.1) := by
  unfold newAllocation at made
  rw [zone, intervention, uuid_toString, uuid_toString] at made
  cases made
  unfold allocationOut storedPart allocationJson
  rw [zone, intervention]
  rfl

/-- The rows of a plan are read as its allocations, in the order of their drawing. -/
theorem rows_map_allocationOut {floats : Floats} {tenant : TenantContext} {env : OptimizeEnv}
    {allocations : List Portfolio.Allocation} {rows : List PortfolioAllocation}
    (made : allocations.zipIdx.mapM (newAllocation floats tenant env) = .ok rows)
    (texts : ∀ a ∈ allocations, ∃ zoneId interventionId,
      a.zoneId = Uuid.toString zoneId ∧ a.interventionId = Uuid.toString interventionId) :
    rows.map allocationOut = (allocations.map (allocationJson floats)).map storedPart := by
  have turns : rows.map allocationOut = allocations.zipIdx.map fun a =>
      storedPart (allocationJson floats a.1) := by
    refine map_of_mapM_ok (fun a listed row drawn => ?_) made
    obtain ⟨zoneId, interventionId, zone, intervention⟩ :=
      texts a.1 (List.fst_mem_of_mem_zipIdx listed)
    exact allocationOut_newAllocation drawn zone intervention
  rw [turns, List.map_map, ← List.zipIdx_map_fst 0 allocations, List.map_map,
    List.zipIdx_map_fst]
  rfl

/-- A run right after it was stored. -/
theorem getPortfolioRun_stored {floats : Floats} {s : PortfolioStore} {tenant : TenantContext}
    {request : OptimizeRequest} {env : OptimizeEnv} {result : Portfolio.PortfolioResult}
    {rows : List PortfolioAllocation} (order : List PortfolioAllocation → List PortfolioAllocation)
    (made : result.allocations.zipIdx.mapM (newAllocation floats tenant env) = .ok rows)
    (wf : (withRun s.toPortfolioTables (newRun floats tenant request result env)
      rows).Constraints) :
    getPortfolioRun order (withRun s.toPortfolioTables (newRun floats tenant request result env)
        rows) tenant.organizationId env.newId =
      .ok [("portfolio_run_id", .str (Uuid.toString env.newId)),
        ("project_id", .str (Uuid.toString request.projectId)),
        ("budget", .float request.budget), ("status", .str "completed"),
        ("result", .obj (responseJson floats result)),
        ("allocations", .arr ((order rows).map allocationOut))] := by
  have unused : env.newId ∉ s.runs.map PortfolioRun.id := by
    have unique := wf.runId
    rw [withRun, List.map_append, List.nodup_append] at unique
    exact fun member => unique.2.2 _ member _ List.mem_cons_self rfl
  have missing : s.runs.find? (fun r => r.id = env.newId &&
      r.organizationId = tenant.organizationId) = none := by
    refine List.find?_eq_none.mpr fun r member hit => ?_
    have same : r.id = env.newId := of_decide_eq_true (Bool.and_eq_true_iff.mp hit).1
    exact unused (same ▸ List.mem_map_of_mem member)
  have runs : (s.runs ++ [newRun floats tenant request result env]).find? (fun r =>
      r.id = env.newId && r.organizationId = tenant.organizationId) =
      some (newRun floats tenant request result env) := by
    rw [List.find?_append, missing]
    simp [newRun]
  have old : (s.allocations.filter fun a =>
      a.portfolioRunId = env.newId && a.organizationId = tenant.organizationId) = [] := by
    refine List.filter_eq_nil_iff.mpr fun a member kept => ?_
    have same : a.portfolioRunId = env.newId :=
      of_decide_eq_true (Bool.and_eq_true_iff.mp kept).1
    exact unused (same ▸ s.wf.allocationRun a member)
  have new : (rows.filter fun a =>
      a.portfolioRunId = env.newId && a.organizationId = tenant.organizationId) = rows := by
    refine List.filter_eq_self.mpr fun row member => ?_
    obtain ⟨a, -, drawn⟩ := mem_of_mapM_ok made row member
    obtain ⟨-, owner, run, -⟩ := newAllocation_ids drawn
    simp [owner, run]
  unfold getPortfolioRun withRun
  dsimp only
  rw [runs]
  dsimp only
  rw [List.filter_append]
  change Except.ok _ = _
  rw [show (newRun floats tenant request result env).id = env.newId from rfl, old, new,
    List.nil_append]
  rfl

/-- A plan that `optimize` has answered is read by every member of the organization, with its
ids, budget, response and allocations, whatever is called since. The rows of the allocations have
one time of creation, so their order is the database's. -/
theorem plans_readable {order : List PortfolioAllocation → List PortfolioAllocation}
    (arranges : ∀ rows, (order rows).Perm rows) (dep : Deployment) (calls later : List Call)
    {tenant reader : TenantContext} {request : OptimizeRequest} {env : OptimizeEnv}
    {answered : Dict}
    (done : (optimize dep.optimizer (serveCalls dep calls).projects.toProjectTables
      (serveCalls dep calls).catalogue.interventions (serveCalls dep calls).portfolios tenant
      request env).2 = .ok answered)
    (member : reader.organizationId = tenant.organizationId) :
    ∃ (stored : Dict) (allocations read : List Json),
      answered = stored ++ [("project_id", .str (Uuid.toString request.projectId)),
        ("portfolio_run_id", .str (Uuid.toString env.newId))] ∧
      stored.get "allocations" = some (.arr allocations) ∧
      read.Perm (allocations.map storedPart) ∧
      getPortfolioRun order (serveCalls dep (calls ++ .request tenant (.optimize request env) ::
          later)).portfolios.toPortfolioTables reader.organizationId env.newId =
        .ok [("portfolio_run_id", .str (Uuid.toString env.newId)),
          ("project_id", .str (Uuid.toString request.projectId)),
          ("budget", .float request.budget), ("status", .str "completed"),
          ("result", .obj stored), ("allocations", .arr read)] := by
  obtain ⟨-, arguments, result, rows, asked, solved, made, rfl, tables⟩ := optimize_ok done
  have read : ((order rows).map allocationOut).Perm
      ((result.allocations.map (allocationJson dep.optimizer.floats)).map storedPart) := by
    rw [← rows_map_allocationOut made (allocated_texts asked solved)]
    exact (arranges rows).map allocationOut
  refine ⟨responseJson dep.optimizer.floats result,
    result.allocations.map (allocationJson dep.optimizer.floats), (order rows).map allocationOut,
    rfl, rfl, read, ?_⟩
  have wf := (optimize dep.optimizer (serveCalls dep calls).projects.toProjectTables
    (serveCalls dep calls).catalogue.interventions (serveCalls dep calls).portfolios tenant request
    env).1.wf
  rw [tables] at wf
  have stored := getPortfolioRun_stored order made wf
  rw [← tables] at stored
  rw [serveCalls, List.foldl_append, List.foldl_cons, member, getPortfolioRun_later]
  · exact stored
  · change env.newId ∈ (optimize dep.optimizer (serveCalls dep calls).projects.toProjectTables
      (serveCalls dep calls).catalogue.interventions (serveCalls dep calls).portfolios tenant
      request env).1.runs.map PortfolioRun.id
    rw [tables, withRun, List.map_append]
    exact List.mem_append_right _ List.mem_cons_self

/-! ### A cool roof for a school -/

/-- A solver that allocates whatever it is asked about. -/
def roofDeployment : Deployment :=
  { plainDeployment with optimizer := ⟨parkFloats, id, fun _ => .optimal fun _ => 1⟩ }

def analyst : TenantContext := ⟨1, 2, .analyst⟩

def roofRequest : InterventionRequest :=
  ⟨"Cool roof", "roof", schoolRoof.unitCost, schoolRoof.coolingScore, ["school"], none⟩

def roofCall : Call := .request analyst (.catalogue (.createIntervention roofRequest 9))

def siteCalls : List Call :=
  [.request analyst (.createProject ⟨"Riverside", none⟩ 4 (seconds 1)),
   .request analyst (.createZone 4 ⟨"School", []⟩ 7 (seconds 2))]

/-- A project with a school, and a roof for schools. -/
def schoolCalls : List Call := siteCalls ++ [roofCall]

def schoolRequest : OptimizeRequest :=
  { parkRequest with zones := [⟨7, "school", false, true, zeroAmount, 1⟩] }

def schoolArguments : Portfolio.Request :=
  { parkArguments with zones := [⟨Uuid.toString 7, "school", false, true, 1⟩] }

def schoolEnv : OptimizeEnv := ⟨5, fun n => 50 + n, seconds 3⟩

def roofAllocation : Portfolio.Allocation := ⟨Uuid.toString 7, Uuid.toString 9, 1, 30, 20, 0⟩

def schoolPlan : Portfolio.PortfolioResult :=
  Portfolio.portfolioResult id schoolArguments [roofAllocation]

def roofRow : PortfolioAllocation := ⟨50, 1, 5, 7, 9, 1, schoolRoof.unitCost⟩

theorem createIntervention_roof :
    (createIntervention plainDeployment.ingestion CatalogueStore.empty analyst roofRequest
      9).1.interventions = [schoolRoof] := by
  unfold createIntervention
  rw [if_neg (by decide), if_neg (by decide), if_neg (by decide)]
  unfold CatalogueStore.save
  split
  · rfl
  · rename_i refused
    refine absurd ⟨?_, rfl⟩ refused
    constructor <;> simp [CatalogueStore.empty, newIntervention, roofRequest]

theorem schoolCalls_catalogue :
    (serveCalls roofDeployment schoolCalls).catalogue.interventions = [schoolRoof] := by
  have served : ∀ w : Workspace, (serveCall roofDeployment w roofCall).catalogue =
      (createIntervention plainDeployment.ingestion w.catalogue analyst roofRequest 9).1 :=
    fun _ => rfl
  have empty : (serveCalls roofDeployment siteCalls).catalogue = CatalogueStore.empty := rfl
  rw [schoolCalls, serveCalls_append, List.foldl_cons, List.foldl_nil, served, empty]
  exact createIntervention_roof

theorem schoolCalls_checked :
    Checked (serveCalls roofDeployment schoolCalls).projects.toProjectTables
      (serveCalls roofDeployment schoolCalls).catalogue.interventions analyst schoolRequest := by
  rw [schoolCalls_catalogue]
  constructor <;> decide +kernel

theorem schoolPlan_returned : Portfolio.optimizePortfolio id
    (fun _ => .optimal fun _ => 1) schoolArguments = .ok schoolPlan := by
  have keys : Portfolio.variableKeys id schoolArguments =
      [(Uuid.toString 7, Uuid.toString 9)] := by decide +kernel
  have allocated : Portfolio.allocations schoolArguments (fun _ => 1)
      [(Uuid.toString 7, Uuid.toString 9)] = .ok [roofAllocation] := by decide +kernel
  unfold Portfolio.optimizePortfolio
  rw [if_neg (by decide +kernel), if_neg (by decide +kernel)]
  dsimp only [BinaryProgram.Outcome.assignment]
  rw [keys, allocated]
  rfl

theorem schoolCalls_answered : (optimize roofDeployment.optimizer
    (serveCalls roofDeployment schoolCalls).projects.toProjectTables
    (serveCalls roofDeployment schoolCalls).catalogue.interventions
    (serveCalls roofDeployment schoolCalls).portfolios analyst schoolRequest schoolEnv).2 =
      .ok (answer parkFloats schoolRequest schoolEnv schoolPlan) := by
  have found : requestedInterventions [schoolRoof] analyst schoolRequest = [schoolRoof] := by
    decide
  have asked : portfolioRequest parkFloats [schoolRoof] schoolRequest = .ok schoolArguments := rfl
  have drawn : schoolPlan.allocations.zipIdx.mapM (newAllocation parkFloats analyst schoolEnv) =
      .ok [roofRow] := by
    decide +kernel
  have empty : (serveCalls roofDeployment schoolCalls).portfolios = PortfolioStore.empty := rfl
  rw [optimize_of_checked _ _ _ schoolCalls_checked, schoolCalls_catalogue, found, empty]
  unfold runOptimizer
  dsimp only [roofDeployment]
  rw [asked]
  dsimp only
  rw [schoolPlan_returned]
  dsimp only
  rw [drawn]
  dsimp only [PortfolioStore.save]
  split
  · rfl
  · rename_i refused
    refine absurd ?_ refused
    constructor <;> simp [withRun, PortfolioStore.empty, newRun, roofRow, schoolEnv]

def viewer : TenantContext := ⟨1, 11, .viewer⟩

/-- Another city makes a project meanwhile. -/
def hillsideCall : Call :=
  .request ⟨2, 20, .admin⟩ (.createProject ⟨"Hillside", none⟩ 21 (seconds 4))

/-- A viewer reads the roof of the school, with the latest row first. -/
theorem plans_readable_school : ∃ (stored : Dict) (allocations read : List Json),
    answer parkFloats schoolRequest schoolEnv schoolPlan =
      stored ++ [("project_id", .str (Uuid.toString schoolRequest.projectId)),
        ("portfolio_run_id", .str (Uuid.toString schoolEnv.newId))] ∧
    stored.get "allocations" = some (.arr allocations) ∧
    read.Perm (allocations.map storedPart) ∧
    getPortfolioRun List.reverse (serveCalls roofDeployment (schoolCalls ++
        .request analyst (.optimize schoolRequest schoolEnv) :: [hillsideCall])
        ).portfolios.toPortfolioTables viewer.organizationId schoolEnv.newId =
      .ok [("portfolio_run_id", .str (Uuid.toString schoolEnv.newId)),
        ("project_id", .str (Uuid.toString schoolRequest.projectId)),
        ("budget", .float schoolRequest.budget), ("status", .str "completed"),
        ("result", .obj stored), ("allocations", .arr read)] :=
  plans_readable List.reverse_perm roofDeployment schoolCalls [hillsideCall]
    schoolCalls_answered rfl

end CoolProof.Workspaces
